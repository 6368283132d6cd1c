/-
  BacnetGateway.Lib.Rotation — going round `n` slots from a cursor.

  `turn n s k` is the slot `k` places after cursor `s`, and `rank n s i` says how many places
  after it slot `i` comes. A server that moves its cursor just past the slot it served brings
  every slot it has not come to nearer by what it passed (`rank_past`), so `rank` bounds how
  long a slot can wait.
-/

import Mathlib.Data.List.Nodup
import Mathlib.Data.List.Range

namespace BacnetGateway.Lib.Rotation

def turn (n s k : Nat) : Nat := (s + k) % n

def rank (n s i : Nat) : Nat := (i + (n - s % n)) % n

/-- The slots in the order in which a cursor at `s` comes to them. -/
def order (n s : Nat) : List Nat := (List.range n).map (turn n s)

variable {n s i k : Nat}

theorem turn_lt (h : 0 < n) (s k : Nat) : turn n s k < n := Nat.mod_lt _ h

theorem rank_lt (h : 0 < n) (s i : Nat) : rank n s i < n := Nat.mod_lt _ h

theorem turn_rank (h : i < n) (s : Nat) : turn n s (rank n s i) = i := by
  have hs : s % n < n := Nat.mod_lt _ (by omega)
  unfold turn rank
  rw [Nat.add_mod_mod, ← Nat.mod_add_mod, show s % n + (i + (n - s % n)) = i + n by omega,
    Nat.add_mod_right, Nat.mod_eq_of_lt h]

theorem rank_turn (h : k < n) (s : Nat) : rank n s (turn n s k) = k := by
  have hs : s % n < n := Nat.mod_lt _ (by omega)
  unfold turn rank
  rw [Nat.mod_add_mod, Nat.add_right_comm, ← Nat.mod_add_mod, ← Nat.mod_add_mod s n,
    show s % n + (n - s % n) = n by omega, Nat.mod_self, Nat.zero_add, Nat.mod_eq_of_lt h]

/-- A cursor just past the slot at place `k` has come `k + 1` places nearer to every slot after
    it. -/
theorem rank_past (hi : i < n) (hk : k < rank n s i) :
    rank n (turn n s k + 1) i + (k + 1) = rank n s i := by
  have hr := rank_lt (show 0 < n by omega) s i
  have hplace : turn n (turn n s k + 1) (rank n s i - (k + 1)) = i := by
    have hsum : s + k + (1 + (rank n s i - (k + 1))) = s + rank n s i := by omega
    conv => rhs; rw [← turn_rank hi s]
    unfold turn
    rw [Nat.add_assoc, Nat.mod_add_mod, hsum]
  have hrank := rank_turn (show rank n s i - (k + 1) < n by omega) (turn n s k + 1)
  rw [hplace] at hrank
  omega

theorem rank_mod (n s i : Nat) : rank n (s % n) i = rank n s i := by
  unfold rank
  rw [Nat.mod_mod]

/-- Slot `i` comes after slot `j`: a cursor just past `j` is nearer to it. -/
theorem rank_served {j : Nat} (hi : i < n) (hj : j < n) (h : rank n s j < rank n s i) :
    rank n ((j + 1) % n) i < rank n s i := by
  have hpast := rank_past hi h
  rw [turn_rank hj] at hpast
  rw [rank_mod]
  omega

theorem order_nodup (n s : Nat) : (order n s).Nodup := by
  refine List.Nodup.map_on ?_ List.nodup_range
  intro k hk k' hk' h
  simp only [List.mem_range] at hk hk'
  rw [← rank_turn hk s, ← rank_turn hk' s, h]

theorem mem_order (h : 0 < n) : i ∈ order n s ↔ i < n := by
  unfold order
  simp only [List.mem_map, List.mem_range]
  constructor
  · rintro ⟨k, -, rfl⟩
    exact turn_lt h s k
  · intro hi
    exact ⟨rank n s i, rank_lt h s i, turn_rank hi s⟩

/-- What stands before slot `i` in the order has a smaller rank. -/
theorem rank_lt_of_before {passed rest : List Nat} {j : Nat} (h : order n s = passed ++ j :: rest)
    (hi : i ∈ rest) :
    rank n s j < rank n s i := by
  have hlength : passed.length + (rest.length + 1) = n := by
    have := congrArg List.length h
    simp [order] at this
    omega
  obtain ⟨m, hm, rfl⟩ := List.getElem_of_mem hi
  have hat (p : Nat) (hp : p < n) : (passed ++ j :: rest)[p]? = some (turn n s p) := by
    rw [← h]
    simp [order, hp]
  have hj := hat passed.length (by omega)
  have hm' := hat (passed.length + (m + 1)) (by omega)
  rw [List.getElem?_append_right (Nat.le_refl _), Nat.sub_self] at hj
  rw [List.getElem?_append_right (by omega),
    show passed.length + (m + 1) - passed.length = m + 1 by omega] at hm'
  simp only [List.getElem?_cons_zero, Option.some.injEq] at hj
  simp only [List.getElem?_cons_succ, List.getElem?_eq_getElem hm, Option.some.injEq] at hm'
  rw [hj, hm', rank_turn (by omega), rank_turn (by omega)]
  omega

end BacnetGateway.Lib.Rotation
