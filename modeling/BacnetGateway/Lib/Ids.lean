/-
  BacnetGateway.Lib.Ids — ids handed out by a counter that runs through 1, …, M and starts
  again at 1.

  Such a counter reuses an id after M steps and not before (`iterate_next_ne`). `Ids` is a
  family of holders that take ids from it: each holds at most one at a time, keeps it for
  at least `g`, and is visited in rounds; an id that a visit leaves in place is younger
  than `L`. Then a holder takes at most `B + 1` ids while another one keeps its own, where
  `L + g ≤ g * (B + 1)`; so with fewer than M of those in all, no id is handed out while
  it is still held (`next_fresh`).
-/

import Mathlib.Logic.Function.Iterate
import Mathlib.Algebra.BigOperators.Group.Finset.Basic
import Mathlib.Algebra.Order.BigOperators.Group.Finset
import Mathlib.Data.Fintype.BigOperators
import Mathlib.Tactic.Linarith

namespace BacnetGateway.Lib

/-! ## The counter -/

/-- The successor on 1, …, M. -/
def next (M id : Nat) : Nat := if id = M then 1 else id + 1

theorem next_pos {M id : Nat} : 1 ≤ next M id := by
  unfold next
  split <;> omega

theorem next_le {M id : Nat} (hM : 1 ≤ M) (h : id ≤ M) : next M id ≤ M := by
  unfold next
  split <;> omega

theorem next_eq {M id : Nat} (hle : id ≤ M) : next M id = id % M + 1 := by
  unfold next
  split
  · rename_i h
    rw [h, Nat.mod_self]
  · rw [Nat.mod_eq_of_lt (by omega)]

theorem iterate_next {M id : Nat} (hpos : 1 ≤ id) (hle : id ≤ M) (n : Nat) :
    (next M)^[n] id = (id - 1 + n) % M + 1 := by
  induction n with
  | zero =>
    rw [Function.iterate_zero, id_eq, Nat.add_zero, Nat.mod_eq_of_lt (by omega)]
    omega
  | succ n ih =>
    have hlt : (id - 1 + n) % M < M := Nat.mod_lt _ (by omega)
    rw [Function.iterate_succ_apply', ih, next_eq (by omega), Nat.mod_add_mod, Nat.add_assoc]

/-- An id does not come back before all the others were handed out. -/
theorem iterate_next_ne {M id : Nat} (hpos : 1 ≤ id) (hle : id ≤ M) {n : Nat} (hn : 0 < n)
    (hlt : n < M) :
    (next M)^[n] id ≠ id := by
  rw [iterate_next hpos hle]
  intro h
  have hmod : (id - 1 + n) % M = id - 1 := by omega
  by_cases hsmall : id - 1 + n < M
  · rw [Nat.mod_eq_of_lt hsmall] at hmod
    omega
  · rw [Nat.mod_eq_sub_mod (by omega), Nat.mod_eq_of_lt (by omega)] at hmod
    omega

/-! ## Holders -/

variable {H : Type} [Fintype H]

/-- Which ids are held, since when, and what the counter and the clock say. -/
structure Ids (H : Type) where
  id : H → Nat
  /-- When the holder took its id, if it holds one. -/
  since : H → Option Nat
  next : Nat
  now : Nat

/-- `n` ids were taken by holder `h` since `start`, no two of them within `g`. -/
def Spaced (g : Nat) (a : Ids H) (start : Nat) (h : H) (n : Nat) : Prop :=
  n = 0 ∨ match a.since h with
    | some b => start + g * n ≤ b + g
    | none => start + g * n ≤ a.now

structure Ids.Ok (M g L B : Nat) (visited : List H) (a : Ids H) : Prop where
  nextRange : 1 ≤ a.next ∧ a.next ≤ M
  idRange : ∀ e b, a.since e = some b → 1 ≤ a.id e ∧ a.id e ≤ M
  sinceLe : ∀ e b, a.since e = some b → b ≤ a.now
  young : ∀ e ∈ visited, ∀ b, a.since e = some b → a.now < b + L
  taken : ∀ e b, a.since e = some b → ∃ count : H →
    Nat, a.next = (Lib.next M)^[1 + ∑ h, count h] (a.id e) ∧
    ∀ h, (count h ≤ B ∨ h ∈ visited ∧ count h ≤ B + 1) ∧ Spaced g a b h (count h)

variable {M g L B : Nat} {visited : List H} {a : Ids H} {h e : H}

/-- The next id is not held. -/
theorem next_fresh (hok : a.Ok M g L B visited) (hM : 1 + Fintype.card H * (B + 1) < M) {b : Nat}
    (he : a.since e = some b) : a.next ≠ a.id e := by
  obtain ⟨count, hnext, hcount⟩ := hok.taken e b he
  obtain ⟨hpos, hle⟩ := hok.idRange e b he
  have hsum : ∑ h, count h ≤ Fintype.card H * (B + 1) := by
    refine (Finset.sum_le_card_nsmul Finset.univ count (B + 1) fun h _ => ?_).trans_eq (by simp)
    rcases (hcount h).1 with hle | ⟨-, hle⟩ <;> omega
  rw [hnext]
  exact iterate_next_ne hpos hle (by omega) (by omega)

/-- A visit in which nothing happens: the holder's id, if any, is still young. -/
theorem ok_visit (hok : a.Ok M g L B visited) (hyoung : ∀ b, a.since h = some b → a.now < b + L) :
    a.Ok M g L B (h :: visited) := by
  refine ⟨hok.nextRange, hok.idRange, hok.sinceLe, fun e hv b he => ?_, fun e b he => ?_⟩
  · rcases List.mem_cons.mp hv with rfl | hv
    · exact hyoung b he
    · exact hok.young e hv b he
  · obtain ⟨count, hnext, hcount⟩ := hok.taken e b he
    exact ⟨count, hnext, fun j =>
      ⟨(hcount j).1.imp_right fun hv => ⟨List.mem_cons_of_mem _ hv.1, hv.2⟩, (hcount j).2⟩⟩

/-- After a round in which every holder was visited, a new one begins at a later time. -/
theorem ok_round (hok : a.Ok M g L B visited) (hB : L + g ≤ g * (B + 1))
    (hall : ∀ h, h ∈ visited) {now : Nat}
    (hnow : a.now ≤ now) : ({ a with now := now } : Ids H).Ok M g L B [] := by
  refine ⟨hok.nextRange, hok.idRange, fun e b he => (hok.sinceLe e b he).trans hnow,
    fun e hv => absurd hv (by simp), fun e b he => ?_⟩
  obtain ⟨count, hnext, hcount⟩ := hok.taken e b he
  refine ⟨count, hnext, fun j => ?_⟩
  have hyoung := hok.young e (hall e) b he
  have hspaced := (hcount j).2
  have hsmall : b + g * count j ≤ a.now + g := by
    rcases hspaced with hzero | hspaced
    · have := hok.sinceLe e b he
      rw [hzero]
      omega
    · cases hj : a.since j with
      | none => rw [hj] at hspaced; dsimp only at hspaced; omega
      | some c => rw [hj] at hspaced; have := hok.sinceLe j c hj; dsimp only at hspaced; omega
  refine ⟨Or.inl ?_, ?_⟩
  · have hlt : g * count j < g * (B + 1) := by omega
    exact Nat.le_of_lt_succ (lt_of_mul_lt_mul_left hlt (Nat.zero_le g))
  · rcases hspaced with hzero | hspaced
    · exact Or.inl hzero
    · right
      show match a.since j with
        | some c => b + g * count j ≤ c + g
        | none => b + g * count j ≤ now
      cases hj : a.since j with
      | none => rw [hj] at hspaced; exact hspaced.trans hnow
      | some c => rw [hj] at hspaced; exact hspaced

variable [DecidableEq H]

def Ids.take (a : Ids H) (M : Nat) (h : H) : Ids H :=
  { a with
    id := Function.update a.id h a.next
    since := Function.update a.since h (some a.now)
    next := Lib.next M a.next }

def Ids.release (a : Ids H) (h : H) : Ids H :=
  { a with
    id := Function.update a.id h 0
    since := Function.update a.since h none }

/-- A visit in which the holder takes an id. -/
theorem ok_take (hok : a.Ok M g L B visited) (hL : 0 < L) (hfree : a.since h = none)
    (hnew : h ∉ visited) :
    (a.take M h).Ok M g L B (h :: visited) := by
  have hsince : ∀ e, e ≠ h → (a.take M h).since e = a.since e :=
    fun e he => Function.update_of_ne he ..
  have hself : (a.take M h).since h = some a.now := Function.update_self ..
  refine ⟨⟨next_pos, next_le (hok.nextRange.1.trans hok.nextRange.2) hok.nextRange.2⟩,
    fun e b he => ?_, fun e b he => ?_, fun e hv b he => ?_, fun e b he => ?_⟩
  · by_cases heh : e = h
    · subst heh
      rw [show (a.take M e).id e = a.next from Function.update_self ..]
      exact hok.nextRange
    · rw [hsince e heh] at he
      rw [show (a.take M h).id e = a.id e from Function.update_of_ne heh ..]
      exact hok.idRange e b he
  · by_cases heh : e = h
    · subst heh
      rw [hself] at he
      cases he
      exact le_refl _
    · rw [hsince e heh] at he
      exact hok.sinceLe e b he
  · by_cases heh : e = h
    · subst heh
      rw [hself] at he
      cases he
      show a.now < a.now + L
      omega
    · rw [hsince e heh] at he
      exact hok.young e ((List.mem_cons.mp hv).resolve_left heh) b he
  · by_cases heh : e = h
    · -- The id just taken: nobody has taken one since.
      subst heh
      refine ⟨fun _ => 0, ?_, fun _ => ⟨Or.inl (Nat.zero_le _), Or.inl rfl⟩⟩
      rw [show (a.take M e).id e = a.next from Function.update_self ..]
      simp [Ids.take]
    · rw [hsince e heh] at he
      obtain ⟨count, hnext, hcount⟩ := hok.taken e b he
      refine ⟨Function.update count h (count h + 1), ?_, fun j => ?_⟩
      · rw [show (a.take M h).id e = a.id e from Function.update_of_ne heh ..,
          Finset.sum_update_of_mem (Finset.mem_univ h), ← Finset.erase_eq,
          show 1 + (count h + 1 + ∑ x ∈ Finset.univ.erase h, count x) = (1 + ∑ x, count x) + 1 by
            rw [← Finset.add_sum_erase Finset.univ count (Finset.mem_univ h)]; omega,
          Function.iterate_succ_apply', ← hnext]
        rfl
      · by_cases hj : j = h
        · subst hj
          rw [Function.update_self]
          obtain ⟨hle, hspaced⟩ := hcount j
          refine ⟨Or.inr ⟨List.mem_cons_self .., ?_⟩, Or.inr ?_⟩
          · rcases hle with hle | ⟨hv, -⟩
            · omega
            · exact absurd hv hnew
          · rw [hself]
            have hb := hok.sinceLe e b he
            rcases hspaced with hzero | hspaced
            · rw [hzero]
              show b + g * (0 + 1) ≤ a.now + g
              omega
            · rw [hfree] at hspaced
              show b + g * (count j + 1) ≤ a.now + g
              rw [Nat.mul_add, Nat.mul_one]
              exact Nat.add_le_add_right hspaced g |>.trans' (by omega)
        · rw [Function.update_of_ne hj]
          obtain ⟨hle, hspaced⟩ := hcount j
          refine ⟨hle.imp_right fun hv => ⟨List.mem_cons_of_mem _ hv.1, hv.2⟩, ?_⟩
          unfold Spaced at hspaced ⊢
          rw [hsince j hj]
          exact hspaced

/-- A holder gives back an id it kept for at least `g`. -/
theorem ok_release (hok : a.Ok M g L B visited) {b : Nat} (hb : a.since h = some b)
    (hkept : b + g ≤ a.now) :
    (a.release h).Ok M g L B visited := by
  have hsince : ∀ {e c}, (a.release h).since e = some c → e ≠ h ∧ a.since e = some c := by
    intro e c he
    by_cases heh : e = h
    · subst heh
      rw [show (a.release e).since e = none from Function.update_self ..] at he
      cases he
    · exact ⟨heh, (Function.update_of_ne heh ..).symm.trans he⟩
  have hid : ∀ {e}, e ≠ h → (a.release h).id e = a.id e := fun he => Function.update_of_ne he ..
  refine ⟨hok.nextRange, fun e c he => ?_, fun e c he => hok.sinceLe e c (hsince he).2,
    fun e hv c he => hok.young e hv c (hsince he).2, fun e c he => ?_⟩
  · rw [hid (hsince he).1]
    exact hok.idRange e c (hsince he).2
  · obtain ⟨count, hnext, hcount⟩ := hok.taken e c (hsince he).2
    refine ⟨count, by rw [hid (hsince he).1]; exact hnext, fun j => ⟨(hcount j).1, ?_⟩⟩
    by_cases hj : j = h
    · subst hj
      rcases (hcount j).2 with hzero | hspaced
      · exact Or.inl hzero
      · rw [hb] at hspaced
        right
        rw [show (a.release j).since j = none from Function.update_self ..]
        show c + g * count j ≤ a.now
        dsimp only at hspaced
        omega
    · have hspaced := (hcount j).2
      unfold Spaced at hspaced ⊢
      rwa [show (a.release h).since j = a.since j from Function.update_of_ne hj ..]

end BacnetGateway.Lib
