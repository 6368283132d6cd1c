/-
  BacnetGateway.Lib.Lists — facts about lists that the development uses at its own types.
-/

import Mathlib.Data.List.Basic

namespace BacnetGateway.Lib

variable {α : Type}

/-- A search for something only one member can satisfy finds that member. -/
theorem find?_eq_some_iff_of_unique {p : α → Bool} {l : List α}
    (unique : ∀ a ∈ l, ∀ b ∈ l, p a = true → p b = true → a = b)
    {a : α} (ha : a ∈ l) : l.find? p = some a ↔ p a = true := by
  constructor
  · exact List.find?_some
  · intro h
    cases hf : l.find? p with
    | none => exact absurd h (List.find?_eq_none.mp hf a ha)
    | some b => rw [unique b (List.mem_of_find?_eq_some hf) a ha (List.find?_some hf) h]

theorem concat_prefix_cons {pre l : List α} {x a : α} :
    pre ++ [x] <+: a :: l ↔ (pre = [] ∧ x = a) ∨ ∃ pre', pre = a :: pre' ∧ pre' ++ [x] <+: l := by
  cases pre with
  | nil => simp [List.cons_prefix_cons]
  | cons b pre =>
    rw [List.cons_append, List.cons_prefix_cons]
    constructor
    · rintro ⟨rfl, h⟩
      exact Or.inr ⟨pre, rfl, h⟩
    · rintro (⟨h, -⟩ | ⟨pre', h, hp⟩)
      · cases h
      · cases h
        exact ⟨rfl, hp⟩

/-- A list of entries with distinct keys, cut at one of them. -/
theorem takeWhile_key {β : Type} [DecidableEq α] {l : List (α × β)} (hnd : (l.map Prod.fst).Nodup)
    {k : α} {b : β} (h : (k, b) ∈ l) :
    ∃ later, l = l.takeWhile (fun e => e.1 ≠ k) ++ (k, b) :: later ∧
      k ∉ (l.takeWhile fun e => e.1 ≠ k).map Prod.fst ∧ k ∉ later.map Prod.fst := by
  induction l with
  | nil => cases h
  | cons e l ih =>
    rw [List.map_cons, List.nodup_cons] at hnd
    by_cases he : e.1 = k
    · have heq : e = (k, b) := by
        rcases List.mem_cons.mp h with h | h
        · exact h.symm
        · exact absurd (he ▸ List.mem_map_of_mem h) hnd.1
      subst heq
      exact ⟨l, by simp, by simp, hnd.1⟩
    · have hmem : (k, b) ∈ l := by
        rcases List.mem_cons.mp h with h | h
        · exact absurd (h ▸ rfl) he
        · exact h
      obtain ⟨later, hsplit, hbefore, hlater⟩ := ih hnd.2 hmem
      have htake : (e :: l).takeWhile (fun e => e.1 ≠ k) = e :: l.takeWhile (fun e => e.1 ≠ k) := by
        simp [he]
      refine ⟨later, ?_, ?_, hlater⟩
      · rw [htake, List.cons_append, ← hsplit]
      · rw [htake, List.map_cons, List.mem_cons, not_or]
        exact ⟨fun h => he h.symm, hbefore⟩

end BacnetGateway.Lib
