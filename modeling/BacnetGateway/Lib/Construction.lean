/-
  BacnetGateway.Lib.Construction — steps that build something up, one after another.

  A step needs items and adds items. A list of steps is in order from what is there at first
  when each finds what it needs and adds nothing that is there already (`InOrder`). Lists of
  steps compose (`inOrder_append`), and a loop is in order when each of its rounds is and no
  two add the same (`inOrder_flatMap`). Read back at one step, the order says what was added
  before it (`inOrder_split`).
-/

import Mathlib.Data.List.Basic

namespace BacnetGateway.Lib.Construction

variable {α β γ : Type} (needs adds : α → List β)

def InOrder : List β → List α → Prop
  | _, [] => True
  | present, a :: rest => needs a ⊆ present ∧ List.Disjoint (adds a) present ∧
      InOrder (present ++ adds a) rest

variable {needs adds} {present : List β}

theorem inOrder_append {xs ys : List α} :
    InOrder needs adds present (xs ++ ys) ↔
      InOrder needs adds present xs ∧ InOrder needs adds (present ++ xs.flatMap adds) ys := by
  induction xs generalizing present with
  | nil => simp [InOrder]
  | cons a xs ih =>
    simp only [List.cons_append, InOrder, ih, List.flatMap_cons, List.append_assoc, and_assoc]

/-- Steps that only look at what is there. -/
theorem inOrder_of_adds_nil {xs : List α} (hadds : ∀ a ∈ xs, adds a = [])
    (hneeds : ∀ a ∈ xs, needs a ⊆ present) :
    InOrder needs adds present xs := by
  induction xs with
  | nil => trivial
  | cons a xs ih =>
    rw [List.forall_mem_cons] at hadds hneeds
    rw [InOrder, hadds.1, List.append_nil]
    exact ⟨hneeds.1, List.disjoint_nil_left _, ih hadds.2 hneeds.2⟩

/-- What a step needs is there at first or added by an earlier step; what it adds is neither. -/
theorem inOrder_split {before after : List α} {a : α}
    (h : InOrder needs adds present (before ++ a :: after)) :
    (∀ x ∈ needs a, x ∈ present ∨ ∃ b ∈ before, x ∈ adds b) ∧ ∀ x ∈ adds a, x ∉ present ∧
      ∀ b ∈ before, x ∉ adds b := by
  obtain ⟨-, hneeds, hadds, -⟩ := inOrder_append.mp h
  constructor
  · intro x hx
    simpa using hneeds hx
  · intro x hx
    constructor
    · intro hpresent
      exact hadds hx (List.mem_append_left _ hpresent)
    · intro b hb hxb
      exact hadds hx (List.mem_append_right _ (List.mem_flatMap.mpr ⟨b, hb, hxb⟩))

/-- A loop whose rounds need only what is there before it. -/
theorem inOrder_flatMap {f : γ → List α} {l : List γ}
    (hround : ∀ g ∈ l, ∀ more, present ⊆ more → List.Disjoint ((f g).flatMap adds) more →
      InOrder needs adds more (f g))
    (hfresh : ∀ g ∈ l, List.Disjoint ((f g).flatMap adds) present)
    (hapart : l.Pairwise fun g g' => List.Disjoint ((f g).flatMap adds) ((f g').flatMap adds)) :
    InOrder needs adds present (l.flatMap f) := by
  induction l generalizing present with
  | nil => trivial
  | cons g l ih =>
    obtain ⟨hfirst, hapart⟩ := List.pairwise_cons.mp hapart
    rw [List.flatMap_cons, inOrder_append]
    constructor
    · exact hround g (List.mem_cons_self ..) present
        (fun _ h => h) (hfresh g (List.mem_cons_self ..))
    · apply ih
      · intro g' hg' more hmore
        exact hround g' (List.mem_cons_of_mem _ hg') more fun x hx =>
          hmore (List.mem_append_left _ hx)
      · intro g' hg'
        rw [List.disjoint_append_right]
        exact ⟨hfresh g' (List.mem_cons_of_mem _ hg'), fun x h h' => hfirst g' hg' h' h⟩
      · exact hapart

end BacnetGateway.Lib.Construction
