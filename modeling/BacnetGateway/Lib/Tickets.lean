/-
  BacnetGateway.Lib.Tickets — a client of an asynchronous service that names every request
  by a ticket.

  The client keeps a ticket in each of its places, 0 for none. It starts a request into an
  empty place (`Talk.start`, ticket 0 if the service would not take the request), asks
  about the ticket in a place (`Talk.wait`), and empties the place once the request has
  ended (`Talk.finish`). `Talks held log` are the contents of the places and the log,
  newest first, that such a client can reach.

  Whatever the service answers, if no ticket is given out while a request of that ticket is
  unfinished (`Fresh`), then the unfinished requests are exactly those the places hold
  (`Talks.holds`), the client asks only about unfinished ones, and never starts a second
  one into a place (`Talks.obeys`).
-/

import BacnetGateway.Lib.History
import Mathlib.Logic.Function.Basic
import Mathlib.Data.List.Nodup

namespace BacnetGateway.Lib.Tickets

variable {P : Type}

inductive Entry (P : Type) where
  | start (place : P) (ticket : Nat)
  | check (place : P) (ticket : Nat) (ended : Bool)
  deriving DecidableEq

/-- The requests started and not reported ended, with their places. -/
def unfinished : List (Entry P) → List (P × Nat)
  | [] => []
  | .start p t :: log => if t = 0 then unfinished log else (p, t) :: unfinished log
  | .check _ t ended :: log => if ended then (unfinished log).filter (·.2 ≠ t) else unfinished log

/-- If the entry gives a ticket out, no unfinished request has it. -/
def TicketFree : Entry P → List (Entry P) → Prop
  | .start _ t, older => t ≠ 0 → ∀ r ∈ unfinished older, r.2 ≠ t
  | .check .., _ => True

instance (e : Entry P) (older : List (Entry P)) : Decidable (TicketFree e older) :=
  match e with
  | .start _ t => inferInstanceAs (Decidable (t ≠ 0 → ∀ r ∈ unfinished older, r.2 ≠ t))
  | .check .. => .isTrue trivial

/-- No ticket was given out while a request of that ticket was unfinished. -/
def Fresh (log : List (Entry P)) : Prop := Each TicketFree log

instance (log : List (Entry P)) : Decidable (Fresh log) := inferInstanceAs (Decidable (Each _ _))

/-- The places hold the tickets of the unfinished requests. -/
structure Holds (held : P → Nat) (log : List (Entry P)) : Prop where
  tickets : ((unfinished log).map Prod.snd).Nodup
  mem : ∀ p t, (p, t) ∈ unfinished log ↔ t ≠ 0 ∧ held p = t

/-- The client starts a request only into an empty place, and asks only about an
    unfinished request. -/
def Obeys : Entry P → List (Entry P) → Prop
  | .start p _, older => ∀ r ∈ unfinished older, r.1 ≠ p
  | .check p t _, older => (p, t) ∈ unfinished older

variable {held held' : P → Nat} {log : List (Entry P)} {e : Entry P}

theorem unfinished_ne_zero {p : P} {t : Nat} (h : (p, t) ∈ unfinished log) : t ≠ 0 := by
  induction log with
  | nil => cases h
  | cons e log ih =>
    cases e with
    | start q u =>
      simp only [unfinished] at h
      split at h
      · exact ih h
      · rename_i hu
        rcases List.mem_cons.mp h with heq | h
        · cases heq
          exact hu
        · exact ih h
    | check q u ended =>
      simp only [unfinished] at h
      split at h
      · exact ih (List.mem_of_mem_filter h)
      · exact ih h

/-- No two unfinished requests are in one place. -/
theorem Holds.places (h : Holds held log) : ((unfinished log).map Prod.fst).Nodup := by
  refine (List.Nodup.of_map _ h.tickets).map_on fun r hr r' hr' heq => ?_
  obtain ⟨-, hid⟩ := (h.mem r.1 r.2).mp hr
  obtain ⟨-, hid'⟩ := (h.mem r'.1 r'.2).mp hr'
  exact Prod.ext heq (by rw [← hid, ← hid', heq])

/-! ## The client -/

variable [DecidableEq P]

inductive Talk : (P → Nat) → Entry P → (P → Nat) → Prop
  | start (held : P → Nat) (p : P) (t : Nat) : held p = 0 →
      Talk held (.start p t) (Function.update held p t)
  | wait (held : P → Nat) (p : P) : held p ≠ 0 → Talk held (.check p (held p) false) held
  | finish (held : P → Nat) (p : P) : held p ≠ 0 →
      Talk held (.check p (held p) true) (Function.update held p 0)

inductive Talks : (P → Nat) → List (Entry P) → Prop
  | nil : Talks (fun _ => 0) []
  | cons {held held' : P → Nat} {log : List (Entry P)} {e : Entry P} :
      Talks held log → Talk held e held' → Talks held' (e :: log)

theorem Holds.talk (h : Holds held log) (ht : Talk held e held') (hfresh : TicketFree e log) :
    Holds held' (e :: log) := by
  cases ht with
  | start p t hempty =>
    have hupdate : ∀ q u, u ≠ 0 →
        (Function.update held p t q = u ↔ (q = p ∧ t = u) ∨ held q = u) := by
      intro q u hu
      by_cases hq : q = p
      · subst hq
        rw [Function.update_self, hempty]
        exact ⟨fun h => Or.inl ⟨rfl, h⟩, fun h => h.elim (·.2) fun h => absurd h.symm hu⟩
      · rw [Function.update_of_ne hq]
        exact ⟨Or.inr, fun h => h.elim (fun h => absurd h.1 hq) id⟩
    by_cases ht0 : t = 0
    · refine ⟨by simpa [unfinished, ht0] using h.tickets, fun q u => ?_⟩
      simp only [unfinished, ht0, if_true, h.mem]
      refine and_congr_right fun hu => ?_
      rw [← ht0, hupdate q u hu]
      exact ⟨Or.inr, fun h => h.elim (fun h => absurd (h.2.symm.trans ht0) hu) id⟩
    · refine ⟨?_, fun q u => ?_⟩
      · simp only [unfinished, ht0, if_false, List.map_cons, List.nodup_cons, List.mem_map,
          not_exists, not_and]
        exact ⟨fun r hr => hfresh ht0 r hr, h.tickets⟩
      · simp only [unfinished, ht0, if_false, List.mem_cons, Prod.mk.injEq, h.mem]
        constructor
        · rintro (⟨rfl, rfl⟩ | ⟨hu, hheld⟩)
          · exact ⟨ht0, (hupdate q u ht0).mpr (Or.inl ⟨rfl, rfl⟩)⟩
          · exact ⟨hu, (hupdate q u hu).mpr (Or.inr hheld)⟩
        · rintro ⟨hu, hheld⟩
          rcases (hupdate q u hu).mp hheld with ⟨rfl, rfl⟩ | hheld
          · exact Or.inl ⟨rfl, rfl⟩
          · exact Or.inr ⟨hu, hheld⟩
  | wait p hp => exact ⟨h.tickets, h.mem⟩
  | finish p hp =>
    refine ⟨?_, fun q u => ?_⟩
    · show (((unfinished log).filter _).map Prod.snd).Nodup
      exact h.tickets.sublist (List.filter_sublist.map _)
    · show (q, u) ∈ (unfinished log).filter _ ↔ _
      rw [List.mem_filter, h.mem]
      by_cases hq : q = p
      · subst hq
        rw [Function.update_self]
        simp only [decide_eq_true_eq]
        exact ⟨fun ⟨⟨_, h1⟩, h2⟩ => absurd h1.symm h2, fun ⟨h1, h2⟩ => absurd h2.symm h1⟩
      · rw [Function.update_of_ne hq]
        simp only [decide_eq_true_eq]
        refine ⟨And.left, fun hu => ⟨hu, fun heq => hq ?_⟩⟩
        -- Two places with the ticket of `p` would be two requests of one ticket.
        have hmem := (h.mem q u).mpr hu
        have hmem' := (h.mem p (held p)).mpr ⟨hp, rfl⟩
        exact congrArg Prod.fst (List.inj_on_of_nodup_map h.tickets hmem hmem' heq)

theorem Talks.holds (h : Talks held log) (hfresh : Fresh log) : Holds held log := by
  induction h with
  | nil => exact ⟨List.nodup_nil, fun p t => ⟨fun h => (by cases h), fun h => absurd h.2.symm h.1⟩⟩
  | cons _ ht ih => exact (ih hfresh.2).talk ht hfresh.1

theorem Talks.obeys (h : Talks held log) (hfresh : Fresh log) : Each Obeys log := by
  induction h with
  | nil => trivial
  | cons hlog ht ih =>
    refine ⟨?_, ih hfresh.2⟩
    have hholds := hlog.holds hfresh.2
    cases ht with
    | start p t hempty =>
      rintro ⟨q, u⟩ hr rfl
      obtain ⟨hu, hheld⟩ := (hholds.mem q u).mp hr
      exact hu (hheld.symm.trans hempty)
    | wait p hp => exact (hholds.mem p _).mpr ⟨hp, rfl⟩
    | finish p hp => exact (hholds.mem p _).mpr ⟨hp, rfl⟩

/-- At no point of the log were two unfinished requests in one place. -/
theorem Talks.each_places (h : Talks held log) (hfresh : Fresh log) :
    Each (fun e older => ((unfinished (e :: older)).map Prod.fst).Nodup) log := by
  induction h with
  | nil => trivial
  | cons hlog ht ih => exact ⟨((Talks.cons hlog ht).holds hfresh).places, ih hfresh.2⟩

end BacnetGateway.Lib.Tickets
