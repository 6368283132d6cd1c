/-
  BacnetGateway.Lib.History — logs, newest entry first.

  `Each P log` says `P a older` of every entry `a`, `older` being what the log held when
  `a` was entered. It is kept by entering what `P` allows (`each_append`), so a law of a
  log is proved one entry at a time and read back at any entry (`each_iff`).
-/

import Mathlib.Data.List.Basic

namespace BacnetGateway.Lib

variable {α : Type} {P Q : α → List α → Prop} {log new : List α} {a : α}

def Each (P : α → List α → Prop) : List α → Prop
  | [] => True
  | a :: older => P a older ∧ Each P older

instance decidableEach [∀ a older, Decidable (P a older)] : (log : List α) → Decidable (Each P log)
  | [] => .isTrue trivial
  | a :: older =>
    have := decidableEach older
    inferInstanceAs (Decidable (P a older ∧ Each P older))

theorem each_iff : Each P log ↔ ∀ a older, a :: older <:+ log → P a older := by
  induction log with
  | nil => exact ⟨fun _ a older h => (by cases List.suffix_nil.mp h), fun _ => trivial⟩
  | cons b log ih =>
    refine ⟨fun ⟨hb, hlog⟩ a older h => ?_, fun h =>
      ⟨h b log (List.suffix_refl _), ih.mpr fun a older hs => ?_⟩⟩
    · rcases List.suffix_cons_iff.mp h with heq | h
      · cases heq
        exact hb
      · exact ih.mp hlog a older h
    · exact h a older (hs.trans (List.suffix_cons ..))

/-- What is entered is judged by what the log held then. -/
theorem each_append : Each P (new ++ log) ↔ Each (fun a older => P a (older ++ log)) new ∧
      Each P log := by
  induction new with
  | nil => exact ⟨fun h => ⟨trivial, h⟩, fun h => h.2⟩
  | cons a new ih =>
    show P a (new ++ log) ∧ Each P (new ++ log) ↔ (P a (new ++ log) ∧ Each _ new) ∧ Each P log
    rw [ih, and_assoc]

/-- Entries no law speaks of. -/
theorem each_of_forall (h : ∀ a ∈ new, ∀ older, P a older) : Each P new := by
  induction new with
  | nil => trivial
  | cons a new ih =>
    exact ⟨h a (List.mem_cons_self ..) new, ih fun b hb => h b (List.mem_cons_of_mem _ hb)⟩

theorem Each.imp (h : ∀ a older, P a older → Q a older) (hlog : Each P log) : Each Q log := by
  induction log with
  | nil => trivial
  | cons a log ih => exact ⟨h a log hlog.1, ih hlog.2⟩

/-- What was entered after the log was as it was is new. -/
theorem mem_of_suffix {older : List α} (h : a :: older <:+ new ++ log) (hlog : log <:+ older) :
    a ∈ new := by
  obtain ⟨newer, hnewer⟩ := h
  obtain ⟨rest, rfl⟩ := hlog
  rw [← List.cons_append, ← List.append_assoc] at hnewer
  rw [← List.append_cancel_right hnewer]
  exact List.mem_append_right _ (List.mem_cons_self ..)

/-- An entry of a log is an entry of the part of the log it belongs to. -/
theorem suffix_filter {p : α → Bool} {older : List α} (h : a :: older <:+ log) (ha : p a = true) :
    a :: older.filter p <:+ log.filter p := by
  have := h.filter p
  rwa [List.filter_cons_of_pos ha] at this

end BacnetGateway.Lib
