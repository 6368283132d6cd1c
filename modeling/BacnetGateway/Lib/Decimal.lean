/-
  BacnetGateway.Lib.Decimal — numbers in decimal text.

  `Nat.toDigits 10` writes a number and `Nat.ofDigitChars 10` reads one. A reader that takes
  digits as long as there are some gets back the number in front of anything that does not go
  on with a digit (`digits_append`), and no two numbers are written the same
  (`toDigits_inj`). `isSpace` is what C calls white space.
-/

import Mathlib.Algebra.Group.Nat.Defs
import Mathlib.Data.List.Basic

namespace BacnetGateway.Lib.Decimal

/-- `isspace`, of an ASCII character. -/
def isSpace (c : Char) : Bool := c = ' ' || (9 ≤ c.toNat && c.toNat ≤ 13)

theorem isSpace_of_isDigit {c : Char} (h : c.isDigit = true) : isSpace c = false := by
  have hge : 48 ≤ c.toNat := by
    unfold Char.isDigit at h
    simp only [Bool.and_eq_true, decide_eq_true_eq] at h
    exact h.1
  have hne : c ≠ ' ' := by
    rintro rfl
    exact absurd hge (by decide)
  simp only [isSpace, hne, decide_false, Bool.false_or, Bool.and_eq_false_iff,
    decide_eq_false_iff_not]
  right
  omega

/-- The text does not go on with a digit. -/
def NoDigit (text : List Char) : Prop := ∀ c ∈ text.head?, c.isDigit = false

theorem noDigit_nil : NoDigit [] := by
  intro c h
  cases h

theorem noDigit_cons {c : Char} {rest : List Char} (h : c.isDigit = false) :
    NoDigit (c :: rest) := by
  intro c' h'
  obtain rfl := Option.some.inj h'
  exact h

theorem toDigits_isDigit {n : Nat} {c : Char} (h : c ∈ Nat.toDigits 10 n) : c.isDigit = true :=
  Nat.isDigit_of_mem_toDigits (by decide) (by decide) h

theorem span_append {digits rest : List Char} (hdigits : ∀ c ∈ digits, c.isDigit = true)
    (hrest : NoDigit rest) :
    (digits ++ rest).takeWhile Char.isDigit = digits ∧
    (digits ++ rest).dropWhile Char.isDigit = rest := by
  induction digits with
  | nil =>
    cases rest with
    | nil => exact ⟨rfl, rfl⟩
    | cons c rest => simp [hrest c rfl]
  | cons d digits ih =>
    have hd := hdigits d (by simp)
    have := ih fun c hc => hdigits c (by simp [hc])
    simp [hd, this]

/-- A number in front of what does not go on with a digit. -/
theorem digits_append (n : Nat) {rest : List Char} (hrest : NoDigit rest) :
    (Nat.toDigits 10 n ++ rest).takeWhile Char.isDigit = Nat.toDigits 10 n ∧
      (Nat.toDigits 10 n ++ rest).dropWhile Char.isDigit = rest :=
  span_append (fun _ h => toDigits_isDigit h) hrest

theorem toDigits_inj {m n : Nat} (h : Nat.toDigits 10 m = Nat.toDigits 10 n) : m = n := by
  rw [← Nat.ofDigitChars_ten_toDigits (n := m), h, Nat.ofDigitChars_ten_toDigits]

/-- A number below a power of ten has no more digits than that. -/
theorem length_toDigits_le {n k : Nat} (hk : 0 < k) (h : n < 10 ^ k) :
    (Nat.toDigits 10 n).length ≤ k :=
  (Nat.length_toDigits_le_iff (by decide) hk).mpr h

/-- The first digit. -/
theorem toDigits_cons (n : Nat) : ∃ d rest, Nat.toDigits 10 n = d :: rest ∧ d.isDigit = true := by
  cases h : Nat.toDigits 10 n with
  | nil => exact absurd h Nat.toDigits_ne_nil
  | cons d rest => exact ⟨d, rest, rfl, toDigits_isDigit (n := n) (by simp [h])⟩

/-! ## Signs -/

/-- The sign in front of a number: is it a minus, and what follows it. -/
def scanSign : List Char → Bool × List Char
  | '-' :: text => (true, text)
  | '+' :: text => (false, text)
  | text => (false, text)

/-- A number has no sign of its own. -/
theorem scanSign_digit {d : Char} (h : d.isDigit = true) (rest : List Char) :
    scanSign (d :: rest) = (false, d :: rest) := by
  unfold scanSign
  split
  · rename_i heq
    obtain rfl := (List.cons.inj heq).1
    exact absurd h (by decide)
  · rename_i heq
    obtain rfl := (List.cons.inj heq).1
    exact absurd h (by decide)
  · rfl

/-- A text is its sign and what follows. -/
theorem scanSign_append (text : List Char) :
    ∃ sign, text = sign ++ (scanSign text).2 ∧ sign ∈ [[], ['+'], ['-']] ∧
      ((scanSign text).1 = true ↔ sign = ['-']) := by
  unfold scanSign
  split
  · exact ⟨['-'], rfl, by simp, by simp⟩
  · exact ⟨['+'], rfl, by simp, by simp⟩
  · exact ⟨[], rfl, by simp, by simp⟩

end BacnetGateway.Lib.Decimal
