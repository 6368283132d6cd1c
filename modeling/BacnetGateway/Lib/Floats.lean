/-
  BacnetGateway.Lib.Floats — numbers rounded to a binary floating-point format.

  A format is how many binary digits a number keeps and the exponent below which it keeps
  fewer. `round` gives the nearest number of the format, of two equally near the one with
  an even last digit. It knows no largest number, so it is the format's own rounding of
  numbers below where the format overflows.

  `round_near` bounds what a rounding changes, by the power of two above the number.
-/

import Mathlib.Data.Int.Log
import Mathlib.Data.Rat.Floor
import Mathlib.Algebra.Order.Field.Power
import Mathlib.Tactic.Linarith
import Mathlib.Tactic.NormNum
import Mathlib.Tactic.Positivity

namespace BacnetGateway.Lib

structure FloatFormat where
  precision : Nat
  /-- The exponent of the least positive number. -/
  minExponent : Int

def binary32 : FloatFormat := ⟨24, -149⟩

def binary64 : FloatFormat := ⟨53, -1074⟩

variable {α : Type*} [Field α] [LinearOrder α] [IsStrictOrderedRing α] [FloorRing α] {x : α}

/-- The nearest integer, of two equally near the even one. -/
def nearestEven (x : α) : ℤ :=
  if x - ⌊x⌋ < 1 / 2 ∨ (x - ⌊x⌋ = 1 / 2 ∧ ⌊x⌋ % 2 = 0) then ⌊x⌋ else ⌊x⌋ + 1

/-- The exponent of the last binary digit that the format keeps of a number. -/
def FloatFormat.exponent (f : FloatFormat) (x : α) : ℤ :=
  max (Int.log 2 |x| + 1 - f.precision) f.minExponent

def FloatFormat.round (f : FloatFormat) (x : α) : α :=
  nearestEven (x / 2 ^ f.exponent x) * 2 ^ f.exponent x

theorem nearestEven_near (x : α) : |(nearestEven x : α) - x| ≤ 1 / 2 := by
  have hle := Int.floor_le x
  have hlt := Int.lt_floor_add_one x
  unfold nearestEven
  apply abs_le.mpr
  split
  · rename_i hbelow
    rcases hbelow with hbelow | ⟨htie, -⟩
    · constructor <;> linarith
    · constructor <;> linarith
  · rename_i habove
    have hhalf : 1 / 2 ≤ x - ⌊x⌋ := by
      by_contra hnot
      exact habove (Or.inl (not_le.mp hnot))
    push_cast
    constructor <;> linarith

@[simp] theorem round_zero (f : FloatFormat) : f.round (0 : α) = 0 := by
  simp [FloatFormat.round, nearestEven]

/-- Half a unit of the last digit kept. -/
theorem round_exponent (f : FloatFormat) (x : α) : |f.round x - x| ≤ 2 ^ f.exponent x / 2 := by
  have hpos : (0 : α) < 2 ^ f.exponent x := zpow_pos (by norm_num) _
  have hnear := nearestEven_near (x / 2 ^ f.exponent x)
  have hscaled : f.round x - x =
      (nearestEven (x / 2 ^ f.exponent x) - x / 2 ^ f.exponent x) * 2 ^ f.exponent x := by
    unfold FloatFormat.round
    rw [sub_mul, div_mul_cancel₀ x (ne_of_gt hpos)]
  rw [hscaled, abs_mul, abs_of_pos hpos]
  calc |(nearestEven (x / 2 ^ f.exponent x) : α) - x / 2 ^ f.exponent x| * 2 ^ f.exponent x
      ≤ 1 / 2 * 2 ^ f.exponent x := mul_le_mul_of_nonneg_right hnear (le_of_lt hpos)
    _ = 2 ^ f.exponent x / 2 := by rw [one_div, inv_mul_eq_div]

theorem exponent_le (f : FloatFormat) {e : ℤ} (he : 0 < e) (hx : |x| < 2 ^ e) :
    f.exponent x ≤ max (e - f.precision) f.minExponent := by
  have hlog : Int.log 2 |x| < e := by
    rcases eq_or_lt_of_le (abs_nonneg x) with hzero | hpos
    · rw [← hzero, Int.log_zero_right]
      exact he
    · exact (Int.lt_zpow_iff_log_lt (by norm_num) hpos).mp (by exact_mod_cast hx)
  unfold FloatFormat.exponent
  exact max_le_max_right _ (by omega)

/-- A number below `2 ^ e` is changed by no more than half a unit of the last digit kept there. -/
theorem round_near (f : FloatFormat) {e : ℤ} (he : 0 < e) (hx : |x| < 2 ^ e) :
    |f.round x - x| ≤ 2 ^ max (e - f.precision) f.minExponent / 2 := by
  have hexponent : (2 : α) ^ f.exponent x ≤ 2 ^ max (e - f.precision) f.minExponent :=
    zpow_le_zpow_right₀ (by norm_num) (exponent_le f he hx)
  exact (round_exponent f x).trans (div_le_div_of_nonneg_right hexponent (by norm_num))

example : binary32.round (binary64.round (326 / 5 : ℚ)) = 4272947 / 65536 := by decide +kernel

end BacnetGateway.Lib
