/-
  BacnetGateway.Lib.Rounding — rounding to the nearest integer, ties away from zero.

  `NearestAway x n` says what `n` is, not how it is computed: no integer but the two on
  either side of a tie is as near, and of those it is the larger in magnitude. It is
  unique (`NearestAway.unique`), grows with `x` (`NearestAway.mono`) and stays within any
  bounds that `x` misses by less than a half (`NearestAway.le`, `NearestAway.ge`).
  `nearestAway_half` is the usual way to compute it: add half, away from zero, and
  truncate.
-/

import Mathlib.Algebra.Order.Floor.Ring
import Mathlib.Tactic.Linarith

namespace BacnetGateway.Lib

variable {α : Type*} [Field α] [LinearOrder α] [IsStrictOrderedRing α] {x y : α} {m n : ℤ}

/-- `n` is `x` rounded to the nearest integer, ties away from zero. -/
structure NearestAway (x : α) (n : ℤ) : Prop where
  near : |(n : α) - x| ≤ 1 / 2
  tie : |(n : α) - x| = 1 / 2 → |x| < |(n : α)|

theorem NearestAway.mono (hx : NearestAway x m) (hy : NearestAway y n) (h : x ≤ y) : m ≤ n := by
  by_contra hlt
  have hmn : (n : α) + 1 ≤ m := by exact_mod_cast Int.not_le.mp hlt
  obtain ⟨-, hm⟩ := abs_le.mp hx.near
  obtain ⟨hn, -⟩ := abs_le.mp hy.near
  -- Both lie half a unit from one value.
  have hxy : x = y := by linarith
  have hmx : (m : α) - x = 1 / 2 := by linarith
  have hny : (n : α) - y = -(1 / 2) := by linarith
  have htie := hx.tie (by rw [hmx, abs_of_pos (by norm_num)])
  have htie' := hy.tie (by rw [hny, abs_neg, abs_of_pos (by norm_num)])
  rcases lt_or_ge n 0 with hneg | hpos
  · have hm0 : (m : α) ≤ 0 := by
      have hsucc : m = n + 1 := by exact_mod_cast (by linarith : (m : α) = n + 1)
      exact_mod_cast (by omega : m ≤ 0)
    rw [abs_of_nonpos hm0, abs_of_nonpos (by linarith)] at htie
    linarith
  · have hn0 : (0 : α) ≤ n := by exact_mod_cast hpos
    rw [abs_of_nonneg hn0, abs_of_nonneg (by linarith)] at htie'
    linarith

theorem NearestAway.unique (hm : NearestAway x m) (hn : NearestAway x n) : m = n :=
  le_antisymm (hm.mono hn le_rfl) (hn.mono hm le_rfl)

theorem NearestAway.le (h : NearestAway x n) (hx : x < m + 1 / 2) : n ≤ m := by
  obtain ⟨-, hn⟩ := abs_le.mp h.near
  have : (n : α) < m + 1 := by linarith
  exact Int.lt_add_one_iff.mp (by exact_mod_cast this)

theorem NearestAway.ge (h : NearestAway x n) (hx : (m : α) - 1 / 2 < x) : m ≤ n := by
  obtain ⟨hn, -⟩ := abs_le.mp h.near
  have : (m : α) < n + 1 := by linarith
  exact Int.lt_add_one_iff.mp (by exact_mod_cast this)

/-- Add half, away from zero, and truncate. -/
theorem nearestAway_half [FloorRing α] (x : α) :
    NearestAway x (if x < 0 then ⌈x - 1 / 2⌉ else ⌊x + 1 / 2⌋) := by
  split
  · rename_i hx
    have hle := Int.le_ceil (x - 1 / 2)
    have hlt := Int.ceil_lt_add_one (x - 1 / 2)
    generalize ⌈x - 1 / 2⌉ = n at hle hlt
    refine ⟨abs_le.mpr ⟨by linarith, by linarith⟩, fun htie => ?_⟩
    rcases (abs_eq (by norm_num)).mp htie with htie | htie
    · linarith
    · rw [abs_of_neg hx, abs_of_neg (by linarith)]
      linarith
  · rename_i hx
    have hle := Int.floor_le (x + 1 / 2)
    have hlt := Int.lt_floor_add_one (x + 1 / 2)
    generalize ⌊x + 1 / 2⌋ = n at hle hlt
    refine ⟨abs_le.mpr ⟨by linarith, by linarith⟩, fun htie => ?_⟩
    rcases (abs_eq (by norm_num)).mp htie with htie | htie
    · rw [abs_of_nonneg (not_lt.mp hx), abs_of_nonneg (by linarith)]
      linarith
    · linarith

end BacnetGateway.Lib
