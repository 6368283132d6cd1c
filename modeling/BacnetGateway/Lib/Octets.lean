/-
  BacnetGateway.Lib.Octets — numbers as octets, the most significant first.

  `toOctets` writes a number in a given count of octets and `ofOctets` reads one; writing and
  reading gives back every number the octets can hold (`ofOctets_toOctets`). Code that reads
  by shifts and ors instead reads the same (`shiftLeft_or`).
-/

import Mathlib.Algebra.Group.Nat.Defs
import Mathlib.Data.List.Induction

namespace BacnetGateway.Lib.Octets

def toOctets : Nat → Nat → List UInt8
  | 0, _ => []
  | count + 1, n => toOctets count (n / 256) ++ [n.toUInt8]

def ofOctets (octets : List UInt8) : Nat := octets.foldl (fun v b => v * 256 + b.toNat) 0

@[simp] theorem length_toOctets (count n : Nat) : (toOctets count n).length = count := by
  induction count generalizing n with
  | zero => rfl
  | succ count ih => simp [toOctets, ih]

theorem ofOctets_concat (octets : List UInt8) (b : UInt8) :
    ofOctets (octets ++ [b]) = ofOctets octets * 256 + b.toNat := by
  simp [ofOctets]

theorem ofOctets_toOctets {count n : Nat} (h : n < 256 ^ count) :
    ofOctets (toOctets count n) = n := by
  induction count generalizing n with
  | zero =>
    obtain rfl : n = 0 := by simpa using h
    rfl
  | succ count ih =>
    have hhigh : n / 256 < 256 ^ count := by
      rw [Nat.pow_succ] at h
      exact Nat.div_lt_of_lt_mul (Nat.mul_comm _ _ ▸ h)
    have hlow : n.toUInt8.toNat = n % 256 := rfl
    rw [toOctets, ofOctets_concat, ih hhigh, hlow]
    omega

theorem ofOctets_lt (octets : List UInt8) : ofOctets octets < 256 ^ octets.length := by
  induction octets using List.reverseRecOn with
  | nil => decide
  | append_singleton octets b ih =>
    have hb := b.toNat_lt
    rw [ofOctets_concat, List.length_append, List.length_singleton, Nat.pow_succ]
    omega

theorem shiftLeft_or (n : Nat) (b : UInt8) : n <<< 8 ||| b.toNat = n * 256 + b.toNat := by
  rw [← Nat.shiftLeft_add_eq_or_of_lt b.toNat_lt, Nat.shiftLeft_eq]

end BacnetGateway.Lib.Octets
