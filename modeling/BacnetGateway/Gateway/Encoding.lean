/-
  BacnetGateway.Gateway.Encoding — the words on the wire.

  A holding register carries the winning value in tenths of a degree, rounded to the
  nearest, ties away from zero (`scaled_nearest`). The accepted REALs end at the floats
  nearest to -3276.8 and 3276.7, the lower of which is just outside the register's range;
  rounding brings it back in, so the cast to `uint16_t` never wraps (`scaled_range`). No
  slot ever holds a value that was not accepted (`run_slot`), so this is so of every write
  of every run (`encoding_exact`).
-/

import BacnetGateway.Lib.Rounding
import BacnetGateway.Gateway.Priorities
import Mathlib.Data.Rat.Floor

namespace BacnetGateway.Gateway

open Seam Lib

variable {σ ε : Type} (D : Driver σ ε) (settings : Settings)

/-! ## The conversion to an integer -/

theorem truncate_of_nonneg {x : ℚ} (h : 0 ≤ x) : truncate x = ⌊x⌋ := by
  unfold truncate
  rw [Rat.floor_def', Int.tdiv_eq_ediv_of_nonneg (Rat.num_nonneg.mpr h)]

theorem truncate_neg (x : ℚ) : truncate (-x) = -truncate x := by
  unfold truncate
  rw [Rat.neg_num, Rat.neg_den, Int.neg_tdiv]

theorem truncate_of_nonpos {x : ℚ} (h : x ≤ 0) : truncate x = ⌈x⌉ := by
  rw [← neg_neg x, truncate_neg, truncate_of_nonneg (neg_nonneg.mpr h), Int.ceil_neg]

theorem scaled_nearest {value registerScale : ℚ} (h : 0 < registerScale) :
    NearestAway (value * registerScale) (scaled value registerScale) := by
  have hsign : value * registerScale < 0 ↔ value < 0 := by
    refine ⟨fun hneg => ?_, fun hneg => mul_neg_of_neg_of_pos hneg h⟩
    by_contra hpos
    exact absurd hneg (not_lt.mpr (mul_nonneg (not_lt.mp hpos) h.le))
  have hnearest := nearestAway_half (value * registerScale)
  simp only [hsign] at hnearest
  unfold scaled
  split at hnearest
  · rename_i hneg
    rw [if_pos hneg, truncate_of_nonpos (by linarith [hsign.mpr hneg]), neg_div, ← sub_eq_add_neg]
    exact hnearest
  · rename_i hpos
    rw [if_neg hpos, truncate_of_nonneg (by linarith [not_lt.mp (hsign.not.mpr hpos)])]
    exact hnearest

/-! ## The words -/

/-- Every accepted REAL fits the register. -/
theorem scaled_range {value : ℚ} (h : ValidValue .setpoint value) :
    -32768 ≤ scaled value 10 ∧ scaled value 10 ≤ 32767 := by
  obtain ⟨hmin, hmax⟩ := h
  unfold SETPOINT_MINIMUM_DEGREES at hmin
  unfold SETPOINT_MAXIMUM_DEGREES at hmax
  have hnearest : NearestAway (value * 10) (scaled value 10) := scaled_nearest (by norm_num)
  exact ⟨hnearest.ge (by push_cast; linarith), hnearest.le (by push_cast; linarith)⟩

theorem encode_toInt {value : ℚ} (h : ValidValue .setpoint value) :
    (encode .setpoint value).toInt = scaled value 10 := by
  obtain ⟨hmin, hmax⟩ := scaled_range h
  show (BitVec.ofInt 16 (scaled value 10)).toInt = scaled value 10
  rw [BitVec.toInt_ofInt]
  exact Int.bmod_eq_of_le (by simpa using hmin) (by simpa using Int.lt_add_one_of_le hmax)

theorem decode_near {value : ℚ} {word : Word} (h : NearestAway (value * 10) word.toInt) :
    |decodeTemperature word - value| ≤ 1 / 20 := by
  obtain ⟨hlow, hhigh⟩ := abs_le.mp h.near
  unfold decodeTemperature
  exact abs_le.mpr ⟨by linarith, by linarith⟩

/-! ## Every write of every run -/

theorem run_winningValue_valid (bus : σ) (evs : List (Event ε)) (i : SlaveIndex) (k : Output) :
    ValidValue k (winningValue (((run D settings (start bus) evs).slaves i).command k)) := by
  obtain ⟨hslot, hdefault⟩ := run_slot D settings bus evs i k
  refine winningValue_valid (fun slot v hv =>
    commanded_valid D settings ((hslot slot).symm.trans hv)) ?_
  rw [hdefault]
  exact relinquishDefault_valid i k

theorem run_writes_valid (bus : σ) (evs : List (Event ε)) {i : SlaveIndex} {k : Output}
    {now id : Nat} {value : ℚ} {word : Word}
    (h : .startWrite i k now value word id ∈ (run D settings (start bus) evs).log) :
    ValidValue k value ∧ word = encode k value := by
  induction evs using List.reverseRecOn with
  | nil => cases h
  | append_singleton evs e ih =>
    rw [run_concat] at h
    cases e with
    | set call => exact ih h
    | outside e => exact ih h
    | pass t =>
      obtain ⟨acts, hlog, hsends⟩ := pass_sends D settings t (run D settings (start bus) evs)
      rw [step, hlog] at h
      rcases List.mem_append.mp h with hnew | hold
      · obtain ⟨rfl, rfl⟩ := hsends _ hnew
        exact ⟨run_winningValue_valid D settings bus evs i k, rfl⟩
      · exact ih hold

/-- In every run over every driver:
    - a write carries the winning value of its output as it is at that call;
    - the word for a holding register, read as a signed number, is ten times that value
      rounded to the nearest integer, ties away from zero: nothing is lost in the cast, and
      decoding the word gives the value to within 0.05;
    - of two such words the larger value has the word that is not smaller;
    - the word for a coil is 0 or 1, and is the value. -/
theorem encoding_exact (bus : σ) (evs : List (Event ε)) :
    let s := run D settings (start bus) evs
    (∀ pre c, pre ++ [.call c] <+: micro evs →
      let t := microRun D settings (start bus) pre
      ∃ acts, (exec D settings t c).log = acts ++ t.log ∧ ∀ act ∈ acts, SendsWinning t.slaves act) ∧
    (∀ i now value word id, .startWrite i .setpoint now value word id ∈ s.log →
      NearestAway (value * 10) word.toInt ∧ word.toInt = scaled value 10 ∧
        -32768 ≤ scaled value 10 ∧ scaled value 10 ≤ 32767 ∧
        |decodeTemperature word - value| ≤ 1 / 20) ∧
    (∀ i j now now' value value' word word' id id',
      .startWrite i .setpoint now value word id ∈ s.log →
      .startWrite j .setpoint now' value' word' id' ∈ s.log → value ≤ value' →
      word.toInt ≤ word'.toInt) ∧
    (∀ i now value word id, .startWrite i .enable now value word id ∈ s.log →
      (word = 0 ∨ word = 1) ∧ (word.toNat : ℚ) = value) := by
  intro s
  have nearest : ∀ i now value word id, .startWrite i .setpoint now value word id ∈ s.log →
      ValidValue .setpoint value ∧ NearestAway (value * 10) word.toInt ∧
      word.toInt = scaled value 10 := by
    intro i now value word id h
    obtain ⟨hvalid, rfl⟩ := run_writes_valid D settings bus evs h
    have hword := encode_toInt hvalid
    exact ⟨hvalid, hword ▸ scaled_nearest (by norm_num), hword⟩
  refine ⟨fun pre c _ => ?_, fun i now value word id h => ?_,
    fun i j now now' value value' word word' id id' h h' hle => ?_, fun i now value word id h => ?_⟩
  · exact exec_sends D settings _ c _ fun _ _ => rfl
  · obtain ⟨hvalid, hnearest, hword⟩ := nearest i now value word id h
    obtain ⟨hmin, hmax⟩ := scaled_range hvalid
    exact ⟨hnearest, hword, hmin, hmax, decode_near hnearest⟩
  · obtain ⟨-, hnearest, -⟩ := nearest i now value word id h
    obtain ⟨-, hnearest', -⟩ := nearest j now' value' word' id' h'
    exact hnearest.mono hnearest' (by linarith)
  · obtain ⟨hvalid, rfl⟩ := run_writes_valid D settings bus evs h
    rcases hvalid with rfl | rfl
    · exact ⟨Or.inl (by decide +kernel), by rw [show encode .enable 0 = 0 by decide +kernel]; rfl⟩
    · exact ⟨Or.inr (by decide +kernel), by rw [show encode .enable 1 = 1 by decide +kernel]; rfl⟩

end BacnetGateway.Gateway
