/-
  BacnetGateway.Gateway.Slave — the gateway's picture of the foreign bus (`main.cpp`,
  section 2): for every slave the cache (the last value read, the commanded values) and
  the state of its conversation with that slave.

  C++ `float` and `double` values are the rationals they stand for. What the gateway stores
  is a REAL or an enumerated value a client sent and a relinquish default, which no cast
  changes, or a 16-bit register divided by ten, which is rounded to a `double` there and
  to a `float` where it is served (`reading_near`).

  `unitId`, `pollPeriodMilliseconds` and `virtualDeviceInstance` are members of
  `GatewayedSlave` that no function assigns; they are functions of the slave's index here,
  so that no invariant has to say that they stay as they were.
-/

import BacnetGateway.Lib.Floats
import BacnetGateway.Seam.ForeignBus
import Mathlib.Data.Rat.Defs
import Mathlib.Data.Fintype.Pi
import Mathlib.Data.Fintype.Prod
import Mathlib.Tactic.Linarith

namespace BacnetGateway.Gateway

open Seam

/-- `BACNET_PRIORITY_ARRAY_SIZE` slots, the highest priority first. -/
abbrev SlotIndex := Fin 16

/-- A BACnet commandable value: a Priority_Array and a Relinquish_Default. -/
structure Commandable where
  isSet : SlotIndex → Bool
  value : SlotIndex → ℚ
  relinquishDefault : ℚ

/-- One output's link to its foreign data point: what was last written there, and the
    write on the wire right now (`transactionId = 0` for none). -/
structure WriteThrough where
  written : Bool
  lastWrittenValue : ℚ
  transactionId : Nat
  inFlightValue : ℚ
  retryAt : Nat

structure GatewayedSlave where
  measuredTemperature : ℚ
  setpoint : Commandable
  enable : Commandable
  setpointLink : WriteThrough
  enableLink : WriteThrough
  /-- What the gateway believes, not what is true. -/
  online : Bool
  consecutiveFailedPolls : Nat
  nextPollAt : Nat
  /-- 0 for no poll in flight. -/
  pollTransactionId : Nat

/-- An index into `g_slaves`. -/
abbrev SlaveIndex := Fin 3

def FIRST_VIRTUAL_DEVICE_INSTANCE : Nat := 389119

def unitId (i : SlaveIndex) : Nat := i + 1

def pollPeriodMilliseconds : SlaveIndex → Nat
  | 0 => 500
  | 1 => 700
  | 2 => 900

def virtualDeviceInstance (i : SlaveIndex) : Nat := FIRST_VIRTUAL_DEVICE_INSTANCE + i

theorem unitId_inj {i j : SlaveIndex} (h : unitId i = unitId j) : i = j :=
  Fin.ext (by unfold unitId at h; omega)

theorem virtualDeviceInstance_inj {i j : SlaveIndex}
    (h : virtualDeviceInstance i = virtualDeviceInstance j) : i = j :=
  Fin.ext (by unfold virtualDeviceInstance at h; omega)

def neverCommanded (relinquishDefault : ℚ) : Commandable :=
  ⟨fun _ => false, fun _ => 0, relinquishDefault⟩

def neverWritten : WriteThrough := ⟨false, 0, 0, 0, 0⟩

def setpointDefault : SlaveIndex → ℚ
  | 0 => 65
  | 1 => 13
  | 2 => 7

def enableDefault : SlaveIndex → ℚ
  | 0 => 1
  | 1 => 1
  | 2 => 0

/-- `g_slaves` as it is initialised. -/
def initialSlave (i : SlaveIndex) : GatewayedSlave :=
  { measuredTemperature := 0
    setpoint := neverCommanded (setpointDefault i)
    enable := neverCommanded (enableDefault i)
    setpointLink := neverWritten
    enableLink := neverWritten
    online := true
    consecutiveFailedPolls := 0
    nextPollAt := 0
    pollTransactionId := 0 }

def OFFLINE_AFTER_FAILED_POLLS : Nat := 2

/-- Each mapped point is one of three kinds, one per register-map column. -/
inductive PointKind where
  | measuredTemperature
  | setpoint
  | enable
  deriving DecidableEq, Repr

instance : Fintype PointKind :=
  ⟨{.measuredTemperature, .setpoint, .enable}, fun kind => by cases kind <;> decide⟩

/-- The two commandable kinds. -/
inductive Output where
  | setpoint
  | enable
  deriving DecidableEq, Repr

def Output.kind : Output → PointKind
  | .setpoint => .setpoint
  | .enable => .enable

theorem kind_inj {k k' : Output} (h : k.kind = k'.kind) : k = k' := by
  cases k <;> cases k' <;> first | rfl | cases h

/-- The priority a write without one, or with one out of range, takes. -/
def effectivePriority (priority : Nat) : Nat :=
  if 1 ≤ priority ∧ priority ≤ 16 then priority else 16

theorem effectivePriority_pos (priority : Nat) : 1 ≤ effectivePriority priority := by
  unfold effectivePriority; split <;> omega

theorem effectivePriority_le (priority : Nat) : effectivePriority priority ≤ 16 := by
  unfold effectivePriority; split <;> omega

/-- The array index of a priority (`EffectivePriority(priority) - 1`). -/
def slotIndex (priority : Nat) : SlotIndex :=
  ⟨effectivePriority priority - 1,
    by have := effectivePriority_pos priority; have := effectivePriority_le priority; omega⟩

theorem slotIndex_of_valid {priority : Nat} (h : 1 ≤ priority ∧ priority ≤ 16) :
    (slotIndex priority : Nat) + 1 = priority := by
  show effectivePriority priority - 1 + 1 = priority
  rw [effectivePriority, if_pos h]
  omega

theorem slotIndex_of_invalid {priority : Nat} (h : ¬(1 ≤ priority ∧ priority ≤ 16)) :
    (slotIndex priority : Nat) + 1 = 16 := by
  show effectivePriority priority - 1 + 1 = 16
  rw [effectivePriority, if_neg h]

theorem slotIndex_succ (priority : Nat) :
    (slotIndex priority : Nat) + 1 = if 1 ≤ priority ∧ priority ≤ 16 then priority else 16 := by
  split
  · rename_i h
    exact slotIndex_of_valid h
  · rename_i h
    exact slotIndex_of_invalid h

/-- The value of the first set slot, or the relinquish default. -/
def winningValue (command : Commandable) : ℚ :=
  match (List.finRange 16).find? (fun slot => command.isSet slot) with
  | some slot => command.value slot
  | none => command.relinquishDefault

/-! ## The fields of an output -/

def GatewayedSlave.command (slave : GatewayedSlave) : Output → Commandable
  | .setpoint => slave.setpoint
  | .enable => slave.enable

def GatewayedSlave.link (slave : GatewayedSlave) : Output → WriteThrough
  | .setpoint => slave.setpointLink
  | .enable => slave.enableLink

def GatewayedSlave.setCommand (slave : GatewayedSlave) (k : Output)
    (command : Commandable) : GatewayedSlave :=
  match k with
  | .setpoint => { slave with setpoint := command }
  | .enable => { slave with enable := command }

def GatewayedSlave.setLink (slave : GatewayedSlave) (k : Output)
    (link : WriteThrough) : GatewayedSlave :=
  match k with
  | .setpoint => { slave with setpointLink := link }
  | .enable => { slave with enableLink := link }

/-! ## The arguments `ServiceForeignBus` gives `ServiceWriteThrough` for an output -/

def Output.table : Output → Table
  | .setpoint => .holdingRegister
  | .enable => .coil

def Output.registerScale : Output → ℚ
  | .setpoint => 10
  | .enable => 1

/-- `HOLDING_REGISTER_SETPOINT`, `COIL_ENABLE`, and `INPUT_REGISTER_MEASURED_TEMPERATURE`. -/
def pointAddress : Nat := 0

/-! ## Registers -/

/-- The conversion of a `double` to an integer type: towards zero. -/
def truncate (value : ℚ) : ℤ := value.num.tdiv value.den

/-- `scaled` of `ServiceWriteThrough`: scaled, and rounded half away from zero. -/
def scaled (value registerScale : ℚ) : ℤ :=
  truncate (value * registerScale + (if value < 0 then -1 / 2 else 1 / 2))

/-- The word a value is written as, `(uint16_t)scaled`. -/
def encode (k : Output) (value : ℚ) : Word := BitVec.ofInt 16 (scaled value k.registerScale)

/-- `(int16_t)registerValue / 10.0`, before the division is rounded. -/
def decodeTemperature (registerValue : Word) : ℚ := (registerValue.toInt : ℚ) / 10

/-- The `double` that the division is rounded to, and the `float` it is served as, are the
    tenth of the register but for less than a thousandth of a degree. -/
theorem reading_near (registerValue : Word) :
    |Lib.binary32.round (Lib.binary64.round ((registerValue.toInt : ℚ) / 10)) -
      (registerValue.toInt : ℚ) / 10| ≤
      1 / 4096 := by
  have hlower : (-32768 : ℚ) ≤ registerValue.toInt := by
    exact_mod_cast BitVec.le_toInt registerValue
  have hupper : (registerValue.toInt : ℚ) < 32768 := by exact_mod_cast BitVec.toInt_lt
  have hdegrees : |(registerValue.toInt : ℚ) / 10| < 3277 := abs_lt.mpr ⟨by linarith, by linarith⟩
  generalize (registerValue.toInt : ℚ) / 10 = degrees at hdegrees
  have hdouble : |Lib.binary64.round degrees - degrees| ≤ 1 / 8192 := by
    refine (Lib.round_near Lib.binary64 (show 0 < 12 by decide)
      (hdegrees.trans (by norm_num))).trans ?_
    norm_num [Lib.binary64]
  have hbelow : |Lib.binary64.round degrees| < 2 ^ (12 : ℤ) := by
    have hsum := abs_add_le (Lib.binary64.round degrees - degrees) degrees
    rw [sub_add_cancel] at hsum
    norm_num
    linarith
  have hfloat : |Lib.binary32.round (Lib.binary64.round degrees) - Lib.binary64.round degrees| ≤
      1 / 8192 := by
    refine (Lib.round_near Lib.binary32 (show 0 < 12 by decide) hbelow).trans ?_
    norm_num [Lib.binary32]
  have hboth :=
    abs_sub_le (Lib.binary32.round (Lib.binary64.round degrees))
    (Lib.binary64.round degrees) degrees
  linarith

/-! ## Small facts -/

@[simp] theorem setLink_link (slave : GatewayedSlave) (k : Output) (l : WriteThrough) :
    (slave.setLink k l).link k = l := by cases k <;> rfl

theorem setLink_link_ne (slave : GatewayedSlave) {k k' : Output} (l : WriteThrough) (h : k' ≠ k) :
    (slave.setLink k l).link k' = slave.link k' := by
      cases k <;> cases k' <;> first | rfl | exact absurd rfl h

@[simp] theorem setLink_command (slave : GatewayedSlave) (k k' : Output) (l : WriteThrough) :
    (slave.setLink k l).command k' = slave.command k' := by cases k <;> cases k' <;> rfl

@[simp] theorem setLink_online (slave : GatewayedSlave) (k : Output) (l : WriteThrough) :
    (slave.setLink k l).online = slave.online := by cases k <;> rfl

@[simp] theorem setLink_failed (slave : GatewayedSlave) (k : Output) (l : WriteThrough) :
    (slave.setLink k l).consecutiveFailedPolls = slave.consecutiveFailedPolls := by cases k <;> rfl

@[simp] theorem setLink_nextPollAt (slave : GatewayedSlave) (k : Output) (l : WriteThrough) :
    (slave.setLink k l).nextPollAt = slave.nextPollAt := by cases k <;> rfl

@[simp] theorem setLink_pollId (slave : GatewayedSlave) (k : Output) (l : WriteThrough) :
    (slave.setLink k l).pollTransactionId = slave.pollTransactionId := by cases k <;> rfl

@[simp] theorem setLink_temperature (slave : GatewayedSlave) (k : Output) (l : WriteThrough) :
    (slave.setLink k l).measuredTemperature = slave.measuredTemperature := by cases k <;> rfl

@[simp] theorem setCommand_command (slave : GatewayedSlave) (k : Output) (c : Commandable) :
    (slave.setCommand k c).command k = c := by cases k <;> rfl

theorem setCommand_command_ne (slave : GatewayedSlave) {k k' : Output} (c : Commandable)
    (h : k' ≠ k) :
    (slave.setCommand k c).command k' = slave.command k' := by
  cases k <;> cases k' <;> first | rfl | exact absurd rfl h

@[simp] theorem setCommand_link (slave : GatewayedSlave) (k k' : Output) (c : Commandable) :
    (slave.setCommand k c).link k' = slave.link k' := by cases k <;> cases k' <;> rfl

@[simp] theorem setCommand_online (slave : GatewayedSlave) (k : Output) (c : Commandable) :
    (slave.setCommand k c).online = slave.online := by cases k <;> rfl

@[simp] theorem setCommand_failed (slave : GatewayedSlave) (k : Output) (c : Commandable) :
    (slave.setCommand k c).consecutiveFailedPolls = slave.consecutiveFailedPolls := by
      cases k <;> rfl

@[simp] theorem setCommand_nextPollAt (slave : GatewayedSlave) (k : Output) (c : Commandable) :
    (slave.setCommand k c).nextPollAt = slave.nextPollAt := by cases k <;> rfl

@[simp] theorem setCommand_pollId (slave : GatewayedSlave) (k : Output) (c : Commandable) :
    (slave.setCommand k c).pollTransactionId = slave.pollTransactionId := by cases k <;> rfl

@[simp] theorem setCommand_temperature (slave : GatewayedSlave) (k : Output) (c : Commandable) :
    (slave.setCommand k c).measuredTemperature = slave.measuredTemperature := by cases k <;> rfl

end BacnetGateway.Gateway
