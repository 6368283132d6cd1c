/-
  BacnetGateway.Gateway.Commands — the set callbacks as commands on Priority_Array slots.

  `mappedObject` is the address a mapped point has in each mode; `findMappedPoint` finds
  exactly these (`findMappedPoint_iff`). `commandOf` reads an event as the command it
  carries, if the callback accepts it: one slot of one output, written or relinquished.
  `set_result` says that a set callback does that and nothing else, and that a command it
  accepts carries a value its point can hold (`commandOf_valid`).
-/

import BacnetGateway.Lib.Lists
import BacnetGateway.Gateway.Callbacks

namespace BacnetGateway.Gateway

variable (settings : Settings)

/-! ## The mapped objects -/

def PointKind.objectType : PointKind → Nat
  | .measuredTemperature => OBJECT_TYPE_ANALOG_INPUT
  | .setpoint => OBJECT_TYPE_ANALOG_OUTPUT
  | .enable => OBJECT_TYPE_BINARY_OUTPUT

/-- The device and the object instance that carry slave `i`'s points. -/
def mappedObject (i : SlaveIndex) : Nat × Nat :=
  match settings.mode with
  | .embeddedObjects => (settings.deviceInstance, unitId i)
  | .virtualNetwork => (virtualDeviceInstance i, 1)

/-- `p` is a property of slave `i`'s mapped object of kind `kind`. -/
def Names (p : PropertyReference) (i : SlaveIndex) (kind : PointKind) : Prop :=
  (p.deviceInstance, p.objectInstance) = mappedObject settings i ∧ p.objectType = kind.objectType

instance (p : PropertyReference) (i : SlaveIndex) (kind : PointKind) :
    Decidable (Names settings p i kind) :=
  inferInstanceAs (Decidable (_ ∧ _))

theorem pointKind_iff (objectType : Nat) (kind : PointKind) :
    pointKind objectType = some kind ↔ objectType = kind.objectType := by
  unfold pointKind PointKind.objectType OBJECT_TYPE_ANALOG_INPUT OBJECT_TYPE_ANALOG_OUTPUT
    OBJECT_TYPE_BINARY_OUTPUT
  constructor
  · intro h
    repeat' split at h
    all_goals first | (cases h; assumption) | cases h
  · rintro rfl
    cases kind <;> rfl

theorem matchesSlave_iff (d n : Nat) (i : SlaveIndex) :
    matchesSlave settings d n i = true ↔ (d, n) = mappedObject settings i := by
  unfold matchesSlave mappedObject
  cases settings.mode <;> simp [Prod.ext_iff]

theorem mappedObject_inj {i j : SlaveIndex}
    (h : mappedObject settings i = mappedObject settings j) : i = j := by
  unfold mappedObject at h
  cases hm : settings.mode with
  | embeddedObjects => rw [hm] at h; exact unitId_inj (Prod.ext_iff.mp h).2
  | virtualNetwork => rw [hm] at h; exact virtualDeviceInstance_inj (Prod.ext_iff.mp h).1

/-- `FindMappedPoint` finds exactly the mapped objects. -/
theorem findMappedPoint_iff (p : PropertyReference) (i : SlaveIndex) (kind : PointKind) :
    findMappedPoint settings p.deviceInstance p.objectType p.objectInstance = some (i, kind) ↔
    Names settings p i kind := by
  have hfind := Lib.find?_eq_some_iff_of_unique (l := List.finRange 3)
    (p := matchesSlave settings p.deviceInstance p.objectInstance) (a := i)
    (fun a _ b _ ha hb => mappedObject_inj settings
      (((matchesSlave_iff ..).mp ha).symm.trans ((matchesSlave_iff ..).mp hb)))
        (List.mem_finRange i)
  rw [matchesSlave_iff] at hfind
  unfold findMappedPoint Names
  rw [← hfind, ← pointKind_iff]
  cases hk : pointKind p.objectType with
  | none => simp
  | some k =>
    cases hf : (List.finRange 3).find?
        (matchesSlave settings p.deviceInstance p.objectInstance) with
    | none => simp
    | some j => simp

theorem names_unique {p : PropertyReference} {i j : SlaveIndex} {kind kind' : PointKind}
    (h : Names settings p i kind) (h' : Names settings p j kind') : i = j ∧ kind = kind' := by
  rw [← findMappedPoint_iff] at h h'
  rw [h] at h'
  simpa using h'

theorem findCommandable_iff (p : PropertyReference) (i : SlaveIndex) (k : Output) :
    findCommandable settings p.deviceInstance p.objectType p.objectInstance = some (i, k) ↔
    Names settings p i k.kind := by
  rw [← findMappedPoint_iff]
  unfold findCommandable
  rcases findMappedPoint settings p.deviceInstance p.objectType p.objectInstance with _ | ⟨j, kind⟩
  · simp
  · cases kind <;> cases k <;> simp [Output.kind]

/-! ## Commands -/

/-- A command on one slot of one output: a value, or `none` to relinquish. -/
structure Command where
  slave : SlaveIndex
  output : Output
  slot : SlotIndex
  value : Option ℚ
  deriving DecidableEq

def Commandable.setSlot (command : Commandable) (slot : SlotIndex) : Option ℚ → Commandable
  | some value =>
    { command with
      isSet := Function.update command.isSet slot true
      value := Function.update command.value slot value }
  | none => { command with isSet := Function.update command.isSet slot false }

/-- Do a command: one slot of one output, and nothing else. -/
def Command.apply (c : Command) (slaves : SlaveIndex → GatewayedSlave) : SlaveIndex →
      GatewayedSlave :=
  Function.update slaves c.slave
    ((slaves c.slave).setCommand c.output
      (((slaves c.slave).command c.output).setSlot c.slot c.value))

def applyCommand (slaves : SlaveIndex → GatewayedSlave) : Option Command → SlaveIndex →
      GatewayedSlave
  | some c => c.apply slaves
  | none => slaves

/-- The object and property a set call is about. -/
def SetCall.property : SetCall → PropertyReference
  | .real p .. | .enumerated p .. | .null p .. => p

def SetCall.priority : SetCall → Nat
  | .real _ _ priority | .enumerated _ _ priority | .null _ priority => priority

/-- The value a set call carries: `none` for a relinquish. -/
def SetCall.value : SetCall → Option ℚ
  | .real _ value _ => some value.toDouble
  | .enumerated _ value _ => some value
  | .null .. => none

/-- Can the set call name an output of kind `k`? A REAL is for an Analog Output, an
    enumerated value for a Binary Output. -/
def SetCall.fits (k : Output) : SetCall → Bool
  | .real .. => k = .setpoint
  | .enumerated .. => k = .enable
  | .null .. => true

/-- Is the value one the foreign point can hold? -/
def SetCall.inRange : SetCall → Bool
  | .real _ value _ =>
    value.atLeast SETPOINT_MINIMUM_DEGREES && value.atMost SETPOINT_MAXIMUM_DEGREES
  | .enumerated _ value _ => value ≤ 1
  | .null .. => true

/-- The command a set call carries, if its callback accepts it. -/
def commandOf (call : SetCall) : Option Command :=
  match findCommandable settings call.property.deviceInstance call.property.objectType
      call.property.objectInstance with
  | some (i, k) =>
    if call.property.propertyIdentifier = PROPERTY_IDENTIFIER_PRESENT_VALUE ∧ call.fits k = true ∧
        call.inRange = true then
      some ⟨i, k, slotIndex call.priority, call.value⟩
    else none
  | none => none

/-- An accepted call writes or relinquishes the slot its effective priority names, of the
    output its address names. -/
theorem commandOf_iff (call : SetCall) (c : Command) :
    commandOf settings call = some c ↔
      Names settings call.property c.slave c.output.kind ∧
        call.property.propertyIdentifier = PROPERTY_IDENTIFIER_PRESENT_VALUE ∧
        call.fits c.output = true ∧
        call.inRange = true ∧ c.slot = slotIndex call.priority ∧ c.value = call.value := by
  rw [← findCommandable_iff]
  unfold commandOf
  rcases findCommandable settings call.property.deviceInstance call.property.objectType
      call.property.objectInstance
    with _ | ⟨i, k⟩
  · simp
  · rcases c with ⟨j, k', slot, value⟩
    constructor
    · intro h
      dsimp only at h
      split at h
      · rename_i hc
        cases h
        exact ⟨rfl, hc.1, hc.2.1, hc.2.2, rfl, rfl⟩
      · cases h
    · rintro ⟨h, hp, hf, hr, hs, hv⟩
      simp only [Option.some.injEq, Prod.mk.injEq] at h hs hv
      obtain ⟨rfl, rfl⟩ := h
      dsimp only at hf ⊢
      rw [if_pos ⟨hp, hf, hr⟩, hs, hv]

/-- What a set callback returns and does. -/
theorem set_result (slaves : SlaveIndex → GatewayedSlave) (call : SetCall) :
    (call.result settings slaves).accepted = (commandOf settings call).isSome ∧
      (call.result settings slaves).slaves = applyCommand slaves (commandOf settings call) := by
  cases call with
  | real p value priority =>
    simp only [SetCall.result, setPropertyReal, commandOf, findCommandable, SetCall.property]
    rcases findMappedPoint settings p.deviceInstance p.objectType p.objectInstance with
      _ | ⟨i, kind⟩
    · exact ⟨rfl, rfl⟩
    · cases kind with
      | measuredTemperature => exact ⟨rfl, rfl⟩
      | setpoint =>
        by_cases hp : p.propertyIdentifier = PROPERTY_IDENTIFIER_PRESENT_VALUE
        · by_cases hr : (value.atLeast SETPOINT_MINIMUM_DEGREES &&
            value.atMost SETPOINT_MAXIMUM_DEGREES) = true
          · simp only [hp, hr, if_true, SetCall.fits, SetCall.inRange, decide_true, and_self]
            exact ⟨rfl, rfl⟩
          · simp [hp, hr, SetCall.fits, SetCall.inRange, applyCommand]
        · simp [hp, applyCommand]
      | enable => simp [SetCall.fits, applyCommand]
  | enumerated p value priority =>
    simp only [SetCall.result, setPropertyEnumerated, commandOf, findCommandable, SetCall.property]
    rcases findMappedPoint settings p.deviceInstance p.objectType p.objectInstance with
      _ | ⟨i, kind⟩
    · exact ⟨rfl, rfl⟩
    · cases kind with
      | measuredTemperature => exact ⟨rfl, rfl⟩
      | setpoint => simp [SetCall.fits, applyCommand]
      | enable =>
        by_cases hp : p.propertyIdentifier = PROPERTY_IDENTIFIER_PRESENT_VALUE
        · by_cases hr : 1 < value
          · simp [hp, hr, Nat.not_le.mpr hr, SetCall.fits, SetCall.inRange, applyCommand]
          · simp only [hp, hr, if_true, if_false, SetCall.fits, SetCall.inRange,
              Nat.le_of_not_lt hr, decide_true, and_self]
            exact ⟨rfl, rfl⟩
        · simp [hp, applyCommand]
  | null p priority =>
    simp only [SetCall.result, setPropertyNull, commandOf, SetCall.property]
    rcases findCommandable settings p.deviceInstance p.objectType p.objectInstance with _ | ⟨i, k⟩
    · exact ⟨rfl, rfl⟩
    · by_cases hp : p.propertyIdentifier = PROPERTY_IDENTIFIER_PRESENT_VALUE
      · simp only [hp, if_true, SetCall.fits, SetCall.inRange, and_self]
        exact ⟨rfl, rfl⟩
      · simp [hp, applyCommand]

/-- A set callback changes nothing of a slave but its commands. -/
theorem set_frame (slaves : SlaveIndex → GatewayedSlave) (call : SetCall) (i : SlaveIndex) :
    ∃ setpoint enable, (call.result settings slaves).slaves i =
      { slaves i with setpoint := setpoint, enable := enable } := by
  rw [(set_result settings slaves call).2]
  cases commandOf settings call with
  | none => exact ⟨_, _, rfl⟩
  | some c =>
    by_cases hi : i = c.slave
    · subst hi
      simp only [applyCommand, Command.apply, Function.update_self]
      cases c.output <;> exact ⟨_, _, rfl⟩
    · simp only [applyCommand, Command.apply, Function.update_of_ne hi]
      exact ⟨_, _, rfl⟩

/-! ## Accepted values -/

/-- The value is one that output `k`'s foreign point can hold. -/
def ValidValue (k : Output) (value : ℚ) : Prop :=
  match k with
  | .setpoint => SETPOINT_MINIMUM_DEGREES ≤ value ∧ value ≤ SETPOINT_MAXIMUM_DEGREES
  | .enable => value = 0 ∨ value = 1

def Command.Valid (c : Command) : Prop := ∀ v, c.value = some v → ValidValue c.output v

theorem commandOf_valid {call : SetCall} {c : Command} (h : commandOf settings call = some c) :
    c.Valid := by
  obtain ⟨-, -, hf, hr, -, hv⟩ := (commandOf_iff settings call c).mp h
  intro v hcv
  rw [hv] at hcv
  cases call with
  | real p value priority =>
    have hk : c.output = .setpoint := by simpa [SetCall.fits] using hf
    rw [hk]
    simp only [SetCall.value, Option.some.injEq] at hcv
    subst hcv
    cases value with
    | finite q =>
      simpa [SetCall.inRange, Real32.atLeast, Real32.atMost, ValidValue, Real32.toDouble] using hr
    | infinity negative => cases negative
        <;> simp [SetCall.inRange, Real32.atLeast, Real32.atMost] at hr
    | nan => simp [SetCall.inRange, Real32.atLeast] at hr
  | enumerated p value priority =>
    have hk : c.output = .enable := by simpa [SetCall.fits] using hf
    rw [hk]
    simp only [SetCall.value, Option.some.injEq] at hcv
    subst hcv
    have hle : value ≤ 1 := by simpa [SetCall.inRange] using hr
    rcases Nat.le_one_iff_eq_zero_or_eq_one.mp hle with rfl | rfl
    · exact Or.inl rfl
    · exact Or.inr rfl
  | null p priority => simp [SetCall.value] at hcv

end BacnetGateway.Gateway
