/-
  BacnetGateway.Gateway.Callbacks — the property callbacks (`main.cpp`, sections 2, 4
  and 5): which mapped point a BACnet address names, what the gateway answers a read
  with, and what a write does to the cache.

  A callback that declines (returns false) is `none`; a set callback says besides which
  error code it named, if any. `useArrayIndex` and `propertyArrayIndex` are ignored by
  the set callbacks, as in the code.

  `GetPropertyUnsignedInteger`, `GetPropertyOctetString` and `GetPropertyCharString` serve
  constants of the device: they are in `Gateway/Identity.lean`.
-/

import BacnetGateway.Gateway.Slave

namespace BacnetGateway.Gateway

def OBJECT_TYPE_ANALOG_INPUT : Nat := 0
def OBJECT_TYPE_ANALOG_OUTPUT : Nat := 1
def OBJECT_TYPE_BINARY_OUTPUT : Nat := 4
def OBJECT_TYPE_NETWORK_PORT : Nat := 56

def PROPERTY_IDENTIFIER_OUT_OF_SERVICE : Nat := 81
def PROPERTY_IDENTIFIER_POLARITY : Nat := 84
def PROPERTY_IDENTIFIER_PRESENT_VALUE : Nat := 85
def PROPERTY_IDENTIFIER_PRIORITY_ARRAY : Nat := 87
def PROPERTY_IDENTIFIER_RELIABILITY : Nat := 103
def PROPERTY_IDENTIFIER_RELINQUISH_DEFAULT : Nat := 104
def PROPERTY_IDENTIFIER_UNITS : Nat := 117
def PROPERTY_IDENTIFIER_BACNET_IP_MODE : Nat := 408

def RELIABILITY_NO_FAULT_DETECTED : Nat := 0
def RELIABILITY_COMMUNICATION_FAILURE : Nat := 12
def ENGINEERING_UNITS_DEGREES_CELSIUS : Nat := 62
def POLARITY_NORMAL : Nat := 0
def BACNET_IP_MODE_NORMAL : Nat := 0
def NETWORK_PORT_INSTANCE : Nat := 1
def ERROR_CODE_VALUE_OUT_OF_RANGE : Nat := 37

inductive GatewayMode where
  | embeddedObjects
  | virtualNetwork
  deriving DecidableEq, Repr

def findVirtualDevice (mode : GatewayMode) (deviceInstance : Nat) : Option SlaveIndex :=
  if mode ≠ .virtualNetwork then none
  else (List.finRange 3).find? fun i => virtualDeviceInstance i = deviceInstance

/-- What `main` fixes at start-up. In `--mode vn` it refuses a gateway instance that is
    one of the virtual devices'. -/
structure Settings where
  mode : GatewayMode
  deviceInstance : Nat
  accepted : mode = .virtualNetwork → findVirtualDevice mode deviceInstance = none

/-- `--mode eo` with the default device instance. -/
def embeddedObjects : Settings := ⟨.embeddedObjects, 389019, by decide⟩

/-- The object and property a callback is asked about. -/
structure PropertyReference where
  deviceInstance : Nat
  objectType : Nat
  objectInstance : Nat
  propertyIdentifier : Nat
  useArrayIndex : Bool
  propertyArrayIndex : Nat
  deriving DecidableEq, Repr

/-- The Present_Value of unit 1's Analog Output in `embeddedObjects`. -/
def boilerSetpoint : PropertyReference :=
  ⟨389019, OBJECT_TYPE_ANALOG_OUTPUT, 1, PROPERTY_IDENTIFIER_PRESENT_VALUE, false, 0⟩

/-- A `float` argument: a rational, or a value no comparison or only one-sided
    comparisons hold of. -/
inductive Real32 where
  | finite (value : ℚ)
  | infinity (negative : Bool)
  | nan
  deriving DecidableEq

def Real32.atLeast : Real32 → ℚ → Bool
  | .finite value, bound => bound ≤ value
  | .infinity negative, _ => !negative
  | .nan, _ => false

def Real32.atMost : Real32 → ℚ → Bool
  | .finite value, bound => value ≤ bound
  | .infinity negative, _ => negative
  | .nan, _ => false

/-- The cast to `double` of a value that passed the range check; nothing else is cast. -/
def Real32.toDouble : Real32 → ℚ
  | .finite value => value
  | _ => 0

variable (settings : Settings)

/-! ## Finding the point -/

def pointKind (objectType : Nat) : Option PointKind :=
  if objectType = OBJECT_TYPE_ANALOG_INPUT then some .measuredTemperature
  else if objectType = OBJECT_TYPE_ANALOG_OUTPUT then some .setpoint
  else if objectType = OBJECT_TYPE_BINARY_OUTPUT then some .enable
  else none

/-- Does slave `i` carry the object (device, instance)? -/
def matchesSlave (deviceInstance objectInstance : Nat) (i : SlaveIndex) : Bool :=
  match settings.mode with
  | .embeddedObjects => deviceInstance = settings.deviceInstance ∧ objectInstance = unitId i
  | .virtualNetwork => deviceInstance = virtualDeviceInstance i ∧ objectInstance = 1

def findMappedPoint (deviceInstance objectType objectInstance : Nat) : Option
      (SlaveIndex × PointKind) :=
  match pointKind objectType with
  | none => none
  | some kind =>
    match (List.finRange 3).find? (matchesSlave settings deviceInstance objectInstance) with
    | some i => some (i, kind)
    | none => none

def findCommandable (deviceInstance objectType objectInstance : Nat) : Option
      (SlaveIndex × Output) :=
  match findMappedPoint settings deviceInstance objectType objectInstance with
  | some (i, .setpoint) => some (i, .setpoint)
  | some (i, .enable) => some (i, .enable)
  | _ => none

/-- A slot of the Priority_Array, if that is what is asked for: is it set, and its value. -/
def readPrioritySlot (command : Commandable) (p : PropertyReference) : Option (Bool × ℚ) :=
  if h : p.propertyIdentifier = PROPERTY_IDENTIFIER_PRIORITY_ARRAY ∧ p.useArrayIndex = true ∧
      1 ≤ p.propertyArrayIndex ∧ p.propertyArrayIndex ≤ 16 then
    let slot : SlotIndex := ⟨p.propertyArrayIndex - 1, by omega⟩
    some (command.isSet slot, command.value slot)
  else none

/-! ## Get callbacks -/

/-- The cast to `float` changes a temperature only: a command and a relinquish default are one. -/
def getPropertyReal (slaves : SlaveIndex → GatewayedSlave) (p : PropertyReference) : Option ℚ :=
  match findMappedPoint settings p.deviceInstance p.objectType p.objectInstance with
  | none => none
  | some (i, kind) =>
    if kind = .measuredTemperature ∧ p.propertyIdentifier = PROPERTY_IDENTIFIER_PRESENT_VALUE then
      some (Lib.binary32.round (slaves i).measuredTemperature)
    else if kind = .setpoint then
      match readPrioritySlot (slaves i).setpoint p with
      | some (slotIsSet, slotValue) => if slotIsSet then some slotValue else none
      | none =>
        if p.propertyIdentifier = PROPERTY_IDENTIFIER_RELINQUISH_DEFAULT then
          some (slaves i).setpoint.relinquishDefault
        else none
    else none

/-- The cast to `uint32_t`. -/
def toUnsigned (value : ℚ) : Nat := (truncate value).toNat

def getPropertyEnumerated (slaves : SlaveIndex → GatewayedSlave)
    (p : PropertyReference) : Option Nat :=
  match findMappedPoint settings p.deviceInstance p.objectType p.objectInstance with
  | some (i, kind) =>
    if p.propertyIdentifier = PROPERTY_IDENTIFIER_RELIABILITY then
      some (if (slaves i).online then RELIABILITY_NO_FAULT_DETECTED
        else RELIABILITY_COMMUNICATION_FAILURE)
    else if p.propertyIdentifier = PROPERTY_IDENTIFIER_UNITS ∧ kind ≠ .enable then
      some ENGINEERING_UNITS_DEGREES_CELSIUS
    else if kind = .enable then
      match readPrioritySlot (slaves i).enable p with
      | some (slotIsSet, slotValue) => if slotIsSet then some (toUnsigned slotValue) else none
      | none =>
        if p.propertyIdentifier = PROPERTY_IDENTIFIER_RELINQUISH_DEFAULT then
          some (toUnsigned (slaves i).enable.relinquishDefault)
        else if p.propertyIdentifier = PROPERTY_IDENTIFIER_POLARITY then some POLARITY_NORMAL
        else none
    else none
  | none =>
    if p.deviceInstance = settings.deviceInstance ∧ p.objectType = OBJECT_TYPE_NETWORK_PORT ∧
        p.objectInstance = NETWORK_PORT_INSTANCE ∧
        p.propertyIdentifier = PROPERTY_IDENTIFIER_BACNET_IP_MODE then
      some BACNET_IP_MODE_NORMAL
    else none

def getPropertyBool (slaves : SlaveIndex → GatewayedSlave) (p : PropertyReference) : Option Bool :=
  let slot := match findCommandable settings p.deviceInstance p.objectType p.objectInstance with
    | some (i, k) => readPrioritySlot ((slaves i).command k) p
    | none => none
  match slot with
  | some (slotIsSet, _) => some (!slotIsSet)
  | none =>
    if p.propertyIdentifier = PROPERTY_IDENTIFIER_OUT_OF_SERVICE ∧
        ((findMappedPoint settings p.deviceInstance p.objectType p.objectInstance).isSome ∨
          (p.deviceInstance = settings.deviceInstance ∧
            p.objectType = OBJECT_TYPE_NETWORK_PORT)) then
      some false
    else none

/-! ## Set callbacks -/

/-- What a set callback returns, the error code it names if any, and the slaves after it. -/
structure SetResult where
  accepted : Bool
  errorCode : Option Nat
  slaves : SlaveIndex → GatewayedSlave

def commandWrite (command : Commandable) (priority : Nat) (value : ℚ) : Commandable :=
  { command with
    isSet := Function.update command.isSet (slotIndex priority) true
    value := Function.update command.value (slotIndex priority) value }

/-- The relinquishing assignment of `SetPropertyNull`. -/
def commandRelinquish (command : Commandable) (priority : Nat) : Commandable :=
  { command with isSet := Function.update command.isSet (slotIndex priority) false }

/-- The `float` nearest -3276.8. -/
def SETPOINT_MINIMUM_DEGREES : ℚ := -13421773 / 4096

/-- The `float` nearest 3276.7. -/
def SETPOINT_MAXIMUM_DEGREES : ℚ := 13421363 / 4096

def setPropertyReal (slaves : SlaveIndex → GatewayedSlave) (p : PropertyReference) (value : Real32)
    (priority : Nat) : SetResult :=
  match findMappedPoint settings p.deviceInstance p.objectType p.objectInstance with
  | some (i, .setpoint) =>
    if p.propertyIdentifier = PROPERTY_IDENTIFIER_PRESENT_VALUE then
      if value.atLeast SETPOINT_MINIMUM_DEGREES && value.atMost SETPOINT_MAXIMUM_DEGREES then
        ⟨true, none, Function.update slaves i
          { slaves i with setpoint := commandWrite (slaves i).setpoint priority value.toDouble }⟩
      else ⟨false, some ERROR_CODE_VALUE_OUT_OF_RANGE, slaves⟩
    else ⟨false, none, slaves⟩
  | _ => ⟨false, none, slaves⟩

def setPropertyEnumerated (slaves : SlaveIndex → GatewayedSlave)
    (p : PropertyReference) (value : Nat) (priority : Nat) : SetResult :=
  match findMappedPoint settings p.deviceInstance p.objectType p.objectInstance with
  | some (i, .enable) =>
    if p.propertyIdentifier = PROPERTY_IDENTIFIER_PRESENT_VALUE then
      if 1 < value then ⟨false, some ERROR_CODE_VALUE_OUT_OF_RANGE, slaves⟩
      else
        ⟨true, none, Function.update slaves i
          { slaves i with enable := commandWrite (slaves i).enable priority value }⟩
    else ⟨false, none, slaves⟩
  | _ => ⟨false, none, slaves⟩

def setPropertyNull (slaves : SlaveIndex → GatewayedSlave) (p : PropertyReference)
    (priority : Nat) : SetResult :=
  match findCommandable settings p.deviceInstance p.objectType p.objectInstance with
  | some (i, k) =>
    if p.propertyIdentifier = PROPERTY_IDENTIFIER_PRESENT_VALUE then
      ⟨true, none, Function.update slaves i
        ((slaves i).setCommand k (commandRelinquish ((slaves i).command k) priority))⟩
    else ⟨false, none, slaves⟩
  | none => ⟨false, none, slaves⟩

/-- A call of one of the three set callbacks. -/
inductive SetCall where
  | real (p : PropertyReference) (value : Real32) (priority : Nat)
  | enumerated (p : PropertyReference) (value : Nat) (priority : Nat)
  | null (p : PropertyReference) (priority : Nat)

def SetCall.result (slaves : SlaveIndex → GatewayedSlave) : SetCall → SetResult
  | .real p value priority => setPropertyReal settings slaves p value priority
  | .enumerated p value priority => setPropertyEnumerated settings slaves p value priority
  | .null p priority => setPropertyNull settings slaves p priority

end BacnetGateway.Gateway
