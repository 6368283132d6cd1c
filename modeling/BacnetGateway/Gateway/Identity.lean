/-
  BacnetGateway.Gateway.Identity — what the gateway answers about itself, its virtual devices and
  its Network Port (`main.cpp`, sections 1, 2, 4 and 6): the unsigned, octet string and character
  string callbacks, and DeviceCommunicationControl.

  Texts are character lists, all of them ASCII but for the stack's version, which is an argument:
  the length of a text is its length in octets. `Network` holds the globals `main` reads from its
  primary interface and its command line.

  - `networkPort_broadcast`: what a client reads of the Network Port is where broadcasts go.
  - `deviceCommunicationControl_iff`: who is let through.
  - `mappedObjectName_inj`: a mapped object's name says its kind and its instance.
-/

import BacnetGateway.Gateway.Commands
import BacnetGateway.Lib.Decimal
import BacnetGateway.Transport.Ports

namespace BacnetGateway.Gateway

open Lib.Decimal Transport

def OBJECT_TYPE_DEVICE : Nat := 8

def PROPERTY_IDENTIFIER_APPLICATION_SOFTWARE_VERSION : Nat := 12
def PROPERTY_IDENTIFIER_DESCRIPTION : Nat := 28
def PROPERTY_IDENTIFIER_FIRMWARE_REVISION : Nat := 44
def PROPERTY_IDENTIFIER_MODEL_NAME : Nat := 70
def PROPERTY_IDENTIFIER_OBJECT_NAME : Nat := 77
def PROPERTY_IDENTIFIER_VENDOR_IDENTIFIER : Nat := 120
def PROPERTY_IDENTIFIER_VENDOR_NAME : Nat := 121
def PROPERTY_IDENTIFIER_APDU_LENGTH : Nat := 399
def PROPERTY_IDENTIFIER_IP_ADDRESS : Nat := 400
def PROPERTY_IDENTIFIER_IP_DEFAULT_GATEWAY : Nat := 401
def PROPERTY_IDENTIFIER_IP_SUBNET_MASK : Nat := 411
def PROPERTY_IDENTIFIER_BACNET_IP_UDP_PORT : Nat := 412
def PROPERTY_IDENTIFIER_REFERENCE_PORT : Nat := 483

def VENDOR_IDENTIFIER : Nat := 389
def MAX_APDU_LENGTH : Nat := 1476
def NETWORK_PORT_REFERENCE_PORT_NONE : Nat := 4194303
def VIRTUAL_NETWORK_PORT_INSTANCE : Nat := 2
def ERROR_CODE_PASSWORD_FAILURE : Nat := 26
def ERROR_CODE_OPTIONAL_FUNCTIONALITY_NOT_SUPPORTED : Nat := 45

def APP_VERSION : List Char := "2.0.0".toList
def DEVICE_NAME : List Char := "Chipkin Example B-GW".toList
def DEVICE_DESCRIPTION_EO : List Char :=
  ("Chipkin CAS BACnet Stack example - B-GW (Gateway), GW-EO-B: the data of three devices " ++
    "on a SIMULATED foreign bus, as objects in this device.").toList
def DEVICE_DESCRIPTION_VN : List Char :=
  ("Chipkin CAS BACnet Stack example - B-GW (Gateway), GW-VN-B: three devices on a " ++
    "SIMULATED foreign bus, as virtual BACnet devices on virtual network 100.").toList
def VENDOR_NAME : List Char := "Chipkin Automation Systems".toList
def MODEL_NAME : List Char := "CAS BACnet Stack Example - B-GW".toList
def VIRTUAL_MODEL_NAME : List Char := "CAS BACnet Stack Example - B-GW (virtual device)".toList

/-! ## Names and descriptions -/

/-- `SimulatedForeignBus::SlaveName`. -/
def slaveName : SlaveIndex → List Char
  | 0 => "Boiler".toList
  | 1 => "Air Handler".toList
  | 2 => "Chiller".toList

def mappedObjectName (kind : PointKind) (objectInstance : Nat) : List Char :=
  let colour := match kind with
    | .measuredTemperature => "Bronze".toList
    | .setpoint => "Chartreuse".toList
    | .enable => "Fuchsia".toList
  if objectInstance = 1 then colour else colour ++ ' ' :: Nat.toDigits 10 objectInstance

def mappedObjectDescription (i : SlaveIndex) (kind : PointKind) : List Char :=
  let what := match kind with
    | .measuredTemperature => "input register 0 (measured temperature, C x 10)".toList
    | .setpoint => "holding register 0 (setpoint, C x 10)".toList
    | .enable => "coil 0 (enable)".toList
  "SIMULATED foreign bus: ".toList ++ slaveName i ++ " (unit ".toList ++
    Nat.toDigits 10 (unitId i) ++ ") ".toList ++ what

def virtualDeviceName (i : SlaveIndex) : List Char :=
  DEVICE_NAME ++ " (".toList ++ slaveName i ++ ")".toList

def virtualDeviceDescription (deviceInstance : Nat) (i : SlaveIndex) : List Char :=
  "Virtual BACnet device (GW-VN-B) for the ".toList ++ slaveName i ++ " - unit ".toList ++
    Nat.toDigits 10 (unitId i) ++
    " on a SIMULATED foreign bus behind Device ".toList ++
      Nat.toDigits 10 deviceInstance ++ ".".toList

/-! ## Get callbacks -/

/-- The rest of what the callbacks read. -/
structure Network where
  firmwareRevision : List Char
  ipAddress : Ip
  ipSubnetMask : Ip
  ipDefaultGateway : Ip
  bacnetIpUdpPort : Nat

variable (settings : Settings)

/-- The gateway's own Network Port. -/
def isNetworkPort (p : PropertyReference) : Bool :=
  p.deviceInstance = settings.deviceInstance ∧ p.objectType = OBJECT_TYPE_NETWORK_PORT ∧
    p.objectInstance = NETWORK_PORT_INSTANCE

def getPropertyUnsignedInteger (network : Network) (p : PropertyReference) : Option Nat :=
  if p.objectType = OBJECT_TYPE_DEVICE ∧ p.objectInstance = p.deviceInstance ∧
      p.propertyIdentifier = PROPERTY_IDENTIFIER_VENDOR_IDENTIFIER ∧
      (p.deviceInstance = settings.deviceInstance ∨
        (findVirtualDevice settings.mode p.deviceInstance).isSome) then
    some VENDOR_IDENTIFIER
  else if isNetworkPort settings p then
    if p.propertyIdentifier = PROPERTY_IDENTIFIER_APDU_LENGTH then some MAX_APDU_LENGTH
    else if p.propertyIdentifier = PROPERTY_IDENTIFIER_REFERENCE_PORT then some
      NETWORK_PORT_REFERENCE_PORT_NONE
    else if p.propertyIdentifier = PROPERTY_IDENTIFIER_BACNET_IP_UDP_PORT then some
      network.bacnetIpUdpPort
    else none
  else none

def getPropertyOctetString (network : Network) (p : PropertyReference)
    (maxElementCount : Nat) : Option (List UInt8) :=
  if isNetworkPort settings p = false ∨ maxElementCount < 4 then none
  else if p.propertyIdentifier = PROPERTY_IDENTIFIER_IP_ADDRESS then some network.ipAddress.octets
  else if p.propertyIdentifier = PROPERTY_IDENTIFIER_IP_SUBNET_MASK then some
    network.ipSubnetMask.octets
  else if p.propertyIdentifier = PROPERTY_IDENTIFIER_IP_DEFAULT_GATEWAY then some
    network.ipDefaultGateway.octets
  else none

/-- A text the stack's buffer is too short for is cut off, not refused. -/
def returnCharacterString (text : List Char) (maxElementCount : Nat) : Option (List Char) :=
  some (text.take maxElementCount)

/-- The text of a property of a Device object: the gateway's, or slave `i`'s virtual device's. -/
def deviceText (network : Network) (virtualDevice : Option SlaveIndex)
    (propertyIdentifier : Nat) : Option (List Char) :=
  if propertyIdentifier = PROPERTY_IDENTIFIER_OBJECT_NAME then
    some (match virtualDevice with
      | some i => virtualDeviceName i
      | none => DEVICE_NAME)
  else if propertyIdentifier = PROPERTY_IDENTIFIER_DESCRIPTION then
    some (match virtualDevice with
      | some i => virtualDeviceDescription settings.deviceInstance i
      | none => if settings.mode = .embeddedObjects then DEVICE_DESCRIPTION_EO
          else DEVICE_DESCRIPTION_VN)
  else if propertyIdentifier = PROPERTY_IDENTIFIER_VENDOR_NAME then some VENDOR_NAME
  else if propertyIdentifier = PROPERTY_IDENTIFIER_MODEL_NAME then
    some (if virtualDevice.isSome then VIRTUAL_MODEL_NAME else MODEL_NAME)
  else if propertyIdentifier = PROPERTY_IDENTIFIER_FIRMWARE_REVISION then some
    network.firmwareRevision
  else if propertyIdentifier = PROPERTY_IDENTIFIER_APPLICATION_SOFTWARE_VERSION then some
    APP_VERSION
  else none

/-- What `GetPropertyCharString` hands to `ReturnCharacterString`. -/
def charString (network : Network) (p : PropertyReference) : Option (List Char) :=
  match findMappedPoint settings p.deviceInstance p.objectType p.objectInstance with
  | some (i, kind) =>
    if p.propertyIdentifier = PROPERTY_IDENTIFIER_OBJECT_NAME then some
      (mappedObjectName kind p.objectInstance)
    else if p.propertyIdentifier = PROPERTY_IDENTIFIER_DESCRIPTION then some
      (mappedObjectDescription i kind)
    else none
  | none =>
    let virtualDevice := findVirtualDevice settings.mode p.deviceInstance
    if p.objectType = OBJECT_TYPE_NETWORK_PORT ∧
        p.propertyIdentifier = PROPERTY_IDENTIFIER_OBJECT_NAME then
      if p.deviceInstance = settings.deviceInstance ∧
        p.objectInstance = NETWORK_PORT_INSTANCE then some "Vermilion".toList
      else if p.deviceInstance = settings.deviceInstance ∧ settings.mode = .virtualNetwork ∧
          p.objectInstance = VIRTUAL_NETWORK_PORT_INSTANCE then some "Vermilion 2".toList
      else if virtualDevice.isSome then some "Vermilion".toList
      else none
    else if p.objectType = OBJECT_TYPE_DEVICE ∧ p.objectInstance = p.deviceInstance ∧
        (virtualDevice.isSome ∨ p.deviceInstance = settings.deviceInstance) then
      deviceText settings network virtualDevice p.propertyIdentifier
    else none

def getPropertyCharString (network : Network) (p : PropertyReference)
    (maxElementCount : Nat) : Option (List Char) :=
  (charString settings network p).bind (returnCharacterString · maxElementCount)

/-! ## The gateway's Network Port -/

def noAddress : Ip := ⟨0, 0, 0, 0⟩

/-- `main`'s globals once the socket is bound: without a primary interface the addresses stay as
    they were, and nothing sets the default gateway. -/
def Network.onInterface (firmwareRevision : List Char) (primary : Option (Ip × Ip))
    (port : UInt16) :
    Network where
  firmwareRevision := firmwareRevision
  ipAddress := (primary.getD (noAddress, noAddress)).1
  ipSubnetMask := (primary.getD (noAddress, noAddress)).2
  ipDefaultGateway := noAddress
  bacnetIpUdpPort := port.toNat

/-- `BuildLocalBroadcastConnectionString`: where the gateway announces its virtual network. -/
def buildLocalBroadcastConnectionString (primary : Option (Ip × Ip)) (port : UInt16) : List UInt8 :=
  connectionString (getLocalBroadcastIPv4 primary) port

/-- Only the gateway's Network Port has octet strings, and each is an address. -/
theorem octetString_networkPort {network : Network} {p : PropertyReference} {maxElementCount : Nat}
    {octets : List UInt8}
    (h : getPropertyOctetString settings network p maxElementCount = some octets) :
    isNetworkPort settings p = true ∧ octets.length = 4 ∧ 4 ≤ maxElementCount := by
  unfold getPropertyOctetString at h
  split at h
  · cases h
  · next hport =>
    rw [not_or, Bool.not_eq_false, Nat.not_lt] at hport
    refine ⟨hport.1, ?_, hport.2⟩
    split_ifs at h <;> cases h <;> rfl

theorem broadcast_octets (primary : Option (Ip × Ip)) :
    (getLocalBroadcastIPv4 primary).octets =
      List.zipWith (fun octet mask => octet ||| ~~~mask)
        (primary.getD (noAddress, noAddress)).1.octets
        (primary.getD (noAddress, noAddress)).2.octets := by
  cases primary with
  | none => decide
  | some interface => rfl

/-- A client that reads the address, the mask and the UDP port of the gateway's Network Port has
    what the gateway's broadcasts are sent to, also where there is no primary interface. -/
theorem networkPort_broadcast (firmwareRevision : List Char) (primary : Option (Ip × Ip))
    (port : UInt16)
    {p : PropertyReference} (hp : isNetworkPort settings p = true) {maxElementCount : Nat}
    (hmax : 4 ≤ maxElementCount) :
    let network := Network.onInterface firmwareRevision primary port
    ∃ ip mask,
      getPropertyOctetString settings network
        { p with propertyIdentifier := PROPERTY_IDENTIFIER_IP_ADDRESS } maxElementCount = some ip ∧
      getPropertyOctetString settings network
        { p with propertyIdentifier := PROPERTY_IDENTIFIER_IP_SUBNET_MASK } maxElementCount =
          some mask ∧
      getPropertyUnsignedInteger settings network
        { p with propertyIdentifier := PROPERTY_IDENTIFIER_BACNET_IP_UDP_PORT } = some port.toNat ∧
      buildLocalBroadcastConnectionString primary port =
        List.zipWith (fun octet mask => octet ||| ~~~mask) ip mask ++ portOctets port := by
  intro network
  have hport (propertyIdentifier : Nat) :
      isNetworkPort settings { p with propertyIdentifier := propertyIdentifier } = true := hp
  have hdevice : p.objectType ≠ OBJECT_TYPE_DEVICE := by
    intro htype
    simp [isNetworkPort, htype, OBJECT_TYPE_DEVICE, OBJECT_TYPE_NETWORK_PORT] at hp
  have hroom : ¬ maxElementCount < 4 := by omega
  refine ⟨network.ipAddress.octets, network.ipSubnetMask.octets, ?_, ?_, ?_, ?_⟩
  · simp [getPropertyOctetString, hport, hroom]
  · simp [getPropertyOctetString, hport, hroom, PROPERTY_IDENTIFIER_IP_SUBNET_MASK,
      PROPERTY_IDENTIFIER_IP_ADDRESS]
  · simp [getPropertyUnsignedInteger, hport, hdevice, network, Network.onInterface,
      PROPERTY_IDENTIFIER_BACNET_IP_UDP_PORT, PROPERTY_IDENTIFIER_APDU_LENGTH,
      PROPERTY_IDENTIFIER_REFERENCE_PORT]
  · exact congrArg (· ++ portOctets port) (broadcast_octets primary)

/-! ## DeviceCommunicationControl -/

/-- The comparison with a password that is required, the length first. -/
def passwordMatches (required : List UInt8) : Option (List UInt8) → Bool
  | none => false
  | some password => password.length = required.length ∧
      (password.zip required).all fun (c, r) => c == r

/-- `none` where the callback accepts, or its error code. `DCC_PASSWORD` is an argument: it is
    empty here, and has no NUL. The action and the time are only printed. -/
def deviceCommunicationControl (dccPassword : List UInt8) (deviceInstance : Nat)
    (password : Option (List UInt8)) : Option Nat :=
  if deviceInstance ≠ settings.deviceInstance then some
    ERROR_CODE_OPTIONAL_FUNCTIONALITY_NOT_SUPPORTED
  else if 0 < dccPassword.length ∧
    passwordMatches dccPassword password = false then some ERROR_CODE_PASSWORD_FAILURE
  else none

theorem passwordMatches_iff (required : List UInt8) (password : Option (List UInt8)) :
    passwordMatches required password = true ↔ password = some required := by
  cases password with
  | none => simp [passwordMatches]
  | some password =>
    simp only [passwordMatches, Bool.decide_and, Bool.and_eq_true, decide_eq_true_eq,
      Option.some.injEq]
    constructor
    · rintro ⟨hlength, hall⟩
      apply List.ext_getElem hlength
      intro n h h'
      have hmem : (password[n], required[n]) ∈ password.zip required := by
        apply List.mem_iff_getElem.mpr
        exact ⟨n, by simp [h, h'], by simp⟩
      simpa using List.all_eq_true.mp hall _ hmem
    · rintro rfl
      refine ⟨rfl, ?_⟩
      induction password with
      | nil => rfl
      | cons b password ih =>
        simp only [List.zip_cons_cons, List.all_cons, beq_self_eq_true, Bool.true_and, ih]

/-- Only the gateway answers, and only to the whole password, if it has one. -/
theorem deviceCommunicationControl_iff (dccPassword : List UInt8) (deviceInstance : Nat)
    (password : Option (List UInt8)) :
    deviceCommunicationControl settings dccPassword deviceInstance password = none ↔
      deviceInstance = settings.deviceInstance ∧
      (dccPassword = [] ∨ password = some dccPassword) := by
  unfold deviceCommunicationControl
  rw [← passwordMatches_iff]
  by_cases hdevice : deviceInstance = settings.deviceInstance
  · cases hmatches : passwordMatches dccPassword password <;> simp [hdevice, List.length_pos_iff]
  · simp [hdevice]

/-! ## Names -/

/-- The first letters of a mapped object's name say its kind. -/
theorem mappedObjectName_take (kind : PointKind) (n : Nat) :
    (mappedObjectName kind n).take 3 = (mappedObjectName kind 1).take 3 := by
  unfold mappedObjectName
  by_cases h : n = 1
  · rw [if_pos h, if_pos rfl]
  · rw [if_neg h, if_pos rfl]
    cases kind <;> rfl

theorem mappedObjectName_inj {kind kind' : PointKind} {m n : Nat}
    (h : mappedObjectName kind m = mappedObjectName kind' n) :
    kind = kind' ∧ m = n := by
  have hkind : kind = kind' := by
    have htake := congrArg (List.take 3) h
    rw [mappedObjectName_take kind m, mappedObjectName_take kind' n] at htake
    revert htake
    cases kind <;> cases kind' <;> decide
  subst hkind
  refine ⟨rfl, ?_⟩
  unfold mappedObjectName at h
  dsimp only at h
  by_cases hm : m = 1
  · by_cases hn : n = 1
    · omega
    · rw [if_pos hm, if_neg hn] at h
      have hlength := congrArg List.length h
      simp at hlength
  · by_cases hn : n = 1
    · rw [if_neg hm, if_pos hn] at h
      have hlength := congrArg List.length h
      simp at hlength
    · rw [if_neg hm, if_neg hn, List.append_cancel_left_eq, List.cons_eq_cons] at h
      exact toDigits_inj h.2

theorem virtualDeviceName_inj {i j : SlaveIndex} :
    virtualDeviceName i = virtualDeviceName j → i = j := by
  revert i j
  decide

end BacnetGateway.Gateway
