/-
  BacnetGateway.Program.SetUp — what `main` tells the stack at start-up (`main.cpp`, section 8 and
  `main` from the gateway's Device to the announcements), beside what the callbacks then serve.

  `stackCalls` is the calls in order. `main` makes them until one fails, and then returns 1; an
  announcement that fails is only printed. The stack itself is not here: what is proved is about
  every stack that was told this.

  - `setUp_inOrder`: every call names what an earlier one added, and adds what none did.
  - `setUp_served`: the objects added are those the callbacks find, the properties enabled are
    answered, and the properties made writable are those a set callback accepts, in every state.
  - `stackCalls_acts`: the calls about a virtual device's services and I-Am are those the
    announcements of a run start from.
  - `objectNames_unique`: every object has an Object_Name, no other object of its device has it,
    and no other device has the name of a device.
-/

import BacnetGateway.Gateway.Announcements
import BacnetGateway.Gateway.Identity
import BacnetGateway.Gateway.Priorities
import BacnetGateway.Lib.Construction

namespace BacnetGateway.Program

open Gateway Lib.Construction

def VIRTUAL_NETWORK_NUMBER : Nat := 100
def SERVICE_DEVICE_COMMUNICATION_CONTROL : Nat := 17

structure ObjectIdentifier where
  deviceInstance : Nat
  objectType : Nat
  objectInstance : Nat
  deriving DecidableEq

/-- A property that is no array, or all of one that is. -/
def ObjectIdentifier.property (o : ObjectIdentifier)
    (propertyIdentifier : Nat) : PropertyReference :=
  ⟨o.deviceInstance, o.objectType, o.objectInstance, propertyIdentifier, false, 0⟩

/-- A device's Device object. -/
def deviceObject (deviceInstance : Nat) : ObjectIdentifier :=
  ⟨deviceInstance, OBJECT_TYPE_DEVICE, deviceInstance⟩

/-- The `BACnetStack_` function called, less the arguments that are always the same. -/
inductive StackCall where
  | addDevice (deviceInstance : Nat)
  | setServiceEnabled (deviceInstance service : Nat)
  | addNetworkPortObject (deviceInstance objectInstance : Nat)
  | addVirtualNetwork (deviceInstance networkNumber objectInstance : Nat)
  | addDeviceToVirtualNetwork (deviceInstance networkNumber : Nat)
  | addObject (object : ObjectIdentifier)
  | setPropertyEnabled (object : ObjectIdentifier) (propertyIdentifier : Nat)
  | setPropertyWritable (object : ObjectIdentifier) (propertyIdentifier : Nat)
  | sendIAm (deviceInstance : Nat)
  | sendIAmRouterToNetwork (networkNumber : Nat)
  deriving DecidableEq

/-! ## The calls -/

/-- The body of the loop of `AddMappedObjects`. -/
def addMappedObject (o : ObjectIdentifier) : List StackCall :=
  [.addObject o, .setPropertyEnabled o PROPERTY_IDENTIFIER_RELIABILITY,
    .setPropertyEnabled o PROPERTY_IDENTIFIER_DESCRIPTION] ++
    if o.objectType = OBJECT_TYPE_ANALOG_INPUT then []
    else [.setPropertyEnabled o PROPERTY_IDENTIFIER_PRIORITY_ARRAY,
      .setPropertyEnabled o PROPERTY_IDENTIFIER_RELINQUISH_DEFAULT,
      .setPropertyWritable o PROPERTY_IDENTIFIER_PRESENT_VALUE]

def addMappedObjects (deviceInstance objectInstance : Nat) : List StackCall :=
  [OBJECT_TYPE_ANALOG_INPUT, OBJECT_TYPE_ANALOG_OUTPUT,
    OBJECT_TYPE_BINARY_OUTPUT].flatMap fun objectType =>
    addMappedObject ⟨deviceInstance, objectType, objectInstance⟩

def enableDeviceServices (deviceInstance : Nat)
    (answersDeviceCommunicationControl : Bool) : List StackCall :=
  ([SERVICE_READ_PROPERTY, SERVICE_WRITE_PROPERTY, SERVICE_WHO_IS, SERVICE_I_AM, SERVICE_WHO_HAS,
    SERVICE_I_HAVE] ++
    if answersDeviceCommunicationControl then [SERVICE_DEVICE_COMMUNICATION_CONTROL] else []).map
      fun service => .setServiceEnabled deviceInstance service

/-- The gateway device. -/
def gatewayCalls (deviceInstance : Nat) : List StackCall :=
  [.addDevice deviceInstance] ++ enableDeviceServices deviceInstance true ++
    [.addNetworkPortObject deviceInstance NETWORK_PORT_INSTANCE,
      .setPropertyEnabled (deviceObject deviceInstance) PROPERTY_IDENTIFIER_DESCRIPTION]

/-- Slave `i`'s virtual device. -/
def virtualDeviceCalls (i : SlaveIndex) : List StackCall :=
  [.addDeviceToVirtualNetwork (virtualDeviceInstance i) VIRTUAL_NETWORK_NUMBER] ++
    enableDeviceServices (virtualDeviceInstance i) false ++
    [.setPropertyEnabled (deviceObject (virtualDeviceInstance i))
      PROPERTY_IDENTIFIER_DESCRIPTION] ++
      addMappedObjects (virtualDeviceInstance i) 1

/-- What is done for slave `i`. -/
def slaveSetUp (settings : Settings) (i : SlaveIndex) : List StackCall :=
  match settings.mode with
  | .embeddedObjects => addMappedObjects settings.deviceInstance (unitId i)
  | .virtualNetwork => virtualDeviceCalls i

def virtualNetworkCalls (settings : Settings) : List StackCall :=
  match settings.mode with
  | .embeddedObjects => []
  | .virtualNetwork =>
    [.addVirtualNetwork settings.deviceInstance VIRTUAL_NETWORK_NUMBER
      VIRTUAL_NETWORK_PORT_INSTANCE]

def setUpCalls (settings : Settings) : List StackCall :=
  gatewayCalls settings.deviceInstance ++ virtualNetworkCalls settings ++
    (List.finRange 3).flatMap (slaveSetUp settings)

def announcements (settings : Settings) : List StackCall :=
  .sendIAm settings.deviceInstance ::
    match settings.mode with
    | .embeddedObjects => []
    | .virtualNetwork =>
      .sendIAmRouterToNetwork VIRTUAL_NETWORK_NUMBER :: (List.finRange 3).map fun i =>
        .sendIAm (virtualDeviceInstance i)

def stackCalls (settings : Settings) : List StackCall :=
  setUpCalls settings ++ announcements settings

/-! ## In order -/

inductive Item where
  | device (deviceInstance : Nat)
  | network (networkNumber : Nat)
  | object (object : ObjectIdentifier)
  deriving DecidableEq

/-- What a call refers to. -/
def StackCall.needs : StackCall → List Item
  | .addDevice _ => []
  | .setServiceEnabled d _ | .addNetworkPortObject d _ | .addVirtualNetwork d _ _ | .sendIAm d =>
    [.device d]
  | .addDeviceToVirtualNetwork _ n | .sendIAmRouterToNetwork n => [.network n]
  | .addObject o => [.device o.deviceInstance]
  | .setPropertyEnabled o _ | .setPropertyWritable o _ => [.object o]

/-- A device comes with its Device object, a virtual network with the Network Port it is reached
    through. -/
def StackCall.adds : StackCall → List Item
  | .addDevice d | .addDeviceToVirtualNetwork d _ => [.device d, .object (deviceObject d)]
  | .addNetworkPortObject d n => [.object ⟨d, OBJECT_TYPE_NETWORK_PORT, n⟩]
  | .addVirtualNetwork d network n => [.network network, .object ⟨d, OBJECT_TYPE_NETWORK_PORT, n⟩]
  | .addObject o => [.object o]
  | _ => []

def items (calls : List StackCall) : List Item := calls.flatMap StackCall.adds

theorem items_mapped (d n : Nat) :
    items (addMappedObjects d n) =
      [.object ⟨d, OBJECT_TYPE_ANALOG_INPUT, n⟩, .object ⟨d, OBJECT_TYPE_ANALOG_OUTPUT, n⟩,
        .object ⟨d, OBJECT_TYPE_BINARY_OUTPUT, n⟩] := rfl

theorem items_gateway (d : Nat) :
    items (gatewayCalls d) = [.device d, .object (deviceObject d),
      .object ⟨d, OBJECT_TYPE_NETWORK_PORT, NETWORK_PORT_INSTANCE⟩] := rfl

theorem items_virtual (i : SlaveIndex) :
    items (virtualDeviceCalls i) =
      .device (virtualDeviceInstance i) :: .object (deviceObject (virtualDeviceInstance i)) ::
        items (addMappedObjects (virtualDeviceInstance i) 1) := rfl

theorem services_inOrder {d : Nat} {present : List Item} (h : .device d ∈ present) (dcc : Bool) :
    InOrder StackCall.needs StackCall.adds present (enableDeviceServices d dcc) := by
  cases dcc <;> simp [enableDeviceServices, InOrder, StackCall.needs, StackCall.adds, h]

theorem mapped_inOrder {d n : Nat} {present : List Item} (h : .device d ∈ present)
    (hfresh : List.Disjoint (items (addMappedObjects d n)) present) :
    InOrder StackCall.needs StackCall.adds present (addMappedObjects d n) := by
  rw [items_mapped] at hfresh
  simp only [List.disjoint_cons_left] at hfresh
  obtain ⟨hinput, hsetpoint, henable, -⟩ := hfresh
  simp [addMappedObjects, addMappedObject, InOrder, StackCall.needs, StackCall.adds,
    OBJECT_TYPE_ANALOG_INPUT, OBJECT_TYPE_ANALOG_OUTPUT, OBJECT_TYPE_BINARY_OUTPUT, h] at *
  exact ⟨hinput, hsetpoint, henable⟩

theorem virtualDevice_ne {settings : Settings} (h : settings.mode = .virtualNetwork)
    (i : SlaveIndex) :
    virtualDeviceInstance i ≠ settings.deviceInstance := by
  have hnone := settings.accepted h
  rw [findVirtualDevice, if_neg (not_not.mpr h), List.find?_eq_none] at hnone
  simpa using hnone i (List.mem_finRange i)

theorem gateway_inOrder (d : Nat) : InOrder StackCall.needs StackCall.adds [] (gatewayCalls d) := by
  unfold gatewayCalls
  rw [inOrder_append, inOrder_append]
  refine ⟨⟨?_, services_inOrder (by simp [StackCall.adds]) true⟩, ?_⟩
  · simp [InOrder, StackCall.needs, StackCall.adds]
  · show InOrder StackCall.needs StackCall.adds [.device d, .object (deviceObject d)] _
    simp [InOrder, StackCall.needs, StackCall.adds, deviceObject, OBJECT_TYPE_DEVICE,
      OBJECT_TYPE_NETWORK_PORT]

/-- What one slave's set-up adds names its device, and in `--mode eo` its unit. -/
theorem slave_items {settings : Settings} {i : SlaveIndex} {x : Item}
    (h : x ∈ items (slaveSetUp settings i)) :
    (settings.mode = .virtualNetwork ∧
      x ∈ [.device (virtualDeviceInstance i), .object (deviceObject (virtualDeviceInstance i))]) ∨
      ∃ kind : PointKind,
        x = .object ⟨(mappedObject settings i).1, kind.objectType,
          (mappedObject settings i).2⟩ := by
  unfold slaveSetUp at h
  unfold mappedObject
  cases hmode : settings.mode with
  | embeddedObjects =>
    rw [hmode] at h
    simp only [items_mapped, List.mem_cons, List.not_mem_nil, or_false] at h
    right
    rcases h with rfl | rfl | rfl
    · exact ⟨.measuredTemperature, rfl⟩
    · exact ⟨.setpoint, rfl⟩
    · exact ⟨.enable, rfl⟩
  | virtualNetwork =>
    rw [hmode] at h
    simp only [items_virtual, items_mapped, List.mem_cons, List.not_mem_nil, or_false] at h
    rcases h with rfl | rfl | rfl | rfl | rfl
    · exact Or.inl ⟨rfl, by simp⟩
    · exact Or.inl ⟨rfl, by simp⟩
    · exact Or.inr ⟨.measuredTemperature, rfl⟩
    · exact Or.inr ⟨.setpoint, rfl⟩
    · exact Or.inr ⟨.enable, rfl⟩

theorem objectType_mapped (kind : PointKind) :
    kind.objectType ≠ OBJECT_TYPE_DEVICE ∧ kind.objectType ≠ OBJECT_TYPE_NETWORK_PORT := by
  cases kind <;> decide

/-- Different slaves add different things. -/
theorem slave_apart {settings : Settings} {i j : SlaveIndex} (hne : i ≠ j) :
    List.Disjoint (items (slaveSetUp settings i)) (items (slaveSetUp settings j)) := by
  intro x hi hj
  rcases slave_items hi with ⟨-, hi⟩ | ⟨kind, hi⟩
    <;> rcases slave_items hj with ⟨-, hj⟩ | ⟨kind', hj⟩
  · simp only [List.mem_cons, List.not_mem_nil, or_false] at hi hj
    rcases hi with rfl | rfl
    · rcases hj with hj | hj
      · exact hne (virtualDeviceInstance_inj (Item.device.inj hj))
      · cases hj
    · rcases hj with hj | hj
      · cases hj
      · exact hne (virtualDeviceInstance_inj (ObjectIdentifier.mk.inj (Item.object.inj hj)).1)
  · simp only [List.mem_cons, List.not_mem_nil, or_false] at hi
    rcases hi with rfl | rfl
    · cases hj
    · exact (objectType_mapped kind').1 (ObjectIdentifier.mk.inj (Item.object.inj hj)).2.1.symm
  · simp only [List.mem_cons, List.not_mem_nil, or_false] at hj
    rcases hj with rfl | rfl
    · cases hi
    · exact (objectType_mapped kind).1 (ObjectIdentifier.mk.inj (Item.object.inj hi)).2.1.symm
  · obtain ⟨hdevice, -, hinstance⟩ := ObjectIdentifier.mk.inj (Item.object.inj (hi.symm.trans hj))
    exact hne (mappedObject_inj settings (Prod.ext hdevice hinstance))

/-- What is there before the slaves are set up. -/
def gatewayItems (settings : Settings) : List Item :=
  items (gatewayCalls settings.deviceInstance) ++ items (virtualNetworkCalls settings)

theorem slave_fresh (settings : Settings) (i : SlaveIndex) :
    List.Disjoint (items (slaveSetUp settings i)) (gatewayItems settings) := by
  intro x hi hx
  have hgateway : x = .device settings.deviceInstance ∨ x = .network VIRTUAL_NETWORK_NUMBER ∨
      ∃ o : ObjectIdentifier, x = .object o ∧ o.deviceInstance = settings.deviceInstance ∧
        (o.objectType = OBJECT_TYPE_DEVICE ∨ o.objectType = OBJECT_TYPE_NETWORK_PORT) := by
    unfold gatewayItems at hx
    rw [items_gateway, List.mem_append] at hx
    rcases hx with hx | hx
    · simp only [List.mem_cons, List.not_mem_nil, or_false] at hx
      rcases hx with rfl | rfl | rfl <;> simp [deviceObject]
    · unfold virtualNetworkCalls at hx
      cases hmode : settings.mode with
      | embeddedObjects =>
        rw [hmode] at hx
        cases hx
      | virtualNetwork =>
        rw [hmode] at hx
        simp only [items, StackCall.adds, List.flatMap_cons, List.flatMap_nil, List.append_nil,
          List.mem_cons, List.not_mem_nil, or_false] at hx
        rcases hx with rfl | rfl <;> simp
  rcases slave_items hi with ⟨hmode, hi⟩ | ⟨kind, rfl⟩
  · have hne := virtualDevice_ne hmode i
    simp only [List.mem_cons, List.not_mem_nil, or_false] at hi
    rcases hi with rfl | rfl
    · rcases hgateway with h | h | ⟨o, h, -⟩
      · exact hne (Item.device.inj h)
      · cases h
      · cases h
    · rcases hgateway with h | h | ⟨o, h, hdevice, -⟩
      · cases h
      · cases h
      · obtain rfl := Item.object.inj h
        exact hne hdevice
  · rcases hgateway with h | h | ⟨o, h, -, htype⟩
    · cases h
    · cases h
    · obtain rfl := Item.object.inj h
      rcases htype with htype | htype
      · exact (objectType_mapped kind).1 htype
      · exact (objectType_mapped kind).2 htype

theorem slave_inOrder (settings : Settings) (i : SlaveIndex) (more : List Item)
    (hmore : gatewayItems settings ⊆ more)
    (hfresh : List.Disjoint (items (slaveSetUp settings i)) more) :
    InOrder StackCall.needs StackCall.adds more (slaveSetUp settings i) := by
  unfold slaveSetUp at *
  cases hmode : settings.mode with
  | embeddedObjects =>
    rw [hmode] at hfresh
    exact mapped_inOrder (hmore (by simp [gatewayItems, items_gateway])) hfresh
  | virtualNetwork =>
    rw [hmode] at hfresh
    dsimp only at hfresh ⊢
    rw [items_virtual, List.disjoint_cons_left, List.disjoint_cons_left] at hfresh
    obtain ⟨hdevice, hobject, hmapped⟩ := hfresh
    unfold virtualDeviceCalls
    rw [inOrder_append, inOrder_append, inOrder_append]
    refine ⟨⟨⟨?_, services_inOrder (by simp [StackCall.adds]) false⟩, ?_⟩,
      mapped_inOrder (by simp [StackCall.adds]) ?_⟩
    · simpa [InOrder, StackCall.needs, StackCall.adds, hdevice, hobject]
        using hmore (by simp [gatewayItems, virtualNetworkCalls, items, StackCall.adds, hmode])
    · show InOrder StackCall.needs StackCall.adds
        (more ++ [.device (virtualDeviceInstance i),
          .object (deviceObject (virtualDeviceInstance i))]) _
      simp [InOrder, StackCall.needs, StackCall.adds]
    · show List.Disjoint _
        (more ++ [.device (virtualDeviceInstance i),
          .object (deviceObject (virtualDeviceInstance i))])
      rw [List.disjoint_append_right]
      refine ⟨hmapped, ?_⟩
      simp [items_mapped, deviceObject, OBJECT_TYPE_DEVICE, OBJECT_TYPE_ANALOG_INPUT,
        OBJECT_TYPE_ANALOG_OUTPUT, OBJECT_TYPE_BINARY_OUTPUT]

theorem announcements_add (settings : Settings) :
    ∀ call ∈ announcements settings, call.adds = [] := by
  intro call hcall
  unfold announcements at hcall
  cases hmode : settings.mode with
  | embeddedObjects =>
    rw [hmode] at hcall
    simp only [List.mem_singleton] at hcall
    rw [hcall]
    rfl
  | virtualNetwork =>
    rw [hmode] at hcall
    simp only [List.mem_cons, List.mem_map, List.mem_finRange, true_and] at hcall
    rcases hcall with rfl | rfl | ⟨i, rfl⟩ <;> rfl

/-- The stack is never told about anything it was not told of before. -/
theorem setUp_inOrder (settings : Settings) :
    InOrder StackCall.needs StackCall.adds [] (stackCalls settings) := by
  unfold stackCalls setUpCalls
  rw [inOrder_append, inOrder_append, inOrder_append]
  have hitems : [] ++ (gatewayCalls settings.deviceInstance ++ virtualNetworkCalls settings).flatMap
      StackCall.adds = gatewayItems settings := by
    rw [List.flatMap_append]
    rfl
  refine ⟨⟨⟨gateway_inOrder settings.deviceInstance, ?_⟩, ?_⟩, ?_⟩
  · show InOrder StackCall.needs StackCall.adds (items (gatewayCalls settings.deviceInstance)) _
    rw [items_gateway]
    unfold virtualNetworkCalls
    cases settings.mode with
    | embeddedObjects => trivial
    | virtualNetwork =>
      simp [InOrder, StackCall.needs, StackCall.adds, deviceObject, OBJECT_TYPE_DEVICE,
        OBJECT_TYPE_NETWORK_PORT, NETWORK_PORT_INSTANCE, VIRTUAL_NETWORK_PORT_INSTANCE]
  · rw [hitems]
    apply inOrder_flatMap
    · intro i _ more hmore hfresh
      exact slave_inOrder settings i more hmore hfresh
    · intro i _
      exact slave_fresh settings i
    · exact (List.nodup_finRange 3).imp fun hne => slave_apart hne
  · rw [List.flatMap_append, ← List.append_assoc, hitems]
    apply inOrder_of_adds_nil
    · exact announcements_add settings
    · intro call hcall
      unfold announcements at hcall
      have hgateway : Item.device settings.deviceInstance ∈ gatewayItems settings := by
        simp [gatewayItems, items_gateway]
      cases hmode : settings.mode with
      | embeddedObjects =>
        rw [hmode] at hcall
        simp only [List.mem_singleton] at hcall
        subst hcall
        simp [StackCall.needs, hgateway]
      | virtualNetwork =>
        have hnetwork : Item.network VIRTUAL_NETWORK_NUMBER ∈ gatewayItems settings := by
          simp [gatewayItems, virtualNetworkCalls, items, StackCall.adds, hmode]
        have hdevice (i : SlaveIndex) : ∃ call ∈ slaveSetUp settings i,
            Item.device (virtualDeviceInstance i) ∈ call.adds :=
          ⟨.addDeviceToVirtualNetwork (virtualDeviceInstance i) VIRTUAL_NETWORK_NUMBER,
            by simp [slaveSetUp, hmode, virtualDeviceCalls], by simp [StackCall.adds]⟩
        rw [hmode] at hcall
        simp only [List.mem_cons, List.mem_map, List.mem_finRange, true_and] at hcall
        rcases hcall with rfl | rfl | ⟨i, rfl⟩
        · simp [StackCall.needs, hgateway]
        · simp [StackCall.needs, hnetwork]
        · simp only [StackCall.needs, List.cons_subset, List.nil_subset, and_true, List.mem_append,
            List.mem_flatMap]
          obtain ⟨call, hcall, hadds⟩ := hdevice i
          exact Or.inr ⟨call, ⟨i, List.mem_finRange i, hcall⟩, hadds⟩

/-! ## What the stack has been told -/

/-- Slave `i`'s mapped object. -/
def mappedAt (settings : Settings) (i : SlaveIndex) (kind : PointKind) : ObjectIdentifier :=
  ⟨(mappedObject settings i).1, kind.objectType, (mappedObject settings i).2⟩

variable {settings : Settings}

theorem names_mappedAt (i : SlaveIndex) (kind : PointKind) (propertyIdentifier : Nat) :
    Names settings ((mappedAt settings i kind).property propertyIdentifier) i kind := ⟨rfl, rfl⟩

theorem eq_mappedAt {o : ObjectIdentifier} {i : SlaveIndex} {kind : PointKind} :
    findMappedPoint settings o.deviceInstance o.objectType o.objectInstance = some (i, kind) ↔
    o = mappedAt settings i kind := by
  refine (findMappedPoint_iff settings (o.property 0) i kind).trans ?_
  obtain ⟨d, t, n⟩ := o
  simp only [Names, mappedAt, ObjectIdentifier.property, Prod.ext_iff, ObjectIdentifier.mk.injEq]
  constructor
  · rintro ⟨⟨hdevice, hinstance⟩, htype⟩
    exact ⟨hdevice, htype, hinstance⟩
  · rintro ⟨hdevice, htype, hinstance⟩
    exact ⟨⟨hdevice, hinstance⟩, htype⟩

/-- The devices there are. -/
def IsDevice (settings : Settings) (d : Nat) : Prop :=
  d = settings.deviceInstance ∨ settings.mode = .virtualNetwork ∧ ∃ i, d = virtualDeviceInstance i

theorem mem_mapped {d n : Nat} {call : StackCall} :
    call ∈ addMappedObjects d n ↔ ∃ kind : PointKind,
      call ∈ addMappedObject ⟨d, kind.objectType, n⟩ := by
  unfold addMappedObjects
  simp only [List.mem_flatMap, List.mem_cons, List.not_mem_nil, or_false, exists_eq_or_imp,
    exists_eq_left]
  constructor
  · intro h
    rcases h with h | h | h
    · exact ⟨.measuredTemperature, h⟩
    · exact ⟨.setpoint, h⟩
    · exact ⟨.enable, h⟩
  · rintro ⟨kind, h⟩
    cases kind with
    | measuredTemperature => exact Or.inl h
    | setpoint => exact Or.inr (Or.inl h)
    | enable => exact Or.inr (Or.inr h)

/-- The object whose properties or whose existence a call is about. -/
def StackCall.about : StackCall → Option ObjectIdentifier
  | .addObject o | .setPropertyEnabled o _ | .setPropertyWritable o _ => some o
  | _ => none

theorem services_about {d : Nat} {dcc : Bool} {call : StackCall}
    (h : call ∈ enableDeviceServices d dcc) : call.about = none := by
  obtain ⟨service, -, rfl⟩ := List.mem_map.mp h
  rfl

/-- A call about an object is about a mapped object, but for a Device object's Description. -/
theorem mem_stackCalls {call : StackCall} {o : ObjectIdentifier} (habout : call.about = some o) :
    call ∈ stackCalls settings ↔
      (∃ d, IsDevice settings d ∧
        call = .setPropertyEnabled (deviceObject d) PROPERTY_IDENTIFIER_DESCRIPTION) ∨
        ∃ i kind, call ∈ addMappedObject (mappedAt settings i kind) := by
  have hservices (d : Nat) (dcc : Bool) : call ∉ enableDeviceServices d dcc := by
    intro h
    rw [services_about h] at habout
    cases habout
  unfold stackCalls setUpCalls gatewayCalls virtualNetworkCalls announcements slaveSetUp mappedAt
    mappedObject IsDevice
  cases settings.mode with
  | embeddedObjects =>
    cases call <;> simp [StackCall.about] at habout <;> simp [mem_mapped, hservices]
  | virtualNetwork =>
    cases call <;> simp [StackCall.about] at habout
      <;> simp [mem_mapped, virtualDeviceCalls, hservices, exists_or, or_assoc]

theorem mem_addObject {o : ObjectIdentifier} :
    .addObject o ∈ stackCalls settings ↔ ∃ i kind, o = mappedAt settings i kind := by
  rw [mem_stackCalls rfl]
  simp [addMappedObject]

theorem mem_writable {o : ObjectIdentifier} {propertyIdentifier : Nat} :
    .setPropertyWritable o propertyIdentifier ∈ stackCalls settings ↔
      propertyIdentifier = PROPERTY_IDENTIFIER_PRESENT_VALUE ∧ ∃ i, ∃ k : Gateway.Output,
        o = mappedAt settings i k.kind := by
  rw [mem_stackCalls rfl]
  constructor
  · rintro (⟨d, -, h⟩ | ⟨i, kind, h⟩)
    · cases h
    · cases kind with
      | measuredTemperature => simp [addMappedObject, mappedAt, PointKind.objectType] at h
      | setpoint =>
        simp [addMappedObject, mappedAt, PointKind.objectType, OBJECT_TYPE_ANALOG_INPUT,
          OBJECT_TYPE_ANALOG_OUTPUT] at h
        exact ⟨h.2, i, .setpoint, h.1⟩
      | enable =>
        simp [addMappedObject, mappedAt, PointKind.objectType, OBJECT_TYPE_ANALOG_INPUT,
          OBJECT_TYPE_BINARY_OUTPUT] at h
        exact ⟨h.2, i, .enable, h.1⟩
  · rintro ⟨rfl, i, k, rfl⟩
    refine Or.inr ⟨i, k.kind, ?_⟩
    have houtput : (mappedAt settings i k.kind).objectType ≠ OBJECT_TYPE_ANALOG_INPUT := by
      show k.kind.objectType ≠ OBJECT_TYPE_ANALOG_INPUT
      cases k <;> decide
    simp [addMappedObject, houtput]

/-- A property enabled is a Device object's Description, or one of a mapped object's. -/
theorem mem_enabled {o : ObjectIdentifier} {propertyIdentifier : Nat}
    (h : .setPropertyEnabled o propertyIdentifier ∈ stackCalls settings) :
    (∃ d, IsDevice settings d ∧ o = deviceObject d ∧
      propertyIdentifier = PROPERTY_IDENTIFIER_DESCRIPTION) ∨
      (∃ i kind, o = mappedAt settings i kind ∧
        (propertyIdentifier = PROPERTY_IDENTIFIER_RELIABILITY ∨
          propertyIdentifier = PROPERTY_IDENTIFIER_DESCRIPTION)) ∨
      ∃ i, ∃ k : Gateway.Output, o = mappedAt settings i k.kind ∧
        (propertyIdentifier = PROPERTY_IDENTIFIER_PRIORITY_ARRAY ∨
          propertyIdentifier = PROPERTY_IDENTIFIER_RELINQUISH_DEFAULT) := by
  rcases (mem_stackCalls rfl).mp h with ⟨d, hd, heq⟩ | ⟨i, kind, hmem⟩
  · obtain ⟨rfl, rfl⟩ := StackCall.setPropertyEnabled.inj heq
    exact Or.inl ⟨d, hd, rfl, rfl⟩
  · right
    unfold addMappedObject at hmem
    rw [List.mem_append] at hmem
    rcases hmem with hmem | hmem
    · simp at hmem
      rcases hmem with ⟨rfl, rfl⟩ | ⟨rfl, rfl⟩
      · exact Or.inl ⟨i, kind, rfl, Or.inl rfl⟩
      · exact Or.inl ⟨i, kind, rfl, Or.inr rfl⟩
    · right
      cases kind with
      | measuredTemperature => simp [mappedAt, PointKind.objectType] at hmem
      | setpoint =>
        simp [mappedAt, PointKind.objectType, OBJECT_TYPE_ANALOG_INPUT, OBJECT_TYPE_ANALOG_OUTPUT]
          at hmem
        rcases hmem with ⟨rfl, hp⟩ | ⟨rfl, hp⟩
        · exact ⟨i, .setpoint, rfl, Or.inl hp⟩
        · exact ⟨i, .setpoint, rfl, Or.inr hp⟩
      | enable =>
        simp [mappedAt, PointKind.objectType, OBJECT_TYPE_ANALOG_INPUT, OBJECT_TYPE_BINARY_OUTPUT]
          at hmem
        rcases hmem with ⟨rfl, hp⟩ | ⟨rfl, hp⟩
        · exact ⟨i, .enable, rfl, Or.inl hp⟩
        · exact ⟨i, .enable, rfl, Or.inr hp⟩

/-! ## What the callbacks serve -/

/-- The callbacks answer all of the property: the stack reads an array element by element. -/
inductive Served (settings : Settings) (network : Network) (slaves : SlaveIndex → GatewayedSlave)
    (o : ObjectIdentifier) : Nat → Prop
  | description (text : List Char)
      (h : ∀ maxElementCount,
        getPropertyCharString settings network (o.property PROPERTY_IDENTIFIER_DESCRIPTION)
          maxElementCount = some (text.take maxElementCount)) :
      Served settings network slaves o PROPERTY_IDENTIFIER_DESCRIPTION
  | reliability (value : Nat)
      (h : getPropertyEnumerated settings slaves (o.property PROPERTY_IDENTIFIER_RELIABILITY) =
        some value) :
      Served settings network slaves o PROPERTY_IDENTIFIER_RELIABILITY
  | priorityArray (k : Gateway.Output)
      (h : ∀ slot, ∃ isNull,
        getPropertyBool settings slaves
          (priorityArray (o.property PROPERTY_IDENTIFIER_PRIORITY_ARRAY) slot) = some isNull ∧
        (valueAnswer settings slaves k
          (priorityArray (o.property PROPERTY_IDENTIFIER_PRIORITY_ARRAY) slot)).isNone = isNull) :
      Served settings network slaves o PROPERTY_IDENTIFIER_PRIORITY_ARRAY
  | relinquishDefault (k : Gateway.Output) (value : ℚ)
      (h : valueAnswer settings slaves k (o.property PROPERTY_IDENTIFIER_RELINQUISH_DEFAULT) =
        some value) :
      Served settings network slaves o PROPERTY_IDENTIFIER_RELINQUISH_DEFAULT

variable {network : Network} {slaves : SlaveIndex → GatewayedSlave} {i : SlaveIndex}
    {kind : PointKind} {k : Gateway.Output}

theorem find_mappedAt (i : SlaveIndex) (kind : PointKind) :
    findMappedPoint settings (mappedAt settings i kind).deviceInstance
      (mappedAt settings i kind).objectType
      (mappedAt settings i kind).objectInstance = some (i, kind) := eq_mappedAt.mpr rfl

/-- A Device object is no mapped object. -/
theorem find_deviceObject (d : Nat) : findMappedPoint settings d OBJECT_TYPE_DEVICE d = none := by
  cases h : findMappedPoint settings d OBJECT_TYPE_DEVICE d with
  | none => rfl
  | some point =>
    have htype := congrArg ObjectIdentifier.objectType ((eq_mappedAt (o := deviceObject d)).mp h)
    exact absurd htype.symm (objectType_mapped point.2).1

theorem find_networkPort (d n : Nat) :
    findMappedPoint settings d OBJECT_TYPE_NETWORK_PORT n = none := by
  cases h : findMappedPoint settings d OBJECT_TYPE_NETWORK_PORT n with
  | none => rfl
  | some point =>
    have htype :=
      congrArg ObjectIdentifier.objectType
      ((eq_mappedAt (o := ⟨d, OBJECT_TYPE_NETWORK_PORT, n⟩)).mp h)
    exact absurd htype.symm (objectType_mapped point.2).2

/-- The virtual devices are found as such, and the gateway is not. -/
theorem findVirtualDevice_virtual (h : settings.mode = .virtualNetwork) (i : SlaveIndex) :
    findVirtualDevice settings.mode (virtualDeviceInstance i) = some i := by
  rw [findVirtualDevice, if_neg (not_not.mpr h)]
  apply (Lib.find?_eq_some_iff_of_unique _ (List.mem_finRange i)).mpr
  · simp
  · intro a _ b _ ha hb
    apply virtualDeviceInstance_inj
    exact (of_decide_eq_true ha).trans (of_decide_eq_true hb).symm

theorem findVirtualDevice_gateway (settings : Settings) :
    findVirtualDevice settings.mode settings.deviceInstance = none := by
  cases hmode : settings.mode with
  | embeddedObjects => rfl
  | virtualNetwork => exact hmode ▸ settings.accepted hmode

theorem deviceObject_served {d : Nat} (h : IsDevice settings d) :
    Served settings network slaves (deviceObject d) PROPERTY_IDENTIFIER_DESCRIPTION := by
  have hdevice : (findVirtualDevice settings.mode d).isSome ∨ d = settings.deviceInstance := by
    rcases h with rfl | ⟨hmode, i, rfl⟩
    · exact Or.inr rfl
    · rw [findVirtualDevice_virtual hmode i]
      exact Or.inl rfl
  obtain ⟨text, htext⟩ : ∃ text,
      deviceText settings network (findVirtualDevice settings.mode d)
      PROPERTY_IDENTIFIER_DESCRIPTION = some text :=
    ⟨_, rfl⟩
  refine .description text fun maxElementCount => ?_
  unfold getPropertyCharString charString
  simp only [ObjectIdentifier.property, deviceObject, find_deviceObject]
  rw [if_neg (by decide), if_pos ⟨trivial, trivial, hdevice⟩, htext]
  rfl

theorem mapped_description :
    Served settings network slaves (mappedAt settings i kind) PROPERTY_IDENTIFIER_DESCRIPTION := by
  refine .description (mappedObjectDescription i kind) fun maxElementCount => ?_
  unfold getPropertyCharString charString
  simp only [ObjectIdentifier.property, find_mappedAt]
  rfl

theorem mapped_reliability :
    Served settings network slaves (mappedAt settings i kind) PROPERTY_IDENTIFIER_RELIABILITY := by
  refine .reliability (if (slaves i).online then RELIABILITY_NO_FAULT_DETECTED
    else RELIABILITY_COMMUNICATION_FAILURE) ?_
  unfold getPropertyEnumerated
  simp only [ObjectIdentifier.property, find_mappedAt]
  rfl

theorem mapped_priorityArray :
    Served settings network slaves
    (mappedAt settings i k.kind) PROPERTY_IDENTIFIER_PRIORITY_ARRAY := by
  have hnames := @names_mappedAt settings i k.kind PROPERTY_IDENTIFIER_PRIORITY_ARRAY
  refine .priorityArray k fun slot => ⟨_, bool_answer slaves hnames slot, ?_⟩
  cases k with
  | setpoint => exact congrArg Option.isNone (getPropertyReal_slot slaves hnames slot)
  | enable =>
    refine (congrArg (fun answer => (Option.map Nat.cast answer : Option ℚ).isNone)
      (getPropertyEnumerated_slot slaves hnames slot)).trans ?_
    rw [Option.map_map, Option.isNone_map]
    rfl

theorem mapped_relinquishDefault :
    Served settings network slaves
    (mappedAt settings i k.kind) PROPERTY_IDENTIFIER_RELINQUISH_DEFAULT := by
  have hnames := @names_mappedAt settings i k.kind PROPERTY_IDENTIFIER_RELINQUISH_DEFAULT
  cases k with
  | setpoint =>
    exact .relinquishDefault .setpoint _ (getPropertyReal_relinquishDefault slaves hnames)
  | enable =>
    exact .relinquishDefault .enable _
      (congrArg (Option.map Nat.cast) (getPropertyEnumerated_relinquishDefault slaves hnames))

/-- The object a set call is about. -/
def callObject (call : SetCall) : ObjectIdentifier :=
  ⟨call.property.deviceInstance, call.property.objectType, call.property.objectInstance⟩

/-- An object's property is accepted by some set callback exactly when it is an output's
    Present_Value. -/
theorem settable_iff (slaves : SlaveIndex → GatewayedSlave) (o : ObjectIdentifier)
    (propertyIdentifier : Nat) :
    (∃ call, callObject call = o ∧ call.property.propertyIdentifier = propertyIdentifier ∧
      (call.result settings slaves).accepted = true) ↔
      propertyIdentifier = PROPERTY_IDENTIFIER_PRESENT_VALUE ∧ ∃ i, ∃ k : Gateway.Output,
        o = mappedAt settings i k.kind := by
  constructor
  · rintro ⟨call, rfl, rfl, haccepted⟩
    rw [(set_result settings slaves call).1] at haccepted
    obtain ⟨c, hc⟩ := Option.isSome_iff_exists.mp haccepted
    obtain ⟨hnames, hproperty, -⟩ := (commandOf_iff settings call c).mp hc
    refine ⟨hproperty, c.slave, c.output, ?_⟩
    exact (@eq_mappedAt settings (callObject call) c.slave c.output.kind).mp
      ((findMappedPoint_iff settings call.property _ _).mpr hnames)
  · rintro ⟨rfl, i, k, rfl⟩
    refine ⟨.null ((mappedAt settings i k.kind).property PROPERTY_IDENTIFIER_PRESENT_VALUE) 16,
      rfl, rfl, ?_⟩
    rw [(set_result settings slaves _).1, Option.isSome_iff_exists]
    refine ⟨⟨i, k, slotIndex 16, none⟩, (commandOf_iff settings _ _).mpr ?_⟩
    exact ⟨names_mappedAt i k.kind _, rfl, rfl, rfl, rfl, rfl⟩

/-- In both modes and with any device instance: every call of start-up refers only to devices,
    networks and objects that an earlier call added, and adds none a second time. The mapped
    objects added are exactly those the callbacks find. Whatever the slaves' state, every
    property enabled is answered, and the properties made writable are exactly those a set
    callback accepts. -/
theorem setUp_served (settings : Settings) (network : Network)
    (slaves : SlaveIndex → GatewayedSlave) :
    (∀ before call after, stackCalls settings = before ++ call :: after →
      (∀ x ∈ call.needs, ∃ earlier ∈ before, x ∈ earlier.adds) ∧
      ∀ x ∈ call.adds, ∀ earlier ∈ before, x ∉ earlier.adds) ∧
    (∀ o, .addObject o ∈ stackCalls settings ↔
      (findMappedPoint settings o.deviceInstance o.objectType o.objectInstance).isSome) ∧
    (∀ o propertyIdentifier, .setPropertyEnabled o propertyIdentifier ∈ stackCalls settings →
      Served settings network slaves o propertyIdentifier) ∧
    (∀ o propertyIdentifier, .setPropertyWritable o propertyIdentifier ∈ stackCalls settings ↔
      ∃ call, callObject call = o ∧ call.property.propertyIdentifier = propertyIdentifier ∧
        (call.result settings slaves).accepted = true) := by
  refine ⟨fun before call after hsplit => ?_, fun o => ?_, fun o propertyIdentifier h => ?_,
    fun o propertyIdentifier => ?_⟩
  · have hinOrder := setUp_inOrder settings
    rw [hsplit] at hinOrder
    obtain ⟨hneeds, hadds⟩ := inOrder_split hinOrder
    constructor
    · intro x hx
      exact (hneeds x hx).resolve_left List.not_mem_nil
    · intro x hx
      exact (hadds x hx).2
  · rw [mem_addObject, Option.isSome_iff_exists]
    constructor
    · rintro ⟨i, kind, rfl⟩
      exact ⟨(i, kind), find_mappedAt i kind⟩
    · rintro ⟨⟨i, kind⟩, hfind⟩
      exact ⟨i, kind, eq_mappedAt.mp hfind⟩
  · rcases mem_enabled h with ⟨d, hd, rfl, rfl⟩ | ⟨i, kind, rfl, rfl | rfl⟩ | ⟨i, k, rfl, rfl | rfl⟩
    · exact deviceObject_served hd
    · exact mapped_reliability
    · exact mapped_description
    · exact mapped_priorityArray
    · exact mapped_relinquishDefault
  · rw [mem_writable, settable_iff]

/-! ## The virtual devices' services -/

/-- A call about the services or the I-Am of a virtual device. -/
def asAct (settings : Settings) : StackCall → Option Act
  | .setServiceEnabled d service => (findVirtualDevice settings.mode d).map fun i =>
    .setServiceEnabled i service true
  | .sendIAm d => (findVirtualDevice settings.mode d).map Act.sendIAm
  | _ => none

theorem services_acts (d : Nat) (dcc : Bool) (h : findVirtualDevice settings.mode d = none) :
    (enableDeviceServices d dcc).filterMap (asAct settings) = [] := by
  cases dcc <;> simp [enableDeviceServices, asAct, h]

theorem mapped_acts (d n : Nat) : (addMappedObjects d n).filterMap (asAct settings) = [] := rfl

theorem virtualDevice_acts (h : settings.mode = .virtualNetwork) (i : SlaveIndex) :
    (virtualDeviceCalls i).filterMap (asAct settings) = Gateway.enableDeviceServices i := by
  unfold virtualDeviceCalls
  rw [List.filterMap_append, mapped_acts]
  simp [enableDeviceServices, Gateway.enableDeviceServices, List.filterMap_cons, asAct,
    findVirtualDevice_virtual h i]

/-- These calls are the log the announcements of a run start from. -/
theorem stackCalls_acts (settings : Settings) :
    (stackCalls settings).filterMap (asAct settings) = (startUpCalls settings.mode).reverse := by
  have hgateway := findVirtualDevice_gateway settings
  unfold stackCalls setUpCalls gatewayCalls
  simp only [List.filterMap_append, services_acts _ _ hgateway]
  cases hmode : settings.mode with
  | embeddedObjects =>
    have hnone (d : Nat) : findVirtualDevice .embeddedObjects d = none := rfl
    simp [virtualNetworkCalls, announcements, slaveSetUp, hmode, asAct, hnone, startUpCalls,
      List.filterMap_flatMap, mapped_acts]
  | virtualNetwork =>
    rw [hmode] at hgateway
    have hvirtual := findVirtualDevice_virtual hmode
    rw [hmode] at hvirtual
    simp [virtualNetworkCalls, announcements, slaveSetUp, hmode, List.filterMap_cons, asAct,
      hgateway, hvirtual, startUpCalls, List.filterMap_flatMap, virtualDevice_acts hmode]
    rw [← List.filterMap_eq_map]
    congr 1
    funext i
    simp [asAct, findVirtualDevice_virtual hmode i]

/-! ## Object names -/

/-- An object there is after start-up, and what the callback answers for its Object_Name. The
    stack puts a Network Port of its own into each virtual device, at instance `port i`. -/
inductive Named (settings : Settings) (port : SlaveIndex → Nat) :
    ObjectIdentifier → List Char → Prop
  | gateway : Named settings port (deviceObject settings.deviceInstance) DEVICE_NAME
  | networkPort : Named settings port ⟨settings.deviceInstance, OBJECT_TYPE_NETWORK_PORT,
      NETWORK_PORT_INSTANCE⟩ "Vermilion".toList
  | mapped (i : SlaveIndex) (kind : PointKind) :
      Named settings port (mappedAt settings i kind)
        (mappedObjectName kind (mappedObject settings i).2)
  | virtualNetworkPort (h : settings.mode = .virtualNetwork) :
      Named settings port ⟨settings.deviceInstance, OBJECT_TYPE_NETWORK_PORT,
        VIRTUAL_NETWORK_PORT_INSTANCE⟩ "Vermilion 2".toList
  | virtualDevice (h : settings.mode = .virtualNetwork) (i : SlaveIndex) :
      Named settings port (deviceObject (virtualDeviceInstance i)) (virtualDeviceName i)
  | virtualDevicePort (h : settings.mode = .virtualNetwork) (i : SlaveIndex) :
      Named settings port ⟨virtualDeviceInstance i, OBJECT_TYPE_NETWORK_PORT,
        port i⟩ "Vermilion".toList

variable {port : SlaveIndex → Nat} {o o' : ObjectIdentifier} {name name' : List Char}

theorem mem_items {x : Item} (h : x ∈ items (stackCalls settings)) :
    x ∈ items (gatewayCalls settings.deviceInstance) ∨ x ∈ items (virtualNetworkCalls settings) ∨
    ∃ i, x ∈ items (slaveSetUp settings i) := by
  unfold items stackCalls setUpCalls at h
  simp only [List.flatMap_append, List.mem_append] at h
  rcases h with ((h | h) | h) | h
  · exact Or.inl h
  · exact Or.inr (Or.inl h)
  · obtain ⟨call, hcall, hadds⟩ := List.mem_flatMap.mp h
    obtain ⟨i, -, hcall⟩ := List.mem_flatMap.mp hcall
    exact Or.inr (Or.inr ⟨i, List.mem_flatMap.mpr ⟨call, hcall, hadds⟩⟩)
  · obtain ⟨call, hcall, hadds⟩ := List.mem_flatMap.mp h
    rw [announcements_add settings call hcall] at hadds
    cases hadds

/-- Every object added has its name. -/
theorem named_of_added (h : .object o ∈ items (stackCalls settings)) :
    ∃ name, Named settings port o name := by
  rcases mem_items h with h | h | ⟨i, h⟩
  · simp only [items_gateway, List.mem_cons, Item.object.injEq, reduceCtorEq, List.not_mem_nil,
      or_false, false_or] at h
    rcases h with rfl | rfl
    · exact ⟨_, .gateway⟩
    · exact ⟨_, .networkPort⟩
  · unfold virtualNetworkCalls at h
    cases hmode : settings.mode with
    | embeddedObjects =>
      rw [hmode] at h
      cases h
    | virtualNetwork =>
      rw [hmode] at h
      simp only [items, StackCall.adds, List.flatMap_cons, List.flatMap_nil, List.append_nil,
        List.mem_cons, List.not_mem_nil, reduceCtorEq, Item.object.injEq, or_false, false_or] at h
      subst h
      exact ⟨_, .virtualNetworkPort hmode⟩
  · rcases slave_items h with ⟨hmode, h⟩ | ⟨kind, h⟩
    · simp only [List.mem_cons, List.not_mem_nil, reduceCtorEq, Item.object.injEq, or_false,
        false_or] at h
      subst h
      exact ⟨_, .virtualDevice hmode i⟩
    · rw [Item.object.inj h]
      exact ⟨_, .mapped i kind⟩

theorem named_text (h : Named settings port o name) (maxElementCount : Nat) :
    getPropertyCharString settings network (o.property PROPERTY_IDENTIFIER_OBJECT_NAME)
      maxElementCount = some (name.take maxElementCount) := by
  unfold getPropertyCharString
  suffices htext : charString settings network (o.property PROPERTY_IDENTIFIER_OBJECT_NAME) =
      some name by
    rw [htext]
    rfl
  unfold charString
  cases h with
  | gateway =>
    simp only [ObjectIdentifier.property, deviceObject, find_deviceObject,
      findVirtualDevice_gateway]
    rw [if_neg (by decide), if_pos ⟨trivial, trivial, Or.inr trivial⟩]
    rfl
  | networkPort =>
    simp only [ObjectIdentifier.property, find_networkPort]
    rfl
  | mapped i kind =>
    simp only [ObjectIdentifier.property, find_mappedAt]
    rfl
  | virtualNetworkPort h =>
    simp only [ObjectIdentifier.property, find_networkPort]
    rw [if_pos ⟨trivial, trivial⟩, if_neg (by decide), if_pos ⟨trivial, h, trivial⟩]
  | virtualDevice h i =>
    simp only [ObjectIdentifier.property, deviceObject, find_deviceObject,
      findVirtualDevice_virtual h i]
    rw [if_neg (by decide), if_pos ⟨trivial, trivial, Or.inl rfl⟩]
    rfl
  | virtualDevicePort h i =>
    have hne := virtualDevice_ne h i
    simp only [ObjectIdentifier.property, find_networkPort, findVirtualDevice_virtual h i]
    rw [if_pos ⟨trivial, trivial⟩, if_neg fun h => hne h.1, if_neg fun h => hne h.1]
    rfl

/-- No name is longer than that of the Air Handler's virtual device. -/
theorem named_length (h : Named settings port o name) : name.length ≤ 34 := by
  cases h with
  | gateway => decide
  | networkPort => decide
  | mapped i kind =>
    unfold mappedObject
    cases settings.mode with
    | embeddedObjects =>
      show (mappedObjectName kind (unitId i)).length ≤ 34
      revert i kind
      decide
    | virtualNetwork =>
      show (mappedObjectName kind 1).length ≤ 34
      revert kind
      decide
  | virtualNetworkPort h => decide
  | virtualDevice h i =>
    revert i
    decide
  | virtualDevicePort h i => decide

/-- What the first letters of a name say of its object. -/
theorem named_letters (h : Named settings port o name) :
    (name.take 3 = "Chi".toList ∧ o.objectType = OBJECT_TYPE_DEVICE) ∨
      (name.take 3 = "Ver".toList ∧ o.objectType = OBJECT_TYPE_NETWORK_PORT) ∨
      (name.take 3 ∈ ["Bro".toList, "Cha".toList, "Fuc".toList] ∧ ∃ i kind,
        o = mappedAt settings i kind) := by
  cases h with
  | gateway => exact Or.inl ⟨by decide, rfl⟩
  | networkPort => exact Or.inr (Or.inl ⟨by decide, rfl⟩)
  | mapped i kind =>
    refine Or.inr (Or.inr ⟨?_, i, kind, rfl⟩)
    rw [mappedObjectName_take]
    revert kind
    decide
  | virtualNetworkPort h => exact Or.inr (Or.inl ⟨by decide, rfl⟩)
  | virtualDevice h i =>
    refine Or.inl ⟨?_, rfl⟩
    revert i
    decide
  | virtualDevicePort h i => exact Or.inr (Or.inl ⟨by decide, rfl⟩)

theorem named_device (h : Named settings port o name) (htype : o.objectType = OBJECT_TYPE_DEVICE) :
    (o = deviceObject settings.deviceInstance ∧ name = DEVICE_NAME) ∨
      ∃ i, o = deviceObject (virtualDeviceInstance i) ∧ name = virtualDeviceName i := by
  cases h with
  | gateway => exact Or.inl ⟨rfl, rfl⟩
  | virtualDevice h i => exact Or.inr ⟨i, rfl, rfl⟩
  | mapped i kind => exact absurd htype (objectType_mapped kind).1
  | networkPort => exact absurd htype (by simp [OBJECT_TYPE_NETWORK_PORT, OBJECT_TYPE_DEVICE])
  | virtualNetworkPort h =>
    exact absurd htype (by simp [OBJECT_TYPE_NETWORK_PORT, OBJECT_TYPE_DEVICE])
  | virtualDevicePort h i =>
    exact absurd htype (by simp [OBJECT_TYPE_NETWORK_PORT, OBJECT_TYPE_DEVICE])

theorem named_port (h : Named settings port o name)
    (htype : o.objectType = OBJECT_TYPE_NETWORK_PORT) :
    (o = ⟨settings.deviceInstance, OBJECT_TYPE_NETWORK_PORT, NETWORK_PORT_INSTANCE⟩ ∧
      name = "Vermilion".toList) ∨
      (o = ⟨settings.deviceInstance, OBJECT_TYPE_NETWORK_PORT, VIRTUAL_NETWORK_PORT_INSTANCE⟩ ∧
        name = "Vermilion 2".toList) ∨
      (settings.mode = .virtualNetwork ∧ ∃ i,
        o = ⟨virtualDeviceInstance i, OBJECT_TYPE_NETWORK_PORT, port i⟩) := by
  cases h with
  | networkPort => exact Or.inl ⟨rfl, rfl⟩
  | virtualNetworkPort h => exact Or.inr (Or.inl ⟨rfl, rfl⟩)
  | virtualDevicePort h i => exact Or.inr (Or.inr ⟨h, i, rfl⟩)
  | mapped i kind => exact absurd htype (objectType_mapped kind).2
  | gateway =>
    exact absurd htype (by simp [deviceObject, OBJECT_TYPE_NETWORK_PORT, OBJECT_TYPE_DEVICE])
  | virtualDevice h i =>
    exact absurd htype (by simp [deviceObject, OBJECT_TYPE_NETWORK_PORT, OBJECT_TYPE_DEVICE])

theorem named_mapped (h : Named settings port (mappedAt settings i kind) name) :
    name = mappedObjectName kind (mappedObject settings i).2 := by
  generalize ho : mappedAt settings i kind = o at h
  have htype : o.objectType = kind.objectType := ho ▸ rfl
  cases h with
  | mapped j kind' =>
    have hpoint := (find_mappedAt i kind).symm.trans (eq_mappedAt.mpr ho)
    simp only [Option.some.injEq, Prod.mk.injEq] at hpoint
    rw [hpoint.1, hpoint.2]
  | gateway => exact absurd htype.symm (objectType_mapped kind).1
  | virtualDevice h j => exact absurd htype.symm (objectType_mapped kind).1
  | networkPort => exact absurd htype.symm (objectType_mapped kind).2
  | virtualNetworkPort h => exact absurd htype.symm (objectType_mapped kind).2
  | virtualDevicePort h j => exact absurd htype.symm (objectType_mapped kind).2

theorem deviceNames_inj (h : Named settings port o name) (h' : Named settings port o' name)
    (htype : o.objectType = OBJECT_TYPE_DEVICE)
    (htype' : o'.objectType = OBJECT_TYPE_DEVICE) : o = o' := by
  have hgateway : ∀ i, DEVICE_NAME ≠ virtualDeviceName i := by decide
  rcases named_device h htype with ⟨rfl, rfl⟩ | ⟨i, rfl, rfl⟩
  · rcases named_device h' htype' with ⟨rfl, -⟩ | ⟨j, -, heq⟩
    · rfl
    · exact absurd heq (hgateway j)
  · rcases named_device h' htype' with ⟨-, heq⟩ | ⟨j, rfl, heq⟩
    · exact absurd heq.symm (hgateway i)
    · rw [virtualDeviceName_inj heq]

theorem portNames_inj (h : Named settings port o name) (h' : Named settings port o' name)
    (htype : o.objectType = OBJECT_TYPE_NETWORK_PORT)
    (htype' : o'.objectType = OBJECT_TYPE_NETWORK_PORT)
    (hdevice : o.deviceInstance = o'.deviceInstance) : o = o' := by
  have htexts : "Vermilion".toList ≠ "Vermilion 2".toList := by decide
  rcases named_port h htype with ⟨rfl, rfl⟩ | ⟨rfl, rfl⟩ | ⟨hmode, i, rfl⟩
  · rcases named_port h' htype' with ⟨rfl, -⟩ | ⟨-, heq⟩ | ⟨hmode, j, rfl⟩
    · rfl
    · exact absurd heq htexts
    · exact absurd hdevice.symm (virtualDevice_ne hmode j)
  · rcases named_port h' htype' with ⟨-, heq⟩ | ⟨rfl, -⟩ | ⟨hmode, j, rfl⟩
    · exact absurd heq.symm htexts
    · rfl
    · exact absurd hdevice.symm (virtualDevice_ne hmode j)
  · rcases named_port h' htype' with ⟨rfl, -⟩ | ⟨rfl, -⟩ | ⟨-, j, rfl⟩
    · exact absurd hdevice (virtualDevice_ne hmode i)
    · exact absurd hdevice (virtualDevice_ne hmode i)
    · rw [virtualDeviceInstance_inj hdevice]

/-- Two objects of one device, or two Device objects, with one name are the same. -/
theorem named_inj (h : Named settings port o name) (h' : Named settings port o' name)
    (hsame : o.deviceInstance = o'.deviceInstance ∨
      (o.objectType = OBJECT_TYPE_DEVICE ∧ o'.objectType = OBJECT_TYPE_DEVICE)) : o = o' := by
  rcases named_letters h with ⟨hletters, htype⟩ | ⟨hletters, htype⟩ | ⟨hletters, i, kind, rfl⟩
  · rcases named_letters h' with ⟨-, htype'⟩ | ⟨hletters', -⟩ | ⟨hletters', -⟩
    · exact deviceNames_inj h h' htype htype'
    · rw [hletters] at hletters'
      exact absurd hletters' (by decide)
    · rw [hletters] at hletters'
      exact absurd hletters' (by decide)
  · rcases named_letters h' with ⟨hletters', -⟩ | ⟨-, htype'⟩ | ⟨hletters', -⟩
    · rw [hletters] at hletters'
      exact absurd hletters' (by decide)
    · refine portNames_inj h h' htype htype' (hsame.resolve_right fun hdevices => ?_)
      exact absurd (htype.symm.trans hdevices.1) (by decide)
    · rw [hletters] at hletters'
      exact absurd hletters' (by decide)
  · rcases named_letters h' with ⟨hletters', -⟩ | ⟨hletters', -⟩ | ⟨-, j, kind', rfl⟩
    · rw [hletters'] at hletters
      exact absurd hletters (by decide)
    · rw [hletters'] at hletters
      exact absurd hletters (by decide)
    · obtain ⟨rfl, hinstance⟩ :=
        mappedObjectName_inj ((named_mapped h).symm.trans (named_mapped h'))
      have hdevice := hsame.resolve_right fun hdevices => (objectType_mapped kind).1 hdevices.1
      rw [mappedObject_inj settings (Prod.ext hdevice hinstance)]

/-- The objects there are after start-up: those `main` adds, and the Network Port the stack puts
    into each virtual device. -/
def Present (settings : Settings) (port : SlaveIndex → Nat) (o : ObjectIdentifier) : Prop :=
  .object o ∈ items (stackCalls settings) ∨
    settings.mode = .virtualNetwork ∧
    ∃ i, o = ⟨virtualDeviceInstance i, OBJECT_TYPE_NETWORK_PORT, port i⟩

theorem present_named (h : Present settings port o) : ∃ name, Named settings port o name := by
  rcases h with h | ⟨hmode, i, rfl⟩
  · exact named_of_added h
  · exact ⟨_, .virtualDevicePort hmode i⟩

/-- What the stack is answered for the object's Object_Name, in a buffer of this length. -/
def objectName (settings : Settings) (network : Network) (maxElementCount : Nat)
    (o : ObjectIdentifier) : Option (List Char) :=
  getPropertyCharString settings network (o.property PROPERTY_IDENTIFIER_OBJECT_NAME)
    maxElementCount

/-- In both modes, with any device instance and wherever the stack puts its own Network Ports:
    every object has an Object_Name, and in a buffer of 34 characters or more no other object
    of its device has the same, and no other Device object that of a device. -/
theorem objectNames_unique (settings : Settings) (network : Network) (port : SlaveIndex → Nat)
    (o o' : ObjectIdentifier) (maxElementCount : Nat)
    (hmax : 34 ≤ maxElementCount) (h : Present settings port o) (h' : Present settings port o') :
    (∃ name, objectName settings network maxElementCount o = some name ∧ name ≠ []) ∧
      ((o.deviceInstance = o'.deviceInstance ∨
        (o.objectType = OBJECT_TYPE_DEVICE ∧ o'.objectType = OBJECT_TYPE_DEVICE)) →
        objectName settings network maxElementCount o =
          objectName settings network maxElementCount o' → o = o') := by
  obtain ⟨name, hname⟩ := present_named h
  obtain ⟨name', hname'⟩ := present_named h'
  have hanswer : objectName settings network maxElementCount o = some name := by
    rw [objectName, named_text hname,
      List.take_of_length_le (Nat.le_trans (named_length hname) hmax)]
  have hanswer' : objectName settings network maxElementCount o' = some name' := by
    rw [objectName, named_text hname',
      List.take_of_length_le (Nat.le_trans (named_length hname') hmax)]
  refine ⟨⟨name, hanswer, ?_⟩, fun hsame heq => ?_⟩
  · rintro rfl
    rcases named_letters hname with ⟨h, -⟩ | ⟨h, -⟩ | ⟨h, -⟩ <;> revert h <;> decide
  · rw [hanswer, hanswer'] at heq
    obtain rfl := Option.some.inj heq
    exact named_inj hname hname' hsame

/-- The default command line but for `--mode vn`. -/
def virtualNetwork : Settings := ⟨.virtualNetwork, 389019, by decide⟩

def unconfigured : Network := ⟨[], ⟨0, 0, 0, 0⟩, ⟨0, 0, 0, 0⟩, ⟨0, 0, 0, 0⟩, 47808⟩

/-- The Network Port the stack makes in the Boiler's device, beside the Boiler's Analog Output. -/
theorem objectNames_unique_boiler :
    objectName virtualNetwork unconfigured 64 ⟨389119, OBJECT_TYPE_NETWORK_PORT, 1⟩ ≠
      objectName virtualNetwork unconfigured 64 ⟨389119, OBJECT_TYPE_ANALOG_OUTPUT, 1⟩ := by
  have h := (objectNames_unique virtualNetwork unconfigured (fun _ => 1)
    ⟨389119, OBJECT_TYPE_NETWORK_PORT, 1⟩ ⟨389119, OBJECT_TYPE_ANALOG_OUTPUT, 1⟩
    64 (by decide) (Or.inr ⟨rfl, 0, rfl⟩) (Or.inl (by decide))).2 (Or.inl rfl)
  exact fun heq => absurd (h heq) (by decide)

end BacnetGateway.Program
