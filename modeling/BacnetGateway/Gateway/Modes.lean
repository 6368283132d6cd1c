/-
  BacnetGateway.Gateway.Modes — the two modes carry the same data, over every driver.

  A mapped object is (gateway, type, n) in `--mode eo` and (virtual device of unit n, type,
  1) in `--mode vn`. `PropertyReference.toVirtual` is that translation of addresses. The
  callbacks answer a mapped address in one mode as they answer its translation in the
  other (`find_toVirtual`), and the only thing a pass does by mode is to call the stack,
  so two runs that differ by the translation stay equal but for these calls (`SameData`,
  `run_sameData`).

  What is no mapped output is declined by every set callback (`set_declined`).
-/

import BacnetGateway.Gateway.Landing

namespace BacnetGateway.Gateway

open Seam

variable {σ ε : Type} (D : Driver σ ε)

/-! ## The two gateways -/

/-- `--mode eo`: `main` accepts every gateway instance. -/
def eo (deviceInstance : Nat) : Settings := ⟨.embeddedObjects, deviceInstance, fun h => nomatch h⟩

/-- `--mode vn`, with a gateway instance that `main` accepts. -/
def vn (deviceInstance : Nat)
    (accepted : findVirtualDevice .virtualNetwork deviceInstance = none) : Settings :=
  ⟨.virtualNetwork, deviceInstance, fun _ => accepted⟩

/-- The address in `--mode vn` of a mapped object of `--mode eo`. -/
def PropertyReference.toVirtual (p : PropertyReference) : PropertyReference :=
  { p with
    deviceInstance := FIRST_VIRTUAL_DEVICE_INSTANCE + p.objectInstance - 1
    objectInstance := 1 }

def SetCall.toVirtual : SetCall → SetCall
  | .real p value priority => .real p.toVirtual value priority
  | .enumerated p value priority => .enumerated p.toVirtual value priority
  | .null p priority => .null p.toVirtual priority

def Event.toVirtual : Event ε → Event ε
  | .set call => .set call.toVirtual
  | .pass now => .pass now
  | .outside e => .outside e

/-- `p` is a property of a mapped object. -/
def Mapped (settings : Settings) (p : PropertyReference) : Prop := ∃ i kind, Names settings p i kind

/-- Every set call is about a mapped object. -/
def OnMapped (settings : Settings) (evs : List (Event ε)) : Prop :=
  ∀ call, .set call ∈ evs → Mapped settings call.property

/-! ## Addresses -/

variable {deviceInstance : Nat} {accepted : findVirtualDevice .virtualNetwork deviceInstance = none}
  {p : PropertyReference} {i : SlaveIndex} {kind : PointKind}

theorem names_toVirtual (h : Names (eo deviceInstance) p i kind) :
    Names (vn deviceInstance accepted) p.toVirtual i kind := by
  obtain ⟨haddress, htype⟩ := h
  have hunit : p.objectInstance = unitId i := congrArg Prod.snd haddress
  refine ⟨Prod.ext ?_ rfl, htype⟩
  show FIRST_VIRTUAL_DEVICE_INSTANCE + p.objectInstance - 1 = virtualDeviceInstance i
  rw [hunit]
  unfold unitId virtualDeviceInstance
  omega

/-- Both modes find the same point. -/
theorem find_toVirtual (accepted : findVirtualDevice .virtualNetwork deviceInstance = none)
    (h : Mapped (eo deviceInstance) p) :
    findMappedPoint (vn deviceInstance accepted) p.toVirtual.deviceInstance p.objectType
      p.toVirtual.objectInstance =
      findMappedPoint (eo deviceInstance) p.deviceInstance p.objectType p.objectInstance := by
  obtain ⟨i, kind, hn⟩ := h
  rw [(findMappedPoint_iff (eo deviceInstance) p i kind).mpr hn]
  exact (findMappedPoint_iff (vn deviceInstance accepted) p.toVirtual i kind).mpr
    (names_toVirtual hn)

theorem findCommandable_toVirtual
      (accepted : findVirtualDevice .virtualNetwork deviceInstance = none)
      (h : Mapped (eo deviceInstance) p) :
    findCommandable (vn deviceInstance accepted) p.toVirtual.deviceInstance p.objectType
      p.toVirtual.objectInstance =
      findCommandable (eo deviceInstance) p.deviceInstance p.objectType p.objectInstance := by
  unfold findCommandable
  rw [find_toVirtual accepted h]

/-! ## Callbacks -/

/-- The answers for a mapped object, for every property of it and every array index. -/
theorem answers_toVirtual (slaves : SlaveIndex → GatewayedSlave)
    (h : Mapped (eo deviceInstance) p) :
    getPropertyReal (vn deviceInstance accepted) slaves p.toVirtual =
      getPropertyReal (eo deviceInstance) slaves p ∧
      getPropertyEnumerated (vn deviceInstance accepted) slaves p.toVirtual =
        getPropertyEnumerated (eo deviceInstance) slaves p ∧
      getPropertyBool (vn deviceInstance accepted) slaves p.toVirtual =
        getPropertyBool (eo deviceInstance) slaves p := by
  have hfind := find_toVirtual accepted h
  have hcommandable := findCommandable_toVirtual accepted h
  obtain ⟨i, kind, hn⟩ := h
  have hpoint := (findMappedPoint_iff (eo deviceInstance) p i kind).mpr hn
  rw [hpoint] at hfind
  refine ⟨?_, ?_, ?_⟩
  · unfold getPropertyReal
    rw [hpoint,
      show findMappedPoint _ p.toVirtual.deviceInstance p.toVirtual.objectType
      p.toVirtual.objectInstance = _ from hfind]
    rfl
  · unfold getPropertyEnumerated
    rw [hpoint,
      show findMappedPoint _ p.toVirtual.deviceInstance p.toVirtual.objectType
      p.toVirtual.objectInstance = _ from hfind]
    rfl
  · unfold getPropertyBool
    rw [hpoint,
      show findMappedPoint _ p.toVirtual.deviceInstance p.toVirtual.objectType
      p.toVirtual.objectInstance = _ from hfind,
      show findCommandable _ p.toVirtual.deviceInstance p.toVirtual.objectType
        p.toVirtual.objectInstance = _ from hcommandable]
    simp only [Option.isSome_some, true_or, and_true]
    rfl

/-- A set call on a mapped object returns the same, names the same error, and does the
    same to the slaves. -/
theorem result_toVirtual (slaves : SlaveIndex → GatewayedSlave) {call : SetCall}
    (h : Mapped (eo deviceInstance) call.property) :
    call.toVirtual.result (vn deviceInstance accepted) slaves =
      call.result (eo deviceInstance) slaves := by
  cases call with
  | real p value priority =>
    have hfind := find_toVirtual accepted h
    simp only [SetCall.toVirtual, SetCall.result, setPropertyReal]
    rw [show findMappedPoint _ p.toVirtual.deviceInstance p.toVirtual.objectType
      p.toVirtual.objectInstance = _ from hfind]
    rfl
  | enumerated p value priority =>
    have hfind := find_toVirtual accepted h
    simp only [SetCall.toVirtual, SetCall.result, setPropertyEnumerated]
    rw [show findMappedPoint _ p.toVirtual.deviceInstance p.toVirtual.objectType
      p.toVirtual.objectInstance = _ from hfind]
    rfl
  | null p priority =>
    have hfind := findCommandable_toVirtual accepted h
    simp only [SetCall.toVirtual, SetCall.result, setPropertyNull]
    rw [show findCommandable _ p.toVirtual.deviceInstance p.toVirtual.objectType
      p.toVirtual.objectInstance = _ from hfind]
    rfl

/-- A set callback declines what is no mapped object, and changes nothing. -/
theorem set_declined {settings : Settings} {call : SetCall}
    (h : ¬ Mapped settings call.property) (s : Sys σ) :
    (call.result settings s.slaves).accepted = false ∧ step D settings s (.set call) = s := by
  have hnone : commandOf settings call = none := by
    cases hc : commandOf settings call with
    | none => rfl
    | some c => exact absurd ⟨c.slave, c.output.kind, ((commandOf_iff settings call c).mp hc).1⟩ h
  obtain ⟨haccepted, hslaves⟩ := set_result settings s.slaves call
  rw [hnone] at haccepted hslaves
  exact ⟨haccepted, by rw [step, hslaves]; rfl⟩

/-! ## Runs -/

/-- The call goes to the foreign bus, and not to the BACnet stack. -/
def Act.onBus : Act → Bool
  | .startRead .. | .startWrite .. | .checkRead .. | .checkWrite .. => true
  | .setServiceEnabled .. | .sendIAm .. => false

/-- The foreign-bus traffic of a log. -/
def traffic (log : List Act) : List Act := log.filter Act.onBus

/-- Equal but for the calls of the BACnet stack. -/
structure SameData (s t : Sys σ) : Prop where
  slaves : t.slaves = s.slaves
  bus : t.bus = s.bus
  traffic : traffic t.log = traffic s.log

@[simp] theorem traffic_append (l m : List Act) : traffic (l ++ m) = traffic l ++ traffic m :=
  List.filter_append ..

theorem traffic_cons_congr (a : Act) {l m : List Act} (h : traffic l = traffic m) :
    traffic (a :: l) = traffic (a :: m) := by
  unfold traffic at h ⊢
  rw [List.filter_cons, List.filter_cons, h]

theorem doneCalls_offBus {mode : GatewayMode} {i : SlaveIndex} {slave : GatewayedSlave} :
    ∀ a ∈ doneCalls mode i slave, a.onBus = false := by
  unfold doneCalls onlineCalls
  cases mode <;> cases slave.online <;> simp [Act.onBus]

theorem timeoutCalls_offBus {mode : GatewayMode} {i : SlaveIndex} {slave : GatewayedSlave} :
    ∀ a ∈ timeoutCalls mode i slave, a.onBus = false := by
  unfold timeoutCalls offlineCalls
  cases mode <;> split <;> simp [Act.onBus]

theorem traffic_offBus {calls : List Act} (h : ∀ a ∈ calls, a.onBus = false) : traffic calls = [] :=
  List.filter_eq_nil_iff.mpr fun a ha => by rw [h a ha]; exact Bool.false_ne_true

variable {s t : Sys σ} (settings settings' : Settings)

theorem SameData.update (h : SameData s t) (i : SlaveIndex) (slave : GatewayedSlave) :
    Function.update t.slaves i slave = Function.update s.slaves i slave := by rw [h.slaves]

theorem SameData.called (h : SameData s t) (i : SlaveIndex) (slave : GatewayedSlave)
    (bus : σ) (a : Act) :
    SameData ((s.setSlave i slave).called bus a) ((t.setSlave i slave).called bus a) :=
  ⟨h.update i slave, rfl, traffic_cons_congr a h.traffic⟩

theorem poll_sameData (h : SameData s t) (i : SlaveIndex) (now : Nat) :
    SameData (servicePoll D settings i now s) (servicePoll D settings' i now t) := by
  have hslave : t.slaves i = s.slaves i := congrFun h.slaves i
  have hid' : (t.slaves i).pollTransactionId = (s.slaves i).pollTransactionId := congrArg _ hslave
  by_cases hid : (s.slaves i).pollTransactionId = 0
  · by_cases hdue : now < (s.slaves i).nextPollAt
    · rw [servicePoll_idle D settings hid hdue,
        servicePoll_idle D settings' (hid'.trans hid) (hslave ▸ hdue)]
      exact h
    · have hdue := Nat.le_of_not_lt hdue
      rw [servicePoll_start D settings hid hdue rfl,
        servicePoll_start D settings' (hid'.trans hid) (hslave ▸ hdue) rfl, hslave, h.bus]
      exact h.called ..
  · rcases hr : D.checkTransaction (s.slaves i).pollTransactionId s.bus with ⟨⟨o, v⟩, bus⟩
    have hr' : D.checkTransaction (t.slaves i).pollTransactionId t.bus = (⟨o, v⟩, bus) := by
      rw [hid', h.bus, hr]
    cases o with
    | pending =>
      rw [servicePoll_pending D settings hid hr,
        servicePoll_pending D settings' (hid'.trans_ne hid) hr', hid']
      exact ⟨h.slaves, rfl, traffic_cons_congr _ h.traffic⟩
    | done =>
      rw [servicePoll_done D settings hid hr, servicePoll_done D settings' (hid'.trans_ne hid) hr',
        hslave]
      refine ⟨h.update i _, rfl, ?_⟩
      rw [traffic_append, traffic_append, traffic_offBus doneCalls_offBus,
        traffic_offBus doneCalls_offBus, traffic_cons_congr _ h.traffic]
    | timeout =>
      rw [servicePoll_timeout D settings hid hr,
        servicePoll_timeout D settings' (hid'.trans_ne hid) hr', hslave]
      refine ⟨h.update i _, rfl, ?_⟩
      rw [traffic_append, traffic_append, traffic_offBus timeoutCalls_offBus,
        traffic_offBus timeoutCalls_offBus, traffic_cons_congr _ h.traffic]

theorem writeWinningValue_sameData (h : SameData s t) (i : SlaveIndex) (k : Output) (now : Nat) :
    SameData (writeWinningValue D i k now s) (writeWinningValue D i k now t) := by
  have hslave : t.slaves i = s.slaves i := congrFun h.slaves i
  by_cases hdue : writeDue (s.slaves i) k now
  · rw [writeWinningValue_start D hdue rfl, writeWinningValue_start D (hslave ▸ hdue) rfl,
      hslave, h.bus]
    exact h.called ..
  · rw [writeWinningValue_skip D hdue, writeWinningValue_skip D (hslave ▸ hdue)]
    exact h

theorem writeThrough_sameData (h : SameData s t) (i : SlaveIndex) (k : Output) (now : Nat) :
    SameData (serviceWriteThrough D i k now s) (serviceWriteThrough D i k now t) := by
  have hslave : t.slaves i = s.slaves i := congrFun h.slaves i
  have hid' : ((t.slaves i).link k).transactionId = ((s.slaves i).link k).transactionId := by
    rw [hslave]
  by_cases hid : ((s.slaves i).link k).transactionId = 0
  · rw [serviceWriteThrough_free D hid, serviceWriteThrough_free D (hid'.trans hid)]
    exact writeWinningValue_sameData D h i k now
  · rcases hr : D.checkTransaction ((s.slaves i).link k).transactionId s.bus with ⟨⟨o, v⟩, bus⟩
    have hr' : D.checkTransaction ((t.slaves i).link k).transactionId t.bus = (⟨o, v⟩, bus) := by
      rw [hid', h.bus, hr]
    cases o with
    | pending =>
      rw [serviceWriteThrough_pending D hid hr,
        serviceWriteThrough_pending D (hid'.trans_ne hid) hr', hid']
      exact ⟨h.slaves, rfl, traffic_cons_congr _ h.traffic⟩
    | done =>
      rw [serviceWriteThrough_done D hid hr, serviceWriteThrough_done D (hid'.trans_ne hid) hr',
        hslave]
      exact writeWinningValue_sameData D (h.called ..) i k now
    | timeout =>
      rw [serviceWriteThrough_timeout D hid hr,
        serviceWriteThrough_timeout D (hid'.trans_ne hid) hr', hslave]
      exact writeWinningValue_sameData D (h.called ..) i k now

theorem exec_sameData (h : SameData s t) (c : Call) :
    SameData (exec D settings s c) (exec D settings' t c) := by
  cases c with
  | service now => exact ⟨h.slaves, congrArg (D.service now) h.bus, h.traffic⟩
  | poll i now => exact poll_sameData D settings settings' h i now
  | writeThrough i k now => exact writeThrough_sameData D h i k now

theorem pass_sameData (h : SameData s t) (now : Nat) :
    SameData (serviceForeignBus D settings now s) (serviceForeignBus D settings' now t) := by
  rw [serviceForeignBus_calls, serviceForeignBus_calls]
  generalize passCalls now = calls
  induction calls generalizing s t with
  | nil => exact h
  | cons c calls ih => exact ih (exec_sameData D settings settings' h c)

theorem run_sameData (bus : σ) {evs : List (Event ε)} (hmapped : OnMapped (eo deviceInstance) evs) :
    SameData (run D (eo deviceInstance) (start bus) evs)
      (run D (vn deviceInstance accepted) (start bus) (evs.map Event.toVirtual)) := by
  induction evs using List.reverseRecOn with
  | nil => exact ⟨rfl, rfl, rfl⟩
  | append_singleton evs e ih =>
    have ih := ih fun call hcall => hmapped call (List.mem_append_left _ hcall)
    rw [List.map_append, List.map_singleton, run_concat, run_concat]
    cases e with
    | set call =>
      have hcall := hmapped call (List.mem_append_right _ (List.mem_singleton_self _))
      refine ⟨?_, ih.bus, ih.traffic⟩
      simp only [Event.toVirtual, step]
      rw [ih.slaves, result_toVirtual _ hcall]
    | pass now => exact pass_sameData D _ _ ih now
    | outside e => exact ⟨ih.slaves, congrArg (D.outside e) ih.bus, ih.traffic⟩

/-- Over every driver, for every gateway instance that `--mode vn` accepts: after every
    sequence of set calls on mapped objects, passes and changes on the far side, and its
    translation,
    - every further set call on a mapped object returns the same and names the same error;
    - the answers for a mapped object are the same for every property and array index;
    - the slaves' caches, the driver and the foreign-bus traffic are the same.
    In each mode a set call on anything else is declined and changes nothing. -/
theorem modes_agree (bus : σ) (deviceInstance : Nat)
    (accepted : findVirtualDevice .virtualNetwork deviceInstance = none)
    (evs : List (Event ε)) (hmapped : OnMapped (eo deviceInstance) evs) :
    let s := run D (eo deviceInstance) (start bus) evs
    let t := run D (vn deviceInstance accepted) (start bus) (evs.map Event.toVirtual)
    (∀ call : SetCall, Mapped (eo deviceInstance) call.property →
      let r := call.result (eo deviceInstance) s.slaves
      let r' := call.toVirtual.result (vn deviceInstance accepted) t.slaves
      r'.accepted = r.accepted ∧ r'.errorCode = r.errorCode ∧ r'.slaves = r.slaves) ∧
    (∀ p, Mapped (eo deviceInstance) p →
      getPropertyReal (vn deviceInstance accepted) t.slaves p.toVirtual =
        getPropertyReal (eo deviceInstance) s.slaves p ∧
        getPropertyEnumerated (vn deviceInstance accepted) t.slaves p.toVirtual =
          getPropertyEnumerated (eo deviceInstance) s.slaves p ∧
        getPropertyBool (vn deviceInstance accepted) t.slaves p.toVirtual =
          getPropertyBool (eo deviceInstance) s.slaves p) ∧
    t.slaves = s.slaves ∧ t.bus = s.bus ∧ traffic t.log = traffic s.log ∧
    (∀ call, ¬ Mapped (eo deviceInstance) call.property →
      (call.result (eo deviceInstance) s.slaves).accepted = false ∧
      step D (eo deviceInstance) s (.set call) = s) ∧
    (∀ call, ¬ Mapped (vn deviceInstance accepted) call.property →
      (call.result (vn deviceInstance accepted) t.slaves).accepted = false ∧
        step D (vn deviceInstance accepted) t (.set call) = t) := by
  intro s t
  have hsame : SameData s t := run_sameData D bus hmapped
  refine ⟨fun call hcall => ?_, fun p hp => ?_, hsame.slaves, hsame.bus, hsame.traffic,
    fun call hcall => set_declined D hcall s, fun call hcall => set_declined D hcall t⟩
  · intro r r'
    have hr : r' = r := by
      show call.toVirtual.result (vn deviceInstance accepted) t.slaves =
        call.result (eo deviceInstance) s.slaves
      rw [hsame.slaves, result_toVirtual s.slaves hcall]
    exact ⟨congrArg _ hr, congrArg _ hr, congrArg _ hr⟩
  · rw [hsame.slaves]
    exact answers_toVirtual s.slaves hp

/-- Unit 1's setpoint commanded and written, in both modes. -/
theorem modes_agree_boiler :
    (run lateAnswer (vn 389019 (by decide)) (start lateStart)
      ([.set (.real boilerSetpoint (.finite 68) 8), .pass 0, .pass 1].map Event.toVirtual)).bus =
    (run lateAnswer (eo 389019) (start lateStart)
      [.set (.real boilerSetpoint (.finite 68) 8), .pass 0, .pass 1]).bus :=
  (modes_agree lateAnswer lateStart 389019 (by decide)
    [.set (.real boilerSetpoint (.finite 68) 8), .pass 0, .pass 1] (by
      intro call hcall
      simp only [List.mem_cons, Event.set.injEq, reduceCtorEq, List.not_mem_nil, or_false] at hcall
      subst hcall
      exact ⟨0, .setpoint, by decide⟩)).2.2.2.1

end BacnetGateway.Gateway
