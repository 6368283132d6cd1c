/-
  BacnetGateway.Gateway.Announcements — the discoverability of the virtual devices and
  their I-Ams (`main.cpp`, sections 3, 7 and 8), over every driver.

  The stack keeps which services a device answers; the gateway changes that at start-up
  (`enableDeviceServices`) and when its belief about a slave changes. `serviceEnabled`
  reads from the calls made what the stack holds, each call taken to succeed and to take
  effect. Every move of a slave keeps Who-Is and Who-Has equal to the belief
  (`move_announces`), and an I-Am is sent by the call that turns the belief from offline
  to online, after both services are on again, and by no other (`exec_iAms`). In
  `--mode eo` the virtual devices do not exist, and the calls are never made.

  The gateway device's own services are enabled once at start-up, and nothing here changes
  them; they are left out.
-/

import BacnetGateway.Lib.History
import BacnetGateway.Gateway.Calls
import BacnetGateway.Gateway.Faults
import BacnetGateway.Gateway.Modes

namespace BacnetGateway.Gateway

open Seam

variable {σ ε : Type} (D : Driver σ ε) (settings : Settings)

/-! ## What the stack holds -/

def SERVICE_READ_PROPERTY : Nat := 12
def SERVICE_WRITE_PROPERTY : Nat := 15
def SERVICE_I_AM : Nat := 26
def SERVICE_I_HAVE : Nat := 27

/-- The calls of `EnableDeviceServices` on a slave's virtual device, in order. A virtual
    device does not answer DeviceCommunicationControl. -/
def enableDeviceServices (i : SlaveIndex) : List Act :=
  [SERVICE_READ_PROPERTY, SERVICE_WRITE_PROPERTY, SERVICE_WHO_IS, SERVICE_I_AM, SERVICE_WHO_HAS,
    SERVICE_I_HAVE].map
    fun service => .setServiceEnabled i service true

/-- The stack calls `main` makes for the virtual devices at start-up, newest first: every
    device is set up, then each is announced. -/
def startUpCalls : GatewayMode → List Act
  | .virtualNetwork =>
    ((List.finRange 3).flatMap enableDeviceServices ++ (List.finRange 3).map Act.sendIAm).reverse
  | .embeddedObjects => []

/-- Is the service enabled on slave `i`'s virtual device, after the calls of this log? -/
def serviceEnabled (i : SlaveIndex) (service : Nat) : List Act → Bool
  | [] => false
  | .setServiceEnabled j service' enabled :: log =>
    if j = i ∧ service' = service then enabled else serviceEnabled i service log
  | _ :: log => serviceEnabled i service log

/-- What the stack holds after start-up and the calls of `log`. -/
def enabledAfter (mode : GatewayMode) (i : SlaveIndex) (service : Nat) (log : List Act) : Bool :=
  serviceEnabled i service (log ++ startUpCalls mode)

/-- What the gateway believes of slave `i` at this point of its log
    (`belief_of_attempts`). -/
def believedOnline (i : SlaveIndex) (log : List Act) : Bool := (belief (pollAttempts (own i log))).1

/-- How many I-Ams were sent for slave `i`'s virtual device. -/
def iAms (i : SlaveIndex) (log : List Act) : Nat := log.count (.sendIAm i)

/-- The belief turns from offline to online. -/
def comesBack (before after : GatewayedSlave) : Bool := !before.online && after.online

/-- The services that make a virtual device discoverable. -/
def Discovery (service : Nat) : Prop := service = SERVICE_WHO_IS ∨ service = SERVICE_WHO_HAS

variable {mode : GatewayMode} {i : SlaveIndex} {service : Nat}

theorem serviceEnabled_cons_bus {a : Act} (h : a.onBus = true) (log : List Act) :
    serviceEnabled i service (a :: log) = serviceEnabled i service log := by
  cases a <;> first | rfl | cases h

theorem serviceEnabled_own_append (log base : List Act) :
    serviceEnabled i service (own i log ++ base) = serviceEnabled i service (log ++ base) := by
  induction log with
  | nil => rfl
  | cons a log ih =>
    rw [own_cons]
    by_cases ha : a.slave = i
    · rw [if_pos ha]
      cases a <;> simp only [List.cons_append, serviceEnabled, ih]
    · rw [if_neg ha, ih]
      cases a <;> try rfl
      exact (if_neg fun h => ha h.1).symm

theorem enabledAfter_own (log : List Act) :
    enabledAfter mode i service (own i log) = enabledAfter mode i service log :=
  serviceEnabled_own_append ..

theorem believedOnline_own (log : List Act) :
    believedOnline i (own i log) = believedOnline i log := by
  unfold believedOnline own
  rw [List.filter_filter]
  simp only [Bool.and_self]

/-- Start-up leaves every virtual device discoverable. -/
theorem enabledAfter_start (i : SlaveIndex) (h : Discovery service) :
    enabledAfter .virtualNetwork i service [] = true := by
  rcases h with rfl | rfl <;> revert i <;> decide

/-- The calls of `SlaveCameBack` switch both services on, those of `SlaveWentOffline` off. -/
theorem enabledAfter_doneCalls (h : Discovery service) (slave : GatewayedSlave) (log : List Act) :
    enabledAfter .virtualNetwork i service (doneCalls .virtualNetwork i slave ++ log) =
      if slave.online then enabledAfter .virtualNetwork i service log else true := by
  unfold enabledAfter doneCalls onlineCalls
  cases slave.online with
  | true => rfl
  | false => rcases h with rfl | rfl <;> simp [serviceEnabled, SERVICE_WHO_IS, SERVICE_WHO_HAS]

theorem enabledAfter_timeoutCalls (h : Discovery service) (slave : GatewayedSlave)
    (log : List Act) :
    enabledAfter .virtualNetwork i service (timeoutCalls .virtualNetwork i slave ++ log) =
      if declaresOffline slave then false else enabledAfter .virtualNetwork i service log := by
  unfold enabledAfter timeoutCalls offlineCalls
  split
  · rcases h with rfl | rfl <;> simp [serviceEnabled, SERVICE_WHO_IS, SERVICE_WHO_HAS]
  · rfl

/-! ## One slave -/

/-- An I-Am goes out while both services are on, and the slave is believed online. -/
def IAmInOrder (i : SlaveIndex) (a : Act) (older : List Act) : Prop :=
  a = .sendIAm i →
    (∀ service, Discovery service → enabledAfter .virtualNetwork i service older = true) ∧
    believedOnline i older = true

structure Announces (i : SlaveIndex) (a : One) : Prop where
  belief : BeliefOk a
  discovery : ∀ service, Discovery service →
    enabledAfter .virtualNetwork i service a.log = a.slave.online
  iAm : Lib.Each (IAmInOrder i) a.log

theorem iAmInOrder_bus {a : Act} (h : a.onBus = true) (older : List Act) :
    IAmInOrder i a older := by
  rintro rfl
  cases h

theorem Announces.bus {a : One} (h : Announces i a) {slave : GatewayedSlave} {act : Act}
    (hact : act.onBus = true)
    (honline : slave.online = a.slave.online) (hbelief : BeliefOk ⟨slave, act :: a.log⟩) :
    Announces i ⟨slave, act :: a.log⟩ where
  belief := hbelief
  discovery := fun service hs =>
    (serviceEnabled_cons_bus hact _).trans ((h.discovery service hs).trans honline.symm)
  iAm := ⟨iAmInOrder_bus hact _, h.iAm⟩

theorem own_start_iAms (i : SlaveIndex) : Announces i ⟨initialSlave i, []⟩ :=
  ⟨rfl, fun _ hs => enabledAfter_start i hs, trivial⟩

theorem move_announces {a b : One} (hm : Move .virtualNetwork i a b) (h : Announces i a) :
    Announces i b := by
  have hbelief := move_belief hm h.belief
  cases hm with
  | startRead now id _ _ => exact h.bus rfl rfl hbelief
  | pollPending now v _ => exact h.bus rfl rfl hbelief
  | pollDone now v _ =>
    have hcheck : ∀ service, Discovery service →
        enabledAfter .virtualNetwork i service
          (.checkRead i now a.slave.pollTransactionId .done v :: a.log) =
          a.slave.online := h.discovery
    refine ⟨hbelief, fun service hs => ?_, ?_⟩
    · rw [enabledAfter_doneCalls hs, hcheck service hs]
      show _ = true
      cases a.slave.online <;> rfl
    · -- Of the calls of `SlaveCameBack` the I-Am is the last.
      have hlog : Lib.Each (IAmInOrder i)
          (.checkRead i now a.slave.pollTransactionId .done v :: a.log) :=
        ⟨iAmInOrder_bus rfl _, h.iAm⟩
      unfold doneCalls onlineCalls
      cases honline : a.slave.online with
      | true => exact hlog
      | false =>
        refine ⟨fun _ => ⟨fun service hs => ?_, ?_⟩, fun h => (by cases h),
          fun h => (by cases h), hlog⟩
        · rcases hs with rfl | rfl
            <;> simp [enabledAfter, serviceEnabled, SERVICE_WHO_IS, SERVICE_WHO_HAS]
        · simp [believedOnline, pollAttempts_cons, Act.attempt, belief]
  | pollTimeout now v _ =>
    have hcheck : ∀ service, Discovery service →
        enabledAfter .virtualNetwork i service
          (.checkRead i now a.slave.pollTransactionId .timeout v :: a.log) =
          a.slave.online := h.discovery
    refine ⟨hbelief, fun service hs => ?_, ?_⟩
    · rw [enabledAfter_timeoutCalls hs, hcheck service hs]
      show _ = (afterTimeout a.slave).online
      unfold afterTimeout
      split <;> rfl
    · have hlog : Lib.Each (IAmInOrder i)
          (.checkRead i now a.slave.pollTransactionId .timeout v :: a.log) :=
        ⟨iAmInOrder_bus rfl _, h.iAm⟩
      unfold timeoutCalls offlineCalls
      split
      · exact ⟨fun h => (by cases h), fun h => (by cases h), hlog⟩
      · exact hlog
  | writePending k now _ => exact h.bus rfl rfl hbelief
  | writeDone k now _ => exact h.bus rfl (setLink_online ..) hbelief
  | writeTimeout k now _ => exact h.bus rfl (setLink_online ..) hbelief
  | startWrite k now id _ _ => exact h.bus rfl (setLink_online ..) hbelief
  | command c _ =>
    exact ⟨hbelief,
      fun service hs => (h.discovery service hs).trans (setCommand_online ..).symm, h.iAm⟩

/-! ## When an I-Am is sent -/

theorem iAms_append (l m : List Act) : iAms i (l ++ m) = iAms i l + iAms i m := List.count_append

theorem iAms_eq_zero {acts : List Act} (h : .sendIAm i ∉ acts) : iAms i acts = 0 :=
  List.count_eq_zero.mpr h

theorem comesBack_same {before after : GatewayedSlave} (h : after.online = before.online) :
    comesBack before after = false := by
  unfold comesBack
  rw [h]
  cases before.online <;> rfl

theorem comesBack_pollStarted (slave : GatewayedSlave) (t id : Nat) :
    comesBack slave (pollStarted slave t id) = false :=
  comesBack_same rfl

/-- A poll sends one I-Am if it brings the slave back, and none otherwise. -/
theorem poll_iAms (hmode : settings.mode = .virtualNetwork) (i : SlaveIndex)
    (now : Nat) (s : Sys σ) :
    iAms i (servicePoll D settings i now s).log =
      iAms i s.log +
        (comesBack (s.slaves i) ((servicePoll D settings i now s).slaves i)).toNat := by
  by_cases hid : (s.slaves i).pollTransactionId = 0
  · by_cases hdue : now < (s.slaves i).nextPollAt
    · rw [servicePoll_idle D settings hid hdue, comesBack_same rfl]
      rfl
    · rw [servicePoll_start D settings hid (Nat.le_of_not_lt hdue) rfl, called_slaves,
        setSlave_self, comesBack_pollStarted]
      exact List.count_cons_of_ne (by simp)
  · rcases hr : D.checkTransaction (s.slaves i).pollTransactionId s.bus with ⟨⟨o, v⟩, bus⟩
    cases o with
    | pending =>
      rw [servicePoll_pending D settings hid hr, called_slaves, comesBack_same rfl]
      exact List.count_cons_of_ne (by simp)
    | done =>
      rw [servicePoll_done D settings hid hr, hmode]
      simp only [iAms_append, Function.update_self, comesBack, pollAnswered, Bool.and_true]
      have hcheck : iAms i (.checkRead i now (s.slaves i).pollTransactionId .done v :: s.log) =
          iAms i s.log :=
        List.count_cons_of_ne (by simp)
      rw [hcheck, Nat.add_comm]
      unfold doneCalls onlineCalls iAms
      cases (s.slaves i).online <;> simp
    | timeout =>
      rw [servicePoll_timeout D settings hid hr, hmode]
      have hstays : comesBack (s.slaves i) (afterTimeout (s.slaves i)) = false := by
        unfold comesBack
        rw [afterTimeout_online]
        cases (s.slaves i).online <;> rfl
      have hcheck : iAms i (.checkRead i now (s.slaves i).pollTransactionId .timeout v :: s.log) =
          iAms i s.log :=
        List.count_cons_of_ne (by simp)
      simp only [iAms_append, Function.update_self, hstays, hcheck]
      rw [iAms_eq_zero]
      · simp
      · unfold timeoutCalls offlineCalls
        split <;> simp

theorem iAms_own (i : SlaveIndex) (log : List Act) : iAms i (own i log) = iAms i log :=
  List.count_filter (by simp)

theorem exec_iAms (hmode : settings.mode = .virtualNetwork) (i : SlaveIndex)
    (c : Call) (s : Sys σ) :
    iAms i (exec D settings s c).log =
      iAms i s.log + (comesBack (s.slaves i) ((exec D settings s c).slaves i)).toNat := by
  have other : ∀ t : Sys σ, t.one i = s.one i →
      iAms i t.log = iAms i s.log + (comesBack (s.slaves i) (t.slaves i)).toNat := by
    intro t ht
    rw [← iAms_own i t.log, ← iAms_own i s.log, show own i t.log = own i s.log from
      congrArg One.log ht,
      show t.slaves i = s.slaves i from congrArg One.slave ht, comesBack_same rfl]
    rfl
  cases c with
  | service now => exact other _ rfl
  | poll j now =>
    by_cases hj : i = j
    · subst hj
      exact poll_iAms D settings hmode i now s
    · exact other _ (servicePoll_other D settings hj now s)
  | writeThrough j k now =>
    by_cases hj : i = j
    · subst hj
      show iAms i (serviceWriteThrough D i k now s).log = _
      obtain ⟨acts, hlog, hwrites⟩ := writeThrough_log D i k now s
      have hother : (if k = .setpoint then .enable else .setpoint) ≠ k := by cases k <;> decide
      have honline := (writeThrough_frame D i hother now s).1
      rw [hlog, iAms_append, iAms_eq_zero fun h => (hwrites _ h).elim,
        comesBack_same (show ((exec D settings s (.writeThrough i k now)).slaves i).online = _ from
          honline), Nat.zero_add]
      rfl
    · exact other _ (serviceWriteThrough_other D hj k now s)

/-- What a call of `--mode eo` enters in the log goes to the foreign bus. -/
theorem exec_onBus (hmode : settings.mode = .embeddedObjects) (c : Call) (s : Sys σ)
    (h : ∀ a ∈ s.log, a.onBus = true) :
    ∀ a ∈ (exec D settings s c).log, a.onBus = true := by
  cases c with
  | service now => exact h
  | poll i now =>
    show ∀ a ∈ (servicePoll D settings i now s).log, _
    by_cases hid : (s.slaves i).pollTransactionId = 0
    · by_cases hdue : now < (s.slaves i).nextPollAt
      · rwa [servicePoll_idle D settings hid hdue]
      · rw [servicePoll_start D settings hid (Nat.le_of_not_lt hdue) rfl]
        exact List.forall_mem_cons.mpr ⟨rfl, h⟩
    · rcases hr : D.checkTransaction (s.slaves i).pollTransactionId s.bus with ⟨⟨o, v⟩, bus⟩
      cases o with
      | pending =>
        rw [servicePoll_pending D settings hid hr]
        exact List.forall_mem_cons.mpr ⟨rfl, h⟩
      | done =>
        rw [servicePoll_done D settings hid hr, hmode]
        unfold doneCalls
        cases (s.slaves i).online <;> exact List.forall_mem_cons.mpr ⟨rfl, h⟩
      | timeout =>
        rw [servicePoll_timeout D settings hid hr, hmode]
        unfold timeoutCalls
        split <;> exact List.forall_mem_cons.mpr ⟨rfl, h⟩
  | writeThrough i k now =>
    obtain ⟨acts, hlog, hwrites⟩ := writeThrough_log D i k now s
    show ∀ a ∈ (serviceWriteThrough D i k now s).log, _
    rw [hlog]
    intro a ha
    rcases List.mem_append.mp ha with ha | ha
    · have := hwrites a ha
      cases a <;> first | rfl | exact this.elim
    · exact h a ha

/-! ## Runs -/

theorem microStep_iAms (hmode : settings.mode = .virtualNetwork) (i : SlaveIndex)
    (m : Micro ε) (s : Sys σ) :
    iAms i (microStep D settings s m).log =
      iAms i s.log + (comesBack (s.slaves i) ((microStep D settings s m).slaves i)).toNat := by
  cases m with
  | set call =>
    have hsame : ((call.result settings s.slaves).slaves i).online = (s.slaves i).online := by
      obtain ⟨_, _, h⟩ := set_frame settings s.slaves call i
      rw [h]
    rw [comesBack_same (show ((microStep D settings s (.set call)).slaves i).online = _ from hsame)]
    rfl
  | call c => exact exec_iAms D settings hmode i c s
  | outside e =>
    rw [comesBack_same (show ((microStep D settings s (.outside e)).slaves i).online =
      (s.slaves i).online from rfl)]
    rfl

theorem run_onBus (hmode : settings.mode = .embeddedObjects) (bus : σ) (evs : List (Event ε)) :
    ∀ a ∈ (run D settings (start bus) evs).log, a.onBus = true := by
  induction evs using List.reverseRecOn with
  | nil => intro a ha; cases ha
  | append_singleton evs e ih =>
    rw [run_concat]
    cases e with
    | set call => exact ih
    | pass now =>
      exact pass_keeps D settings (P := fun t => ∀ a ∈ t.log, a.onBus = true)
        (fun t c ht => exec_onBus D settings hmode c t ht) now ih
    | outside e => exact ih

/-- The gateway's flag is what its log says, between any two of its calls. -/
theorem micro_online (bus : σ) (ms : List (Micro ε)) (i : SlaveIndex) :
    ((microRun D settings (start bus) ms).slaves i).online =
      believedOnline i (microRun D settings (start bus) ms).log :=
  congrArg Prod.fst
    (micro_invariant (P := BeliefOk) D settings rfl (fun _ _ hm => move_belief hm) bus ms)

/-- Over every driver, the stack's calls taken to succeed and to take effect. In
    `--mode vn`, in every state reached:
    - Who-Is and Who-Has are both enabled on a slave's virtual device if its objects read
      no-fault, and both disabled if they do not;
    - an I-Am for a virtual device went out only while both services were enabled on it
      and its slave was believed online, and each call of the gateway sends one for
      exactly the slave it brings back.
    In `--mode eo` no service of a virtual device changes, and no I-Am goes out. -/
theorem announcements_follow_faults (bus : σ) (evs : List (Event ε)) :
    let s := run D settings (start bus) evs
    match settings.mode with
    | .virtualNetwork =>
      (∀ p i kind service, Names settings p i kind → Discovery service →
        (enabledAfter .virtualNetwork i service s.log = true ↔
          getPropertyEnumerated settings s.slaves (reliabilityOf p) =
            some RELIABILITY_NO_FAULT_DETECTED)) ∧
      (∀ i, (s.slaves i).online = believedOnline i s.log) ∧
      (∀ i older, .sendIAm i :: older <:+ s.log →
        (∀ service, Discovery service → enabledAfter .virtualNetwork i service older = true) ∧
          believedOnline i older = true) ∧
      (∀ pre m, pre ++ [m] <+: micro evs → ∀ i,
        let t := microRun D settings (start bus) pre
        let t' := microStep D settings t m
        iAms i t'.log = iAms i t.log + (comesBack (t.slaves i) (t'.slaves i)).toNat)
    | .embeddedObjects => ∀ a ∈ s.log, a.onBus = true := by
  intro s
  cases hmode : settings.mode with
  | embeddedObjects => exact run_onBus D settings hmode bus evs
  | virtualNetwork =>
    have hone : ∀ i, Announces i (s.one i) := fun i =>
      one_invariant D settings (own_start_iAms i) (fun a b hm h =>
        move_announces (hmode ▸ hm) h) bus evs
    refine ⟨fun p i kind service hn hs => ?_, fun i => congrArg Prod.fst (hone i).belief,
      fun i older h => ?_, fun pre m _ i => microStep_iAms D settings hmode i m _⟩
    · have hdiscovery : enabledAfter .virtualNetwork i service (own i s.log) =
          (s.slaves i).online :=
        (hone i).discovery service hs
      rw [(reliability_answer settings s.slaves hn).2, ← enabledAfter_own, hdiscovery]
    · obtain ⟨henabled, honline⟩ := Lib.each_iff.mp (hone i).iAm (.sendIAm i) _
        (Lib.suffix_filter h (by simp)) rfl
      exact ⟨fun service hs => (enabledAfter_own older).symm.trans (henabled service hs),
        (believedOnline_own older).symm.trans honline⟩

end BacnetGateway.Gateway
