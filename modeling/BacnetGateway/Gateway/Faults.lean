/-
  BacnetGateway.Gateway.Faults — when the gateway believes a slave offline, over every
  driver.

  A poll attempt is concluded by `StartRead` returning 0 (`refused`), or by its
  transaction ending (`answered`, `timedOut`). `belief` computes from the attempts so far
  what the gateway's flag and its 32-bit counter hold; `belief_of_attempts` says that they
  hold it, in every run over every driver. So:
  - `fault_detection`: a slave is believed offline exactly when its two most recently
    completed polls timed out, also when the counter wraps during an outage, and
    Reliability says so on its three mapped objects and on no other.
  - `refused_polls_go_unreported`: `ServicePoll` takes the 0 of a `StartRead` that could
    not be started for "no poll in flight" and counts no failure, so a device that cannot
    be polled at all reads no-fault.
  - `unanswered_polls_reported_iff`: two unanswered attempts in a row are reported in all
    of a run exactly when, while the slave is believed online, no refused attempt is next
    to another unanswered one.
-/

import BacnetGateway.Gateway.OneSlave

namespace BacnetGateway.Gateway

open Seam

variable {σ ε : Type} (D : Driver σ ε) (settings : Settings)

/-! ## Histories -/

/-- How an attempt to poll a slave concluded. -/
inductive Attempt where
  | refused
  | timedOut
  | answered
  deriving DecidableEq, Repr

/-- The attempt a call concludes, if it concludes one. -/
def Act.attempt : Act → Option Attempt
  | .startRead _ _ 0 => some .refused
  | .checkRead _ _ _ .done _ => some .answered
  | .checkRead _ _ _ .timeout _ => some .timedOut
  | _ => none

/-- The concluded attempts of a log, newest first. -/
def pollAttempts (log : List Act) : List Attempt := log.filterMap Act.attempt

/-- The completed polls among the attempts: those whose transaction ended. -/
def completedPolls (attempts : List Attempt) : List Attempt := attempts.filter (· ≠ .refused)

/-- At least two polls are completed, and the two most recent both timed out. -/
def lastTwoTimedOut (attempts : List Attempt) : Bool :=
  match completedPolls attempts with
  | .timedOut :: .timedOut :: _ => true
  | _ => false

/-- What the gateway's flag and counter hold after these attempts. -/
def belief : List Attempt → Bool × Nat
  | [] => (true, 0)
  | .refused :: attempts => belief attempts
  | .answered :: _ => (true, 0)
  | .timedOut :: attempts =>
    let failedPolls := countFailure (belief attempts).2
    ((belief attempts).1 && decide (failedPolls < OFFLINE_AFTER_FAILED_POLLS), failedPolls)

theorem pollAttempts_append (l m : List Act) :
    pollAttempts (l ++ m) = pollAttempts l ++ pollAttempts m :=
  List.filterMap_append ..

@[simp] theorem pollAttempts_doneCalls (mode : GatewayMode) (i : SlaveIndex)
    (slave : GatewayedSlave) :
    pollAttempts (doneCalls mode i slave) = [] := by
  unfold doneCalls
  cases mode <;> cases slave.online <;> rfl

@[simp] theorem pollAttempts_timeoutCalls (mode : GatewayMode) (i : SlaveIndex)
    (slave : GatewayedSlave) :
    pollAttempts (timeoutCalls mode i slave) = [] := by
  unfold timeoutCalls
  cases mode <;> split <;> rfl

theorem pollAttempts_cons (a : Act) (log : List Act) :
    pollAttempts (a :: log) = a.attempt.toList ++ pollAttempts log := by
  unfold pollAttempts
  rw [List.filterMap_cons]
  cases a.attempt <;> rfl

/-! ## The belief is the history's -/

/-- The flag and the counter are what the attempts make them. -/
def BeliefOk (a : One) : Prop :=
  (a.slave.online, a.slave.consecutiveFailedPolls) = belief (pollAttempts a.log)

theorem afterTimeout_online (slave : GatewayedSlave) :
    (afterTimeout slave).online =
      (slave.online && decide (countFailure slave.consecutiveFailedPolls <
        OFFLINE_AFTER_FAILED_POLLS)) := by
  unfold afterTimeout
  by_cases hd : declaresOffline slave
  · rw [if_pos hd]; simp [markOffline, Nat.not_lt.mpr hd.2]
  · rw [if_neg hd]
    show slave.online = _
    cases hon : slave.online with
    | false => rfl
    | true => simpa using Nat.lt_of_not_le fun hc => hd ⟨hon, hc⟩

theorem afterTimeout_failed (slave : GatewayedSlave) :
    (afterTimeout slave).consecutiveFailedPolls = countFailure slave.consecutiveFailedPolls := by
  unfold afterTimeout
  split <;> rfl

theorem move_belief {mode : GatewayMode} {i : SlaveIndex} {a b : One} (hm : Move mode i a b)
    (h : BeliefOk a) :
    BeliefOk b := by
  unfold BeliefOk at h ⊢
  cases hm with
  | startRead now id _ _ =>
    rw [pollAttempts_cons]
    cases id with
    | zero => exact h
    | succ id => exact h
  | pollPending now v _ => exact h
  | pollDone now v _ =>
    rw [pollAttempts_append, pollAttempts_doneCalls, pollAttempts_cons]
    rfl
  | pollTimeout now v _ =>
    rw [pollAttempts_append, pollAttempts_timeoutCalls, pollAttempts_cons]
    simp only [Act.attempt, Option.toList_some, List.nil_append, List.singleton_append, belief, ← h,
      afterTimeout_online, afterTimeout_failed]
  | writePending k now _ => exact h
  | writeDone k now _ => rw [pollAttempts_cons, setLink_online, setLink_failed]; exact h
  | writeTimeout k now _ => rw [pollAttempts_cons, setLink_online, setLink_failed]; exact h
  | startWrite k now id _ _ => rw [pollAttempts_cons, setLink_online, setLink_failed]; exact h
  | command c _ => rw [setCommand_online, setCommand_failed]; exact h

theorem belief_of_attempts (bus : σ) (evs : List (Event ε)) (i : SlaveIndex) :
    BeliefOk ((run D settings (start bus) evs).one i) :=
  one_invariant (P := BeliefOk) D settings rfl (fun _ _ hm => move_belief hm) bus evs

/-! ## The belief, in closed form -/

/-- While the flag is set the counter counts the timeouts since the last answer, and it is
    cleared by the second of them. The counter wraps only while the flag is clear. -/
theorem belief_spec (attempts : List Attempt) :
    (belief attempts).1 = !lastTwoTimedOut attempts ∧
      ((belief attempts).1 = true → (belief attempts).2 =
        match completedPolls attempts with
        | .timedOut :: _ => 1
        | _ => 0) := by
  induction attempts with
  | nil => exact ⟨rfl, fun _ => rfl⟩
  | cons a attempts ih =>
    obtain ⟨ih1, ih2⟩ := ih
    cases a with
    | refused => exact ⟨ih1, ih2⟩
    | answered => exact ⟨rfl, fun _ => rfl⟩
    | timedOut =>
      have hc : completedPolls (.timedOut :: attempts) = .timedOut :: completedPolls attempts := by
        simp [completedPolls]
      simp only [belief, lastTwoTimedOut, hc]
      by_cases hon : (belief attempts).1 = true
      · have hcount := ih2 hon
        rw [hcount, hon]
        rcases hp : completedPolls attempts with _ | ⟨p, rest⟩
        · exact ⟨by decide, fun _ => by decide⟩
        · have hne : p ≠ .refused := by
            have : p ∈ completedPolls attempts := by rw [hp]; exact List.mem_cons_self ..
            simpa [completedPolls] using (List.mem_filter.mp this).2
          cases p with
          | refused => exact absurd rfl hne
          | answered => exact ⟨rfl, fun _ => rfl⟩
          | timedOut => exact ⟨rfl, fun h => by cases h⟩
      · have hoff : (belief attempts).1 = false := by simpa using hon
        have htwo : lastTwoTimedOut attempts = true := by rw [hoff] at ih1; simpa using ih1.symm
        rw [hoff]
        unfold lastTwoTimedOut at htwo
        split at htwo
        · rename_i heq
          rw [heq]
          exact ⟨rfl, fun h => by cases h⟩
        · cases htwo

theorem belief_online (attempts : List Attempt) : (belief attempts).1 = !lastTwoTimedOut attempts :=
  (belief_spec attempts).1

/-! ## Reliability -/

/-- The Reliability of the object `p` names. -/
def reliabilityOf (p : PropertyReference) : PropertyReference :=
  { p with propertyIdentifier := PROPERTY_IDENTIFIER_RELIABILITY }

theorem reliability_iff (slaves : SlaveIndex → GatewayedSlave) (p : PropertyReference)
    (value : Nat) :
    getPropertyEnumerated settings slaves (reliabilityOf p) = some value ↔
      ∃ i kind, Names settings p i kind ∧
        value = if (slaves i).online then RELIABILITY_NO_FAULT_DETECTED
          else RELIABILITY_COMMUNICATION_FAILURE := by
  have hfind := findMappedPoint_iff settings p
  cases hf : findMappedPoint settings p.deviceInstance p.objectType p.objectInstance with
  | none =>
    constructor
    · intro h
      simp [getPropertyEnumerated, reliabilityOf, hf, PROPERTY_IDENTIFIER_RELIABILITY,
        PROPERTY_IDENTIFIER_BACNET_IP_MODE] at h
    · rintro ⟨i, kind, hn, -⟩
      rw [← hfind, hf] at hn
      cases hn
  | some point =>
    obtain ⟨i, kind⟩ := point
    have hn : Names settings p i kind := (hfind i kind).mp hf
    have hvalue : getPropertyEnumerated settings slaves (reliabilityOf p) =
        some (if (slaves i).online then RELIABILITY_NO_FAULT_DETECTED
          else RELIABILITY_COMMUNICATION_FAILURE) := by
      simp [getPropertyEnumerated, reliabilityOf, hf]
    rw [hvalue, Option.some.injEq]
    constructor
    · intro h
      exact ⟨i, kind, hn, h.symm⟩
    · rintro ⟨j, kind', hn', h⟩
      rw [(names_unique settings hn hn').1, h]

/-- On slave `i`'s own objects Reliability tells what the gateway believes of it. -/
theorem reliability_answer (slaves : SlaveIndex → GatewayedSlave) {p : PropertyReference}
    {i : SlaveIndex} {kind : PointKind} (hn : Names settings p i kind) :
    (getPropertyEnumerated settings slaves (reliabilityOf p) =
      some RELIABILITY_COMMUNICATION_FAILURE ↔
        (slaves i).online = false) ∧
      (getPropertyEnumerated settings slaves (reliabilityOf p) =
        some RELIABILITY_NO_FAULT_DETECTED ↔
        (slaves i).online = true) := by
  have hanswer := (reliability_iff settings slaves p _).mpr ⟨i, kind, hn, rfl⟩
  rw [hanswer]
  cases (slaves i).online <;> decide

/-- Over every driver: a slave is believed offline exactly when its two most recently
    completed polls timed out. Reliability is communication-failure on exactly the mapped
    objects of such a slave, and no-fault on every other mapped object. -/
theorem fault_detection (bus : σ) (evs : List (Event ε)) :
    let s := run D settings (start bus) evs
    let faulty := fun i => lastTwoTimedOut (pollAttempts (own i s.log)) = true
    (∀ i, (s.slaves i).online = false ↔ faulty i) ∧
      ∀ p : PropertyReference,
        (getPropertyEnumerated settings s.slaves (reliabilityOf p) =
          some RELIABILITY_COMMUNICATION_FAILURE ↔
            ∃ i kind, Names settings p i kind ∧ faulty i) ∧
          (getPropertyEnumerated settings s.slaves (reliabilityOf p) =
            some RELIABILITY_NO_FAULT_DETECTED ↔
            ∃ i kind, Names settings p i kind ∧ ¬ faulty i) := by
  intro s faulty
  have honline : ∀ i, (s.slaves i).online = false ↔ faulty i := by
    intro i
    have h := congrArg Prod.fst (belief_of_attempts D settings bus evs i)
    rw [belief_online] at h
    show (s.slaves i).online = false ↔ lastTwoTimedOut _ = true
    rw [show (s.slaves i).online = _ from h]
    simp [Sys.one, s]
  refine ⟨honline, fun p => ⟨?_, ?_⟩⟩
  · rw [reliability_iff]
    refine exists_congr fun i => exists_congr fun kind => and_congr_right fun _ => ?_
    rw [← honline i]
    cases (s.slaves i).online <;> decide
  · rw [reliability_iff]
    refine exists_congr fun i => exists_congr fun kind => and_congr_right fun _ => ?_
    rw [← honline i]
    cases (s.slaves i).online <;> decide

/-! ## Polls that could not be started -/

/-- The two most recent attempts went unanswered. -/
def unansweredTwice : List Attempt → Bool
  | a :: b :: _ => a ≠ .answered ∧ b ≠ .answered
  | _ => false

/-- They did, and one of them could not be started. -/
def refusedNextToUnanswered : List Attempt → Bool
  | a :: b :: _ => a ≠ .answered ∧ b ≠ .answered ∧ (a = .refused ∨ b = .refused)
  | _ => false

theorem unansweredTwice_of_refused {attempts : List Attempt}
    (h : refusedNextToUnanswered attempts = true) :
    unansweredTwice attempts = true := by
  rcases attempts with _ | ⟨a, _ | ⟨b, older⟩⟩
  · exact h
  · exact h
  · simp only [refusedNextToUnanswered, unansweredTwice, decide_eq_true_eq] at h ⊢
    exact ⟨h.1, h.2.1⟩

/-- Two unanswered attempts, neither refused, are two timeouts. -/
theorem timedOut_twice {attempts : List Attempt} (htwo : unansweredTwice attempts = true)
    (hnext : refusedNextToUnanswered attempts = false) : lastTwoTimedOut attempts = true := by
  rcases attempts with _ | ⟨a, _ | ⟨b, older⟩⟩
  · cases htwo
  · cases htwo
  · cases a <;> cases b <;>
      first | rfl | exact Bool.noConfusion htwo | exact Bool.noConfusion hnext

/-- The attempts to poll slave `i` in a run. -/
def attempts (bus : σ) (i : SlaveIndex) (evs : List (Event ε)) : List Attempt :=
  pollAttempts (own i (run D settings (start bus) evs).log)

/-- All of slave `i`'s mapped objects read communication-failure. -/
def ReportsFailure (slaves : SlaveIndex → GatewayedSlave) (i : SlaveIndex) : Prop :=
  ∀ p kind, Names settings p i kind →
    getPropertyEnumerated settings slaves (reliabilityOf p) = some RELIABILITY_COMMUNICATION_FAILURE

theorem reportsFailure_iff (slaves : SlaveIndex → GatewayedSlave) (i : SlaveIndex) :
    ReportsFailure settings slaves i ↔ (slaves i).online = false := by
  constructor
  · intro h
    let p : PropertyReference :=
      ⟨(mappedObject settings i).1, OBJECT_TYPE_ANALOG_INPUT,
        (mappedObject settings i).2, 0, false, 0⟩
    have hn : Names settings p i .measuredTemperature := ⟨rfl, rfl⟩
    exact (reliability_answer settings slaves hn).1.mp (h p _ hn)
  · intro h p kind hn
    exact (reliability_answer settings slaves hn).1.mpr h

/-- The driver of a port that cannot be opened: no read can be started. -/
def closedPort : Driver Unit Unit where
  service _ s := s
  startRead _ _ _ s := (0, s)
  startWrite _ _ _ _ s := (0, s)
  checkTransaction _ s := (⟨.timeout, 0⟩, s)
  outside _ s := s

/-- As built, two polls in a row that could not even be started leave Reliability at
    no-fault. -/
theorem refused_polls_go_unreported :
    ¬ ∀ (σ ε : Type) (D : Driver σ ε) (settings : Settings) (bus : σ) (evs : List (Event ε))
      (i : SlaveIndex),
      unansweredTwice (attempts D settings bus i evs) = true →
        ReportsFailure settings (run D settings (start bus) evs).slaves i := by
  intro h
  have hr := h Unit Unit closedPort embeddedObjects () [.pass 0, .pass 500] 0 (by decide +kernel)
  rw [reportsFailure_iff] at hr
  revert hr
  decide +kernel

/-! ### One attempt at a time -/

theorem servicePoll_attempts (i : SlaveIndex) (now : Nat) (s : Sys σ) :
    ∃ r : Option Attempt, pollAttempts (own i (servicePoll D settings i now s).log) =
      r.toList ++ pollAttempts (own i s.log) := by
  by_cases hid : (s.slaves i).pollTransactionId = 0
  · by_cases hdue : now < (s.slaves i).nextPollAt
    · rw [servicePoll_idle D settings hid hdue]; exact ⟨none, rfl⟩
    · rw [servicePoll_start D settings hid (Nat.le_of_not_lt hdue) rfl]
      refine ⟨(Act.startRead i now
        (D.startRead (unitId i) .inputRegister pointAddress s.bus).1).attempt, ?_⟩
      rw [called_log, own_cons, startRead_slave, if_pos rfl, pollAttempts_cons, setSlave_log]
  · rcases hr : D.checkTransaction (s.slaves i).pollTransactionId s.bus with ⟨⟨o, v⟩, bus⟩
    cases o with
    | pending =>
      rw [servicePoll_pending D settings hid hr]; exact ⟨none,
        by simp [pollAttempts_cons, Act.attempt]⟩
    | done =>
      rw [servicePoll_done D settings hid hr]
      exact ⟨some .answered, by simp [pollAttempts_append, pollAttempts_cons, Act.attempt]⟩
    | timeout =>
      rw [servicePoll_timeout D settings hid hr]
      exact ⟨some .timedOut, by simp [pollAttempts_append, pollAttempts_cons, Act.attempt]⟩

theorem writeWinningValue_attempts (i j : SlaveIndex) (k : Output) (now : Nat) (s : Sys σ) :
    pollAttempts (own j (writeWinningValue D i k now s).log) = pollAttempts (own j s.log) := by
  by_cases hdue : writeDue (s.slaves i) k now
  · rw [writeWinningValue_start D hdue rfl, called_log, own_cons]
    split <;> simp [pollAttempts_cons, Act.attempt]
  · rw [writeWinningValue_skip D hdue]

theorem serviceWriteThrough_attempts (i j : SlaveIndex) (k : Output) (now : Nat) (s : Sys σ) :
    pollAttempts (own j (serviceWriteThrough D i k now s).log) = pollAttempts (own j s.log) := by
  have check : ∀ (o : Outcome) (id : Nat) (log : List Act),
      pollAttempts (own j (.checkWrite i k now id o :: log)) = pollAttempts (own j log) := by
    intro o id log
    rw [own_cons]
    split <;> simp [pollAttempts_cons, Act.attempt]
  by_cases hid : ((s.slaves i).link k).transactionId = 0
  · rw [serviceWriteThrough_free D hid, writeWinningValue_attempts]
  · rcases hr : D.checkTransaction ((s.slaves i).link k).transactionId s.bus with ⟨⟨o, v⟩, bus⟩
    cases o with
    | pending => rw [serviceWriteThrough_pending D hid hr, called_log, check]
    | done =>
      rw [serviceWriteThrough_done D hid hr, writeWinningValue_attempts, called_log,
        check, setSlave_log]
    | timeout =>
      rw [serviceWriteThrough_timeout D hid hr, writeWinningValue_attempts, called_log,
        check, setSlave_log]

/-- A step concludes at most one attempt to poll a slave. -/
theorem step_attempts (i : SlaveIndex) (s : Sys σ) (e : Event ε) :
    ∃ r : Option Attempt, pollAttempts (own i (step D settings s e).log) =
      r.toList ++ pollAttempts (own i s.log) := by
  have other : ∀ (j : SlaveIndex) (t : Sys σ) (now : Nat), j ≠ i →
      pollAttempts
        (own i (serviceWriteThrough D j .enable now (serviceWriteThrough D j .setpoint now
        (servicePoll D settings j now t))).log) = pollAttempts (own i t.log) := by
    intro j t now hj
    rw [serviceWriteThrough_attempts, serviceWriteThrough_attempts]
    exact congrArg (fun o => pollAttempts o.log) (servicePoll_other D settings (Ne.symm hj) now t)
  cases e with
  | set call => exact ⟨none, rfl⟩
  | outside e => exact ⟨none, rfl⟩
  | pass now =>
    have pass : ∀ (l : List SlaveIndex) (t : Sys σ), l.Nodup → ∃ r : Option Attempt,
        pollAttempts (own i (l.foldl (fun s j => serviceWriteThrough D j .enable now
          (serviceWriteThrough D j .setpoint now (servicePoll D settings j now s))) t).log) =
            r.toList ++ pollAttempts (own i t.log) ∧ (i ∉ l → r = none) := by
      intro l
      induction l with
      | nil => intro t _; exact ⟨none, rfl, fun _ => rfl⟩
      | cons j l ih =>
        intro t hnd
        obtain ⟨hjl, hnd⟩ := List.nodup_cons.mp hnd
        obtain ⟨r, hr, hnone⟩ :=
            ih (serviceWriteThrough D j .enable now (serviceWriteThrough D j .setpoint now
          (servicePoll D settings j now t))) hnd
        rw [List.foldl_cons, hr]
        by_cases hj : j = i
        · subst hj
          obtain ⟨r', hr'⟩ := servicePoll_attempts D settings j now t
          rw [hnone hjl, serviceWriteThrough_attempts, serviceWriteThrough_attempts, hr']
          exact ⟨r', rfl, fun h => absurd (List.mem_cons_self ..) h⟩
        · rw [other j t now hj]
          exact ⟨r, rfl, fun h => hnone fun hi => h (List.mem_cons_of_mem _ hi)⟩
    obtain ⟨r, hr, -⟩ := pass _ { s with bus := D.service now s.bus } (List.nodup_finRange 3)
    exact ⟨r, hr⟩

theorem attempts_concat (bus : σ) (i : SlaveIndex) (evs : List (Event ε)) (e : Event ε) :
    ∃ r : Option Attempt, attempts D settings bus i (evs ++ [e]) =
      r.toList ++ attempts D settings bus i evs := by
  unfold attempts
  rw [run_concat]
  exact step_attempts D settings i _ e

/-- Every earlier history of attempts was reached on the way. -/
theorem attempts_suffix (bus : σ) (i : SlaveIndex) (evs : List (Event ε)) {l : List Attempt}
    (h : l <:+ attempts D settings bus i evs) :
    ∃ pre, pre <+: evs ∧ attempts D settings bus i pre = l := by
  induction evs using List.reverseRecOn with
  | nil => exact ⟨[], List.prefix_refl _, (List.suffix_nil.mp h).symm⟩
  | append_singleton evs e ih =>
    have earlier : l <:+ attempts D settings bus i evs →
        ∃ pre, pre <+: evs ++ [e] ∧ attempts D settings bus i pre = l := by
      intro hl
      obtain ⟨pre, hpre, hl⟩ := ih hl
      exact ⟨pre, hpre.trans (List.prefix_append ..), hl⟩
    obtain ⟨r, hr⟩ := attempts_concat D settings bus i evs e
    rw [hr] at h
    cases r with
    | none => exact earlier h
    | some r =>
      rcases List.suffix_cons_iff.mp h with rfl | hl
      · exact ⟨_, List.prefix_refl _, hr⟩
      · exact earlier hl

/-- A refused attempt on top of one counted failure: some refused attempt came right after
    a timeout, and the slave was still believed online then. -/
theorem refused_after_timeout {attempts : List Attempt} (hon : (belief attempts).1 = true)
    (hone : (belief attempts).2 = 1) :
    ∃ older, .refused :: .timedOut :: older <:+ .refused :: attempts ∧
      (belief (.timedOut :: older)).1 = true := by
  induction attempts with
  | nil => cases hone
  | cons a attempts ih =>
    cases a with
    | refused =>
      obtain ⟨older, hsuffix, hbelief⟩ := ih hon hone
      exact ⟨older, hsuffix.trans (List.suffix_cons ..), hbelief⟩
    | answered => cases hone
    | timedOut => exact ⟨attempts, List.suffix_refl _, hon⟩

theorem belief_count {attempts : List Attempt} (hon : (belief attempts).1 = true) :
    (belief attempts).2 ≤ 1 := by
  rw [(belief_spec attempts).2 hon]
  split <;> decide

theorem online_attempts (bus : σ) (evs : List (Event ε)) (i : SlaveIndex) :
    ((run D settings (start bus) evs).slaves i).online =
      (belief (attempts D settings bus i evs)).1 :=
  congrArg Prod.fst (belief_of_attempts D settings bus evs i)

/-- A refused attempt, and then the timeout that declares the slave offline: a failure was
    already counted, so an earlier refused attempt came right after a timeout. -/
theorem refused_before {attempts : List Attempt} (hon : (belief attempts).1 = true)
    (hoff : (belief (.timedOut :: attempts)).1 = false)
    (hnext : refusedNextToUnanswered (.timedOut :: attempts) = true) :
    ∃ older, .refused :: .timedOut :: older <:+ attempts ∧
      (belief (.timedOut :: older)).1 = true := by
  cases attempts with
  | nil => cases hnext
  | cons b older =>
    have hb : b ≠ .answered ∧ b = .refused := by simpa [refusedNextToUnanswered] using hnext
    obtain ⟨-, rfl⟩ := hb
    have hle : (belief older).2 ≤ 1 := belief_count hon
    have hlt : ¬ countFailure (belief older).2 < OFFLINE_AFTER_FAILED_POLLS := by
      intro hlt
      have hstill : (belief (.timedOut :: .refused :: older)).1 = true := by
        simp only [belief, hlt, decide_true, Bool.and_true]
        exact hon
      rw [hstill] at hoff
      cases hoff
    have hone : (belief older).2 = 1 := by
      unfold countFailure OFFLINE_AFTER_FAILED_POLLS at hlt
      omega
    exact refused_after_timeout hon hone

/-- Only an answer ends the belief that a slave is offline. -/
theorem offline_stays {attempts : List Attempt} {r : Attempt} (hoff : (belief attempts).1 = false)
    (htwo : unansweredTwice (r :: attempts) = true) : (belief (r :: attempts)).1 = false := by
  cases r with
  | refused => exact hoff
  | answered => cases attempts <;> simp [unansweredTwice] at htwo
  | timedOut => simp [belief, hoff]

/-- Over every driver and every run: two unanswered attempts in a row are always reported
    if and only if no pass that starts with the slave believed online ends with a refused
    attempt next to another unanswered one. -/
theorem unanswered_polls_reported_iff (bus : σ) (evs : List (Event ε)) (i : SlaveIndex) :
    (∀ pre, pre <+: evs → unansweredTwice (attempts D settings bus i pre) = true →
        ReportsFailure settings (run D settings (start bus) pre).slaves i) ↔
      ∀ pre e, pre ++ [e] <+: evs → ((run D settings (start bus) pre).slaves i).online = true →
        refusedNextToUnanswered (attempts D settings bus i (pre ++ [e])) = false := by
  simp only [reportsFailure_iff]
  constructor
  · intro hreport pre e hpre hon
    by_contra hnext
    rw [Bool.not_eq_false] at hnext
    have hoff := hreport _ hpre (unansweredTwice_of_refused hnext)
    rw [online_attempts] at hon hoff
    obtain ⟨r, hr⟩ := attempts_concat D settings bus i pre e
    rw [hr] at hnext hoff
    rcases r with _ | _ | _ | _
    · rw [Option.toList_none, List.nil_append, hon] at hoff
      cases hoff
    · rw [show (belief (_ ++ _)).1 = true from hon] at hoff
      cases hoff
    · -- The timeout declared the slave offline; the refused attempt before it went unreported.
      obtain ⟨older, hsuffix, hbelief⟩ := refused_before hon hoff hnext
      obtain ⟨earlier, hearlier, heq⟩ := attempts_suffix D settings bus i pre hsuffix
      have hreported :=
        hreport earlier (hearlier.trans ((List.prefix_append ..).trans hpre)) (by rw [heq]; rfl)
      rw [online_attempts, heq, show (belief (.refused :: .timedOut :: older)).1 = true from
        hbelief] at hreported
      cases hreported
    · cases hoff
  · intro hcond pre
    induction pre using List.reverseRecOn with
    | nil => intro _ h; cases h
    | append_singleton pre e _ =>
      intro hpre htwo
      cases hon : ((run D settings (start bus) pre).slaves i).online with
      | true =>
        -- Neither attempt was refused: both timed out, and the belief follows them.
        have hnext := hcond pre e hpre hon
        rw [online_attempts, belief_online, Bool.not_eq_false']
        exact timedOut_twice htwo hnext
      | false =>
        rw [online_attempts] at hon ⊢
        obtain ⟨r, hr⟩ := attempts_concat D settings bus i pre e
        rw [hr] at htwo ⊢
        cases r with
        | none => exact hon
        | some r => exact offline_stays hon htwo

end BacnetGateway.Gateway
