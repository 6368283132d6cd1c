/-
  BacnetGateway.Gateway.Confirmed — write-through neither forgets a value nor repeats one,
  over every driver.

  The gateway keeps `written`, `lastWrittenValue` and `inFlightValue`; the log has the
  whole history. `confirmed` computes from a slave's calls the value of the last write
  reported Done since the slave was last declared offline, and every move keeps the two
  equal (`move_remembers`): a completion that comes after the declaration counts, one
  before it does not. A write is started only for a value that is not confirmed. So in a
  pass that leaves an output alone its winning value is confirmed, and two writes of one
  value, the first of them done, have a declared outage between them
  (`writes_confirmed`).
-/

import BacnetGateway.Gateway.Priorities
import BacnetGateway.Gateway.Protocol

namespace BacnetGateway.Gateway

open Seam

variable {σ ε : Type} (D : Driver σ ε) (settings : Settings)

/-! ## What a slave's calls say of an output -/

/-- The value and the id of the most recent write started. -/
def lastStart (k : Output) : List Act → Option (ℚ × Nat)
  | [] => none
  | .startWrite _ l _ value _ id :: older => if l = k then some (value, id) else lastStart k older
  | _ :: older => lastStart k older

/-- The call ends a poll that declares the slave offline. -/
def declares (a : Act) (older : List Act) : Bool :=
  (belief (pollAttempts older)).1 && !(belief (pollAttempts (a :: older))).1

/-- The value of the last write reported Done since the slave was last declared offline. -/
def confirmed (k : Output) : List Act → Option ℚ
  | [] => none
  | a :: older =>
    if declares a older then none
    else match a with
      | .checkWrite _ l _ _ .done => if l = k then (lastStart k older).map Prod.fst
          else confirmed k older
      | _ => confirmed k older

/-- No call of `newer`, made after those of `older`, declares the slave offline. -/
def NoOutage (newer older : List Act) : Prop :=
  Lib.Each (fun a l => declares a (l ++ older) = false) newer

/-- A write of `value` was reported Done, and the slave was not declared offline since. -/
def DoneSinceOutage (i : SlaveIndex) (k : Output) (value : ℚ) (log : List Act) : Prop :=
  ∃ newer now id older, log = newer ++ .checkWrite i k now id .done :: older ∧
    lastStart k older = some (value, id) ∧
    NoOutage newer (.checkWrite i k now id .done :: older)

variable {i : SlaveIndex} {k : Output} {a b : One} {log older : List Act}

/-- Only the timeout of a poll declares a slave offline. -/
theorem declares_attempt {act : Act} (h : act.attempt ≠ some .timedOut) :
    declares act older = false := by
  unfold declares
  rw [pollAttempts_cons]
  cases ha : act.attempt with
  | none => cases hb : (belief (pollAttempts older)).1 <;> simp [hb]
  | some r =>
    cases r with
    | refused => cases hb : (belief (pollAttempts older)).1 <;> simp [belief, hb]
    | timedOut => exact absurd ha h
    | answered => simp [belief]

theorem confirmed_declared {act : Act} (h : declares act older = true) :
    confirmed k (act :: older) = none := by
  cases act with
  | checkWrite j l t id o => cases o <;> exact if_pos h
  | _ => exact if_pos h

/-- A call that neither declares the slave offline nor completes a write. -/
theorem confirmed_kept {act : Act} (hkept : declares act older = false)
    (hdone : ∀ j t id, act ≠ .checkWrite j k t id .done) :
    confirmed k (act :: older) = confirmed k older := by
  have hnot : ¬ declares act older = true := Bool.eq_false_iff.mp hkept
  cases act with
  | checkWrite j l t id o =>
    cases o with
    | done =>
      refine (if_neg hnot).trans (if_neg fun hl => ?_)
      exact hdone j t id (hl ▸ rfl)
    | pending => exact if_neg hnot
    | timeout => exact if_neg hnot
  | _ => exact if_neg hnot

theorem confirmed_cons {act : Act} (h : act.attempt ≠ some .timedOut)
    (hdone : ∀ j l t id, act ≠ .checkWrite j l t id .done) :
    confirmed k (act :: older) = confirmed k older :=
      confirmed_kept (declares_attempt h) fun j => hdone j k

theorem confirmed_poll (j : SlaveIndex) (now id : Nat) (o : Outcome) (v : Word) :
    confirmed k (.checkRead j now id o v :: older) =
      if declares (.checkRead j now id o v) older then none else confirmed k older := rfl

theorem confirmed_done (j : SlaveIndex) (l : Output) (now id : Nat) :
    confirmed k (.checkWrite j l now id .done :: older) =
      if l = k then (lastStart k older).map Prod.fst else confirmed k older :=
  if_neg (Bool.eq_false_iff.mp (declares_attempt (by simp [Act.attempt])))

theorem markOffline_link (slave : GatewayedSlave) (k : Output) :
    (markOffline slave).link k = { slave.link k with written := false } := by cases k <;> rfl

theorem lastStart_stack {calls : List Act} (h : ∀ act ∈ calls, act.onBus = false) :
    lastStart k (calls ++ log) = lastStart k log := by
  induction calls with
  | nil => rfl
  | cons act calls ih =>
    have hrest := ih fun b hb => h b (List.mem_cons_of_mem _ hb)
    have hact := h act (List.mem_cons_self ..)
    cases act <;> first | exact hrest | cases hact

theorem confirmed_stack {calls : List Act} (h : ∀ act ∈ calls, act.onBus = false) :
    confirmed k (calls ++ log) = confirmed k log := by
  induction calls with
  | nil => rfl
  | cons act calls ih =>
    have hrest := ih fun b hb => h b (List.mem_cons_of_mem _ hb)
    have hact := h act (List.mem_cons_self ..)
    rw [List.cons_append, confirmed_cons, hrest]
    · cases act <;> simp_all [Act.attempt, Act.onBus]
    · rintro j l t id rfl
      cases hact

/-! ## The link is the history's -/

/-- A check is of the write last started; a write is started for a value that is not
    confirmed. -/
def Sends (k : Output) : Act → List Act → Prop
  | .checkWrite _ l _ id _, older => l = k → ∃ value, lastStart k older = some (value, id)
  | .startWrite _ l _ value _ _, older => l = k → confirmed k older ≠ some value
  | _, _ => True

structure Remembers (k : Output) (a : One) : Prop where
  flight : (a.slave.link k).transactionId ≠ 0 →
    lastStart k a.log = some ((a.slave.link k).inFlightValue, (a.slave.link k).transactionId)
  confirmed : confirmed k a.log = if (a.slave.link k).written then some
    (a.slave.link k).lastWrittenValue else none
  each : Lib.Each (Sends k) a.log

/-- A call that says nothing of the output. -/
theorem Remembers.enter (h : Remembers k a) {slave : GatewayedSlave} {act : Act}
    (hlink : slave.link k = a.slave.link k)
    (hstart : lastStart k (act :: a.log) = lastStart k a.log)
    (hconfirmed : Gateway.confirmed k (act :: a.log) = Gateway.confirmed k a.log)
    (hact : Sends k act a.log) : Remembers k ⟨slave, act :: a.log⟩ where
  flight := fun hid => by
    rw [hlink] at hid ⊢
    exact hstart.trans (h.flight hid)
  confirmed := by
    rw [hlink]
    exact hconfirmed.trans h.confirmed
  each := ⟨hact, h.each⟩

theorem Remembers.stack (h : Remembers k a) {calls : List Act}
    (hcalls : ∀ act ∈ calls, act.onBus = false) :
    Remembers k ⟨a.slave, calls ++ a.log⟩ where
  flight := fun hid => (lastStart_stack hcalls).trans (h.flight hid)
  confirmed := (confirmed_stack hcalls).trans h.confirmed
  each := by
    refine Lib.each_append.mpr ⟨Lib.each_of_forall fun act hact older => ?_, h.each⟩
    have := hcalls act hact
    cases act <;> trivial

/-- The timeout of a poll is a declaration in the log when the slave is declared offline. -/
theorem declares_timeout (hbelief : BeliefOk a) (mode : GatewayMode) (i : SlaveIndex)
    (now : Nat) (v : Word) (hid : a.slave.pollTransactionId ≠ 0) :
    declares (.checkRead i now a.slave.pollTransactionId .timeout v) a.log =
      (a.slave.online && !(afterTimeout a.slave).online) := by
  have hafter := move_belief (.pollTimeout a now v hid : Move mode i _ _) hbelief
  unfold BeliefOk at hafter
  rw [pollAttempts_append, pollAttempts_timeoutCalls, List.nil_append] at hafter
  have honline : a.slave.online = (belief (pollAttempts a.log)).1 := congrArg Prod.fst hbelief
  unfold declares
  rw [← honline, ← show (afterTimeout a.slave).online = _ from congrArg Prod.fst hafter]

theorem Remembers.timeout (h : Remembers k a) {now : Nat} {v : Word}
    (hdeclares : declares (.checkRead i now a.slave.pollTransactionId .timeout v) a.log =
      (a.slave.online && !(afterTimeout a.slave).online)) :
    Remembers k ⟨afterTimeout a.slave,
      .checkRead i now a.slave.pollTransactionId .timeout v :: a.log⟩ := by
  by_cases hd : declaresOffline a.slave
  · -- Declared offline: nothing counts as written any more.
    rw [afterTimeout, if_pos hd] at hdeclares ⊢
    refine ⟨fun hid => ?_, ?_, trivial, h.each⟩
    · have hlink : (markOffline (pollFailed a.slave)).link k =
          { a.slave.link k with written := false } := by
        rw [markOffline_link]
        cases k <;> rfl
      rw [hlink] at hid ⊢
      exact h.flight hid
    · rw [markOffline_link, confirmed_poll, hdeclares, hd.1]
      rfl
  · rw [afterTimeout, if_neg hd] at hdeclares ⊢
    refine h.enter (by cases k <;> rfl) rfl ?_ trivial
    rw [confirmed_poll, hdeclares, show (pollFailed a.slave).online = a.slave.online from rfl]
    cases a.slave.online <;> rfl

/-- A write is started only where its value is not the one confirmed, and is from then on
    the one in flight. -/
theorem Remembers.started (h : Remembers k a) {now : Nat}
    (hdue : writeDue a.slave k now) (id : Nat) :
    Remembers k
      ⟨a.slave.setLink k (writeStarted (a.slave.link k) id (winningValue (a.slave.command k))),
      .startWrite i k now (winningValue (a.slave.command k))
        (encode k (winningValue (a.slave.command k))) id :: a.log⟩ := by
  refine ⟨fun _ => ?_, ?_, fun _ hconfirmed => ?_, h.each⟩
  · rw [setLink_link]
    exact if_pos rfl
  · rw [setLink_link, confirmed_cons (by simp [Act.attempt]) (by simp)]
    exact h.confirmed
  · rw [h.confirmed] at hconfirmed
    split at hconfirmed
    · rename_i hwritten
      exact hdue.2.2 ⟨hwritten, Option.some.inj hconfirmed⟩
    · cases hconfirmed

theorem move_remembers {mode : GatewayMode} (hm : Move mode i a b) (hbelief : BeliefOk a)
    (h : Remembers k a) :
    Remembers k b := by
  cases hm with
  | startRead now id _ _ =>
    have hnot : (Act.startRead i now id).attempt ≠ some .timedOut := by
      cases id <;> simp [Act.attempt]
    exact h.enter (by cases k <;> rfl) rfl (confirmed_cons hnot (by simp)) trivial
  | pollPending now v _ =>
    exact h.enter rfl rfl (confirmed_cons (by simp [Act.attempt]) (by simp)) trivial
  | pollDone now v _ =>
    have hcheck : Remembers k ⟨pollAnswered a.slave v,
        .checkRead i now a.slave.pollTransactionId .done v :: a.log⟩ :=
      h.enter (by cases k <;> rfl) rfl (confirmed_cons (by simp [Act.attempt]) (by simp)) trivial
    exact hcheck.stack doneCalls_offBus
  | pollTimeout now v hid =>
    exact (h.timeout (declares_timeout hbelief mode i now v hid)).stack timeoutCalls_offBus
  | writePending l now hid =>
    refine h.enter rfl rfl (confirmed_cons (by simp [Act.attempt]) (by simp)) ?_
    rintro rfl
    exact ⟨_, h.flight hid⟩
  | writeDone l now hid =>
    by_cases hl : l = k
    · subst hl
      have hflight := h.flight hid
      refine ⟨fun hid' => absurd hid' (by simp [Gateway.writeDone]), ?_,
        fun _ => ⟨_, hflight⟩, h.each⟩
      rw [setLink_link, confirmed_done, if_pos rfl, hflight]
      rfl
    · refine h.enter (setLink_link_ne _ _ (Ne.symm hl)) rfl ?_ fun hlk => absurd hlk hl
      rw [confirmed_done, if_neg hl]
  | writeTimeout l now hid =>
    by_cases hl : l = k
    · subst hl
      refine ⟨fun hid' => absurd hid' (by simp [writeFailed]), ?_,
        fun _ => ⟨_, h.flight hid⟩, h.each⟩
      rw [setLink_link, confirmed_cons (by simp [Act.attempt]) (by simp)]
      exact h.confirmed
    · exact h.enter (setLink_link_ne _ _ (Ne.symm hl))
          rfl (confirmed_cons (by simp [Act.attempt]) (by simp))
        fun hlk => absurd hlk hl
  | startWrite l now id hid hdue =>
    by_cases hl : l = k
    · subst hl
      exact h.started hdue id
    · exact h.enter (setLink_link_ne _ _ (Ne.symm hl)) (if_neg hl)
          (confirmed_cons (by simp [Act.attempt]) (by simp))
        fun hlk => absurd hlk hl
  | command c _ =>
    refine ⟨fun hid => ?_, ?_, h.each⟩
    · rw [setCommand_link] at hid ⊢
      exact h.flight hid
    · rw [setCommand_link]
      exact h.confirmed

theorem micro_remembers (bus : σ) (ms : List (Micro ε)) (i : SlaveIndex) (k : Output) :
    Remembers k ((microRun D settings (start bus) ms).one i) := by
  have hstart : Remembers k ⟨initialSlave i, []⟩ :=
    ⟨fun hid => by cases k <;> exact absurd rfl hid, by cases k <;> rfl, trivial⟩
  have hboth := micro_invariant (P := fun a => BeliefOk a ∧ Remembers k a) D settings
    ⟨rfl, hstart⟩ (fun a b hm h => ⟨move_belief hm h.1, move_remembers hm h.1 h.2⟩) bus ms
  exact hboth.2

theorem run_remembers (bus : σ) (evs : List (Event ε)) (i : SlaveIndex) (k : Output) :
    Remembers k ((run D settings (start bus) evs).one i) :=
  run_micro D settings (start bus) evs ▸ micro_remembers D settings bus (micro evs) i k

/-! ## Neither forgotten nor repeated -/

/-- What counts as written was reported Done since the last declaration. -/
theorem doneSinceOutage_of_confirmed {value : ℚ} (hown : ∀ act ∈ log, act.slave = i)
    (hsends : Lib.Each (Sends k) log)
    (h : confirmed k log = some value) : DoneSinceOutage i k value log := by
  induction log with
  | nil => cases h
  | cons act older ih =>
    have hkept : declares act older = false := by
      by_contra hdeclared
      rw [confirmed_declared (by simpa using hdeclared)] at h
      cases h
    by_cases hdone : ∃ j now id, act = .checkWrite j k now id .done
    · obtain ⟨j, now, id, rfl⟩ := hdone
      obtain rfl : j = i := hown _ (List.mem_cons_self ..)
      obtain ⟨sent, hsent⟩ := hsends.1 rfl
      rw [confirmed_done, if_pos rfl, hsent] at h
      cases h
      exact ⟨[], now, id, older, rfl, hsent, trivial⟩
    · rw [confirmed_kept hkept fun j now id hact => hdone ⟨j, now, id, hact⟩] at h
      obtain ⟨newer, now, id, oldest, rfl, hstart, hno⟩ :=
        ih (fun b hb => hown b (List.mem_cons_of_mem _ hb)) hsends.2 h
      exact ⟨act :: newer, now, id, oldest, rfl, hstart, hkept, hno⟩

/-- A write reported Done with no declaration since it was started counts as written. -/
theorem confirmed_of_done {between : List Act} {now id : Nat} {value : ℚ} {word : Word}
    (hno : NoOutage between (.startWrite i k now value word id :: older))
    (hstart : ∀ t u w id', .startWrite i k t u w id' ∉ between)
    (hown : ∀ act ∈ between, act.slave = i)
    (hdone : ∃ t id', .checkWrite i k t id' .done ∈ between) :
    confirmed k (between ++ .startWrite i k now value word id :: older) = some value := by
  have hlast : ∀ l, l <:+ between → lastStart k (l ++ .startWrite i k now value word id :: older) =
      some (value, id) := by
    intro l hl
    induction l with
    | nil => exact if_pos rfl
    | cons act l ih =>
      have hrest := ih ((List.suffix_cons ..).trans hl)
      have hmem := hl.subset (List.mem_cons_self ..)
      cases act with
      | startWrite j k' t u w id' =>
        refine (if_neg fun hk => ?_).trans hrest
        subst hk
        exact hstart t u w id' (hown _ hmem ▸ hmem)
      | _ => exact hrest
  induction between with
  | nil => exact absurd hdone (by simp)
  | cons act between ih =>
    have hlater := fun l (hl : l <:+ between) => hlast l (hl.trans (List.suffix_cons ..))
    by_cases hact : ∃ j t id', act = .checkWrite j k t id' .done
    · obtain ⟨j, t, id', rfl⟩ := hact
      rw [List.cons_append, confirmed_done, if_pos rfl, hlater between (List.suffix_refl _)]
      rfl
    · rw [List.cons_append, confirmed_kept hno.1 fun j t id' h => hact ⟨j, t, id', h⟩]
      refine ih hno.2 (fun t u w id' h => hstart t u w id' (List.mem_cons_of_mem _ h))
        (fun b hb => hown b (List.mem_cons_of_mem _ hb)) ?_ hlater
      obtain ⟨t, id', hmem⟩ := hdone
      rcases List.mem_cons.mp hmem with rfl | hmem
      · exact absurd ⟨i, t, id', rfl⟩ hact
      · exact ⟨t, id', hmem⟩

theorem mem_own {act : Act} (h : act ∈ own i log) : act.slave = i :=
  of_decide_eq_true (List.mem_filter.mp h).2

/-- In every run over every driver:
    - each write carries the winning value of its output as it is at that call, encoded;
    - at the end of a pass, an output of a slave believed online that is past its back-off,
      has no write in flight and started none in the pass has its winning value confirmed:
      a write of it was reported Done, and the slave was not declared offline since;
    - two writes of one value that follow each other, the first of them reported Done, have
      a declaration between them;
    - no write is started while the slave is believed offline;
    - between any two of its calls, what is believed is the slave's flag. -/
theorem writes_confirmed (bus : σ) (evs : List (Event ε)) :
    let s := run D settings (start bus) evs
    (∀ pre c, pre ++ [.call c] <+: micro evs →
      let t := microRun D settings (start bus) pre
      ∃ acts, (exec D settings t c).log = acts ++ t.log ∧ ∀ act ∈ acts, SendsWinning t.slaves act) ∧
    (∀ pre now acts, pre ++ [.pass now] <+: evs →
      let t := run D settings (start bus) (pre ++ [.pass now])
      t.log = acts ++ (run D settings (start bus) pre).log → ∀ i k,
      believedOnline i t.log = true → ((t.slaves i).link k).retryAt ≤ now →
      ((t.slaves i).link k).transactionId = 0 →
      (∀ value word id, .startWrite i k now value word id ∉ acts) →
      DoneSinceOutage i k (winningValue ((t.slaves i).command k)) (own i t.log)) ∧
    (∀ i k value now word id between now' word' id' older,
      .startWrite i k now value word id :: between ++ .startWrite i k now' value word' id' ::
        older <:+ own i s.log →
      (∀ t u w id, .startWrite i k t u w id ∉ between) →
      (∃ t, .checkWrite i k t id' .done ∈ between) →
      ¬ NoOutage between (.startWrite i k now' value word' id' :: older)) ∧
    (∀ i k now value word id older, .startWrite i k now value word id :: older <:+ s.log →
      believedOnline i older = true) ∧
    (∀ ms i, ms <+: micro evs →
      let t := microRun D settings (start bus) ms
      (t.slaves i).online = believedOnline i t.log) := by
  intro s
  refine ⟨fun pre c _ => ?_, fun pre now acts _ => ?_,
    fun i k value now word id between now' word' id' older h hno hdone hout => ?_,
    fun i k now value word id older h => ?_, fun ms i _ => micro_online D settings bus ms i⟩
  · exact exec_sends D settings _ c _ fun _ _ => rfl
  · intro t hlog i k honline hretry hid hnone
    have hremembers := run_remembers D settings bus (pre ++ [.pass now]) i k
    refine doneSinceOutage_of_confirmed (fun act => mem_own) hremembers.each ?_
    have hflag : (t.slaves i).online = believedOnline i t.log :=
      congrArg Prod.fst (belief_of_attempts D settings bus (pre ++ [Event.pass now]) i)
    have hquiet : Quiet (t.slaves i) k now := by
      have hpass := pass_starts D settings i k now (run D settings (start bus) pre)
      rw [show serviceForeignBus D settings now (run D settings (start bus) pre) = t from
        (run_concat D settings (start bus) pre (.pass now)).symm, hlog] at hpass
      rcases hpass with ⟨value, word, id, older, hstart, holder⟩ | hquiet
      · exact absurd (Lib.mem_of_suffix hstart holder) (hnone value word id)
      · exact hquiet
    -- Nothing is due, so the winning value counts as written.
    have hwritten : ((t.slaves i).link k).written = true ∧
        ((t.slaves i).link k).lastWrittenValue = winningValue ((t.slaves i).command k) := by
      by_contra hnot
      exact hquiet hid ⟨hflag.trans honline, hretry, hnot⟩
    rw [← hwritten.2]
    exact hremembers.confirmed.trans (if_pos hwritten.1)
  · have hown : ∀ act ∈ between, act.slave = i := fun act hact =>
      mem_own (h.subset (List.mem_cons_of_mem _ (List.mem_append_left _ hact)))
    have hsends : Sends k _ _ := Lib.each_iff.mp (run_remembers D settings bus evs i k).each _ _ h
    exact hsends rfl (confirmed_of_done hout hno hown (hdone.imp fun t ht => ⟨id', ht⟩))
  · have hown := Lib.suffix_filter (p := fun a => decide (a.slave = i)) h (by simp)
    exact Lib.each_iff.mp (run_patient D settings bus evs i).each _ _ hown

end BacnetGateway.Gateway
