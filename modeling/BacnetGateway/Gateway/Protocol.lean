/-
  BacnetGateway.Gateway.Protocol — the gateway obeys the seam (`ForeignBus.h`), whatever
  the driver answers.

  The gateway is a client of `Lib.Tickets`: its places are the nine variables that hold a
  transaction id, one for each (unit, table), all at `pointAddress`. Each call of a pass is
  a turn of one place (`Turn`): a request is started into it only when it is empty, and
  while it holds an id every turn asks about that id. Nothing else touches a place. So, if
  the driver gives out no id that is still unfinished, it is asked only about unfinished
  transactions, each of them in every pass, and never holds two for one point
  (`seam_obeyed`).

  That two polls of a slave are its poll period apart, and that no write is started while
  the slave is believed offline, is kept by every move of the slave (`move_patient`).
-/

import BacnetGateway.Lib.Tickets
import BacnetGateway.Gateway.Announcements

namespace BacnetGateway.Gateway

open Seam
open Lib.Tickets (Entry Talk Talks unfinished)

variable {σ ε : Type} (D : Driver σ ε) (settings : Settings)

/-! ## Places -/

/-- A foreign data point the gateway has a variable for. -/
abbrev Place := SlaveIndex × Table

/-- The id the slave's record holds for a point, 0 for none. -/
def heldAt (slave : GatewayedSlave) : Table → Nat
  | .inputRegister => slave.pollTransactionId
  | .holdingRegister => slave.setpointLink.transactionId
  | .coil => slave.enableLink.transactionId

def held (slaves : SlaveIndex → GatewayedSlave) (p : Place) : Nat := heldAt (slaves p.1) p.2

/-- The call, as a use of the seam. -/
def Act.entry : Act → Option (Entry Place)
  | .startRead i _ id => some (.start (i, .inputRegister) id)
  | .startWrite i k _ _ _ id => some (.start (i, k.table) id)
  | .checkRead i _ id outcome _ => some (.check (i, .inputRegister) id (outcome ≠ .pending))
  | .checkWrite i k _ id outcome => some (.check (i, k.table) id (outcome ≠ .pending))
  | .setServiceEnabled .. | .sendIAm .. => none

/-- The uses of the seam in a log, newest first. -/
def entries (log : List Act) : List (Entry Place) := log.filterMap Act.entry

variable {i : SlaveIndex} {k : Output} {now : Nat} {s t : Sys σ}

theorem heldAt_table (slave : GatewayedSlave) (k : Output) :
    heldAt slave k.table = (slave.link k).transactionId := by
  cases k <;> rfl

theorem heldAt_setLink (slave : GatewayedSlave) (k : Output) (link : WriteThrough) :
    heldAt (slave.setLink k link) = Function.update (heldAt slave) k.table link.transactionId := by
  funext table
  cases k <;> cases table <;> rfl

/-- Changing what a slave's record holds for one point changes one place. -/
theorem held_update {slaves : SlaveIndex → GatewayedSlave} {slave : GatewayedSlave}
    {table : Table} {id : Nat} (h : heldAt slave = Function.update (heldAt (slaves i)) table id) :
    held (Function.update slaves i slave) = Function.update (held slaves) (i, table) id := by
  funext ⟨j, table'⟩
  unfold held
  by_cases hj : j = i
  · subst hj
    rw [Function.update_self, h]
    by_cases ht : table' = table
    · subst ht
      rw [Function.update_self, Function.update_self]
    · rw [Function.update_of_ne ht, Function.update_of_ne fun h => ht (congrArg Prod.snd h)]
  · rw [Function.update_of_ne hj, Function.update_of_ne fun h => hj (congrArg Prod.fst h)]

theorem held_congr {slaves slaves' : SlaveIndex → GatewayedSlave}
    (h : ∀ j, heldAt (slaves' j) = heldAt (slaves j)) :
    held slaves' = held slaves := by
  funext p
  exact congrFun (h p.1) p.2

@[simp] theorem entries_append (l m : List Act) : entries (l ++ m) = entries l ++ entries m :=
  List.filterMap_append ..

theorem entries_offBus {calls : List Act} (h : ∀ a ∈ calls, a.onBus = false) :
    entries calls = [] := by
  refine List.filterMap_eq_nil_iff.mpr fun a ha => ?_
  have := h a ha
  cases a <;> first | rfl | cases this

/-! ## Turns -/

/-- A turn of one place: the client talks, the other places stay, and an id the place held
    was asked about. -/
structure Turn (p : Place) (s t : Sys σ) : Prop where
  talks : Talks (held s.slaves) (entries s.log) → Talks (held t.slaves) (entries t.log)
  other : ∀ q, q ≠ p → held t.slaves q = held s.slaves q
  log : ∃ new, entries t.log = new ++ entries s.log ∧
    (held s.slaves p ≠ 0 → ∃ ended, .check p (held s.slaves p) ended ∈ new)

/-- A request started into an empty place. -/
theorem Turn.start {p : Place} {id : Nat} (hempty : held s.slaves p = 0)
    (hheld : held t.slaves = Function.update (held s.slaves) p id)
    (hlog : entries t.log = .start p id :: entries s.log) :
    Turn p s t where
  talks := fun h => by
    rw [hheld, hlog]
    exact .cons h (.start _ p id hempty)
  other := fun q hq => by rw [hheld, Function.update_of_ne hq]
  log := ⟨[.start p id], hlog, fun h => absurd hempty h⟩

theorem Turn.wait {p : Place} (hholds : held s.slaves p ≠ 0) (hheld : held t.slaves = held s.slaves)
    (hlog : entries t.log = .check p (held s.slaves p) false :: entries s.log) : Turn p s t where
  talks := fun h => by
    rw [hheld, hlog]
    exact .cons h (.wait _ p hholds)
  other := fun q _ => by rw [hheld]
  log := ⟨[_], hlog, fun _ => ⟨false, List.mem_singleton_self _⟩⟩

/-- A request that has ended, and what the place was used for next. -/
theorem Turn.finish {u : Sys σ} {p : Place} (hholds : held s.slaves p ≠ 0)
    (hheld : held t.slaves = Function.update (held s.slaves) p 0)
    (hlog : entries t.log = .check p (held s.slaves p) true :: entries s.log) (next : Turn p t u) :
    Turn p s u where
  talks := fun h => next.talks (by
    rw [hheld, hlog]
    exact .cons h (.finish _ p hholds))
  other := fun q hq => by rw [next.other q hq, hheld, Function.update_of_ne hq]
  log := by
    obtain ⟨new, hnew, -⟩ := next.log
    refine ⟨new ++ [.check p (held s.slaves p) true], by rw [hnew, hlog]; simp, fun _ => ⟨true, ?_⟩⟩
    exact List.mem_append_right _ (List.mem_singleton_self _)

/-- Nothing said of an empty place. -/
theorem Turn.refl {p : Place} (hempty : held s.slaves p = 0) : Turn p s s :=
  ⟨id, fun _ _ => rfl, [], rfl, fun h => absurd hempty h⟩

theorem poll_turn (i : SlaveIndex) (now : Nat) (s : Sys σ) :
    Turn (i, .inputRegister) s (servicePoll D settings i now s) := by
  have hheld : ∀ slave : GatewayedSlave, (∀ k, slave.link k = (s.slaves i).link k) →
      held (Function.update s.slaves i slave) =
        Function.update (held s.slaves) (i, .inputRegister) slave.pollTransactionId := by
    intro slave hlink
    refine held_update ?_
    funext table
    cases table with
    | inputRegister => rfl
    | holdingRegister => exact congrArg WriteThrough.transactionId (hlink .setpoint)
    | coil => exact congrArg WriteThrough.transactionId (hlink .enable)
  by_cases hid : (s.slaves i).pollTransactionId = 0
  · by_cases hdue : now < (s.slaves i).nextPollAt
    · rw [servicePoll_idle D settings hid hdue]
      exact .refl hid
    · rw [servicePoll_start D settings hid (Nat.le_of_not_lt hdue) rfl]
      exact .start hid (hheld _ fun k => by cases k <;> rfl) rfl
  · rcases hr : D.checkTransaction (s.slaves i).pollTransactionId s.bus with ⟨⟨o, v⟩, bus⟩
    cases o with
    | pending =>
      rw [servicePoll_pending D settings hid hr]
      exact .wait hid rfl rfl
    | done =>
      rw [servicePoll_done D settings hid hr]
      refine .finish hid (hheld _ fun k => by cases k <;> rfl) ?_ (.refl ?_)
      · rw [entries_append, entries_offBus doneCalls_offBus]
        rfl
      · show heldAt (Function.update s.slaves i _ i) _ = 0
        rw [Function.update_self]
        rfl
    | timeout =>
      have hpoll : (afterTimeout (s.slaves i)).pollTransactionId = 0 := by
        unfold afterTimeout
        split <;> rfl
      have hlink : ∀ k, ((afterTimeout (s.slaves i)).link k).transactionId =
          ((s.slaves i).link k).transactionId := by
        intro k
        unfold afterTimeout
        split <;> cases k <;> rfl
      rw [servicePoll_timeout D settings hid hr]
      refine .finish hid (held_update ?_) ?_ (.refl ?_)
      · funext table
        cases table with
        | inputRegister => exact hpoll
        | holdingRegister => exact hlink .setpoint
        | coil => exact hlink .enable
      · rw [entries_append, entries_offBus timeoutCalls_offBus]
        rfl
      · show heldAt (Function.update s.slaves i _ i) _ = 0
        rw [Function.update_self]
        exact hpoll

theorem writeWinningValue_turn (i : SlaveIndex) (k : Output) (now : Nat) (s : Sys σ)
    (hempty : held s.slaves (i, k.table) = 0) :
    Turn (i, k.table) s (writeWinningValue D i k now s) := by
  by_cases hdue : writeDue (s.slaves i) k now
  · rw [writeWinningValue_start D hdue rfl]
    exact .start hempty (held_update (heldAt_setLink ..)) rfl
  · rw [writeWinningValue_skip D hdue]
    exact .refl hempty

theorem writeThrough_turn (i : SlaveIndex) (k : Output) (now : Nat) (s : Sys σ) :
    Turn (i, k.table) s (serviceWriteThrough D i k now s) := by
  have hlink : held s.slaves (i, k.table) = ((s.slaves i).link k).transactionId := heldAt_table ..
  by_cases hid : ((s.slaves i).link k).transactionId = 0
  · rw [serviceWriteThrough_free D hid]
    exact writeWinningValue_turn D i k now s (hlink.trans hid)
  · have hholds : held s.slaves (i, k.table) ≠ 0 := hlink.trans_ne hid
    have emptied : ∀ (link : WriteThrough) (bus : σ) (a : Act), link.transactionId = 0 →
        held ((s.setSlave i ((s.slaves i).setLink k link)).called bus a).slaves
          (i, k.table) = 0 := by
      intro link bus a hlink0
      show heldAt (Function.update s.slaves i _ i) _ = 0
      rw [Function.update_self, heldAt_table, setLink_link, hlink0]
    rcases hr : D.checkTransaction ((s.slaves i).link k).transactionId s.bus with ⟨⟨o, v⟩, bus⟩
    cases o with
    | pending =>
      rw [serviceWriteThrough_pending D hid hr]
      refine .wait hholds rfl ?_
      rw [hlink]
      rfl
    | done =>
      rw [serviceWriteThrough_done D hid hr]
      refine .finish hholds (held_update (heldAt_setLink ..)) ?_
        (writeWinningValue_turn D i k now _ (emptied _ _ _ rfl))
      rw [hlink]
      rfl
    | timeout =>
      rw [serviceWriteThrough_timeout D hid hr]
      refine .finish hholds (held_update (heldAt_setLink ..)) ?_
        (writeWinningValue_turn D i k now _ (emptied _ _ _ rfl))
      rw [hlink]
      rfl

/-! ## Passes -/

/-- The place a call of a pass is about. -/
def Call.place : Call → Option Place
  | .service _ => none
  | .poll i _ => some (i, .inputRegister)
  | .writeThrough i k _ => some (i, k.table)

theorem exec_turn (c : Call) (s : Sys σ) {p : Place} (h : c.place = some p) :
    Turn p s (exec D settings s c) := by
  cases c with
  | service now => cases h
  | poll i now =>
    cases h
    exact poll_turn D settings i now s
  | writeThrough i k now =>
    cases h
    exact writeThrough_turn D i k now s

theorem exec_talks (c : Call) {s : Sys σ} (h : Talks (held s.slaves) (entries s.log)) :
    Talks (held (exec D settings s c).slaves) (entries (exec D settings s c).log) := by
  cases hp : c.place with
  | none =>
    cases c with
    | service now => exact h
    | poll i now => cases hp
    | writeThrough i k now => cases hp
  | some p => exact (exec_turn D settings c s hp).talks h

/-- A call leaves a place it is not about alone. -/
theorem exec_held (c : Call) (s : Sys σ) {p : Place} (h : c.place ≠ some p) :
    held (exec D settings s c).slaves p = held s.slaves p := by
  cases hq : c.place with
  | none =>
    cases c with
    | service now => rfl
    | poll i now => cases hq
    | writeThrough i k now => cases hq
  | some q => exact (exec_turn D settings c s hq).other p fun heq => h (heq ▸ hq)

/-- Every place has its call in a pass. -/
theorem passCalls_place (now : Nat) (p : Place) : ∃ c ∈ passCalls now, c.place = some p := by
  have mem : ∀ c ∈ slaveCalls now p.1, c ∈ passCalls now := fun c hc =>
    List.mem_cons_of_mem _ (List.mem_flatMap.mpr ⟨p.1, List.mem_finRange _, hc⟩)
  obtain ⟨i, table⟩ := p
  cases table with
  | inputRegister => exact ⟨.poll i now, mem _ (by simp [slaveCalls]), rfl⟩
  | holdingRegister => exact ⟨.writeThrough i .setpoint now, mem _ (by simp [slaveCalls]), rfl⟩
  | coil => exact ⟨.writeThrough i .enable now, mem _ (by simp [slaveCalls]), rfl⟩

/-- The calls made ask about every id that a place they are about holds. -/
theorem calls_check (calls : List Call) (s : Sys σ) :
    ∃ new, entries (calls.foldl (exec D settings) s).log = new ++ entries s.log ∧
      ∀ p, (∃ c ∈ calls, c.place = some p) → held s.slaves p ≠ 0 →
        ∃ ended, .check p (held s.slaves p) ended ∈ new := by
  induction calls generalizing s with
  | nil => exact ⟨[], rfl, fun p ⟨c, hc, _⟩ => absurd hc (List.not_mem_nil)⟩
  | cons c calls ih =>
    obtain ⟨later, hlater, hchecks⟩ := ih (exec D settings s c)
    rw [List.foldl_cons, hlater]
    obtain ⟨new, hnew, hcheck⟩ : ∃ new, entries (exec D settings s c).log = new ++ entries s.log ∧
        ∀ p, c.place = some p → held s.slaves p ≠ 0 →
          ∃ ended, .check p (held s.slaves p) ended ∈ new := by
      cases hq : c.place with
      | none =>
        cases c with
        | service now => exact ⟨[], rfl, fun p h => by cases h⟩
        | poll i now => cases hq
        | writeThrough i k now => cases hq
      | some q =>
        obtain ⟨new, hnew, hcheck⟩ := (exec_turn D settings c s hq).log
        exact ⟨new, hnew, fun p hp => by cases hp; exact hcheck⟩
    refine ⟨later ++ new, by rw [hnew, List.append_assoc], fun p hp hheld => ?_⟩
    by_cases hplace : c.place = some p
    · obtain ⟨ended, hended⟩ := hcheck p hplace hheld
      exact ⟨ended, List.mem_append_right _ hended⟩
    · have hkeep := exec_held D settings c s hplace
      obtain ⟨c', hc', hplace'⟩ := hp
      have hc' : c' ∈ calls := by
        rcases List.mem_cons.mp hc' with rfl | hc'
        · exact absurd hplace' hplace
        · exact hc'
      obtain ⟨ended, hended⟩ := hchecks p ⟨c', hc', hplace'⟩ (hkeep.trans_ne hheld)
      exact ⟨ended, List.mem_append_left _ (hkeep ▸ hended)⟩

theorem start_held : held initialSlave = fun _ => 0 := by
  funext p
  obtain ⟨i, table⟩ := p
  cases table <;> rfl

theorem run_talks (bus : σ) (evs : List (Event ε)) :
    Talks (held (run D settings (start bus) evs).slaves)
      (entries (run D settings (start bus) evs).log) := by
  induction evs using List.reverseRecOn with
  | nil =>
    show Talks (held initialSlave) []
    rw [start_held]
    exact .nil
  | append_singleton evs e ih =>
    rw [run_concat]
    cases e with
    | set call =>
      have hsame : held (call.result settings (run D settings (start bus) evs).slaves).slaves =
          held (run D settings (start bus) evs).slaves := by
        refine held_congr fun j => ?_
        obtain ⟨_, _, h⟩ := set_frame settings (run D settings (start bus) evs).slaves call j
        rw [h]
        funext table
        cases table <;> rfl
      rw [step, hsame]
      exact ih
    | pass now =>
      exact pass_keeps D settings (P := fun t => Talks (held t.slaves) (entries t.log))
        (fun t c ht => exec_talks D settings c ht) now ih
    | outside e => exact ih

/-- A log only grows. -/
theorem step_log (s : Sys σ) (e : Event ε) : ∃ new, (step D settings s e).log = new ++ s.log := by
  cases e with
  | set call => exact ⟨[], rfl⟩
  | pass now =>
    rw [step, serviceForeignBus_calls]
    obtain ⟨new, hnew⟩ := calls_log D settings (passCalls now) s
    exact ⟨new, hnew.symm⟩
  | outside e => exact ⟨[], rfl⟩

theorem run_log (s : Sys σ) {pre evs : List (Event ε)} (h : pre <+: evs) :
    ∃ new, (run D settings s evs).log = new ++ (run D settings s pre).log := by
  obtain ⟨rest, rfl⟩ := h
  induction rest using List.reverseRecOn with
  | nil => exact ⟨[], by rw [List.append_nil]; rfl⟩
  | append_singleton rest e ih =>
    obtain ⟨new, hnew⟩ := ih
    obtain ⟨more, hmore⟩ := step_log D settings (run D settings s (pre ++ rest)) e
    exact ⟨more ++ new, by rw [← List.append_assoc, run_concat, hmore, hnew, List.append_assoc]⟩

/-! ## Patience -/

/-- A poll waits a poll period for the one before it; a write is started only while the
    slave is believed online. -/
def Patient (i : SlaveIndex) : Act → List Act → Prop
  | .startRead _ now _, older => ∀ t id, .startRead i t id ∈ older →
      t + pollPeriodMilliseconds i ≤ now
  | .startWrite .., older => (belief (pollAttempts older)).1 = true
  | _, _ => True

structure PatientOne (i : SlaveIndex) (a : One) : Prop where
  nextPoll : ∀ t id, .startRead i t id ∈ a.log → t + pollPeriodMilliseconds i ≤ a.slave.nextPollAt
  each : Lib.Each (Patient i) a.log

variable {a b : One}

theorem PatientOne.enter (h : PatientOne i a) {slave : GatewayedSlave} {act : Act}
    (hnext : slave.nextPollAt = a.slave.nextPollAt) (hread : ∀ t id, act ≠ .startRead i t id)
    (hact : Patient i act a.log) : PatientOne i ⟨slave, act :: a.log⟩ where
  nextPoll := fun t id ht => by
    show _ ≤ slave.nextPollAt
    rw [hnext]
    rcases List.mem_cons.mp ht with ht | ht
    · exact absurd ht.symm (hread t id)
    · exact h.nextPoll t id ht
  each := ⟨hact, h.each⟩

theorem PatientOne.stack (h : PatientOne i a) {calls : List Act}
    (hcalls : ∀ act ∈ calls, act.onBus = false) :
    PatientOne i ⟨a.slave, calls ++ a.log⟩ where
  nextPoll := fun t id ht => by
    rcases List.mem_append.mp ht with ht | ht
    · cases hcalls _ ht
    · exact h.nextPoll t id ht
  each := by
    refine Lib.each_append.mpr ⟨Lib.each_of_forall fun act hact older => ?_, h.each⟩
    have := hcalls act hact
    cases act <;> trivial

theorem move_patient {mode : GatewayMode} (hm : Move mode i a b) (hbelief : BeliefOk a)
    (h : PatientOne i a) :
    PatientOne i b := by
  cases hm with
  | startRead now id hid hdue =>
    have hall : ∀ t id', .startRead i t id' ∈ a.log → t + pollPeriodMilliseconds i ≤ now :=
        fun t id' ht =>
      (h.nextPoll t id' ht).trans hdue
    refine ⟨fun t id' ht => ?_, hall, h.each⟩
    show _ ≤ now + pollPeriodMilliseconds i
    rcases List.mem_cons.mp ht with ht | ht
    · cases ht
      exact Nat.le_refl _
    · exact (hall t id' ht).trans (Nat.le_add_right ..)
  | pollPending now v _ => exact h.enter rfl (by simp) trivial
  | pollDone now v _ =>
    have hcheck : PatientOne i ⟨pollAnswered a.slave v,
        .checkRead i now a.slave.pollTransactionId .done v :: a.log⟩ :=
      h.enter rfl (by simp) trivial
    exact hcheck.stack doneCalls_offBus
  | pollTimeout now v _ =>
    have hnext : (afterTimeout a.slave).nextPollAt = a.slave.nextPollAt := by
      unfold afterTimeout
      split <;> rfl
    have hcheck : PatientOne i ⟨afterTimeout a.slave,
        .checkRead i now a.slave.pollTransactionId .timeout v :: a.log⟩ :=
      h.enter hnext (by simp) trivial
    exact hcheck.stack timeoutCalls_offBus
  | writePending k now _ => exact h.enter rfl (by simp) trivial
  | writeDone k now _ => exact h.enter (setLink_nextPollAt ..) (by simp) trivial
  | writeTimeout k now _ => exact h.enter (setLink_nextPollAt ..) (by simp) trivial
  | startWrite k now id _ hdue =>
    refine h.enter (setLink_nextPollAt ..) (by simp) ?_
    have honline : a.slave.online = (belief (pollAttempts a.log)).1 := congrArg Prod.fst hbelief
    exact honline.symm.trans hdue.1
  | command c _ =>
    refine ⟨fun t id ht => ?_, h.each⟩
    rw [show (a.slave.setCommand c.output _).nextPollAt = a.slave.nextPollAt from
      setCommand_nextPollAt ..]
    exact h.nextPoll t id ht

theorem run_patient (bus : σ) (evs : List (Event ε)) (i : SlaveIndex) :
    PatientOne i ((run D settings (start bus) evs).one i) := by
  have hboth := one_invariant (P := fun a => BeliefOk a ∧ PatientOne i a) D settings
    ⟨rfl, fun t id ht => (by cases ht), trivial⟩ (fun a b hm h =>
      ⟨move_belief hm h.1, move_patient hm h.1 h.2⟩) bus evs
  exact hboth.2

/-- Over every driver that gives out no id of an unfinished transaction, in every run:
    - the gateway asks only about transactions that are unfinished (so never about 0, or
      an id it was not given, or one already reported);
    - every pass asks about every unfinished transaction;
    - no two transactions on one (unit, table) are ever unfinished together;
    - a poll of a slave is started at least its poll period after every earlier one;
    - no write is started to a slave that is believed offline;
    - between any two of its calls, what is believed is the slave's flag. -/
theorem seam_obeyed (bus : σ) (evs : List (Event ε))
    (hfresh : Lib.Tickets.Fresh (entries (run D settings (start bus) evs).log)) :
    let s := run D settings (start bus) evs
    (∀ p id ended older, .check p id ended :: older <:+ entries s.log →
      id ≠ 0 ∧ (p, id) ∈ unfinished older) ∧
    (∀ pre now, pre ++ [.pass now] <+: evs →
      ∃ new, entries (run D settings (start bus) (pre ++ [.pass now])).log =
          new ++ entries (run D settings (start bus) pre).log ∧
        ∀ p id, (p, id) ∈ unfinished (entries (run D settings (start bus) pre).log) →
          ∃ ended, .check p id ended ∈ new) ∧
    (∀ log, log <:+ entries s.log → ((unfinished log).map Prod.fst).Nodup) ∧
    (∀ i now id older, .startRead i now id :: older <:+ s.log →
      ∀ t id', .startRead i t id' ∈ older → t + pollPeriodMilliseconds i ≤ now) ∧
    (∀ i k now value word id older, .startWrite i k now value word id :: older <:+ s.log →
      believedOnline i older = true) ∧
    (∀ ms i, ms <+: micro evs →
      let t := microRun D settings (start bus) ms
      (t.slaves i).online = believedOnline i t.log) := by
  intro s
  have htalks : Talks (held s.slaves) (entries s.log) := run_talks D settings bus evs
  refine ⟨fun p id ended older h => ?_, fun pre now hpre => ?_, fun log hlog => ?_,
    fun i now id older h t id' ht => ?_,
    fun i k now value word id older h => ?_, fun ms i _ => micro_online D settings bus ms i⟩
  · have hmem : (p, id) ∈ unfinished older := Lib.each_iff.mp (htalks.obeys hfresh) _ older h
    exact ⟨Lib.Tickets.unfinished_ne_zero hmem, hmem⟩
  · rw [run_concat, step, serviceForeignBus_calls]
    obtain ⟨new, hnew, hchecks⟩ :=
      calls_check D settings (passCalls now) (run D settings (start bus) pre)
    refine ⟨new, hnew, fun p id hmem => ?_⟩
    have hpre : Lib.Tickets.Fresh (entries (run D settings (start bus) pre).log) := by
      obtain ⟨older, hlog⟩ := run_log D settings (start bus) ((List.prefix_append ..).trans hpre)
      have hfresh := hfresh
      rw [hlog, entries_append] at hfresh
      exact (Lib.each_append.mp hfresh).2
    obtain ⟨hid, hheld⟩ := (((run_talks D settings bus pre).holds hpre).mem p id).mp hmem
    rw [← hheld]
    exact hchecks p (passCalls_place now p) (hheld.trans_ne hid)
  · cases log with
    | nil => exact List.nodup_nil
    | cons e older => exact Lib.each_iff.mp (htalks.each_places hfresh) e older hlog
  · have hown := Lib.suffix_filter (p := fun a => decide (a.slave = i)) h (by simp)
    refine Lib.each_iff.mp (run_patient D settings bus evs i).each _ _ hown t id' ?_
    exact List.mem_filter.mpr ⟨ht, by simp⟩
  · have hown := Lib.suffix_filter (p := fun a => decide (a.slave = i)) h (by simp)
    exact Lib.each_iff.mp (run_patient D settings bus evs i).each _ _ hown

/-- A driver that loses an answer obeys the hypothesis: its ids are never used again. -/
theorem seam_obeyed_boiler :
    ((unfinished
      (entries (run lateAnswer embeddedObjects (start lateStart) relinquishAfterTimeout).log)).map
      Prod.fst).Nodup :=
  (seam_obeyed lateAnswer embeddedObjects lateStart relinquishAfterTimeout
    (by decide +kernel)).2.2.1 _ (List.suffix_refl _)

end BacnetGateway.Gateway
