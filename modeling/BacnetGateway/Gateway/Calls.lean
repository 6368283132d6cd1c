/-
  BacnetGateway.Gateway.Calls — a pass of `ServiceForeignBus` as the list of the calls it
  makes, and a run one call at a time.

  `passCalls now` are the ten calls of a pass, in the order of the source: the driver
  first, then for each slave its poll and its two outputs. A fact about a call that
  depends on nothing but the state it starts in is carried over a pass by `pass_keeps`.
  `micro` breaks the events of a run up into calls; the states between two calls of one
  pass are the states of that longer run.
-/

import BacnetGateway.Gateway.OneSlave

namespace BacnetGateway.Gateway

open Seam Relation

variable {σ ε : Type} (D : Driver σ ε) (settings : Settings)

/-- A call that `ServiceForeignBus` makes. -/
inductive Call where
  | service (now : Nat)
  | poll (i : SlaveIndex) (now : Nat)
  | writeThrough (i : SlaveIndex) (k : Output) (now : Nat)
  deriving DecidableEq

def exec (s : Sys σ) : Call → Sys σ
  | .service now => { s with bus := D.service now s.bus }
  | .poll i now => servicePoll D settings i now s
  | .writeThrough i k now => serviceWriteThrough D i k now s

/-- The calls a pass makes for slave `i`. -/
def slaveCalls (now : Nat) (i : SlaveIndex) : List Call :=
  [.poll i now, .writeThrough i .setpoint now, .writeThrough i .enable now]

def passCalls (now : Nat) : List Call := .service now :: (List.finRange 3).flatMap (slaveCalls now)

theorem serviceForeignBus_calls (now : Nat) (s : Sys σ) :
    serviceForeignBus D settings now s = (passCalls now).foldl (exec D settings) s := by
  unfold serviceForeignBus passCalls
  rw [List.foldl_cons, List.foldl_flatMap]
  rfl

theorem pass_keeps {P : Sys σ → Prop} (call : ∀ s c, P s → P (exec D settings s c))
    (now : Nat) {s : Sys σ} (h : P s) : P (serviceForeignBus D settings now s) := by
  rw [serviceForeignBus_calls]
  generalize passCalls now = calls
  induction calls generalizing s with
  | nil => exact h
  | cons c calls ih => exact ih (call s c h)

/-! ## The calls leave the commands alone -/

theorem poll_command (i j : SlaveIndex) (k : Output) (now : Nat) (s : Sys σ) :
    ((servicePoll D settings i now s).slaves j).command k = (s.slaves j).command k := by
  have update : ∀ slave : GatewayedSlave, slave.command k = (s.slaves i).command k →
      (Function.update s.slaves i slave j).command k = (s.slaves j).command k := by
    intro slave h
    by_cases hj : j = i
    · subst hj
      rw [Function.update_self, h]
    · rw [Function.update_of_ne hj]
  by_cases hid : (s.slaves i).pollTransactionId = 0
  · by_cases hdue : now < (s.slaves i).nextPollAt
    · rw [servicePoll_idle D settings hid hdue]
    · rw [servicePoll_start D settings hid (Nat.le_of_not_lt hdue) rfl]
      exact update _ (by cases k <;> rfl)
  · rcases hr : D.checkTransaction (s.slaves i).pollTransactionId s.bus with ⟨⟨o, v⟩, bus⟩
    cases o with
    | pending => rw [servicePoll_pending D settings hid hr, called_slaves]
    | done =>
      rw [servicePoll_done D settings hid hr]
      exact update _ (by cases k <;> rfl)
    | timeout =>
      rw [servicePoll_timeout D settings hid hr]
      refine update _ ?_
      unfold afterTimeout
      split <;> cases k <;> rfl

theorem setLink_slaves_command (s : Sys σ) (i j : SlaveIndex) (k k' : Output)
    (link : WriteThrough) :
    ((s.setSlave i ((s.slaves i).setLink k link)).slaves j).command k' =
      (s.slaves j).command k' := by
  by_cases hj : j = i
  · subst hj
    rw [setSlave_self, setLink_command]
  · rw [setSlave_ne _ _ hj]

theorem writeWinningValue_command (i j : SlaveIndex) (k k' : Output) (now : Nat) (s : Sys σ) :
    ((writeWinningValue D i k now s).slaves j).command k' = (s.slaves j).command k' := by
  by_cases hdue : writeDue (s.slaves i) k now
  · rw [writeWinningValue_start D hdue rfl, called_slaves, setLink_slaves_command]
  · rw [writeWinningValue_skip D hdue]

theorem writeThrough_command (i j : SlaveIndex) (k k' : Output) (now : Nat) (s : Sys σ) :
    ((serviceWriteThrough D i k now s).slaves j).command k' = (s.slaves j).command k' := by
  by_cases hid : ((s.slaves i).link k).transactionId = 0
  · rw [serviceWriteThrough_free D hid, writeWinningValue_command]
  · rcases hr : D.checkTransaction ((s.slaves i).link k).transactionId s.bus with ⟨⟨o, v⟩, bus⟩
    cases o with
    | pending => rw [serviceWriteThrough_pending D hid hr, called_slaves]
    | done =>
      rw [serviceWriteThrough_done D hid hr, writeWinningValue_command, called_slaves,
        setLink_slaves_command]
    | timeout =>
      rw [serviceWriteThrough_timeout D hid hr, writeWinningValue_command, called_slaves,
        setLink_slaves_command]

theorem exec_command (c : Call) (j : SlaveIndex) (k : Output) (s : Sys σ) :
    ((exec D settings s c).slaves j).command k = (s.slaves j).command k := by
  cases c with
  | service now => rfl
  | poll i now => exact poll_command D settings i j k now s
  | writeThrough i k' now => exact writeThrough_command D i j k' k now s

/-! ## What the calls can do to the bus -/

/-- What every driver call a slave makes keeps is kept by every call of the pass but
    `service`. -/
theorem exec_bus {P : σ → Prop}
    (hread : ∀ i bus, P bus → P (D.startRead (unitId i) .inputRegister pointAddress bus).2)
    (hwrite : ∀ i (k : Output) w bus, P bus →
      P (D.startWrite (unitId i) k.table pointAddress w bus).2)
    (hcheck : ∀ id bus, P bus → P (D.checkTransaction id bus).2) {c : Call}
    (hc : ∀ now, c ≠ .service now) (s : Sys σ) (h : P s.bus) : P (exec D settings s c).bus := by
  have winning : ∀ (i : SlaveIndex) (k : Output) (now : Nat) (t : Sys σ), P t.bus →
      P (writeWinningValue D i k now t).bus := by
    intro i k now t ht
    by_cases hdue : writeDue (t.slaves i) k now
    · rw [writeWinningValue_start D hdue rfl]
      exact hwrite i k _ t.bus ht
    · rwa [writeWinningValue_skip D hdue]
  cases c with
  | service now => exact absurd rfl (hc now)
  | poll i now =>
    show P (servicePoll D settings i now s).bus
    by_cases hid : (s.slaves i).pollTransactionId = 0
    · by_cases hdue : now < (s.slaves i).nextPollAt
      · rwa [servicePoll_idle D settings hid hdue]
      · rw [servicePoll_start D settings hid (Nat.le_of_not_lt hdue) rfl]
        exact hread i s.bus h
    · rcases hr : D.checkTransaction (s.slaves i).pollTransactionId s.bus with ⟨⟨o, v⟩, bus⟩
      have hbus : P bus := by simpa [hr] using hcheck (s.slaves i).pollTransactionId s.bus h
      cases o with
      | pending => rwa [servicePoll_pending D settings hid hr]
      | done => rwa [servicePoll_done D settings hid hr]
      | timeout => rwa [servicePoll_timeout D settings hid hr]
  | writeThrough i k now =>
    show P (serviceWriteThrough D i k now s).bus
    by_cases hid : ((s.slaves i).link k).transactionId = 0
    · rw [serviceWriteThrough_free D hid]
      exact winning i k now s h
    · rcases hr : D.checkTransaction ((s.slaves i).link k).transactionId s.bus with ⟨⟨o, v⟩, bus⟩
      have hbus : P bus := by simpa [hr] using hcheck ((s.slaves i).link k).transactionId s.bus h
      cases o with
      | pending => rwa [serviceWriteThrough_pending D hid hr]
      | done => rw [serviceWriteThrough_done D hid hr]; exact winning i k now _ hbus
      | timeout => rw [serviceWriteThrough_timeout D hid hr]; exact winning i k now _ hbus

/-! ## What a pass leaves undone -/

/-- No write of output `k` was left unstarted at `now`: one is in flight, or none is due. -/
def Quiet (slave : GatewayedSlave) (k : Output) (now : Nat) : Prop :=
  (slave.link k).transactionId = 0 → ¬ writeDue slave k now

theorem writeWinningValue_quiet (i : SlaveIndex) (k : Output) (now : Nat) (s : Sys σ)
    (hstart : ∀ w bus, (D.startWrite (unitId i) k.table pointAddress w bus).1 ≠ 0) :
    Quiet ((writeWinningValue D i k now s).slaves i) k now := by
  intro hid
  by_cases hdue : writeDue (s.slaves i) k now
  · rw [writeWinningValue_start D hdue rfl, called_slaves, setSlave_self, setLink_link] at hid
    exact absurd hid (hstart _ _)
  · rwa [writeWinningValue_skip D hdue]

theorem writeThrough_quiet (i : SlaveIndex) (k : Output) (now : Nat) (s : Sys σ)
    (hstart : ∀ w bus, (D.startWrite (unitId i) k.table pointAddress w bus).1 ≠ 0) :
    Quiet ((serviceWriteThrough D i k now s).slaves i) k now := by
  by_cases hid : ((s.slaves i).link k).transactionId = 0
  · rw [serviceWriteThrough_free D hid]
    exact writeWinningValue_quiet D i k now s hstart
  · rcases hr : D.checkTransaction ((s.slaves i).link k).transactionId s.bus with ⟨⟨o, v⟩, bus⟩
    cases o with
    | pending =>
      rw [serviceWriteThrough_pending D hid hr]
      exact fun h => absurd h hid
    | done =>
      rw [serviceWriteThrough_done D hid hr]; exact writeWinningValue_quiet D i k now _ hstart
    | timeout =>
      rw [serviceWriteThrough_timeout D hid hr]; exact writeWinningValue_quiet D i k now _ hstart

theorem quiet_congr {slave slave' : GatewayedSlave} {k : Output} {now : Nat}
    (honline : slave'.online = slave.online)
    (hlink : slave'.link k = slave.link k) (hcommand : slave'.command k = slave.command k) :
    Quiet slave' k now ↔ Quiet slave k now := by
  unfold Quiet writeDue
  rw [honline, hlink, hcommand]

theorem writeWinningValue_frame (i : SlaveIndex) {k k' : Output} (h : k' ≠ k)
    (now : Nat) (s : Sys σ) :
    ((writeWinningValue D i k now s).slaves i).online = (s.slaves i).online ∧
      ((writeWinningValue D i k now s).slaves i).link k' = (s.slaves i).link k' := by
  by_cases hdue : writeDue (s.slaves i) k now
  · rw [writeWinningValue_start D hdue rfl, called_slaves, setSlave_self, setLink_link_ne _ _ h]
    exact ⟨setLink_online .., rfl⟩
  · rw [writeWinningValue_skip D hdue]
    exact ⟨rfl, rfl⟩

/-- Writing one output through leaves the flag and the other output's link alone. -/
theorem writeThrough_frame (i : SlaveIndex) {k k' : Output} (h : k' ≠ k) (now : Nat) (s : Sys σ) :
    ((serviceWriteThrough D i k now s).slaves i).online = (s.slaves i).online ∧
      ((serviceWriteThrough D i k now s).slaves i).link k' = (s.slaves i).link k' := by
  have answered : ∀ (link : WriteThrough) (bus : σ) (act : Act),
      let t := (s.setSlave i ((s.slaves i).setLink k link)).called bus act
      ((writeWinningValue D i k now t).slaves i).online = (s.slaves i).online ∧
        ((writeWinningValue D i k now t).slaves i).link k' = (s.slaves i).link k' := by
    intro link bus act t
    obtain ⟨h1, h2⟩ := writeWinningValue_frame D i h now t
    rw [h1, h2]
    show (Function.update s.slaves i _ i).online = _ ∧ (Function.update s.slaves i _ i).link k' = _
    rw [Function.update_self]
    exact ⟨setLink_online .., setLink_link_ne _ _ h⟩
  by_cases hid : ((s.slaves i).link k).transactionId = 0
  · rw [serviceWriteThrough_free D hid]
    exact writeWinningValue_frame D i h now s
  · rcases hr : D.checkTransaction ((s.slaves i).link k).transactionId s.bus with ⟨⟨o, v⟩, bus⟩
    cases o with
    | pending => rw [serviceWriteThrough_pending D hid hr]; exact ⟨rfl, rfl⟩
    | done => rw [serviceWriteThrough_done D hid hr]; exact answered _ _ _
    | timeout => rw [serviceWriteThrough_timeout D hid hr]; exact answered _ _ _

/-- A pass writes each output through once, and polls the slave before that. -/
theorem passCalls_split (now : Nat) (i : SlaveIndex) (k : Output) :
    ∃ before after, passCalls now = before ++ .writeThrough i k now :: after ∧
      ∀ c ∈ after, (∃ j, j ≠ i ∧ c ∈ slaveCalls now j) ∨ ∃ k', k' ≠ k ∧
        c = .writeThrough i k' now := by
  obtain ⟨a, b, hab⟩ := List.append_of_mem (List.mem_finRange i)
  have hi : i ∉ b := by
    have := hab ▸ List.nodup_finRange 3
    exact (List.nodup_cons.mp (List.nodup_append.mp this).2.1).1
  have others : ∀ c ∈ b.flatMap (slaveCalls now), ∃ j, j ≠ i ∧ c ∈ slaveCalls now j := by
    intro c hc
    obtain ⟨j, hj, hc⟩ := List.mem_flatMap.mp hc
    exact ⟨j, fun h => hi (h ▸ hj), hc⟩
  unfold passCalls
  rw [hab, List.flatMap_append, List.flatMap_cons]
  cases k with
  | setpoint =>
    refine ⟨.service now :: (a.flatMap (slaveCalls now) ++ [.poll i now]),
      .writeThrough i .enable now :: b.flatMap (slaveCalls now), by
        simp [slaveCalls], fun c hc => ?_⟩
    rcases List.mem_cons.mp hc with rfl | hc
    · exact Or.inr ⟨.enable, by decide, rfl⟩
    · exact Or.inl (others c hc)
  | enable =>
    refine ⟨.service now ::
      (a.flatMap (slaveCalls now) ++ [.poll i now, .writeThrough i .setpoint now]),
      b.flatMap (slaveCalls now), by simp [slaveCalls], fun c hc => Or.inl (others c hc)⟩

theorem slaveCalls_other {i j : SlaveIndex} (h : i ≠ j) {now : Nat} {c : Call}
    (hc : c ∈ slaveCalls now j) (s : Sys σ) :
    (exec D settings s c).one i = s.one i := by
  simp only [slaveCalls, List.mem_cons, List.not_mem_nil, or_false] at hc
  rcases hc with rfl | rfl | rfl
  · exact servicePoll_other D settings h now s
  · exact serviceWriteThrough_other D h .setpoint now s
  · exact serviceWriteThrough_other D h .enable now s

/-- The calls of a pass after an output's own leave it as it is. -/
theorem calls_output {i : SlaveIndex} {k : Output} {now : Nat} {calls : List Call} {t : Sys σ}
    (h : ∀ c ∈ calls, (∃ j, j ≠ i ∧ c ∈ slaveCalls now j) ∨ ∃ k',
      k' ≠ k ∧ c = .writeThrough i k' now) :
    ((calls.foldl (exec D settings) t).slaves i).online = (t.slaves i).online ∧
      ((calls.foldl (exec D settings) t).slaves i).link k = (t.slaves i).link k ∧
      ((calls.foldl (exec D settings) t).slaves i).command k = (t.slaves i).command k := by
  induction calls generalizing t with
  | nil => exact ⟨rfl, rfl, rfl⟩
  | cons c calls ih =>
    obtain ⟨honline, hlink, hcommand⟩ :=
      ih (t := exec D settings t c) fun c' hc' => h c' (List.mem_cons_of_mem _ hc')
    rw [List.foldl_cons, honline, hlink, hcommand]
    rcases h c (List.mem_cons_self ..) with ⟨j, hj, hc⟩ | ⟨k', hk', rfl⟩
    · have hone : (exec D settings t c).slaves i = t.slaves i :=
        congrArg One.slave (slaveCalls_other D settings (Ne.symm hj) hc t)
      rw [hone]
      exact ⟨rfl, rfl, rfl⟩
    · obtain ⟨honline, hlink⟩ := writeThrough_frame D i (Ne.symm hk') now t
      exact ⟨honline, hlink, writeThrough_command D i i k' k now t⟩

/-- At the end of a pass no output has a write due that is not in flight. -/
theorem pass_quiet (now : Nat) (s : Sys σ) (i : SlaveIndex) (k : Output)
    (hstart : ∀ w bus, (D.startWrite (unitId i) k.table pointAddress w bus).1 ≠ 0) :
    Quiet ((serviceForeignBus D settings now s).slaves i) k now := by
  obtain ⟨before, after, hsplit, hafter⟩ := passCalls_split now i k
  rw [serviceForeignBus_calls, hsplit, List.foldl_append, List.foldl_cons]
  obtain ⟨honline, hlink, hcommand⟩ := calls_output D settings hafter
    (t := exec D settings (before.foldl (exec D settings) s) (.writeThrough i k now))
  exact (quiet_congr honline hlink hcommand).mpr (writeThrough_quiet D i k now _ hstart)

/-! ## What a call enters in the log -/

/-- A call of `ServicePoll` for slave `i` at `now`. -/
def Act.polls (i : SlaveIndex) (now : Nat) : Act → Prop
  | .startRead j t _ | .checkRead j t _ _ _ => j = i ∧ t = now
  | .setServiceEnabled j _ _ | .sendIAm j => j = i
  | _ => False

/-- A call of `ServiceWriteThrough` for output `k` of slave `i` at `now`. -/
def Act.writesThrough (i : SlaveIndex) (k : Output) (now : Nat) : Act → Prop
  | .startWrite j l t _ _ _ | .checkWrite j l t _ _ => j = i ∧ l = k ∧ t = now
  | _ => False

theorem poll_log (i : SlaveIndex) (now : Nat) (s : Sys σ) :
    ∃ acts, (servicePoll D settings i now s).log = acts ++ s.log ∧ ∀ a ∈ acts, a.polls i now := by
  have back : ∀ a ∈ doneCalls settings.mode i (s.slaves i), a.polls i now := by
    unfold doneCalls onlineCalls
    cases settings.mode <;> cases (s.slaves i).online <;> simp [Act.polls]
  have away : ∀ a ∈ timeoutCalls settings.mode i (s.slaves i), a.polls i now := by
    unfold timeoutCalls offlineCalls
    cases settings.mode <;> split <;> simp [Act.polls]
  by_cases hid : (s.slaves i).pollTransactionId = 0
  · by_cases hdue : now < (s.slaves i).nextPollAt
    · rw [servicePoll_idle D settings hid hdue]
      exact ⟨[], rfl, by simp⟩
    · rw [servicePoll_start D settings hid (Nat.le_of_not_lt hdue) rfl]
      exact ⟨[_], rfl, by simp [Act.polls]⟩
  · rcases hr : D.checkTransaction (s.slaves i).pollTransactionId s.bus with ⟨⟨o, v⟩, bus⟩
    cases o with
    | pending =>
      rw [servicePoll_pending D settings hid hr]
      exact ⟨[_], rfl, by simp [Act.polls]⟩
    | done =>
      rw [servicePoll_done D settings hid hr]
      refine ⟨doneCalls settings.mode i (s.slaves i) ++
        [.checkRead i now (s.slaves i).pollTransactionId .done v], by simp, fun a ha => ?_⟩
      rcases List.mem_append.mp ha with ha | ha
      · exact back a ha
      · rw [List.mem_singleton.mp ha]
        exact ⟨rfl, rfl⟩
    | timeout =>
      rw [servicePoll_timeout D settings hid hr]
      refine ⟨timeoutCalls settings.mode i (s.slaves i) ++
        [.checkRead i now (s.slaves i).pollTransactionId .timeout v], by simp, fun a ha => ?_⟩
      rcases List.mem_append.mp ha with ha | ha
      · exact away a ha
      · rw [List.mem_singleton.mp ha]
        exact ⟨rfl, rfl⟩

/-- `ServiceWriteThrough` starts a write, or leaves none due that is not in flight. -/
theorem writeWinningValue_starts (i : SlaveIndex) (k : Output) (now : Nat) (s : Sys σ) :
    (∃ value word id, (writeWinningValue D i k now s).log =
      .startWrite i k now value word id :: s.log) ∨
      (writeWinningValue D i k now s).log = s.log ∧
      Quiet ((writeWinningValue D i k now s).slaves i) k now := by
  by_cases hdue : writeDue (s.slaves i) k now
  · rw [writeWinningValue_start D hdue rfl]
    exact Or.inl ⟨_, _, _, rfl⟩
  · rw [writeWinningValue_skip D hdue]
    exact Or.inr ⟨rfl, fun _ => hdue⟩

/-- It checks on the write in flight, if there is one, before that. -/
theorem writeThrough_starts (i : SlaveIndex) (k : Output) (now : Nat) (s : Sys σ) :
    ∃ checks, (∀ a ∈ checks, ∃ id o, a = .checkWrite i k now id o) ∧
      ((∃ value word id, (serviceWriteThrough D i k now s).log =
        .startWrite i k now value word id :: (checks ++ s.log)) ∨
        (serviceWriteThrough D i k now s).log = checks ++ s.log ∧
        Quiet ((serviceWriteThrough D i k now s).slaves i) k now) := by
  have answered : ∀ (t : Sys σ) (id : Nat) (o : Outcome),
    t.log = .checkWrite i k now id o :: s.log →
      ∃ checks, (∀ a ∈ checks, ∃ id o, a = .checkWrite i k now id o) ∧
        ((∃ value word id, (writeWinningValue D i k now t).log =
          .startWrite i k now value word id :: (checks ++ s.log)) ∨
          (writeWinningValue D i k now t).log = checks ++ s.log ∧
          Quiet ((writeWinningValue D i k now t).slaves i) k now) := by
    intro t id o ht
    refine ⟨[.checkWrite i k now id o], fun a ha => ⟨id, o, List.mem_singleton.mp ha⟩, ?_⟩
    rw [List.singleton_append, ← ht]
    exact writeWinningValue_starts D i k now t
  by_cases hid : ((s.slaves i).link k).transactionId = 0
  · rw [serviceWriteThrough_free D hid]
    exact ⟨[], by simp, writeWinningValue_starts D i k now s⟩
  · rcases hr : D.checkTransaction ((s.slaves i).link k).transactionId s.bus with ⟨⟨o, v⟩, bus⟩
    cases o with
    | pending =>
      rw [serviceWriteThrough_pending D hid hr]
      exact ⟨[_], fun a ha => ⟨_, _, List.mem_singleton.mp ha⟩, Or.inr ⟨rfl, fun h => absurd h hid⟩⟩
    | done => rw [serviceWriteThrough_done D hid hr]; exact answered _ _ .done rfl
    | timeout => rw [serviceWriteThrough_timeout D hid hr]; exact answered _ _ .timeout rfl

theorem writeThrough_log (i : SlaveIndex) (k : Output) (now : Nat) (s : Sys σ) :
    ∃ acts, (serviceWriteThrough D i k now s).log = acts ++ s.log ∧
      ∀ a ∈ acts, a.writesThrough i k now := by
  obtain ⟨checks, hchecks, hlog⟩ := writeThrough_starts D i k now s
  have hwrites : ∀ a ∈ checks, a.writesThrough i k now := by
    intro a ha
    obtain ⟨id, o, rfl⟩ := hchecks a ha
    exact ⟨rfl, rfl, rfl⟩
  rcases hlog with ⟨value, word, id, hlog⟩ | ⟨hlog, -⟩
  · refine ⟨.startWrite i k now value word id :: checks, hlog, fun a ha => ?_⟩
    rcases List.mem_cons.mp ha with rfl | ha
    · exact ⟨rfl, rfl, rfl⟩
    · exact hwrites a ha
  · exact ⟨checks, hlog, hwrites⟩

theorem exec_log (c : Call) (s : Sys σ) : s.log <:+ (exec D settings s c).log := by
  cases c with
  | service now => exact List.suffix_refl _
  | poll i now =>
    obtain ⟨acts, hacts, -⟩ := poll_log D settings i now s
    exact ⟨acts, hacts.symm⟩
  | writeThrough i k now =>
    obtain ⟨acts, hacts, -⟩ := writeThrough_log D i k now s
    exact ⟨acts, hacts.symm⟩

theorem calls_log (calls : List Call) (s : Sys σ) :
    s.log <:+ (calls.foldl (exec D settings) s).log := by
  induction calls generalizing s with
  | nil => exact List.suffix_refl _
  | cons c calls ih => exact (exec_log D settings c s).trans (ih _)

/-- A pass starts a write of the output, or at its end none is due that is not in flight. -/
theorem pass_starts (i : SlaveIndex) (k : Output) (now : Nat) (s : Sys σ) :
    (∃ value word id older,
      .startWrite i k now value word id :: older <:+ (serviceForeignBus D settings now s).log ∧
        s.log <:+ older) ∨ Quiet ((serviceForeignBus D settings now s).slaves i) k now := by
  obtain ⟨before, after, hsplit, hafter⟩ := passCalls_split now i k
  rw [serviceForeignBus_calls, hsplit, List.foldl_append, List.foldl_cons]
  generalize ht : before.foldl (exec D settings) s = t
  have hbefore : s.log <:+ t.log := ht ▸ calls_log D settings before s
  obtain ⟨checks, -, ⟨value, word, id, hlog⟩ | ⟨-, hquiet⟩⟩ := writeThrough_starts D i k now t
  · refine Or.inl ⟨value, word, id, checks ++ t.log, ?_, hbefore.trans (List.suffix_append ..)⟩
    rw [← hlog]
    exact calls_log D settings after _
  · obtain ⟨honline, hlink, hcommand⟩ :=
      calls_output D settings hafter (t := exec D settings t (.writeThrough i k now))
    exact Or.inr ((quiet_congr honline hlink hcommand).mpr hquiet)

/-! ## Runs, one call at a time -/

/-- A run's smallest steps. -/
inductive Micro (ε : Type) where
  | set (call : SetCall)
  | call (c : Call)
  | outside (e : ε)

def microStep (s : Sys σ) : Micro ε → Sys σ
  | .set call => { s with slaves := (call.result settings s.slaves).slaves }
  | .call c => exec D settings s c
  | .outside e => { s with bus := D.outside e s.bus }

def Event.micro : Event ε → List (Micro ε)
  | .set call => [.set call]
  | .pass now => (passCalls now).map .call
  | .outside e => [.outside e]

/-- The calls and other small steps of a run. -/
def micro (evs : List (Event ε)) : List (Micro ε) := evs.flatMap Event.micro

def microRun (s : Sys σ) (ms : List (Micro ε)) : Sys σ := ms.foldl (microStep D settings) s

theorem microRun_concat (s : Sys σ) (ms : List (Micro ε)) (m : Micro ε) :
    microRun D settings s (ms ++ [m]) = microStep D settings (microRun D settings s ms) m :=
      List.foldl_concat ..

theorem step_micro (s : Sys σ) (e : Event ε) :
    step D settings s e = microRun D settings s e.micro := by
  cases e with
  | set call => rfl
  | outside e => rfl
  | pass now =>
    rw [step, serviceForeignBus_calls, microRun, Event.micro, List.foldl_map]
    rfl

theorem run_micro (s : Sys σ) (evs : List (Event ε)) :
    run D settings s evs = microRun D settings s (micro evs) := by
  induction evs generalizing s with
  | nil => rfl
  | cons e evs ih =>
    rw [show run D settings s (e :: evs) = run D settings (step D settings s e) evs from rfl,
      ih, step_micro]
    unfold microRun micro
    rw [List.flatMap_cons, List.foldl_append]

theorem microRun_log (s : Sys σ) {pre ms : List (Micro ε)} (h : pre <+: ms) :
    (microRun D settings s pre).log <:+ (microRun D settings s ms).log := by
  obtain ⟨rest, rfl⟩ := h
  induction rest using List.reverseRecOn with
  | nil => rw [List.append_nil]
  | append_singleton rest m ih =>
    rw [← List.append_assoc, microRun_concat]
    refine ih.trans ?_
    cases m with
    | set call => exact List.suffix_refl _
    | call c => exact exec_log D settings c _
    | outside e => exact List.suffix_refl _

theorem exec_moves (i : SlaveIndex) (c : Call) (s : Sys σ) :
    ReflTransGen (Move settings.mode i) (s.one i) ((exec D settings s c).one i) := by
  cases c with
  | service now => exact .refl
  | poll j now =>
    by_cases hj : i = j
    · subst hj
      exact servicePoll_moves D settings i now s
    · rw [exec, servicePoll_other D settings hj]
  | writeThrough j k now =>
    by_cases hj : i = j
    · subst hj
      exact serviceWriteThrough_moves D settings i k now s
    · rw [exec, serviceWriteThrough_other D hj]

/-- What every move keeps holds of a slave between any two calls. -/
theorem micro_invariant {P : One → Prop} {i : SlaveIndex} (start : P ⟨initialSlave i, []⟩)
    (move : ∀ a b, Move settings.mode i a b → P a → P b) (bus : σ) (ms : List (Micro ε)) :
    P ((microRun D settings (Gateway.start bus) ms).one i) := by
  have along : ∀ a b, ReflTransGen (Move settings.mode i) a b → P a → P b := by
    intro a b h ha
    induction h with
    | refl => exact ha
    | tail _ hm ih => exact move _ _ hm ih
  induction ms using List.reverseRecOn with
  | nil => exact start
  | append_singleton ms m ih =>
    rw [microRun_concat]
    refine along _ _ ?_ ih
    cases m with
    | set call => exact step_moves D settings i _ (.set call)
    | call c => exact exec_moves D settings i c _
    | outside e => exact .refl

end BacnetGateway.Gateway
