/-
  BacnetGateway.Lines.Alarms — a fault that is reported is real.

  A reported fault is two timed-out polls, each at a pass at which the device's connection
  was down. A line whose connection is never pulled stays `Healthy`: no request of it ends
  in Timeout, however long the gaps between passes are, because the driver tests for the
  answer before it tests for the timeout and every latency is shorter than the timeout.
-/

import BacnetGateway.Lines.History

namespace BacnetGateway.Lines

open Seam Gateway Simulation

variable {settings : Settings} {i : SlaveIndex} {k : Output} {now : Nat}
    {device : SimulatedSlave} {l m : Line}

/-! ## The alarms -/

/-- A request that ended in Timeout, or a device taken off the network. -/
def alarming : Act → Bool
  | .checkRead _ _ _ outcome _ => outcome = .timeout
  | .checkWrite _ _ _ _ outcome => outcome = .timeout
  | .setServiceEnabled _ _ enabled => !enabled
  | _ => false

/-- The event pulls slave `i`'s connection. -/
def pulls (i : SlaveIndex) : Event FieldEvent → Bool
  | .outside (.setSlaveOnline unitId' online) => unitId' = unitId i ∧ online = false
  | _ => false

def NeverPulled (i : SlaveIndex) (evs : List (Event FieldEvent)) : Prop :=
  ∀ e ∈ evs, pulls i e = false

instance (i : SlaveIndex) (evs : List (Event FieldEvent)) : Decidable (NeverPulled i evs) :=
  inferInstanceAs (Decidable (∀ e ∈ evs, _))

theorem fieldEffect_up {e : FieldEvent} (h : pulls i (.outside e) = false)
    (hup : device.online = true) :
    (fieldEffect i device e).online = true := by
  cases e with
  | setPoint unitId table address value =>
    unfold fieldEffect
    dsimp only
    split
    · cases table <;> exact hup
    · exact hup
  | setSlaveOnline unitId' online =>
    unfold fieldEffect
    dsimp only
    split
    · rename_i hfound
      have hunit : unitId' = unitId i := findSlave_eq_some hfound
      simpa [pulls, hunit] using h
    · exact hup

/-! ## A line that is never pulled -/

structure Line.Healthy (l : Line) : Prop where
  online : l.slave.online = true
  retryAt : ∀ k, (l.slave.link k).retryAt = 0
  calm : ∀ a ∈ l.log, alarming a = false

/-- Nothing on the wire was given up. -/
def Line.NoTimeout (l : Line) : Prop := ∀ kind f, l.wire kind = some f → f.outcome ≠ .timeout

theorem service_noTimeout (hw : l.Waiting) (hup : l.device.online = true) :
    (l.service i now).NoTimeout := by
  intro kind f hf
  rw [service_wire] at hf
  obtain ⟨g, hg, rfl⟩ := Option.map_eq_some_iff.mp hf
  have hpending := hw kind g hg
  have hup' : (l.advance now).device.online = true := (advance_frame now l .setpoint).1.trans hup
  rcases next_cases i now kind (l.advance now).device g with ⟨ha, hn⟩ | ⟨ha, he, hn⟩ | ⟨ha, he, hn⟩
  · rw [hn]
    exact Outcome.noConfusion
  · exact absurd he (not_expires hup' ha)
  · rw [hn, hpending]
    exact Outcome.noConfusion

theorem called_healthy {kind : PointKind} {f : Option Flight} {slave : GatewayedSlave}
    {acts : List Act} (h : m.Healthy)
    (honline : slave.online = true) (hretry : ∀ k, (slave.link k).retryAt = 0)
    (hcalm : ∀ a ∈ acts, alarming a = false) : (m.called kind f slave acts).Healthy := by
  refine ⟨honline, hretry, fun a ha => ?_⟩
  rcases List.mem_append.mp ha with ha | ha
  · exact hcalm a ha
  · exact h.calm a ha

theorem poll_healthy (h : m.Healthy)
    (hwire : ∀ f, m.wire .measuredTemperature = some f → f.outcome ≠ .timeout) :
    (m.poll settings i now).Healthy := by
  unfold Line.poll
  cases hw : m.wire .measuredTemperature with
  | none =>
    dsimp only
    split
    · exact h
    · exact called_healthy h h.online
        (fun | .setpoint => h.retryAt .setpoint | .enable => h.retryAt .enable) (by simp [alarming])
  | some f =>
    dsimp only
    cases hout : f.outcome with
    | pending => exact ⟨h.online, h.retryAt, by simpa [alarming] using h.calm⟩
    | done =>
      refine called_healthy h rfl
        (fun | .setpoint => h.retryAt .setpoint | .enable => h.retryAt .enable) ?_
      unfold doneCalls
      rw [h.online]
      simp [alarming]
    | timeout => exact absurd hout (hwire f hw)

theorem setLink_retryAt {link : WriteThrough} (h : m.Healthy) (hlink : link.retryAt = 0)
    (k k' : Output) :
    ((m.slave.setLink k link).link k').retryAt = 0 := by
  by_cases hk : k' = k
  · subst hk
    rw [setLink_link]
    exact hlink
  · rw [setLink_link_ne _ _ hk]
    exact h.retryAt k'

theorem writeWinningValue_healthy (h : m.Healthy) : (m.writeWinningValue i k now).Healthy := by
  unfold Line.writeWinningValue
  split
  · refine called_healthy h ((setLink_online ..).trans h.online) (setLink_retryAt h ?_ k)
      (by simp [alarming])
    exact h.retryAt k
  · exact h

theorem writeThrough_healthy (h : m.Healthy)
    (hwire : ∀ f, m.wire k.kind = some f → f.outcome ≠ .timeout) :
    (m.writeThrough i k now).Healthy := by
  unfold Line.writeThrough
  cases hw : m.wire k.kind with
  | none => exact writeWinningValue_healthy h
  | some f =>
    dsimp only
    cases hout : f.outcome with
    | pending => exact ⟨h.online, h.retryAt, by simpa [alarming] using h.calm⟩
    | done =>
      refine writeWinningValue_healthy
          (called_healthy h ((setLink_online ..).trans h.online) (setLink_retryAt h ?_ k)
        (by simp [alarming]))
      exact h.retryAt k
    | timeout => exact absurd hout (hwire f hw)

theorem pass_healthy (hw : l.Waiting) (hup : l.device.online = true) (h : l.Healthy) :
    (l.pass settings i now).Healthy := by
  have hnone : (l.service i now).NoTimeout := service_noTimeout hw hup
  have hserved : (l.service i now).Healthy := ⟨h.online, h.retryAt, h.calm⟩
  have hpolled : ((l.service i now).poll settings i now).Healthy :=
    poll_healthy hserved (hnone .measuredTemperature)
  have hwire := (poll_only settings i now (l.service i now)).2.2
  have hsetpoint : (((l.service i now).poll settings i now).writeThrough i .setpoint now).Healthy :=
    writeThrough_healthy hpolled fun f hf =>
      hnone .setpoint f ((hwire .setpoint (by decide)).symm.trans hf)
  refine writeThrough_healthy (k := .enable) hsetpoint fun f hf => hnone .enable f ?_
  rw [← hwire .enable (by decide),
    ← (writeThrough_onlyOutput (i := i) .setpoint now ((l.service i now).poll settings i now)).wire
      .enable (by decide)]
  exact hf

theorem run_healthy {evs : List (Event FieldEvent)} (h : NeverPulled i evs) :
    ((Line.start i).run settings i evs).Waiting ∧
    ((Line.start i).run settings i evs).device.online = true ∧
      ((Line.start i).run settings i evs).Healthy := by
  refine line_invariant (P := fun l => l.Waiting ∧ l.device.online = true ∧ l.Healthy) ?_
    fun e he l hl => ?_
  · have hstart : ∀ i, (initialSimulatedSlave i).online = true := by decide
    refine ⟨fun kind f hf => (by cases hf), hstart i, rfl, fun k => ?_, fun a ha => (by cases ha)⟩
    cases k <;> rfl
  · obtain ⟨hw, hup, hhealthy⟩ := hl
    cases e with
    | set call =>
      obtain ⟨hwire, hdevice, hlog⟩ := command_wire (i := i) l (commandOf settings call)
      obtain ⟨-, honline, -, hlink⟩ := command_slave (i := i) l (commandOf settings call)
      refine ⟨fun kind f hf => hw kind f ((congrFun hwire kind).symm.trans hf),
        (congrArg SimulatedSlave.online hdevice).trans hup, honline.trans hhealthy.online, fun k =>
          ?_, fun a ha => ?_⟩
      · exact (congrArg WriteThrough.retryAt (hlink k)).trans (hhealthy.retryAt k)
      · exact hhealthy.calm a (hlog ▸ ha)
    | pass now =>
      exact ⟨pass_waiting settings i now hw, (pass_sensor settings i now l).1.trans hup,
        pass_healthy hw hup hhealthy⟩
    | outside e =>
      exact ⟨hw, fieldEffect_up (h _ he) hup, hhealthy.online, hhealthy.retryAt, hhealthy.calm⟩

/-! ## No false alarms -/

/-- A slave believed offline: the two passes that saw its connection down. -/
theorem offline_timedOut {evs : List (Event FieldEvent)} (h : Nondecreasing evs)
    (hoff : ((run simulatedForeignBus settings (start initialSim) evs).slaves i).online = false) :
    ∃ pre₁ t₁ pre₂ t₂, pre₁ ++ [.pass t₁] <+: pre₂ ∧ pre₂ ++ [.pass t₂] <+: evs ∧
      Completes settings i pre₁ t₁ .timedOut ∧ polls settings i pre₂ =
        polls settings i (pre₁ ++ [.pass t₁]) ∧
      Completes settings i pre₂ t₂ .timedOut ∧ polls settings i evs =
        polls settings i (pre₂ ++ [.pass t₂]) := by
  have htwo : lastTwoTimedOut (attempts simulatedForeignBus settings initialSim i evs) = true := by
    rw [online_attempts, belief_online] at hoff
    simpa using hoff
  unfold lastTwoTimedOut at htwo
  split at htwo
  · rename_i older hpolls
    obtain ⟨pre₂, t₂, hpre₂, hc₂, hold₂⟩ := exists_completes h hpolls
    have hbefore := nondecreasing_earlier (nondecreasing_earlier h hpre₂) (List.prefix_append ..)
    obtain ⟨pre₁, t₁, hpre₁, hc₁, hold₁⟩ := exists_completes hbefore hold₂
    refine ⟨pre₁, t₁, pre₂, t₂, hpre₁, hpre₂, hc₁, ?_, hc₂, ?_⟩
    · rw [hc₁, hold₂, hold₁]
    · rw [hc₂, hold₂]
      exact hpolls
  · cases htwo

theorem alarming_anonymous (a : Act) : alarming (anonymousAct a) = alarming a := by cases a <;> rfl

/-- On the simulated bus, with gaps of any length between passes:
    - when an object of slave `i` reads communication-failure, the slave's two most recently
      completed polls timed out, at two passes, one after the other, at which the slave's
      connection was down;
    - a slave whose connection is never pulled reads no-fault, loses no discoverability,
      and no poll or write of it ends in Timeout or sets a retry. -/
theorem no_false_alarms (settings : Settings) (i : SlaveIndex) (evs : List (Event FieldEvent))
    (h : Nondecreasing evs) :
    let s := run simulatedForeignBus settings (start initialSim) evs
    let down := fun pre =>
      ((run simulatedForeignBus settings (start initialSim) pre).bus.slaves i).online = false
    (∀ p kind, Names settings p i kind →
      getPropertyEnumerated settings s.slaves (reliabilityOf p) =
        some RELIABILITY_COMMUNICATION_FAILURE →
      ∃ pre₁ t₁ pre₂ t₂, pre₁ ++ [.pass t₁] <+: pre₂ ∧ pre₂ ++ [.pass t₂] <+: evs ∧
        Completes settings i pre₁ t₁ .timedOut ∧ down pre₁ ∧
        polls settings i pre₂ = polls settings i (pre₁ ++ [.pass t₁]) ∧
        Completes settings i pre₂ t₂ .timedOut ∧ down pre₂ ∧
        polls settings i evs = polls settings i (pre₂ ++ [.pass t₂])) ∧
    (NeverPulled i evs →
      (∀ p kind, Names settings p i kind →
        getPropertyEnumerated settings s.slaves (reliabilityOf p) =
          some RELIABILITY_NO_FAULT_DETECTED) ∧
      (∀ a ∈ own i s.log, alarming a = false) ∧ ∀ k, ((s.slaves i).link k).retryAt = 0) := by
  intro s down
  constructor
  · intro p kind hn hread
    obtain ⟨pre₁, t₁, pre₂, t₂, hpre₁, hpre₂, hc₁, hnext, hc₂, hlast⟩ :=
      offline_timedOut h ((reliability_answer settings s.slaves hn).1.mp hread)
    have h₂ := nondecreasing_earlier h hpre₂
    have h₁ := nondecreasing_earlier (nondecreasing_earlier h₂ (List.prefix_append ..)) hpre₁
    exact ⟨pre₁, t₁, pre₂, t₂, hpre₁, hpre₂, hc₁, timedOut_down h₁ hc₁, hnext, hc₂,
      timedOut_down h₂ hc₂, hlast⟩
  · intro hpulled
    have hhealthy : ((Line.start i).run settings i evs).Healthy := (run_healthy hpulled).2.2
    rw [← run_view settings h] at hhealthy
    refine ⟨fun p kind hn => ?_, fun a ha => ?_, fun k => ?_⟩
    · exact (reliability_answer settings s.slaves hn).2.mpr hhealthy.online
    · have hcalm := hhealthy.calm (anonymousAct a) (List.mem_map_of_mem ha)
      rwa [alarming_anonymous] at hcalm
    · have hretry := hhealthy.retryAt k
      rw [show (view i _).slave.link k = _ from anonymous_link ..] at hretry
      exact hretry

/-- Unit 1 is cut off before the first pass and declared offline at 800. -/
def boilerCutOff : List (Event FieldEvent) :=
  [.outside (.setSlaveOnline 1 false), .pass 0, .pass 300, .pass 500, .pass 800]

theorem no_false_alarms_boiler :
    (∃ pre t, pre ++ [.pass t] <+: boilerCutOff ∧ Completes embeddedObjects 0 pre t .timedOut) ∧
      ∀ k,
        (((run simulatedForeignBus embeddedObjects (start initialSim) boilerCutOff).slaves 1).link
          k).retryAt = 0 := by
  constructor
  · obtain ⟨-, -, pre, t, -, hpre, -, -, -, hc, -, -⟩ :=
      (no_false_alarms embeddedObjects 0 boilerCutOff (by decide)).1 boilerSetpoint .setpoint
        (by decide) (by decide +kernel)
    exact ⟨pre, t, hpre, hc⟩
  · exact ((no_false_alarms embeddedObjects 1 boilerCutOff (by decide)).2 (by decide)).2.2

end BacnetGateway.Lines
