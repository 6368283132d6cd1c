/-
  BacnetGateway.Lines.Sensor — what the field device measures is served within a bounded
  time.

  After a time `u` the connection is up at every pass and the device's sensor rests at one
  value. Whatever was going on at `u`, the poll then goes through `SensorPhase` (wait
  for the next poll, wait for its answer, served), and each phase but the last ends at a
  known time. The bound of `readings_follow` is the sum: a poll period, a latency, and the
  pass that each phase may wait for.

  A value set through the simulation's back door stops the drift, so it rests until the
  back door touches that sensor again or pulls the cable (`resting_of_undisturbed`).
-/

import BacnetGateway.Lines.Delivered
import BacnetGateway.Lines.Reading

namespace BacnetGateway.Lines

open Seam Gateway Simulation

variable {settings : Settings} {i : SlaveIndex} {u delta t now : Nat} {w : Word}
    {device : SimulatedSlave}
  {evs : List (Event FieldEvent)}

/-! ## The phases -/

/-- The way of the sensor's value `w` to the clients, at time `t`. -/
inductive SensorPhase (i : SlaveIndex) (u delta t : Nat) (w : Word) (slave : GatewayedSlave) :
    Option Flight → Prop where
  | served {f : Option Flight} (honline : slave.online = true)
      (htemperature : slave.measuredTemperature = Lib.binary64.round (decodeTemperature w)) :
      SensorPhase i u delta t w slave f
  | asked {f : Flight} (hstarted : f.startedAt ≤ u + pollPeriodMilliseconds i + delta)
      (hlate : t < f.startedAt + latencyMilliseconds i ∨
        t ≤ u) : SensorPhase i u delta t w slave (some f)
  | waiting (hnext : slave.nextPollAt ≤ u + pollPeriodMilliseconds i)
      (hlate : t < slave.nextPollAt ∨ t ≤ u) :
      SensorPhase i u delta t w slave none

/-- One turn of the poll with the connection up and `w` on the sensor. -/
theorem sensorPhase_step {slave slave' : GatewayedSlave} {f f' : Option Flight}
    {completed : Option Attempt}
    (h : PollTurn i now device slave f completed slave' f') (hup : device.online = true)
    (hw : device.inputRegister = w)
    (hpending : ∀ g, f = some g → g.outcome = .pending) (hnow : now ≤ t + delta)
    (hphase : SensorPhase i u delta t w slave f) : SensorPhase i u delta now w slave' f' := by
  have hlatency := latency_pos i
  cases h with
  | idle hdue =>
    cases hphase with
    | served honline htemperature => exact .served honline htemperature
    | waiting hnext hlate => exact .waiting hnext (Or.inl hdue)
  | start hdue =>
    cases hphase with
    | served honline htemperature => exact .served honline htemperature
    | waiting hnext hlate =>
      refine .asked ?_ (Or.inl ?_)
      · show now ≤ _
        omega
      · show now < now + _
        omega
  | @pending g ha he =>
    cases hphase with
    | served honline htemperature => exact .served honline htemperature
    | asked hstarted hlate =>
      have hwait : now < g.startedAt + latencyMilliseconds i := by
        by_contra hnot
        exact ha (answers_of_late (hpending g rfl) hup (Nat.le_of_not_lt hnot))
      exact .asked hstarted (Or.inl hwait)
  | answered ha =>
    refine .served rfl ?_
    rw [← hw]
    rfl
  | expired ha he => exact absurd he (not_expires hup ha)

/-- A poll period, a latency and two gaps after `u`, the value is served. -/
theorem served_of_late {slave : GatewayedSlave} {f : Option Flight}
    (h : SensorPhase i u delta t w slave f)
    (hlate : u + pollPeriodMilliseconds i + latencyMilliseconds i + 2 * delta ≤ t) :
    slave.online = true ∧ slave.measuredTemperature = Lib.binary64.round (decodeTemperature w) := by
  have hlatency := latency_pos i
  cases h with
  | served honline htemperature => exact ⟨honline, htemperature⟩
  | asked hstarted hwait => omega
  | waiting hnext hwait => omega

theorem SensorPhase.congr {slave slave' : GatewayedSlave} {f : Option Flight}
    (h : SensorPhase i u delta t w slave f)
    (honline : slave'.online = slave.online) (hnext : slave'.nextPollAt = slave.nextPollAt)
    (htemperature : slave'.measuredTemperature = slave.measuredTemperature) :
    SensorPhase i u delta t w slave' f := by
  cases h with
  | served hon ht => exact .served (honline.trans hon) (htemperature.trans ht)
  | asked hstarted hlate => exact .asked hstarted hlate
  | waiting hn hlate => exact .waiting (hnext ▸ hn) (hnext ▸ hlate)

/-! ## Runs -/

/-- Where a line stands with the sensor at `w`, at the time of its last pass. -/
def Line.Sensing (i : SlaveIndex) (u delta : Nat) (w : Word) (l : Line) : Prop :=
  SensorPhase i u delta l.nowMilliseconds w l.slave (l.wire .measuredTemperature)

/-- Up to `u`, whatever the state is. -/
theorem sensing_of_dated {l : Line} (h : l.Dated i) (hu : l.nowMilliseconds ≤ u) :
    l.Sensing i u delta w := by
  have hnext := h.nextPollAt
  unfold Line.Sensing
  cases hw : l.wire .measuredTemperature with
  | none => exact .waiting (by omega) (Or.inr hu)
  | some f =>
    have hstarted := h.startedAt _ f hw
    exact .asked (by omega) (Or.inr hu)

/-- The sensor does not drift, and stands at `w`. -/
structure Still (w : Word) (device : SimulatedSlave) : Prop where
  still : device.drifting = false
  value : device.inputRegister = w

/-- The connection is up as well. -/
structure Resting (w : Word) (device : SimulatedSlave) : Prop extends Still w device where
  up : device.online = true

theorem Still.drift (h : Still w device) : Still w device.drift := by
  unfold SimulatedSlave.drift
  rw [h.still]
  exact h

theorem Still.advance {l : Line} (h : Still w l.device) (now : Nat) :
    Still w (l.advance now).device := by
  unfold Line.advance
  dsimp only
  split
  · exact h.drift
  · exact h

theorem pass_sensing {l : Line} (hw : l.Waiting) (hrest : Resting w l.device)
    (hnow : now ≤ l.nowMilliseconds + delta)
    (h : l.Sensing i u delta w) : (l.pass settings i now).Sensing i u delta w := by
  have hup : (l.advance now).device.online = true :=
    (advance_frame now l .setpoint).1.trans hrest.up
  obtain ⟨completed, hpoll, -⟩ := pass_poll settings i now hw
  have hphase :=
    sensorPhase_step hpoll hup (hrest.toStill.advance now).value (hw .measuredTemperature) hnow h
  have honly := pass_only settings i now l
  unfold Line.Sensing
  rw [pass_time]
  exact hphase.congr honly.online honly.nextPollAt honly.temperature

/-- A device in the bus is the device of its line. -/
theorem run_device (settings : Settings) (h : Nondecreasing evs) (i : SlaveIndex) :
    (run simulatedForeignBus settings (start initialSim) evs).bus.slaves i =
      ((Line.start i).run settings i evs).device :=
  congrArg Line.device (run_view settings h i)

/-- The sensor rests at `w`, with the connection up, at every pass after `u`. -/
def RestsFrom (settings : Settings) (i : SlaveIndex) (w : Word) (u : Nat)
    (evs : List (Event FieldEvent)) : Prop :=
  ∀ pre t, pre ++ [.pass t] <+: evs → u < t →
    Resting w ((run simulatedForeignBus settings (start initialSim) pre).bus.slaves i)

theorem restsFrom_earlier {evs' : List (Event FieldEvent)} (h : RestsFrom settings i w u evs)
    (hp : evs' <+: evs) :
    RestsFrom settings i w u evs' := fun pre t hpre => h pre t (hpre.trans hp)

theorem run_sensing (h : Nondecreasing evs) (hgaps : Gaps delta evs) (hfirst : StartedBy u evs)
    (hne : passTimes evs ≠ []) (hrests : RestsFrom settings i w u evs) :
    ((Line.start i).run settings i evs).Sensing i u delta w := by
  induction evs using List.reverseRecOn with
  | nil => exact absurd rfl hne
  | append_singleton evs e ih =>
    have hbefore := nondecreasing_earlier h (List.prefix_append ..)
    have hrests' := restsFrom_earlier hrests (List.prefix_append ..)
    have hgaps' := gaps_earlier hgaps
    have between : passTimes [e] = [] →
        ((Line.start i).run settings i evs).Sensing i u delta w := by
      intro hquiet
      unfold StartedBy at hfirst
      rw [passTimes_concat, hquiet, List.append_nil] at hne hfirst
      exact ih hbefore hgaps' hfirst hne hrests'
    rw [Line.run_concat]
    cases e with
    | set call =>
      obtain ⟨hclock, honline, hnext, -⟩ :=
        command_slave (i := i) ((Line.start i).run settings i evs) (commandOf settings call)
      have htemperature :=
        (command_health (i := i) ((Line.start i).run settings i evs) (commandOf settings call)).2
      have hwire :=
        (command_wire (i := i) ((Line.start i).run settings i evs) (commandOf settings call)).1
      have hsame := between rfl
      unfold Line.Sensing at hsame ⊢
      rw [← hclock, ← hwire] at hsame
      exact hsame.congr honline hnext htemperature
    | outside e => exact between rfl
    | pass now =>
      by_cases hu : now ≤ u
      · have hdated : ((Line.start i).run settings i (evs ++ [.pass now])).Dated i := run_dated h
        rw [Line.run_concat] at hdated
        exact sensing_of_dated hdated ((pass_time settings i now _).trans_le hu)
      · -- A pass after `u` is not the first.
        have hearlier : passTimes evs ≠ [] := by
          intro hnone
          unfold StartedBy at hfirst
          rw [passTimes_concat, hnone] at hfirst
          exact hu (hfirst now rfl)
        have hfirst' : StartedBy u evs := by
          intro first hmem
          apply hfirst first
          rw [passTimes_concat, List.head?_append_of_ne_nil _ hearlier]
          exact hmem
        have hrest := hrests evs now (List.prefix_refl _) (Nat.lt_of_not_le hu)
        have hrest' : Resting w ((Line.start i).run settings i evs).device := by
          rw [← run_device settings hbefore i]
          exact hrest
        exact pass_sensing (run_waiting evs) hrest' (line_clock_gap hbefore hgaps hearlier)
          (ih hbefore hgaps' hfirst' hearlier hrests')

/-! ## A value set by hand -/

/-- The back door pulls slave `i`'s cable or sets its sensor. -/
def disturbs (i : SlaveIndex) : Event FieldEvent → Bool
  | .outside (.setSlaveOnline unitId online) => findSlave unitId = some i && !online
  | .outside (.setPoint unitId table address _) =>
    findPoint unitId address = some i && table = .inputRegister
  | _ => false

theorem Still.deviceAfter (h : Still w device) (now : Nat) (kind : PointKind) (f : Option Flight) :
    Still w (deviceAfter i now kind device f) := by
  unfold Lines.deviceAfter
  cases f with
  | none => exact h
  | some f =>
    dsimp only
    split
    · cases kind <;> exact ⟨h.still, h.value⟩
    · exact h

/-- No pass moves a sensor that does not drift. -/
theorem pass_still (settings : Settings) (now : Nat) {l : Line} (h : Still w l.device) :
    Still w (l.pass settings i now).device := by
  rw [(pass_only settings i now l).device, (poll_only settings i now (l.service i now)).1,
    service_device]
  exact ((h.advance now).deviceAfter now .setpoint _).deviceAfter now .enable _

theorem fieldEffect_resting {e : FieldEvent} (h : disturbs i (.outside e) = false)
    (hrest : Resting w device) :
    Resting w (fieldEffect i device e) := by
  obtain ⟨⟨hstill, hvalue⟩, hup⟩ := hrest
  cases e with
  | setSlaveOnline unitId online =>
    unfold fieldEffect
    dsimp only
    split
    · rename_i hunit
      simp only [disturbs, hunit, decide_true, Bool.true_and, Bool.not_eq_false'] at h
      exact ⟨⟨hstill, hvalue⟩, h⟩
    · exact ⟨⟨hstill, hvalue⟩, hup⟩
  | setPoint unitId table address value =>
    unfold fieldEffect
    dsimp only
    split
    · rename_i hpoint
      simp only [disturbs, hpoint, decide_true, Bool.true_and, decide_eq_false_iff_not] at h
      cases table with
      | inputRegister => exact absurd rfl h
      | holdingRegister => exact ⟨⟨hstill, hvalue⟩, hup⟩
      | coil => exact ⟨⟨hstill, hvalue⟩, hup⟩
    · exact ⟨⟨hstill, hvalue⟩, hup⟩

theorem step_resting (settings : Settings) {l : Line} {e : Event FieldEvent}
    (h : disturbs i e = false) (hrest : Resting w l.device) :
    Resting w (l.step settings i e).device := by
  cases e with
  | set call =>
    have hdevice : (l.command i (commandOf settings call)).device = l.device :=
      (command_wire (i := i) l _).2.1
    exact hdevice ▸ hrest
  | pass now =>
    exact ⟨pass_still settings now hrest.toStill, (pass_sensor settings i now l).1.trans hrest.up⟩
  | outside e => exact fieldEffect_resting h hrest

theorem run_resting (settings : Settings) {l : Line} (h : ∀ e ∈ evs, disturbs i e = false)
    (hrest : Resting w l.device) :
    Resting w (l.run settings i evs).device := by
  induction evs generalizing l with
  | nil => exact hrest
  | cons e evs ih =>
    have hstep := step_resting settings (h e (by simp)) hrest
    exact ih (fun e' he' => h e' (by simp [he'])) hstep

/-- A value the back door sets at a sensor that is up rests there. -/
theorem resting_set (hup : device.online = true) :
    Resting w (fieldEffect i device (.setPoint (slaveUnitId i) .inputRegister 0 w)) := by
  have hpoint : findPoint (slaveUnitId i) 0 = some i := (if_pos rfl).trans (findSlave_slaveUnitId i)
  unfold fieldEffect
  dsimp only
  rw [if_pos hpoint]
  exact ⟨⟨rfl, rfl⟩, hup⟩

/-- A prefix that ends with a pass after everything in `before` goes past `before`. -/
theorem past_before {before rest pre : List (Event FieldEvent)}
    (hbefore : ∀ t' ∈ passTimes before, t' ≤ u)
    (hpre : pre ++ [.pass t] <+: before ++ rest) (hu : u < t) :
    ∃ mid, pre = before ++ mid ∧ mid ++ [.pass t] <+: rest := by
  have hnot : ¬ pre ++ [.pass t] <+: before := by
    intro hearlier
    have hmem : t ∈ passTimes before := by
      apply (List.IsPrefix.filterMap _ hearlier).subset
      simp
    have := hbefore t hmem
    omega
  rcases List.prefix_or_prefix_of_prefix hpre (List.prefix_append before rest) with hp | hp
  · exact absurd hp hnot
  · rcases List.prefix_concat_iff.mp hp with heq | ⟨mid, rfl⟩
    · exact absurd (heq ▸ List.prefix_refl _) hnot
    · rw [List.append_assoc, List.prefix_append_right_inj] at hpre
      exact ⟨mid, rfl, hpre⟩

/-- The back door sets the sensor of a slave whose connection is up, and does not disturb it
    again: it rests there from then on. -/
theorem restsFrom_set {before after : List (Event FieldEvent)}
    (h : Nondecreasing (before ++ .outside (.setPoint (slaveUnitId i) .inputRegister 0 w) :: after))
    (hup :
      ((run simulatedForeignBus settings (start initialSim) before).bus.slaves i).online = true)
    (hundisturbed : ∀ e ∈ after, disturbs i e = false) (hbefore : ∀ t ∈ passTimes before, t ≤ u) :
    RestsFrom settings i w u
      (before ++ .outside (.setPoint (slaveUnitId i) .inputRegister 0 w) :: after) := by
  intro pre t hpre hu
  obtain ⟨mid, rfl, hmid⟩ := past_before hbefore hpre hu
  cases mid with
  | nil => cases (List.cons_prefix_cons.mp hmid).1
  | cons e mid =>
    obtain ⟨rfl, hafter⟩ := List.cons_prefix_cons.mp hmid
    have hdevice :=
      run_device settings (nondecreasing_earlier h ((List.prefix_append ..).trans hpre)) i
    have hup' : ((Line.start i).run settings i before).device.online = true := by
      rw [← run_device settings (nondecreasing_earlier h (List.prefix_append ..)) i]
      exact hup
    have hset : Resting w (((Line.start i).run settings i before).step settings i
        (.outside (.setPoint (slaveUnitId i) .inputRegister 0 w))).device := resting_set hup'
    have hrest := run_resting settings
      (fun e he => hundisturbed e (hafter.subset (List.mem_append_left _ he))) hset
    have hrun : ((Line.start i).run settings i
        (before ++ .outside (.setPoint (slaveUnitId i) .inputRegister 0 w) :: mid)).device =
        ((((Line.start i).run settings i before).step settings i
          (.outside (.setPoint (slaveUnitId i) .inputRegister 0 w))).run
          settings i mid).device := by
      unfold Line.run
      rw [List.foldl_append, List.foldl_cons]
    rw [hdevice, hrun]
    exact hrest

/-! ## What clients read -/

/-- The Present_Value of slave `i`'s Analog Input is `value`, and no object of the slave is at
    fault. -/
structure Serves (settings : Settings) (i : SlaveIndex) (value : ℚ)
    (slaves : SlaveIndex → GatewayedSlave) : Prop where
  presentValue : ∀ p, Names settings p i .measuredTemperature →
    p.propertyIdentifier = PROPERTY_IDENTIFIER_PRESENT_VALUE →
    getPropertyReal settings slaves p = some value
  healthy : ∀ p kind, Names settings p i kind →
    getPropertyEnumerated settings slaves (reliabilityOf p) = some RELIABILITY_NO_FAULT_DETECTED

theorem serves_of_cached {value : ℚ} {slaves : SlaveIndex → GatewayedSlave}
    (honline : (slaves i).online = true) (htemperature : (slaves i).measuredTemperature = value) :
    Serves settings i (Lib.binary32.round value) slaves where
  presentValue := by
    intro p hn hproperty
    have hfind := (findMappedPoint_iff settings p i .measuredTemperature).mpr hn
    unfold getPropertyReal
    rw [hfind]
    dsimp only
    rw [if_pos ⟨rfl, hproperty⟩, htemperature]
  healthy := by
    intro p kind hn
    exact (reliability_answer settings slaves hn).2.mpr honline

theorem cached_of_late (h : Nondecreasing (evs ++ [.pass now]))
    (hgaps : Gaps delta (evs ++ [.pass now])) (hfirst : StartedBy u (evs ++ [.pass now]))
    (hrests : RestsFrom settings i w u (evs ++ [.pass now]))
    (hlate : u + pollPeriodMilliseconds i + latencyMilliseconds i + 2 * delta ≤ now) :
    let slave := (run simulatedForeignBus settings (start initialSim) (evs ++ [.pass now])).slaves i
    slave.online = true ∧ slave.measuredTemperature = Lib.binary64.round (decodeTemperature w) := by
  have hne : passTimes (evs ++ [.pass now]) ≠ [] := by
    rw [passTimes_concat]
    exact List.append_ne_nil_of_right_ne_nil _ (List.cons_ne_nil now [])
  have hphase : ((Line.start i).run settings i (evs ++ [.pass now])).Sensing i u delta w :=
    run_sensing h hgaps hfirst hne hrests
  have hclock : ((Line.start i).run settings i (evs ++ [.pass now])).nowMilliseconds = now := by
    rw [Line.run_concat]
    exact pass_time ..
  obtain ⟨honline, htemperature⟩ := served_of_late hphase (hclock.symm ▸ hlate)
  rw [← run_view settings h i] at honline htemperature
  exact ⟨honline, htemperature⟩

/-- On the simulated bus, with passes at most `delta` apart: if after some time `u`, not before
    the first pass, a slave's connection is up and its sensor rests at `w` at every pass, then
    after every pass at `u + P + L + 2 delta` or later, clients read `w` in degrees as the
    Present_Value of its Analog Input and no fault on any of its objects, whatever the state
    was at `u`. -/
theorem readings_follow (settings : Settings) (i : SlaveIndex) (w : Word) (u delta : Nat)
    (evs : List (Event FieldEvent)) (now : Nat)
    (h : Nondecreasing (evs ++ [.pass now])) (hgaps : Gaps delta (evs ++ [.pass now]))
    (hfirst : StartedBy u (evs ++ [.pass now]))
    (hrests : RestsFrom settings i w u (evs ++ [.pass now]))
    (hlate : u + pollPeriodMilliseconds i + latencyMilliseconds i + 2 * delta ≤ now) :
    Serves settings i (Lib.binary32.round (Lib.binary64.round ((w.toInt : ℚ) / 10)))
      (run simulatedForeignBus settings (start initialSim) (evs ++ [.pass now])).slaves := by
  obtain ⟨honline, htemperature⟩ := cached_of_late h hgaps hfirst hrests hlate
  exact serves_of_cached honline htemperature

/-- Unit 1's sensor, set to 70.0 before the first pass, with a pass every 600 ms. -/
theorem readings_follow_boiler :
    Serves embeddedObjects 0
      (Lib.binary32.round (Lib.binary64.round (((700 : Word).toInt : ℚ) / 10)))
      (run simulatedForeignBus embeddedObjects (start initialSim)
      ([.outside (.setPoint 1 .inputRegister 0 700), .pass 0, .pass 600, .pass 1200] ++
        [.pass 1800])).slaves := by
  have hrests : RestsFrom embeddedObjects 0 700 0
      ([.outside (.setPoint 1 .inputRegister 0 700), .pass 0, .pass 600, .pass 1200] ++
        [.pass 1800]) :=
    @restsFrom_set _ 0 0 700 [] _ (by decide) rfl (by decide) (fun t ht => nomatch ht)
  exact readings_follow embeddedObjects 0 700 0 600 _ 1800 (by decide) (by decide) (by decide)
    hrests (by decide)

end BacnetGateway.Lines
