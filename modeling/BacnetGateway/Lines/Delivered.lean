/-
  BacnetGateway.Lines.Delivered — a command reaches the device within a bounded time.

  From a time `u` on, the connection is up at every pass and the winning value of an
  output stays `v`. Whatever was going on at `u`, the slave's poll then goes through
  `PollPhase` (wait for the next poll, wait for its answer, believed online) and the
  output through `OutletPhase` (an older write still in flight, held back, `v` in flight,
  settled), and each phase but the last of each ends at a known time. The bound of
  `commands_delivered` is the sum: a poll period, two latencies, and the passes that each
  phase may wait for.
-/

import BacnetGateway.Lines.Settled
import BacnetGateway.Lines.Timing

namespace BacnetGateway.Lines

open Seam Gateway Simulation

variable {settings : Settings} {i : SlaveIndex} {k : Output} {u delta t now : Nat} {v : ℚ}
    {device : SimulatedSlave}

/-! ## The phases -/

/-- The way back to being believed online, at time `t`. -/
inductive PollPhase (i : SlaveIndex) (u delta t : Nat) (slave : GatewayedSlave) :
    Option Flight → Prop where
  | online {f : Option Flight} (honline : slave.online = true) : PollPhase i u delta t slave f
  | asked {f : Flight} (hstarted : f.startedAt ≤ u + pollPeriodMilliseconds i + delta)
      (hlate : t < f.startedAt + latencyMilliseconds i ∨
        t ≤ u) : PollPhase i u delta t slave (some f)
  | waiting (hnext : slave.nextPollAt ≤ u + pollPeriodMilliseconds i)
      (hlate : t < slave.nextPollAt ∨ t ≤ u) :
      PollPhase i u delta t slave none

/-- The way of the value `v` to the device, at time `t`. -/
inductive OutletPhase (i : SlaveIndex) (u delta t : Nat) (v : ℚ) : Outlet → Prop where
  /-- A write from before `u`, of whatever value. -/
  | older {link : WriteThrough} {f : Flight} {register : Word} (hstarted : f.startedAt ≤ u)
      (hretry : link.retryAt ≤ u + pollPeriodMilliseconds i)
        (hlate : t < f.startedAt + latencyMilliseconds i ∨ t ≤ u) :
      OutletPhase i u delta t v ⟨link, some f, register⟩
  /-- Believed offline, or a retry to wait for. -/
  | held {link : WriteThrough} {register : Word}
      (hretry : link.retryAt ≤ u + pollPeriodMilliseconds i)
      (hlate : t < u + pollPeriodMilliseconds i + latencyMilliseconds i + delta) :
      OutletPhase i u delta t v ⟨link, none, register⟩
  | sent {link : WriteThrough} {f : Flight} {register : Word} (hvalue : link.inFlightValue = v)
      (hstarted : f.startedAt ≤ u + pollPeriodMilliseconds i + latencyMilliseconds i + 2 * delta)
      (hlate : t < f.startedAt + latencyMilliseconds i) : OutletPhase i u delta t v
        ⟨link, some f, register⟩
  | settled {link : WriteThrough} {register : Word} (hwritten : link.written = true)
      (hlast : link.lastWrittenValue = v) :
      OutletPhase i u delta t v ⟨link, none, register⟩

/-- A slave not believed online is so for a poll period and a latency at most. -/
theorem offline_until {slave : GatewayedSlave} {f : Option Flight}
    (h : PollPhase i u delta t slave f) (hoff : slave.online = false) :
    t < u + pollPeriodMilliseconds i + latencyMilliseconds i + delta := by
  have hlatency := latency_pos i
  cases h with
  | online honline =>
    rw [hoff] at honline
    cases honline
  | asked hstarted hlate => omega
  | waiting hnext hlate => omega

/-- One turn of the poll with the connection up. -/
theorem pollPhase_step {slave slave' : GatewayedSlave} {f f' : Option Flight}
    {completed : Option Attempt}
    (h : PollTurn i now device slave f completed slave' f') (hup : device.online = true)
    (hpending : ∀ g, f = some g → g.outcome = .pending) (hnow : now ≤ t + delta)
    (hphase : PollPhase i u delta t slave f) : PollPhase i u delta now slave' f' := by
  have hlatency := latency_pos i
  cases h with
  | idle hdue =>
    cases hphase with
    | online honline => exact .online honline
    | waiting hnext hlate => exact .waiting hnext (Or.inl hdue)
  | start hdue =>
    cases hphase with
    | online honline => exact .online honline
    | waiting hnext hlate =>
      refine .asked ?_ (Or.inl ?_)
      · show now ≤ _
        omega
      · show now < now + _
        omega
  | @pending g ha he =>
    cases hphase with
    | online honline => exact .online honline
    | asked hstarted hlate =>
      have hwait : now < g.startedAt + latencyMilliseconds i := by
        by_contra hnot
        exact ha (answers_of_late (hpending g rfl) hup (Nat.le_of_not_lt hnot))
      exact .asked hstarted (Or.inl hwait)
  | answered ha => exact .online rfl
  | expired ha he => exact absurd he (not_expires hup ha)

/-- Nothing in flight and nothing due: settled, or held back for a while yet. -/
theorem outletPhase_quiet {online : Bool} {link : WriteThrough} {register : Word}
    (hdue : ¬ LinkDue online v now link) (hretry : link.retryAt ≤ u + pollPeriodMilliseconds i)
    (hoff : online = false → now < u + pollPeriodMilliseconds i + latencyMilliseconds i + delta) :
    OutletPhase i u delta now v ⟨link, none, register⟩ := by
  by_cases hw : link.written = true ∧ link.lastWrittenValue = v
  · exact .settled hw.1 hw.2
  · refine .held hretry ?_
    cases online with
    | false => exact hoff rfl
    | true =>
      have hblocked : ¬ link.retryAt ≤ now := fun hr => hdue ⟨rfl, hr, hw⟩
      omega

/-- One turn of the output with the connection up and `v` winning. -/
theorem outletPhase_step {online : Bool} {o o' : Outlet}
    (h : WriteTurn i k now device online v o o')
    (hup : device.online = true) (hpending : ∀ g, o.flight = some g → g.outcome = .pending)
    (hnow : now ≤ t + delta)
    (hoff : online = false → now < u + pollPeriodMilliseconds i + latencyMilliseconds i + delta)
    (hphase : OutletPhase i u delta t v o) : OutletPhase i u delta now v o' := by
  have hlatency := latency_pos i
  have sent : ∀ (link : WriteThrough) (register : Word),
      now ≤ u + pollPeriodMilliseconds i + latencyMilliseconds i + 2 * delta →
      OutletPhase i u delta now v ⟨writeStarted link 0 v, some ⟨now, encode k v, .pending⟩,
        register⟩ := by
    intro link register hstarted
    refine .sent rfl hstarted ?_
    show now < now + _
    omega
  cases h with
  | @pending link f register ha he =>
    have hwait : now < f.startedAt + latencyMilliseconds i := by
      by_contra hnot
      exact ha (answers_of_late (hpending f rfl) hup (Nat.le_of_not_lt hnot))
    cases hphase with
    | older hstarted hretry hlate => exact .older hstarted hretry (Or.inl hwait)
    | sent hvalue hstarted hlate => exact .sent hvalue hstarted hwait
  | quiet hc hdue =>
    cases hc with
    | free =>
      cases hphase with
      | held hretry hlate => exact outletPhase_quiet hdue hretry hoff
      | settled hwritten hlast => exact .settled hwritten hlast
    | answered ha =>
      cases hphase with
      | older hstarted hretry hlate => exact outletPhase_quiet hdue hretry hoff
      | sent hvalue hstarted hlate => exact .settled rfl hvalue
    | expired ha he => exact absurd he (not_expires hup ha)
  | start hc hdue =>
    cases hc with
    | free =>
      cases hphase with
      | held hretry hlate => exact sent _ _ (by omega)
      | settled hwritten hlast => exact absurd ⟨hwritten, hlast⟩ hdue.2.2
    | answered ha =>
      cases hphase with
      | older hstarted hretry hlate => exact sent _ _ (by omega)
      | sent hvalue hstarted hlate => exact absurd ⟨rfl, hvalue⟩ hdue.2.2
    | expired ha he => exact absurd he (not_expires hup ha)

/-! ## Runs -/

/-- Where a line stands with the value `v`, at the time of its last pass. -/
structure Line.Delivering (i : SlaveIndex) (k : Output) (u delta : Nat) (v : ℚ)
    (l : Line) : Prop where
  poll : PollPhase i u delta l.nowMilliseconds l.slave (l.wire .measuredTemperature)
  outlet : OutletPhase i u delta l.nowMilliseconds v (l.outlet k)

/-- Up to `u`, whatever the state is. -/
theorem delivering_of_dated {l : Line} (h : l.Dated i) (hu : l.nowMilliseconds ≤ u) :
    l.Delivering i k u delta v := by
  have hlatency := latency_pos i
  have hnext := h.nextPollAt
  have hretry := h.retryAt k
  constructor
  · cases hw : l.wire .measuredTemperature with
    | none => exact .waiting (by omega) (Or.inr hu)
    | some f =>
      have hstarted := h.startedAt _ f hw
      exact .asked (by omega) (Or.inr hu)
  · unfold Line.outlet
    cases hw : l.wire k.kind with
    | none => exact .held (by omega) (by omega)
    | some f =>
      have hstarted := h.startedAt _ f hw
      exact .older (by omega) (by omega) (Or.inr hu)

theorem PollPhase.congr {slave slave' : GatewayedSlave} {f : Option Flight}
    (h : PollPhase i u delta t slave f)
    (honline : slave'.online = slave.online) (hnext : slave'.nextPollAt = slave.nextPollAt) :
    PollPhase i u delta t slave' f := by
  cases h with
  | online hon => exact .online (honline.trans hon)
  | asked hstarted hlate => exact .asked hstarted hlate
  | waiting hn hlate => exact .waiting (hnext ▸ hn) (hnext ▸ hlate)

theorem OutletPhase.congr {link : WriteThrough} {f : Option Flight} {register register' : Word}
    (h : OutletPhase i u delta t v ⟨link, f, register⟩) :
    OutletPhase i u delta t v ⟨link, f, register'⟩ := by
  cases h with
  | older hstarted hretry hlate => exact .older hstarted hretry hlate
  | held hretry hlate => exact .held hretry hlate
  | sent hvalue hstarted hlate => exact .sent hvalue hstarted hlate
  | settled hwritten hlast => exact .settled hwritten hlast

theorem Line.Delivering.congr {l l' : Line} (h : l.Delivering i k u delta v)
    (hclock : l'.nowMilliseconds = l.nowMilliseconds)
    (hwire : l'.wire = l.wire) (honline : l'.slave.online = l.slave.online)
    (hnext : l'.slave.nextPollAt = l.slave.nextPollAt) (hlink : l'.slave.link k = l.slave.link k) :
    l'.Delivering i k u delta v := by
  constructor
  · rw [hclock, hwire]
    exact h.poll.congr honline hnext
  · unfold Line.outlet
    rw [hclock, hwire, hlink]
    exact h.outlet.congr

theorem pass_delivering {l : Line} (hw : l.Waiting) (hup : l.device.online = true)
    (hv : winningValue (l.slave.command k) = v) (hnow : now ≤ l.nowMilliseconds + delta)
    (h : l.Delivering i k u delta v) : (l.pass settings i now).Delivering i k u delta v := by
  have hup' : (l.advance now).device.online = true := (advance_frame now l k).1.trans hup
  obtain ⟨completed, hpoll, -⟩ := pass_poll settings i now hw
  have hphase := pollPhase_step hpoll hup' (hw .measuredTemperature) hnow h.poll
  have hwrite := pass_write settings i now hw k
  rw [polled_link_up hpoll hup', (pass_commands settings i now hw k).1, hv] at hwrite
  have hrest := pass_only settings i now l
  constructor
  · rw [pass_time]
    exact hphase.congr hrest.online hrest.nextPollAt
  · rw [pass_time]
    exact outletPhase_step hwrite hup' (hw k.kind) hnow (offline_until hphase) h.outlet

/-- The connection is up and `v` is the winning value at every pass from `u` on. -/
def Steady (settings : Settings) (i : SlaveIndex) (k : Output) (v : ℚ) (u : Nat)
    (evs : List (Event FieldEvent)) : Prop :=
  ∀ pre t, pre ++ [.pass t] <+: evs → u ≤ t →
    let s := run simulatedForeignBus settings (start initialSim) pre
    (s.bus.slaves i).online = true ∧ winningValue ((s.slaves i).command k) = v

theorem steady_earlier {evs evs' : List (Event FieldEvent)} (h : Steady settings i k v u evs)
    (hp : evs' <+: evs) :
    Steady settings i k v u evs' := fun pre t hpre => h pre t (hpre.trans hp)

/-- The run's first pass is at `u` or before. -/
def StartedBy (u : Nat) (evs : List (Event FieldEvent)) : Prop :=
  ∀ first ∈ (passTimes evs).head?, first ≤ u

instance (u : Nat) (evs : List (Event FieldEvent)) : Decidable (StartedBy u evs) :=
  inferInstanceAs (Decidable (∀ first ∈ (passTimes evs).head?, first ≤ u))

theorem run_delivering {evs : List (Event FieldEvent)} (h : Nondecreasing evs)
    (hgaps : Gaps delta evs)
    (hfirst : StartedBy u evs) (hne : passTimes evs ≠ []) (hsteady : Steady settings i k v u evs) :
    ((Line.start i).run settings i evs).Delivering i k u delta v := by
  induction evs using List.reverseRecOn with
  | nil => exact absurd rfl hne
  | append_singleton evs e ih =>
    have hbefore := nondecreasing_earlier h (List.prefix_append ..)
    have hsteady' := steady_earlier hsteady (List.prefix_append ..)
    have hgaps' := gaps_earlier hgaps
    have between : passTimes [e] = [] →
        ((Line.start i).run settings i evs).Delivering i k u delta v := by
      intro hquiet
      unfold StartedBy at hfirst
      rw [passTimes_concat, hquiet, List.append_nil] at hne hfirst
      exact ih hbefore hgaps' hfirst hne hsteady'
    rw [Line.run_concat]
    cases e with
    | set call =>
      obtain ⟨hclock, honline, hnext, hlink⟩ :=
        command_slave (i := i) ((Line.start i).run settings i evs) (commandOf settings call)
      have hwire :=
        (command_wire (i := i) ((Line.start i).run settings i evs) (commandOf settings call)).1
      exact (between rfl).congr hclock hwire honline hnext (hlink k)
    | outside e => exact (between rfl).congr rfl rfl rfl rfl rfl
    | pass now =>
      by_cases hu : now ≤ u
      · have hdated : ((Line.start i).run settings i (evs ++ [.pass now])).Dated i := run_dated h
        rw [Line.run_concat] at hdated
        exact delivering_of_dated hdated ((pass_time settings i now _).trans_le hu)
      · -- A pass after `u` is not the first.
        have hearlier : passTimes evs ≠ [] := by
          intro hnone
          unfold StartedBy at hfirst
          rw [passTimes_concat, hnone] at hfirst
          exact hu (hfirst now rfl)
        have hfirst' : StartedBy u evs := by
          intro first hmem
          refine hfirst first ?_
          rw [passTimes_concat, List.head?_append_of_ne_nil _ hearlier]
          exact hmem
        obtain ⟨hup, hv⟩ := hsteady evs now (List.prefix_refl _) (Nat.le_of_not_le hu)
        have hview := run_view settings hbefore i
        have hup' : ((Line.start i).run settings i evs).device.online = true := hview ▸ hup
        have hv' : winningValue (((Line.start i).run settings i evs).slave.command k) = v := by
          rw [← hview]
          exact (congrArg winningValue (anonymous_command ..)).trans hv
        exact pass_delivering (run_waiting evs) hup' hv' (line_clock_gap hbefore hgaps hearlier)
          (ih hbefore hgaps' hfirst' hearlier hsteady')

/-- A poll period, two latencies and three gaps after `u`, `v` is settled. -/
theorem settled_of_late {o : Outlet} (h : OutletPhase i u delta t v o)
    (hlate : u + pollPeriodMilliseconds i + 2 * latencyMilliseconds i + 3 * delta ≤ t) :
    o.link.written = true ∧ o.link.lastWrittenValue = v := by
  have hlatency := latency_pos i
  cases h with
  | older hstarted hretry hwait => omega
  | held hretry hwait => omega
  | sent hvalue hstarted hwait => omega
  | settled hwritten hlast => exact ⟨hwritten, hlast⟩

/-! ## Commands are delivered -/

/-- On the simulated bus, with passes at most `delta` apart and nothing but the gateway
    writing the outputs' points: if from some time `u` after the first pass the slave's
    connection is up at every pass and the winning value of an output stays `v`, then at
    the end of every pass at `u + P + 2 L + 3 delta` or later, the device holds the
    encoding of `v`, whatever the state was at `u`. -/
theorem commands_delivered (settings : Settings) (i : SlaveIndex) (k : Output) (v : ℚ)
    (u delta : Nat)
    (evs : List (Event FieldEvent)) (now : Nat) (h : Nondecreasing (evs ++ [.pass now]))
    (hgaps : Gaps delta (evs ++ [.pass now])) (hs : SensorsOnly evs)
    (hfirst : StartedBy u (evs ++ [.pass now]))
    (hsteady : Steady settings i k v u (evs ++ [.pass now]))
    (hlate : u + pollPeriodMilliseconds i + 2 * latencyMilliseconds i + 3 * delta ≤ now) :
    ((run simulatedForeignBus settings (start initialSim) (evs ++ [.pass now])).bus.slaves i).point
      k.table = encode k v := by
  have hne : passTimes (evs ++ [.pass now]) ≠ [] := by
    rw [passTimes_concat]
    exact List.append_ne_nil_of_right_ne_nil _ (List.cons_ne_nil now [])
  have hd := run_delivering (i := i) h hgaps hfirst hne hsteady
  have hline : (Line.start i).run settings i (evs ++ [.pass now]) =
      ((Line.start i).run settings i evs).pass settings i now :=
    Line.run_concat ..
  rw [hline] at hd
  have hphase := hd.outlet
  rw [pass_time] at hphase
  obtain ⟨hwritten, hlast⟩ := settled_of_late hphase hlate
  have hsound : ((Line.start i).run settings i evs).Sound k := run_sound hs k
  have hregister := (pass_sound settings i now hsound).truthful.written hwritten
  rw [hlast, ← hline, ← run_view settings h] at hregister
  exact hregister

/-- Unit 1's setpoint, commanded before the first pass, with a pass every 600 ms. -/
theorem commands_delivered_boiler :
    ((run simulatedForeignBus embeddedObjects (start initialSim)
        (commandedBoiler ++ [.pass 600, .pass 1200, .pass 1800] ++
          [.pass 2340])).bus.slaves 0).point (Output.table .setpoint) = 700 := by
  have hsteady : Steady embeddedObjects 0 .setpoint 70 0
      (commandedBoiler ++ [.pass 600, .pass 1200, .pass 1800] ++ [.pass 2340]) := by
    intro pre t hpre _
    simp only [commandedBoiler, List.cons_append, List.nil_append, Lib.concat_prefix_cons,
      List.prefix_nil] at hpre
    rcases hpre with ⟨-, h⟩ | ⟨_, rfl,
      ⟨rfl, -⟩ | ⟨_, rfl,
        ⟨rfl, -⟩ | ⟨_, rfl, ⟨rfl, -⟩ | ⟨_, rfl, ⟨rfl, -⟩ | ⟨_, rfl, ⟨rfl, -⟩ | h⟩⟩⟩⟩⟩
    · cases h
    all_goals first | decide +kernel | simp at h
  have hdelivered := commands_delivered embeddedObjects 0 .setpoint 70 0 600
    (commandedBoiler ++ [.pass 600, .pass 1200, .pass 1800]) 2340 (by decide +kernel)
      (by decide +kernel) (by decide)
    (by decide) hsteady (by decide)
  rw [hdelivered]
  decide +kernel

end BacnetGateway.Lines
