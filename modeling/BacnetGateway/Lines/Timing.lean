/-
  BacnetGateway.Lines.Timing — the times a line remembers.

  A line's clock is the time of the last pass. `Line.Dated` bounds every other time it
  holds by that clock: the start of a request by the clock itself, the next poll and the
  retry of a write by one poll period after it. A device whose connection is up answers
  before the response timeout, so no request to it expires (`not_expires`), however late
  the pass is.
-/

import BacnetGateway.Lines.Turns

namespace BacnetGateway.Lines

open Seam Gateway Simulation

variable {settings : Settings} {i : SlaveIndex} {now : Nat} {device : SimulatedSlave} {l : Line}
  {evs : List (Event FieldEvent)}

/-! ## A connection that is up -/

/-- The response timeout is longer than any latency. -/
theorem not_expires {f : Flight} (honline : device.online = true) (ha : ¬ Answers i now device f) :
    ¬ Expires now f := by
  intro he
  have hlatency := latency_lt i
  refine ha ⟨he.1, honline, ?_⟩
  have := he.2
  omega

/-- A device that is up answers a request a latency after it was sent. -/
theorem answers_of_late {f : Flight} (hpending : f.outcome = .pending)
    (honline : device.online = true)
    (hlate : f.startedAt + latencyMilliseconds i ≤ now) : Answers i now device f :=
  ⟨hpending, honline, by omega⟩

/-- With the connection up, the poll changes no link. -/
theorem polled_link_up {slave slave' : GatewayedSlave} {f f' : Option Flight}
    {completed : Option Attempt}
    (h : PollTurn i now device slave f completed slave' f') (hup : device.online = true)
    (k : Output) :
    slave'.link k = slave.link k := by
  cases h with
  | expired ha he => exact absurd he (not_expires hup ha)
  | _ => cases k <;> rfl

/-! ## The clock -/

theorem pass_time (settings : Settings) (i : SlaveIndex) (now : Nat) (l : Line) :
    (l.pass settings i now).nowMilliseconds = now :=
  (pass_only settings i now l).clock.trans (poll_only settings i now (l.service i now)).2.1

theorem line_clock (h : Nondecreasing evs) :
    ((Line.start i).run settings i evs).nowMilliseconds = (passTimes evs).getLast?.getD 0 := by
  rw [← run_view settings h]
  exact run_clock settings evs

/-- A pass comes no earlier than the line's clock says. -/
theorem line_clock_le (h : Nondecreasing (evs ++ [.pass now])) :
    ((Line.start i).run settings i evs).nowMilliseconds ≤ now := by
  rw [← run_view settings (nondecreasing_earlier h (List.prefix_append ..))]
  exact clock_le settings h

/-- Unless it is the first, a pass comes within the gap after the line's clock. -/
theorem line_clock_gap {delta : Nat} (h : Nondecreasing evs)
    (hgaps : Gaps delta (evs ++ [.pass now])) (hne : passTimes evs ≠ []) :
    now ≤ ((Line.start i).run settings i evs).nowMilliseconds + delta := by
  rw [line_clock h]
  unfold Gaps at hgaps
  rw [passTimes_concat] at hgaps
  have hlast := (List.isChain_append.mp hgaps).2.2
  cases ht : (passTimes evs).getLast? with
  | none => exact absurd (List.getLast?_eq_none_iff.mp ht) hne
  | some t => exact hlast t ht now rfl

theorem gaps_earlier {delta : Nat} {e : Event FieldEvent} (h : Gaps delta (evs ++ [e])) :
    Gaps delta evs := by
  unfold Gaps at h ⊢
  rw [passTimes_concat] at h
  exact (List.isChain_append.mp h).1

/-! ## Every time is near the clock -/

structure Line.Dated (i : SlaveIndex) (l : Line) : Prop where
  nextPollAt : l.slave.nextPollAt ≤ l.nowMilliseconds + pollPeriodMilliseconds i
  retryAt : ∀ k, (l.slave.link k).retryAt ≤ l.nowMilliseconds + pollPeriodMilliseconds i
  startedAt : ∀ kind f, l.wire kind = some f → f.startedAt ≤ l.nowMilliseconds

theorem start_dated : (Line.start i).Dated i where
  nextPollAt := Nat.zero_le _
  retryAt := fun k => by cases k <;> exact Nat.zero_le _
  startedAt := fun kind f hf => by cases hf

theorem poll_dated {t : Nat} {slave slave' : GatewayedSlave} {f f' : Option Flight}
    {completed : Option Attempt}
    (h : PollTurn i now device slave f completed slave' f') (ht : t ≤ now)
    (hnext : slave.nextPollAt ≤ t + pollPeriodMilliseconds i)
    (hf : ∀ g, f = some g → g.startedAt ≤ t) :
    slave'.nextPollAt ≤ now + pollPeriodMilliseconds i ∧ ∀ g, f' = some g → g.startedAt ≤ now := by
  cases h with
  | idle hdue => exact ⟨by omega, fun g hg => by cases hg⟩
  | start hdue =>
    refine ⟨Nat.le_refl _, fun g hg => ?_⟩
    cases hg
    exact Nat.le_refl _
  | pending ha he => exact ⟨by omega, fun g hg => Nat.le_trans (hf g hg) ht⟩
  | answered ha =>
    refine ⟨?_, fun g hg => by cases hg⟩
    show slave.nextPollAt ≤ _
    omega
  | expired ha he =>
    refine ⟨?_, fun g hg => by cases hg⟩
    unfold afterTimeout
    split
    · show slave.nextPollAt ≤ _
      omega
    · show slave.nextPollAt ≤ _
      omega

theorem concludes_retryAt {k : Output} {o o' : Outlet} (h : Concludes i k now device o o') {t : Nat}
    (ht : t ≤ now) (hr : o.link.retryAt ≤ t + pollPeriodMilliseconds i) :
    o'.link.retryAt ≤ now + pollPeriodMilliseconds i := by
  cases h with
  | free => omega
  | answered ha => exact Nat.le_trans hr (by omega)
  | expired ha he => exact Nat.le_refl _

theorem write_dated {k : Output} {online : Bool} {value : ℚ} {o o' : Outlet} {t : Nat}
    (h : WriteTurn i k now device online value o o') (ht : t ≤ now)
    (hr : o.link.retryAt ≤ t + pollPeriodMilliseconds i)
    (hf : ∀ g, o.flight = some g → g.startedAt ≤ t) :
    o'.link.retryAt ≤ now + pollPeriodMilliseconds i ∧ ∀ g, o'.flight = some g →
      g.startedAt ≤ now := by
  cases h with
  | pending ha he => exact ⟨by omega, fun g hg => Nat.le_trans (hf g hg) ht⟩
  | quiet hc hdue => exact ⟨concludes_retryAt hc ht hr, fun g hg => by cases hg⟩
  | start hc hdue =>
    have hretry := concludes_retryAt hc ht hr
    refine ⟨hretry, fun g hg => ?_⟩
    cases hg
    exact Nat.le_refl _

theorem polled_retryAt {slave slave' : GatewayedSlave} {f f' : Option Flight}
    {completed : Option Attempt}
    (h : PollTurn i now device slave f completed slave' f') (k : Output) :
    (slave'.link k).retryAt = (slave.link k).retryAt := by
  rcases polled_link h k with hlink | ⟨-, hlink⟩ <;> rw [hlink]

theorem pass_dated (hw : l.Waiting) (h : l.Dated i) (hnow : l.nowMilliseconds ≤ now) :
    (l.pass settings i now).Dated i := by
  obtain ⟨completed, hpoll, -⟩ := pass_poll settings i now hw
  obtain ⟨hnext, hpolls⟩ := poll_dated hpoll hnow h.nextPollAt (h.startedAt .measuredTemperature)
  have houtput : ∀ k : Output, ((l.pass settings i now).slave.link k).retryAt ≤
    now + pollPeriodMilliseconds i ∧
      ∀ g, (l.pass settings i now).wire k.kind = some g → g.startedAt ≤ now := by
    intro k
    refine write_dated (pass_write settings i now hw k) hnow ?_ (h.startedAt k.kind)
    rw [polled_retryAt hpoll k]
    exact h.retryAt k
  refine ⟨?_, fun k => ?_, fun kind f hf => ?_⟩
  · rw [(pass_only settings i now l).nextPollAt, pass_time]
    exact hnext
  · rw [pass_time]
    exact (houtput k).1
  · rw [pass_time]
    cases kind with
    | measuredTemperature => exact hpolls f hf
    | setpoint => exact (houtput .setpoint).2 f hf
    | enable => exact (houtput .enable).2 f hf

/-- A command changes of a line only the command it is about. -/
theorem command_slave (l : Line) (c : Option Command) :
    (l.command i c).nowMilliseconds = l.nowMilliseconds ∧
    (l.command i c).slave.online = l.slave.online ∧
      (l.command i c).slave.nextPollAt = l.slave.nextPollAt ∧
      ∀ k, (l.command i c).slave.link k = l.slave.link k := by
  unfold Line.command
  cases c with
  | none => exact ⟨rfl, rfl, rfl, fun _ => rfl⟩
  | some c =>
    dsimp only
    split
    · exact ⟨rfl, setCommand_online .., setCommand_nextPollAt .., fun k => setCommand_link ..⟩
    · exact ⟨rfl, rfl, rfl, fun _ => rfl⟩

theorem run_dated (h : Nondecreasing evs) : ((Line.start i).run settings i evs).Dated i := by
  induction evs using List.reverseRecOn with
  | nil => exact start_dated
  | append_singleton evs e ih =>
    have hbefore := ih (nondecreasing_earlier h (List.prefix_append ..))
    rw [Line.run_concat]
    cases e with
    | set call =>
      obtain ⟨hclock, -, hnext, hlink⟩ :=
        command_slave (i := i) ((Line.start i).run settings i evs) (commandOf settings call)
      have hwire :=
        (command_wire (i := i) ((Line.start i).run settings i evs) (commandOf settings call)).1
      refine ⟨?_, fun k => ?_, fun kind f hf => ?_⟩
      · exact hnext.trans_le (hclock.symm ▸ hbefore.nextPollAt)
      · exact (congrArg WriteThrough.retryAt (hlink k)).trans_le (hclock.symm ▸ hbefore.retryAt k)
      · exact hclock.symm ▸ hbefore.startedAt kind f ((congrFun hwire kind).symm.trans hf)
    | pass now => exact pass_dated (run_waiting evs) hbefore (line_clock_le h)
    | outside e => exact ⟨hbefore.nextPollAt, hbefore.retryAt, hbefore.startedAt⟩

end BacnetGateway.Lines
