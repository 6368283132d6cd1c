/-
  BacnetGateway.Lines.Settled — what the gateway believes of an output is true of the
  device.

  `Outlet.Truthful` relates an output's link to its register: what counts as written is
  there, and what is on the wire is what the link says is in flight. Every turn keeps it
  (`turn_truthful`), whatever is commanded, pulled or timed out meanwhile: the simulated
  bus applies a write exactly when it answers it. A turn leaves nothing due behind
  (`turn_quiet`), so at the end of a pass an output with nothing in flight and no retry
  to wait for holds its winning value (`settled_outputs`).
-/

import BacnetGateway.Gateway.Priorities
import BacnetGateway.Lines.Turns

namespace BacnetGateway.Lines

open Seam Gateway Simulation

variable {settings : Settings} {i : SlaveIndex} {k : Output} {now : Nat} {device : SimulatedSlave}
    {online : Bool}
  {value : ℚ} {o o' : Outlet} {l : Line}

/-! ## Commands carry values a point can hold -/

/-- Every set slot and the relinquish default hold valid values. -/
def ValidCommand (k : Output) (command : Commandable) : Prop :=
  (∀ slot v, command.slot slot = some v → ValidValue k v) ∧ ValidValue k command.relinquishDefault

theorem setSlot_valid {command : Commandable} {v : Option ℚ} (h : ValidCommand k command)
    (hv : ∀ q, v = some q → ValidValue k q) (slot : SlotIndex) :
    ValidCommand k (command.setSlot slot v) := by
  refine ⟨fun slot' q hq => ?_, ?_⟩
  · by_cases hs : slot' = slot
    · subst hs
      rw [setSlot_slot] at hq
      exact hv q hq
    · rw [setSlot_slot_ne _ _ hs] at hq
      exact h.1 slot' q hq
  · rw [setSlot_relinquishDefault]
    exact h.2

/-- A coil stores the word of a valid value as it is. -/
theorem stored_encode (h : ValidValue k value) : stored k (encode k value) = encode k value := by
  cases k with
  | setpoint => rfl
  | enable =>
    rcases h with rfl | rfl
    · decide +kernel
    · decide +kernel

/-! ## Links tell the truth -/

structure Outlet.Truthful (k : Output) (o : Outlet) : Prop where
  written : o.link.written = true → o.register = encode k o.link.lastWrittenValue
  flight : ∀ f, o.flight = some f → f.value = encode k o.link.inFlightValue ∧
    stored k f.value = f.value

theorem concludes_truthful (h : Concludes i k now device o o') (ho : o.Truthful k) :
    o'.Truthful k := by
  cases h with
  | free => exact ho
  | answered ha =>
    obtain ⟨h1, h2⟩ := ho.flight _ rfl
    exact ⟨fun _ => h2.trans h1, fun f hf => by cases hf⟩
  | expired ha he => exact ⟨ho.written, fun f hf => by cases hf⟩

theorem turn_truthful (h : WriteTurn i k now device online value o o') (hv : ValidValue k value)
    (ho : o.Truthful k) :
    o'.Truthful k := by
  cases h with
  | pending ha he => exact ho
  | quiet hc hdue => exact concludes_truthful hc ho
  | start hc hdue =>
    refine ⟨(concludes_truthful hc ho).written, fun f hf => ?_⟩
    cases hf
    exact ⟨rfl, stored_encode hv⟩

/-- A turn that leaves nothing in flight leaves nothing due. -/
theorem turn_quiet (h : WriteTurn i k now device online value o o') (hfree : o'.flight = none) :
    ¬ LinkDue online value now o'.link := by
  cases h with
  | pending ha he => cases hfree
  | quiet hc hdue => exact hdue
  | start hc hdue => cases hfree

/-! ## Runs -/

/-- The event writes an output's point behind the gateway's back. -/
def writesOutput : Event FieldEvent → Bool
  | .outside (.setPoint _ table _ _) => table ≠ .inputRegister
  | _ => false

/-- Nothing but the gateway writes the holding registers and coils. -/
def SensorsOnly (evs : List (Event FieldEvent)) : Prop := ∀ e ∈ evs, writesOutput e = false

instance (evs : List (Event FieldEvent)) : Decidable (SensorsOnly evs) :=
  inferInstanceAs (Decidable (∀ e ∈ evs, _))

theorem fieldEffect_point {e : FieldEvent} (h : writesOutput (.outside e) = false)
    (device : SimulatedSlave) (k : Output) :
    (fieldEffect i device e).point k.table = device.point k.table := by
  cases e with
  | setSlaveOnline unitId online =>
    unfold fieldEffect
    dsimp only
    split
    · cases k <;> rfl
    · rfl
  | setPoint unitId table address value =>
    have htable : table = .inputRegister := by simpa [writesOutput] using h
    subst htable
    unfold fieldEffect
    dsimp only
    split
    · cases k <;> rfl
    · rfl

/-- What every run keeps of an output. -/
structure Line.Sound (k : Output) (l : Line) : Prop where
  waiting : l.Waiting
  valid : ValidCommand k (l.slave.command k)
  truthful : (l.outlet k).Truthful k

theorem start_sound (k : Output) : (Line.start i).Sound k where
  waiting := fun kind f hf => by cases hf
  valid := by
    refine ⟨fun slot v hv => ?_, relinquishDefault_valid i k⟩
    cases k <;> cases hv
  truthful := by
    refine ⟨fun hw => ?_, fun f hf => ?_⟩
    · cases k <;> cases hw
    · cases hf

variable (settings i now)

/-- After the poll of a pass the link still tells the truth. -/
theorem polled_truthful (h : l.Sound k) :
    Outlet.Truthful k ⟨(l.polled settings i now).link k, l.wire k.kind,
      l.device.point k.table⟩ := by
  obtain ⟨completed, hturn, -⟩ := pass_poll settings i now h.waiting
  have ho := h.truthful
  rcases polled_link hturn k with hlink | ⟨-, hlink⟩
  · rw [hlink]
    exact ho
  · rw [hlink]
    exact ⟨fun hw => Bool.noConfusion hw, ho.flight⟩

theorem pass_sound (h : l.Sound k) : (l.pass settings i now).Sound k where
  waiting := pass_waiting settings i now h.waiting
  valid := by
    rw [(pass_commands settings i now h.waiting k).2]
    exact h.valid
  truthful := by
    refine turn_truthful (pass_write settings i now h.waiting k) ?_
      (polled_truthful settings i now h)
    rw [(pass_commands settings i now h.waiting k).1]
    exact winningValue_valid h.valid.1 h.valid.2

variable {settings i now}

theorem command_sound (h : l.Sound k) (call : SetCall) :
    (l.command i (commandOf settings call)).Sound k := by
  cases hc : commandOf settings call with
  | none => exact h
  | some c =>
    by_cases hi : c.slave = i
    · subst hi
      rw [Line.command_self]
      have hlink : ∀ command, (l.slave.setCommand c.output command).link k = l.slave.link k :=
        fun command => setCommand_link ..
      refine ⟨h.waiting, ?_, ?_⟩
      · dsimp only
        by_cases hk : k = c.output
        · subst hk
          rw [setCommand_command]
          exact setSlot_valid h.valid (commandOf_valid settings hc) c.slot
        · rw [setCommand_command_ne _ _ hk]
          exact h.valid
      · unfold Line.outlet
        dsimp only
        rw [hlink]
        exact h.truthful
    · rw [Line.command_other _ hi]
      exact h

theorem run_sound {evs : List (Event FieldEvent)} (hs : SensorsOnly evs) (k : Output) :
    ((Line.start i).run settings i evs).Sound k := by
  refine line_invariant (start_sound k) fun e he l h => ?_
  cases e with
  | set call => exact command_sound h call
  | pass now => exact pass_sound settings i now h
  | outside e =>
    refine ⟨h.waiting, h.valid, ?_⟩
    have hregister := fieldEffect_point (i := i) (hs _ he) l.device k
    show Outlet.Truthful k ⟨l.slave.link k, l.wire k.kind, (fieldEffect i l.device e).point k.table⟩
    rw [hregister]
    exact h.truthful

variable (settings i now)

/-- At the end of a pass, an output of a line with nothing in flight and nothing to wait for
    holds its winning value. -/
theorem pass_settled (h : l.Sound k) (honline : (l.pass settings i now).slave.online = true)
    (hfree : (l.pass settings i now).wire k.kind = none)
    (hretry : ((l.pass settings i now).slave.link k).retryAt ≤ now) :
    (l.pass settings i now).device.point k.table =
      encode k (winningValue ((l.pass settings i now).slave.command k)) := by
  have hquiet := turn_quiet (pass_write settings i now h.waiting k) hfree
  have hsame := (pass_only settings i now l).online
  have hcommand := (pass_only settings i now l).command k
  have hwritten : ((l.pass settings i now).slave.link k).written = true ∧
      ((l.pass settings i now).slave.link k).lastWrittenValue =
        winningValue ((l.polled settings i now).command k) := by
    by_contra hnot
    exact hquiet ⟨hsame.symm.trans honline, hretry, hnot⟩
  have hregister := (pass_sound settings i now h).truthful.written hwritten.1
  rw [hcommand]
  exact hregister.trans (congrArg (encode k) hwritten.2)

/-! ## Settled outputs are right -/

/-- On the simulated bus, with nothing but the gateway writing the outputs' points: at the
    end of every pass, an output of a slave believed online, with no write in flight and no
    retry to wait for, has its winning value in the device's register or coil; and what the
    gateway counts as written is what the device holds, whatever is in flight. -/
theorem settled_outputs (settings : Settings) (evs : List (Event FieldEvent)) (now : Nat)
    (h : Nondecreasing (evs ++ [.pass now])) (hs : SensorsOnly evs) (i : SlaveIndex) (k : Output) :
    let s := run simulatedForeignBus settings (start initialSim) (evs ++ [.pass now])
    let link := (s.slaves i).link k
    ((s.slaves i).online = true → link.transactionId = 0 → link.retryAt ≤ now →
        (s.bus.slaves i).point k.table = encode k (winningValue ((s.slaves i).command k))) ∧
      (link.written = true → (s.bus.slaves i).point k.table = encode k link.lastWrittenValue) := by
  intro s link
  have hview : view i s = ((Line.start i).run settings i evs).pass settings i now := by
    rw [run_view settings h, Line.run_concat]
    rfl
  have hsound : ((Line.start i).run settings i evs).Sound k := run_sound hs k
  have hlink : (view i s).slave.link k = { link with transactionId := 0 } := anonymous_link ..
  have hcommand : (view i s).slave.command k = (s.slaves i).command k := anonymous_command ..
  constructor
  · intro honline hid hretry
    have hfree : (view i s).wire k.kind = none := by
      refine if_pos ?_
      show transactionOf (s.slaves i) k.kind = 0
      rw [transactionOf_kind]
      exact hid
    have hsettled := pass_settled settings i now hsound
    rw [← hview, hlink, hcommand] at hsettled
    exact hsettled honline hfree hretry
  · intro hwritten
    have hregister := (pass_sound settings i now hsound).truthful.written
    rw [← hview] at hregister
    unfold Line.outlet at hregister
    rw [hlink] at hregister
    exact hregister hwritten

/-- A command on unit 1's setpoint, written at 0 and answered at 20. -/
def commandedBoiler : List (Event FieldEvent) :=
  [.set (.real boilerSetpoint (.finite 70) 8), .pass 0]

theorem settled_outputs_boiler :
    ((run simulatedForeignBus embeddedObjects (start initialSim)
      (commandedBoiler ++ [.pass 20])).bus.slaves 0).point
      .holdingRegister = 700 :=
  ((settled_outputs embeddedObjects commandedBoiler 20 (by decide) (by decide) 0 .setpoint).1
    (by decide +kernel) (by decide +kernel) (by decide +kernel)).trans (by decide +kernel)

end BacnetGateway.Lines
