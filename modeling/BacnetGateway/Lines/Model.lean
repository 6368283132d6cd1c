/-
  BacnetGateway.Lines.Model — one slave's line: the gateway's record of the slave, its
  device, and what is on the wire between them, with nothing of the other slaves.

  A `Line` has no transaction map and no ids. `wire` says for each of the slave's three
  points what is in flight there; the ids in the record and in the calls are 0. Its steps
  are the gateway's and the simulation's, for this slave alone: `Line.resolve` is a turn
  of the driver's loop, `Line.poll` and `Line.writeThrough` are `ServicePoll` and
  `ServiceWriteThrough`, `Line.pass` is what a pass does to the slave.

  The simulation's map is shared and its loop runs in the order of the ids; that the order
  does not matter to a line is `resolve_comm`.
-/

import BacnetGateway.Simulation.Ownership

namespace BacnetGateway.Lines

open Seam Gateway Simulation

/-- A request on the wire. -/
structure Flight where
  startedAt : Nat
  value : Word
  outcome : Outcome
  deriving DecidableEq

structure Line where
  slave : GatewayedSlave
  wire : PointKind → Option Flight
  device : SimulatedSlave
  nowMilliseconds : Nat
  lastDriftAt : Nat
  /-- Newest first. -/
  log : List Act

variable (settings : Settings) (i : SlaveIndex)

/-! ## The driver's turn -/

/-- Does the device answer the request at `now`? -/
def Answers (now : Nat) (device : SimulatedSlave) (f : Flight) : Prop :=
  f.outcome = .pending ∧ device.online = true ∧ latencyMilliseconds i ≤ now - f.startedAt

instance (now : Nat) (device : SimulatedSlave) (f : Flight) : Decidable (Answers i now device f) :=
  inferInstanceAs (Decidable (_ ∧ _))

/-- Is the request given up at `now`, if the device does not answer? -/
def Expires (now : Nat) (f : Flight) : Prop :=
  f.outcome = .pending ∧ RESPONSE_TIMEOUT_MILLISECONDS ≤ now - f.startedAt

instance (now : Nat) (f : Flight) : Decidable (Expires now f) := inferInstanceAs (Decidable (_ ∧ _))

/-- The answer to a request for a point: the register of a read, or what was written. -/
def answerValue (kind : PointKind) (device : SimulatedSlave) (value : Word) : Word :=
  match kind with
  | .measuredTemperature => device.inputRegister
  | .setpoint | .enable => value

/-- What an answered request does to the device: a write is done. -/
def answerEffect (kind : PointKind) (device : SimulatedSlave) (value : Word) : SimulatedSlave :=
  match kind with
  | .measuredTemperature => device
  | .setpoint | .enable => device.assign (kindTable kind) value

def Flight.next (now : Nat) (kind : PointKind) (device : SimulatedSlave) (f : Flight) : Flight :=
  if Answers i now device f then
    { f with value := answerValue kind device f.value, outcome := .done }
  else if Expires now f then { f with outcome := .timeout }
  else f

def deviceAfter (now : Nat) (kind : PointKind) (device : SimulatedSlave) : Option Flight →
      SimulatedSlave
  | none => device
  | some f => if Answers i now device f then answerEffect kind device f.value else device

/-- A point's turn in the driver's loop. -/
def Line.resolve (now : Nat) (l : Line) (kind : PointKind) : Line :=
  { l with
    wire := Function.update l.wire kind ((l.wire kind).map (Flight.next i now kind l.device))
    device := deviceAfter i now kind l.device (l.wire kind) }

/-- The clock and the drift. -/
def Line.advance (now : Nat) (l : Line) : Line :=
  { l with
    nowMilliseconds := now
    lastDriftAt := if driftDue l.lastDriftAt now then now else driftTimer l.lastDriftAt now
    device := if driftDue l.lastDriftAt now then l.device.drift else l.device }

def pointKinds : List PointKind := [.measuredTemperature, .setpoint, .enable]

def Line.service (now : Nat) (l : Line) : Line :=
  pointKinds.foldl (Line.resolve i now) (l.advance now)

/-! ## The gateway's turn -/

/-- A call, and what is then on the wire for the point it is about. -/
def Line.called (l : Line) (kind : PointKind) (f : Option Flight) (slave : GatewayedSlave)
    (acts : List Act) : Line :=
  { l with
    slave := slave
    wire := Function.update l.wire kind f
    log := acts ++ l.log }

def Line.poll (now : Nat) (l : Line) : Line :=
  match l.wire .measuredTemperature with
  | none =>
    if now < l.slave.nextPollAt then l
    else
      l.called .measuredTemperature (some ⟨l.nowMilliseconds, 0, .pending⟩)
        (pollStarted l.slave (now + pollPeriodMilliseconds i) 0) [.startRead i now 0]
  | some f =>
    match f.outcome with
    | .pending => { l with log := .checkRead i now 0 .pending 0 :: l.log }
    | .done =>
      l.called .measuredTemperature none (pollAnswered l.slave f.value)
        (doneCalls settings.mode i l.slave ++ [.checkRead i now 0 .done f.value])
    | .timeout =>
      l.called .measuredTemperature none (afterTimeout l.slave)
        (timeoutCalls settings.mode i l.slave ++ [.checkRead i now 0 .timeout 0])

def Line.writeWinningValue (k : Output) (now : Nat) (l : Line) : Line :=
  if writeDue l.slave k now then
    let value := winningValue (l.slave.command k)
    l.called k.kind (some ⟨l.nowMilliseconds, encode k value, .pending⟩)
      (l.slave.setLink k (writeStarted (l.slave.link k) 0 value))
        [.startWrite i k now value (encode k value) 0]
  else l

def Line.writeThrough (k : Output) (now : Nat) (l : Line) : Line :=
  match l.wire k.kind with
  | none => l.writeWinningValue i k now
  | some f =>
    match f.outcome with
    | .pending => { l with log := .checkWrite i k now 0 .pending :: l.log }
    | .done =>
      (l.called k.kind none (l.slave.setLink k (writeDone (l.slave.link k)))
        [.checkWrite i k now 0 .done]).writeWinningValue i k now
    | .timeout =>
      (l.called k.kind none
        (l.slave.setLink k (writeFailed (l.slave.link k) (now + pollPeriodMilliseconds i)))
        [.checkWrite i k now 0 .timeout]).writeWinningValue i k now

/-- What a pass does to the line. -/
def Line.pass (now : Nat) (l : Line) : Line :=
  (((l.service i now).poll settings i now).writeThrough i .setpoint now).writeThrough i .enable now

/-! ## Runs -/

/-- What a command does to slave `i`. -/
def Line.command (l : Line) : Option Command → Line
  | some c =>
    if c.slave = i then
      { l with slave :=
        l.slave.setCommand c.output ((l.slave.command c.output).setSlot c.slot c.value) }
    else l
  | none => l

theorem Line.command_self (l : Line) (c : Command) :
    l.command c.slave (some c) =
      { l with slave :=
        l.slave.setCommand c.output ((l.slave.command c.output).setSlot c.slot c.value) } :=
        if_pos rfl

theorem Line.command_other (l : Line) {c : Command} {i : SlaveIndex} (h : c.slave ≠ i) :
    l.command i (some c) = l :=
  if_neg h

/-- What the back door does to slave `i`. -/
def fieldEffect (device : SimulatedSlave) : FieldEvent → SimulatedSlave
  | .setSlaveOnline unitId online =>
    if findSlave unitId = some i then { device with online := online } else device
  | .setPoint unitId table address value =>
    if findPoint unitId address = some i then device.fieldAssign table value else device

def Line.step (l : Line) : Event FieldEvent → Line
  | .set call => l.command i (commandOf settings call)
  | .pass now => l.pass settings i now
  | .outside e => { l with device := fieldEffect i l.device e }

def Line.run (l : Line) (evs : List (Event FieldEvent)) : Line := evs.foldl (Line.step settings i) l

def Line.start : Line := ⟨initialSlave i, fun _ => none, initialSimulatedSlave i, 0, 0, []⟩

theorem Line.run_concat (l : Line) (evs : List (Event FieldEvent)) (e : Event FieldEvent) :
    l.run settings i (evs ++ [e]) = (l.run settings i evs).step settings i e := List.foldl_concat ..

/-! ## The order of the driver's loop -/

theorem answerEffect_frame (kind : PointKind) (device : SimulatedSlave) (value : Word) :
    (answerEffect kind device value).online = device.online ∧
      (answerEffect kind device value).inputRegister = device.inputRegister := by
  cases kind <;> exact ⟨rfl, rfl⟩

theorem deviceAfter_frame (now : Nat) (kind : PointKind) (device : SimulatedSlave)
    (f : Option Flight) :
    (deviceAfter i now kind device f).online = device.online ∧
      (deviceAfter i now kind device f).inputRegister = device.inputRegister := by
  unfold deviceAfter
  cases f with
  | none => exact ⟨rfl, rfl⟩
  | some f =>
    dsimp only
    split
    · exact answerEffect_frame ..
    · exact ⟨rfl, rfl⟩

variable {i}

theorem answers_congr {now : Nat} {device device' : SimulatedSlave} (f : Flight)
    (h : device'.online = device.online) :
    Answers i now device' f ↔ Answers i now device f := by
  unfold Answers
  rw [h]

theorem next_congr {now : Nat} {kind : PointKind} {device device' : SimulatedSlave}
    (honline : device'.online = device.online)
    (hinput : device'.inputRegister = device.inputRegister) :
    Flight.next i now kind device' = Flight.next i now kind device := by
  funext f
  unfold Flight.next
  have hvalue : answerValue kind device' f.value = answerValue kind device f.value := by
    cases kind
    · exact hinput
    · rfl
    · rfl
  by_cases h : Answers i now device f
  · rw [if_pos h, if_pos ((answers_congr f honline).mpr h), hvalue]
  · rw [if_neg h, if_neg (mt (answers_congr f honline).mp h)]

theorem answerEffect_comm {kind kind' : PointKind} (h : kind ≠ kind') (device : SimulatedSlave)
    (v w : Word) :
    answerEffect kind' (answerEffect kind device v) w =
      answerEffect kind (answerEffect kind' device w) v := by
  cases kind <;> cases kind' <;> first | rfl | exact absurd rfl h

theorem deviceAfter_answers {now : Nat} {kind : PointKind} {device : SimulatedSlave} {f : Flight}
    (h : Answers i now device f) :
    deviceAfter i now kind device (some f) = answerEffect kind device f.value := if_pos h

theorem deviceAfter_silent {now : Nat} {kind : PointKind} {device : SimulatedSlave} {f : Flight}
    (h : ¬ Answers i now device f) : deviceAfter i now kind device (some f) = device := if_neg h

theorem deviceAfter_comm {now : Nat} {kind kind' : PointKind} (h : kind ≠ kind')
    (device : SimulatedSlave) (f g : Option Flight) :
    deviceAfter i now kind' (deviceAfter i now kind device f) g =
      deviceAfter i now kind (deviceAfter i now kind' device g) f := by
  have online : ∀ (kind : PointKind) (f : Flight) (v : Word),
      Answers i now (answerEffect kind device v) f ↔ Answers i now device f :=
    fun kind f v => answers_congr f (answerEffect_frame kind device v).1
  rcases f with _ | f
  · rfl
  rcases g with _ | g
  · rfl
  by_cases hf : Answers i now device f
  · rw [deviceAfter_answers hf]
    by_cases hg : Answers i now device g
    · rw [deviceAfter_answers hg, deviceAfter_answers ((online kind g _).mpr hg),
        deviceAfter_answers ((online kind' f _).mpr hf), answerEffect_comm h]
    · rw [deviceAfter_silent hg, deviceAfter_silent (mt (online kind g _).mp hg),
        deviceAfter_answers hf]
  · rw [deviceAfter_silent hf]
    by_cases hg : Answers i now device g
    · rw [deviceAfter_answers hg, deviceAfter_silent (mt (online kind' f _).mp hf)]
    · rw [deviceAfter_silent hg, deviceAfter_silent hf]

/-- Two points' turns commute: a write touches neither the sensor nor the other output. -/
theorem resolve_comm (now : Nat) (l : Line) (kind kind' : PointKind) :
    (l.resolve i now kind).resolve i now kind' = (l.resolve i now kind').resolve i now kind := by
  by_cases h : kind = kind'
  · subst h
    rfl
  · have h' : kind' ≠ kind := Ne.symm h
    unfold Line.resolve
    simp only [Function.update_of_ne h', Function.update_of_ne h]
    obtain ⟨h1, h2⟩ := deviceAfter_frame i now kind l.device (l.wire kind)
    obtain ⟨g1, g2⟩ := deviceAfter_frame i now kind' l.device (l.wire kind')
    rw [next_congr h1 h2, next_congr g1 g2, deviceAfter_comm h, Function.update_comm h]

instance (now : Nat) : RightCommutative (Line.resolve i now) := ⟨resolve_comm now⟩

theorem resolve_none {now : Nat} {l : Line} {kind : PointKind} (h : l.wire kind = none) :
    l.resolve i now kind = l := by
  unfold Line.resolve
  rw [h, Option.map_none, ← h, Function.update_eq_self]
  rw [h]
  rfl

end BacnetGateway.Lines
