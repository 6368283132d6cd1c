/-
  BacnetGateway.Program.Loop — main's loop (`main.cpp`, section 9), over the simulated bus.

  A turn of the loop is a tick of the stack, which calls the set callbacks, a pass of
  `ServiceForeignBus`, a datagram of the simulation's control socket, and a key. What the
  turn meets (the calls, the clock, what `recvfrom` and `read` return) is its `Turn`. What it
  sends on its own is its list of `Output`s; help texts are left out.

  Everything that happens on the bus is an event of a run of the gateway: a loop is a run,
  with the events of `history` (`loop_runs`), so what holds of every run holds of the
  process. The operator's keys touch nothing but the Boiler (`loop_operator`). What a test
  sets is what clients read (`loop_serves_set`).
-/

import BacnetGateway.Lines.Sensor
import BacnetGateway.Simulation.Control

namespace BacnetGateway.Program

open Seam Gateway Simulation Lines

/-! ## Keys -/

inductive KeyCommand where
  | none
  | help
  | quit
  | arrowUp
  | arrowDown
  | demoAdvance
  | writeGroupDemo
  | discoverRemote
  | routerAnnounce
  | metrics
  | simulatedPeerToggle
  | contactToggle
  | forceOpen
  | badgePulse
  deriving DecidableEq

/-- The letters of `PollKey`, in its order. -/
def letterKeys : List (Char × Char × KeyCommand) :=
  [('h', 'H', .help), ('q', 'Q', .quit), ('s', 'S', .demoAdvance), ('w', 'W', .writeGroupDemo),
    ('d', 'D', .discoverRemote),
    ('r', 'R', .routerAnnounce), ('m', 'M', .metrics), ('k', 'K', .simulatedPeerToggle),
    ('o', 'O', .contactToggle), ('f', 'F', .forceOpen), ('p', 'P', .badgePulse)]

def letterKey (c : UInt8) : KeyCommand :=
  match letterKeys.find? fun entry => c = entry.1.toUInt8 ∨ c = entry.2.1.toUInt8 with
  | some entry => entry.2.2
  | none => .none

/-- `PollKey` on what `read` put into its three-octet buffer: nothing, an arrow key's
    ESC [ A or ESC [ B, or a letter; only the first octet is looked at otherwise. -/
def pollKey (buf : List UInt8) : KeyCommand :=
  match buf.take 3 with
  | [] => .none
  | [27, 0x5B, c] => if c = 'A'.toUInt8 then .arrowUp
      else if c = 'B'.toUInt8 then .arrowDown else .none
  | c :: _ => letterKey c

/-! ## The loop -/

/-- `SimulatedForeignBus::FIRST_UNIT_ID`. -/
def FIRST_UNIT_ID : Nat := 1

def isSlaveOnline (unitId : Nat) (s : Sim) : Bool :=
  ((findSlave unitId).map fun i => (s.slaves i).online).getD false

/-- The Boiler's register, moved by so many degrees: an `int16_t` sum, kept to 16 bits. -/
def nudged (degrees : ℚ) (s : Sim) : Word :=
  BitVec.ofInt 16
    (((getPoint FIRST_UNIT_ID .inputRegister pointAddress s).getD 0).toInt +
      truncate (degrees * 10))

def nudgeSimulatedBoiler (degrees : ℚ) (s : Sim) : Sim :=
  setPoint FIRST_UNIT_ID .inputRegister pointAddress (nudged degrees s) s

inductive Output where
  /-- The control socket's reply. -/
  | reply (text : List Char)
  /-- `SendIAm` for the gateway. -/
  | iAm
  | iAmRouterToNetwork
  deriving DecidableEq

/-- What one turn of the loop meets. -/
structure Turn where
  /-- The set callbacks `BACnetStack_Tick` calls. -/
  sets : List SetCall
  now : Nat
  /-- What `recvfrom` returns on the control socket, if that is open and something waits. -/
  datagram : Option (List Char)
  /-- What `read` returns on the standard input. -/
  typed : List UInt8

structure Process where
  sys : Sys Sim
  running : Bool

def serveSet (settings : Settings) (s : Sys Sim) (call : SetCall) : Sys Sim :=
  { s with slaves := (call.result settings s.slaves).slaves }

/-- `SimulationControl::Service`. -/
def serveControl (datagram : Option (List Char)) (s : Sim) : Option (List Char) × Sim :=
  match datagram with
  | none => (none, s)
  | some datagram => controlService datagram s

/-- The `switch` on the key. -/
def serveKey (settings : Settings) (key : KeyCommand) (s : Sim) : List Output × Sim :=
  match key with
  | .arrowUp => ([], nudgeSimulatedBoiler (11 / 10) s)
  | .arrowDown => ([], nudgeSimulatedBoiler (-11 / 10) s)
  | .simulatedPeerToggle => ([], setSlaveOnline FIRST_UNIT_ID (!isSlaveOnline FIRST_UNIT_ID s) s)
  | .routerAnnounce =>
    match settings.mode with
    | .virtualNetwork => ([.iAmRouterToNetwork], s)
    | .embeddedObjects => ([.iAm], s)
  | _ => ([], s)

def turn (settings : Settings) (s : Sys Sim) (t : Turn) : List Output × Process :=
  let s := t.sets.foldl (serveSet settings) s
  let s := serviceForeignBus simulatedForeignBus settings t.now s
  let control := serveControl t.datagram s.bus
  let key := serveKey settings (pollKey t.typed) control.2
  ((control.1.map .reply).toList ++ key.1, ⟨{ s with bus := key.2 }, pollKey t.typed ≠ .quit⟩)

/-- The loop, while it runs, over what its turns meet. -/
def loop (settings : Settings) (p : Process) : List Turn → List Output × Process
  | [] => ([], p)
  | t :: ts =>
    if p.running then
      let now := turn settings p.sys t
      let later := loop settings now.2 ts
      (now.1 ++ later.1, later.2)
    else ([], p)

/-! ## A loop is a run -/

/-- The event of the back door that a datagram is. -/
def controlEvent (datagram : Option (List Char)) : Option FieldEvent :=
  datagram.bind fun text => if text = [] then none
    else commandEvent ((text.take 127).takeWhile (· ≠ Char.ofNat 0))

/-- The event of the back door that a key is. -/
def keyEvent (key : KeyCommand) (s : Sim) : Option FieldEvent :=
  match key with
  | .arrowUp => some (.setPoint FIRST_UNIT_ID .inputRegister pointAddress (nudged (11 / 10) s))
  | .arrowDown => some (.setPoint FIRST_UNIT_ID .inputRegister pointAddress (nudged (-11 / 10) s))
  | .simulatedPeerToggle => some (.setSlaveOnline FIRST_UNIT_ID (!isSlaveOnline FIRST_UNIT_ID s))
  | _ => none

/-- The bus between the control socket's turn and the key's. -/
def busAtKey (settings : Settings) (s : Sys Sim) (t : Turn) : Sim :=
  (serveControl t.datagram
    (serviceForeignBus simulatedForeignBus settings t.now
      (t.sets.foldl (serveSet settings) s)).bus).2

/-- The events of a turn's tick and pass. -/
def Turn.served (t : Turn) : List (Event FieldEvent) := t.sets.map .set ++ [.pass t.now]

def turnEvents (settings : Settings) (s : Sys Sim) (t : Turn) : List (Event FieldEvent) :=
  t.served ++ ((controlEvent t.datagram).toList.map .outside ++
    (keyEvent (pollKey t.typed) (busAtKey settings s t)).toList.map .outside)

def history (settings : Settings) (p : Process) : List Turn → List (Event FieldEvent)
  | [] => []
  | t :: ts =>
    if p.running then turnEvents settings p.sys t ++ history settings (turn settings p.sys t).2 ts
    else []

/-- The turns taken, up to the one that quits. -/
def turnsTaken (running : Bool) : List Turn → List Turn
  | [] => []
  | t :: ts => if running then t :: turnsTaken (pollKey t.typed ≠ .quit) ts else []

variable {settings : Settings} {now : Nat} {evs : List (Event FieldEvent)}

theorem run_sets (s : Sys Sim) (calls : List SetCall) :
    run simulatedForeignBus settings s (calls.map .set) = calls.foldl (serveSet settings) s := by
  unfold run
  rw [List.foldl_map]
  rfl

theorem run_append (s : Sys Sim) (evs evs' : List (Event FieldEvent)) :
    run simulatedForeignBus settings s (evs ++ evs') =
      run simulatedForeignBus settings (run simulatedForeignBus settings s evs) evs' :=
  List.foldl_append ..

theorem run_served (s : Sys Sim) (t : Turn) :
    run simulatedForeignBus settings s t.served =
      serviceForeignBus simulatedForeignBus settings t.now
      (t.sets.foldl (serveSet settings) s) := by
  rw [Turn.served, run_concat, run_sets, step]

theorem run_event (s : Sys Sim) (e : Option FieldEvent) :
    run simulatedForeignBus settings s (e.toList.map .outside) =
      { s with bus := applyEvent e s.bus } := by
  cases e <;> rfl

theorem serveControl_event (datagram : Option (List Char)) (s : Sim) :
    (serveControl datagram s).2 = applyEvent (controlEvent datagram) s := by
  cases datagram with
  | none => rfl
  | some text =>
    by_cases hempty : text = []
    · subst hempty
      rfl
    · have heffect := (runCommand_event ((text.take 127).takeWhile (· ≠ Char.ofNat 0)) s).1
      unfold serveControl controlEvent
      simp only [controlService_eq hempty, Option.bind_some, hempty, if_false]
      exact heffect

theorem serveKey_event (settings : Settings) (key : KeyCommand) (s : Sim) :
    (serveKey settings key s).2 = applyEvent (keyEvent key s) s := by
  cases key with
  | routerAnnounce => cases hmode : settings.mode <;> simp [serveKey, keyEvent, applyEvent, hmode]
  | _ => rfl

theorem turn_runs (s : Sys Sim) (t : Turn) :
    (turn settings s t).2.sys = run simulatedForeignBus settings s (turnEvents settings s t) := by
  unfold turnEvents
  rw [run_append, run_append, run_served, run_event, run_event]
  unfold turn busAtKey
  simp only [serveControl_event, serveKey_event]

theorem turnEvents_times (s : Sys Sim) (t : Turn) :
    passTimes (turnEvents settings s t) = [t.now] := by
  have hsets : passTimes (t.sets.map (Event.set (ε := FieldEvent))) = [] := by
    simp [passTimes, List.filterMap_map]
  have houtside : ∀ e : Option FieldEvent, passTimes (e.toList.map .outside) = [] := by
    intro e
    cases e <;> rfl
  unfold turnEvents Turn.served
  unfold passTimes at hsets houtside ⊢
  simp [hsets, houtside]

theorem loop_sys (p : Process) (ts : List Turn) :
    (loop settings p ts).2.sys =
      run simulatedForeignBus settings p.sys (history settings p ts) := by
  induction ts generalizing p with
  | nil => rfl
  | cons t ts ih =>
    unfold loop history
    cases hrunning : p.running with
    | false => rfl
    | true =>
      simp only [if_true]
      rw [ih, turn_runs, run_append]

theorem loop_times (p : Process) (ts : List Turn) :
    passTimes (history settings p ts) = (turnsTaken p.running ts).map Turn.now := by
  induction ts generalizing p with
  | nil => rfl
  | cons t ts ih =>
    have hhead : passTimes (turnEvents settings p.sys t) = [t.now] := turnEvents_times p.sys t
    unfold history turnsTaken
    cases hrunning : p.running with
    | false => rfl
    | true =>
      have htail := ih (turn settings p.sys t).2
      unfold passTimes at hhead htail ⊢
      simp only [if_true]
      rw [List.filterMap_append, hhead, htail]
      rfl

/-- Keys write no output's point. -/
theorem turnEvents_sensors {t : Turn} (hoff : t.datagram = none) (s : Sys Sim) :
    SensorsOnly (turnEvents settings s t) := by
  intro e he
  unfold turnEvents Turn.served at he
  rw [hoff] at he
  simp only [List.mem_append, List.mem_map, List.mem_singleton] at he
  rcases he with (⟨call, -, rfl⟩ | rfl) | ⟨e, he, rfl⟩ | ⟨e, he, rfl⟩
  · rfl
  · rfl
  · cases he
  · cases hkey : pollKey t.typed <;> rw [hkey] at he
      <;> simp only [keyEvent, Option.toList_some, Option.toList_none, List.mem_singleton,
      List.not_mem_nil] at he <;> subst he <;> rfl

/-- Every loop is a run of the gateway over the simulated bus, with a pass at the clock of each
    turn up to the one that quits; and while the control socket is off, nothing but the gateway
    writes the outputs' points. -/
theorem loop_runs (settings : Settings) (p : Process) (ts : List Turn) :
    (loop settings p ts).2.sys = run simulatedForeignBus settings p.sys (history settings p ts) ∧
      passTimes (history settings p ts) = (turnsTaken p.running ts).map Turn.now ∧
      ((∀ t ∈ ts, t.datagram = none) → SensorsOnly (history settings p ts)) := by
  refine ⟨loop_sys p ts, loop_times p ts, fun hoff => ?_⟩
  induction ts generalizing p with
  | nil =>
    intro e he
    cases he
  | cons t ts ih =>
    intro e he
    unfold history at he
    split at he
    · rcases List.mem_append.mp he with he | he
      · exact turnEvents_sensors (hoff t (by simp)) p.sys e he
      · exact ih _ (fun t' ht' => hoff t' (by simp [ht'])) e he
    · cases he

/-! ## Turns after turns -/

/-- The process when the loop is entered. -/
def startUp : Process := ⟨start initialSim, true⟩

theorem loop_reached (ts : List Turn) :
    (loop settings startUp ts).2.sys =
      run simulatedForeignBus settings (start initialSim) (history settings startUp ts) :=
      loop_sys startUp ts

theorem loop_stopped {p : Process} (h : p.running = false) (ts : List Turn) :
    loop settings p ts = ([], p) := by
  cases ts with
  | nil => rfl
  | cons t ts =>
    unfold loop
    simp [h]

theorem loop_cons {p : Process} (h : p.running = true) (t : Turn) (ts : List Turn) :
    loop settings p (t :: ts) =
      ((turn settings p.sys t).1 ++ (loop settings (turn settings p.sys t).2 ts).1,
        (loop settings (turn settings p.sys t).2 ts).2) := by
  rw [loop, if_pos h]

theorem loop_append (p : Process) (ts ts' : List Turn) :
    loop settings p (ts ++ ts') =
      ((loop settings p ts).1 ++ (loop settings (loop settings p ts).2 ts').1,
        (loop settings (loop settings p ts).2 ts').2) := by
  induction ts generalizing p with
  | nil => rfl
  | cons t ts ih =>
    cases h : p.running with
    | false => simp only [loop_stopped h, List.nil_append]
    | true => rw [List.cons_append, loop_cons h, loop_cons h, ih, List.append_assoc]

theorem history_append (p : Process) (ts ts' : List Turn) :
    history settings p (ts ++ ts') =
      history settings p ts ++ history settings (loop settings p ts).2 ts' := by
  induction ts generalizing p with
  | nil => rfl
  | cons t ts ih =>
    cases h : p.running with
    | false =>
      have hnone : ∀ ts : List Turn, history settings p ts = [] := by
        intro ts
        cases ts with
        | nil => rfl
        | cons t ts =>
          unfold history
          simp [h]
      simp only [loop_stopped h, hnone, List.append_nil]
    | true =>
      rw [List.cons_append, history, history, if_pos h, if_pos h, ih, loop_cons h,
        List.append_assoc]

theorem turnsTaken_earlier (running : Bool) (ts : List Turn) : turnsTaken running ts <+: ts := by
  induction ts generalizing running with
  | nil => exact List.prefix_refl _
  | cons t ts ih =>
    unfold turnsTaken
    split
    · rw [List.cons_prefix_cons]
      exact ⟨rfl, ih _⟩
    · exact List.nil_prefix

/-- The process's clock never runs backwards. -/
theorem history_nondecreasing {ts : List Turn} (h : (ts.map Turn.now).Pairwise (· ≤ ·))
    (p : Process) :
    Nondecreasing (history settings p ts) := by
  unfold Nondecreasing
  rw [loop_times]
  exact h.sublist ((turnsTaken_earlier p.running ts).sublist.map Turn.now)

/-! ## The operator -/

/-- How far a key moves the Boiler's register. -/
def nudge : KeyCommand → Int
  | .arrowUp => 11
  | .arrowDown => -11
  | _ => 0

theorem boiler_point : findPoint FIRST_UNIT_ID pointAddress = some 0 := by decide

theorem boiler_slave : findSlave FIRST_UNIT_ID = some 0 := by decide

theorem nudged_eq (degrees : ℚ) (s : Sim) :
    nudged degrees s = (s.slaves 0).inputRegister + BitVec.ofInt 16 (truncate (degrees * 10)) := by
  unfold nudged getPoint
  rw [boiler_point, Option.map_some, Option.getD_some, BitVec.ofInt_add, BitVec.ofInt_toInt]
  rfl

/-- What an event of the back door does to a device. -/
theorem fieldEvent_slaves (e : FieldEvent) (s : Sim) (i : SlaveIndex) :
    (fieldEvent e s).slaves i = fieldEffect i (s.slaves i) e :=
  congrArg Line.device (outside_view (start s) e i)

/-- What setting the Boiler's sensor does to a device. -/
theorem boilerSet_device (i : SlaveIndex) (s : Sim) (degrees : ℚ) :
    ((nudgeSimulatedBoiler degrees s).slaves i).online = (s.slaves i).online ∧
      ∀ w, Still w (s.slaves i) →
        Still (w + BitVec.ofInt 16 (if i = 0 then truncate (degrees * 10) else 0))
          ((nudgeSimulatedBoiler degrees s).slaves i) := by
  have hset : nudgeSimulatedBoiler degrees s =
    fieldEvent (.setPoint FIRST_UNIT_ID .inputRegister pointAddress (nudged degrees s)) s := rfl
  rw [hset, fieldEvent_slaves]
  unfold fieldEffect
  dsimp only
  rw [boiler_point]
  by_cases hi : i = 0
  · subst hi
    rw [if_pos rfl, if_pos rfl]
    refine ⟨rfl, fun w h => ⟨rfl, ?_⟩⟩
    show nudged degrees s = _
    rw [nudged_eq, h.value]
  · have hne : ¬ some (0 : Fin 3) = some i := by
      intro h
      exact hi (Option.some.inj h).symm
    rw [if_neg hne, if_neg hi]
    refine ⟨rfl, fun w h => ?_⟩
    simpa using h

/-- What a key does to a device. -/
theorem serveKey_device (settings : Settings) (key : KeyCommand) (i : SlaveIndex) (s : Sim) :
    (((serveKey settings key s).2).slaves i).online =
      ((s.slaves i).online ^^ (i = 0 && key = .simulatedPeerToggle)) ∧
      ∀ w, Still w (s.slaves i) →
        Still (w + BitVec.ofInt 16 (if i = 0 then nudge key else 0))
          (((serveKey settings key s).2).slaves i) := by
  have idle : (s.slaves i).online = ((s.slaves i).online ^^ (i = 0 && false)) := by simp
  cases key with
  | arrowUp =>
    have hdegrees : truncate (11 / 10 * 10) = 11 := by decide +kernel
    have hset := boilerSet_device i s (11 / 10)
    rw [hdegrees] at hset
    exact ⟨hset.1.trans idle, hset.2⟩
  | arrowDown =>
    have hdegrees : truncate (-11 / 10 * 10) = -11 := by decide +kernel
    have hset := boilerSet_device i s (-11 / 10)
    rw [hdegrees] at hset
    exact ⟨hset.1.trans idle, hset.2⟩
  | simulatedPeerToggle =>
    have hset : (serveKey settings .simulatedPeerToggle s).2 =
        fieldEvent (.setSlaveOnline FIRST_UNIT_ID (!isSlaveOnline FIRST_UNIT_ID s)) s := rfl
    have honline : isSlaveOnline FIRST_UNIT_ID s = (s.slaves 0).online := by
      unfold isSlaveOnline
      rw [boiler_slave]
      rfl
    rw [hset, fieldEvent_slaves, honline]
    unfold fieldEffect
    dsimp only
    rw [boiler_slave]
    by_cases hi : i = 0
    · subst hi
      rw [if_pos rfl]
      refine ⟨by simp, fun w h => ?_⟩
      have hw : w + BitVec.ofInt 16 (if (0 : Fin 3) = 0 then nudge .simulatedPeerToggle else 0) =
        w := by simp [nudge]
      rw [hw]
      exact ⟨h.still, h.value⟩
    · have hne : ¬ some (0 : Fin 3) = some i := by
        intro h
        exact hi (Option.some.inj h).symm
      rw [if_neg hne]
      refine ⟨by simp [hi], fun w h => ?_⟩
      simpa [hi] using h
  | routerAnnounce => cases hmode : settings.mode <;> simp [serveKey, hmode, nudge]
  | _ => simp [serveKey, nudge]

/-- What the tick and the pass of a turn do to a device. -/
theorem served_device (h : Nondecreasing (evs ++ [.pass now])) (i : SlaveIndex) :
    let before := (run simulatedForeignBus settings (start initialSim) evs).bus.slaves i
    let after :=
      (run simulatedForeignBus settings (start initialSim) (evs ++ [.pass now])).bus.slaves i
    after.online = before.online ∧ ∀ w, Still w before → Still w after := by
  rw [run_device settings h, run_device settings (nondecreasing_earlier h (List.prefix_append ..)),
    Line.run_concat]
  exact ⟨(pass_sensor settings i now _).1, fun w hw => pass_still settings now hw⟩

theorem sets_bus (s : Sys Sim) (calls : List SetCall) :
    (calls.foldl (serveSet settings) s).bus = s.bus := by
  induction calls generalizing s with
  | nil => rfl
  | cons call calls ih => exact ih _

/-- What a turn without a datagram does to a device. -/
theorem turn_device {t : Turn} (h : Nondecreasing (evs ++ t.served)) (hoff : t.datagram = none)
    {s : Sys Sim} (hs : s = run simulatedForeignBus settings (start initialSim) evs)
    (i : SlaveIndex) :
    ((turn settings s t).2.sys.bus.slaves i).online =
      ((s.bus.slaves i).online ^^ (i = 0 && pollKey t.typed = .simulatedPeerToggle)) ∧
      ∀ w, Still w (s.bus.slaves i) →
        Still (w + BitVec.ofInt 16 (if i = 0 then nudge (pollKey t.typed) else 0))
          ((turn settings s t).2.sys.bus.slaves i) := by
  unfold Turn.served at h
  rw [← List.append_assoc] at h
  have hsets : run simulatedForeignBus settings (start initialSim) (evs ++ t.sets.map .set) =
      t.sets.foldl (serveSet settings) s := by
    rw [run_append, run_sets, hs]
  have hserved := @served_device settings _ _ h i
  rw [run_concat, hsets, sets_bus, step] at hserved
  have hbus : busAtKey settings s t =
      (serviceForeignBus simulatedForeignBus settings t.now
        (t.sets.foldl (serveSet settings) s)).bus := by
    rw [busAtKey, hoff, serveControl]
  have hturn : (turn settings s t).2.sys.bus =
      (serveKey settings (pollKey t.typed) (busAtKey settings s t)).2 := by
    unfold turn busAtKey
    rfl
  obtain ⟨honline, hstill⟩ := serveKey_device settings (pollKey t.typed) i (busAtKey settings s t)
  rw [← hturn, hbus] at honline hstill
  constructor
  · rw [honline, hserved.1]
  · intro w hw
    exact hstill w (hserved.2 w hw)

theorem odd_succ (n : Nat) : decide ((n + 1) % 2 = 1) = !decide (n % 2 = 1) := by
  rcases Nat.mod_two_eq_zero_or_one n with h | h
  · rw [Nat.add_mod, h]
    rfl
  · rw [Nat.add_mod, h]
    rfl

theorem loop_devices {ts : List Turn} {p : Process}
    (hp : p.sys = run simulatedForeignBus settings (start initialSim) evs)
    (h : Nondecreasing (evs ++ history settings p ts)) (hoff : ∀ t ∈ ts, t.datagram = none)
    (i : SlaveIndex) :
    ((loop settings p ts).2.sys.bus.slaves i).online =
      ((p.sys.bus.slaves i).online ^^ (i = 0 &&
        (((turnsTaken p.running ts).map fun t => pollKey t.typed).count
          .simulatedPeerToggle % 2 = 1))) ∧
      ∀ w, Still w (p.sys.bus.slaves i) →
        Still (w + BitVec.ofInt 16 (if i = 0 then
            (((turnsTaken p.running ts).map fun t => pollKey t.typed).map nudge).sum
          else 0))
          ((loop settings p ts).2.sys.bus.slaves i) := by
  induction ts generalizing evs p with
  | nil => simp [loop, turnsTaken]
  | cons t ts ih =>
    cases hrunning : p.running with
    | false => simp [loop_stopped hrunning, turnsTaken]
    | true =>
      have hevents : history settings p (t :: ts) =
          turnEvents settings p.sys t ++ history settings (turn settings p.sys t).2 ts := by
        rw [history, if_pos hrunning]
      rw [hevents, ← List.append_assoc] at h
      have hserved : Nondecreasing (evs ++ t.served) := by
        apply nondecreasing_earlier h
        rw [List.append_assoc, List.prefix_append_right_inj, turnEvents, List.append_assoc]
        exact List.prefix_append ..
      have hnext : (turn settings p.sys t).2.sys =
          run simulatedForeignBus settings (start initialSim)
          (evs ++ turnEvents settings p.sys t) := by
        rw [turn_runs, hp, run_append]
      obtain ⟨honline, hstill⟩ := turn_device hserved (hoff t (by simp)) hp i
      obtain ⟨honline', hstill'⟩ := ih hnext h (fun t' ht' => hoff t' (by simp [ht']))
      have htaken : turnsTaken true (t :: ts) =
        t :: turnsTaken (turn settings p.sys t).2.running ts := rfl
      rw [loop_cons hrunning, htaken]
      constructor
      · rw [honline', honline, List.map_cons, List.count_cons, Bool.xor_assoc]
        congr 1
        by_cases hi : i = 0
        · by_cases hkey : pollKey t.typed = .simulatedPeerToggle
          · simp [hi, hkey, odd_succ]
          · simp [hi, hkey]
        · simp [hi]
      · intro w hw
        have hlast := hstill' _ (hstill w hw)
        rw [BitVec.add_assoc, ← BitVec.ofInt_add] at hlast
        rw [List.map_cons, List.map_cons, List.sum_cons]
        by_cases hi : i = 0
        · simpa only [hi, if_true] using hlast
        · simpa only [hi, if_false, Int.add_zero] using hlast

/-- The operator's keys move nothing but the Boiler. From any state of the process, over any
    turns without the control socket: a slave other than the Boiler keeps its connection, and
    its sensor if that does not drift; the Boiler's connection is toggled once for each `k`,
    and its sensor, if it does not drift, moved by 1.1 for each arrow key, modulo 2^16 of its
    register. -/
theorem loop_operator (settings : Settings) (ts ts' : List Turn)
    (hclock : ((ts ++ ts').map Turn.now).Pairwise (· ≤ ·))
    (hoff : ∀ t ∈ ts', t.datagram = none) (i : SlaveIndex) :
    let p := (loop settings startUp ts).2
    let p' := (loop settings p ts').2
    let keys := (turnsTaken p.running ts').map fun t => pollKey t.typed
    (p'.sys.bus.slaves i).online =
      ((p.sys.bus.slaves i).online ^^ (i = 0 && (keys.count .simulatedPeerToggle % 2 = 1))) ∧
      ∀ w, Still w (p.sys.bus.slaves i) →
        Still (w + BitVec.ofInt 16 (if i = 0 then (keys.map nudge).sum else 0))
        (p'.sys.bus.slaves i) := by
  have hnondecreasing : Nondecreasing (history settings startUp (ts ++ ts')) :=
    history_nondecreasing hclock startUp
  rw [history_append] at hnondecreasing
  exact loop_devices (loop_reached ts) hnondecreasing hoff i

def upPressed : List Turn := [⟨[], 0, none, [27, 91, 65]⟩]

def killedAndRaised : List Turn :=
  [⟨[], 1, none, [107]⟩, ⟨[], 2, none, [27, 91, 65]⟩, ⟨[], 3, none, [27, 91, 65]⟩]

/-- An up stops the drift at 66.3; then `k`, and two ups, which move the sensor although the
    connection is down. -/
theorem loop_operator_kills :
    let p := (loop embeddedObjects (loop embeddedObjects startUp upPressed).2 killedAndRaised).2
    (p.sys.bus.slaves 0).online = false ∧ Still 685 (p.sys.bus.slaves 0) := by
  obtain ⟨honline, hstill⟩ :=
    loop_operator embeddedObjects upPressed killedAndRaised (by decide) (by decide) 0
  have hraised := hstill 663 ⟨by decide +kernel, by decide +kernel⟩
  refine ⟨honline.trans (by decide +kernel), ?_⟩
  rwa [show (663 : Word) + BitVec.ofInt 16 _ = 685 by decide +kernel] at hraised

/-! ## A test sets a sensor -/

def moves (key : KeyCommand) : Bool :=
  key = .arrowUp ∨ key = .arrowDown ∨ key = .simulatedPeerToggle

def isBoiler (i : SlaveIndex) : Bool := slaveUnitId i = FIRST_UNIT_ID

/-- A datagram or a key of the turn may touch slave `i`'s sensor or cable. -/
def Turn.touches (i : SlaveIndex) (t : Turn) : Bool :=
  ((controlEvent t.datagram).any fun e => disturbs i (.outside e)) ||
    (isBoiler i && moves (pollKey t.typed))

theorem keyEvent_undisturbed {i : SlaveIndex} {key : KeyCommand}
    (h : (isBoiler i && moves key) = false) (s : Sim) :
    ∀ e ∈ (keyEvent key s).toList, disturbs i (.outside e) = false := by
  intro e he
  by_cases hi : i = 0
  · subst hi
    cases key with
    | arrowUp => cases h
    | arrowDown => cases h
    | simulatedPeerToggle => cases h
    | _ => cases he
  · have hne : ¬ some (0 : Fin 3) = some i := by
      intro heq
      exact hi (Option.some.inj heq).symm
    cases key with
    | arrowUp =>
      obtain rfl := List.mem_singleton.mp he
      simp [disturbs, boiler_point, hne]
    | arrowDown =>
      obtain rfl := List.mem_singleton.mp he
      simp [disturbs, boiler_point, hne]
    | simulatedPeerToggle =>
      obtain rfl := List.mem_singleton.mp he
      simp [disturbs, boiler_slave, hne]
    | _ => cases he

theorem turnEvents_undisturbed {i : SlaveIndex} {t : Turn} (h : t.touches i = false) (s : Sys Sim) :
    ∀ e ∈ turnEvents settings s t, disturbs i e = false := by
  obtain ⟨hcontrol, hkey⟩ := Bool.or_eq_false_iff.mp h
  intro e he
  unfold turnEvents Turn.served at he
  simp only [List.mem_append, List.mem_map, List.mem_singleton] at he
  rcases he with (⟨call, -, rfl⟩ | rfl) | ⟨e, he, rfl⟩ | ⟨e, he, rfl⟩
  · rfl
  · rfl
  · simp only [Option.any_eq_false] at hcontrol
    exact hcontrol e (Option.mem_toList.mp he)
  · exact keyEvent_undisturbed hkey _ e he

theorem history_undisturbed {i : SlaveIndex} {ts : List Turn} (h : ∀ t ∈ ts, t.touches i = false)
    (p : Process) :
    ∀ e ∈ history settings p ts, disturbs i e = false := by
  induction ts generalizing p with
  | nil =>
    intro e he
    cases he
  | cons t ts ih =>
    intro e he
    unfold history at he
    split at he
    · rcases List.mem_append.mp he with he | he
      · exact turnEvents_undisturbed (h t (by simp)) p.sys e he
      · exact ih (fun t' ht' => h t' (by simp [ht'])) _ e he
    · cases he

theorem loop_running {ts : List Turn} (h : ∀ t ∈ ts, pollKey t.typed ≠ .quit) {p : Process}
    (hp : p.running = true) :
    (loop settings p ts).2.running = true := by
  induction ts generalizing p with
  | nil => exact hp
  | cons t ts ih =>
    rw [loop_cons hp]
    exact ih (fun t' ht' => h t' (by simp [ht'])) (decide_eq_true (h t (by simp)))

/-- What the gateway knows after a turn is what it knows after its pass. -/
theorem turn_slaves (s : Sys Sim) (t : Turn) :
    (turn settings s t).2.sys.slaves = (run simulatedForeignBus settings s t.served).slaves := by
  rw [run_served]
  unfold turn
  dsimp only

/-- The connection is up as the tick and the pass of a turn leave it. -/
theorem served_up {t : Turn} {i : SlaveIndex} (h : Nondecreasing (evs ++ t.served))
    (hup : ((run simulatedForeignBus settings (start initialSim) evs).bus.slaves i).online = true) :
    ((run simulatedForeignBus settings (start initialSim) (evs ++ t.served)).bus.slaves i).online =
      true := by
  unfold Turn.served at h ⊢
  rw [← List.append_assoc] at h ⊢
  have hsets : (run simulatedForeignBus settings (start initialSim) (evs ++ t.sets.map .set)).bus =
      (run simulatedForeignBus settings (start initialSim) evs).bus := by
    rw [run_append, run_sets, sets_bus]
  rw [(served_device h i).1, hsets, hup]

/-- The first of some turns is no later than any. -/
theorem first_le {l l' : List Nat} {x y : Nat} (hl : l <+: l') (h : l'.Pairwise (· ≤ ·))
    (hx : x ∈ l.head?) (hy : y ∈ l') : x ≤ y := by
  obtain ⟨rest, rfl⟩ := hl
  cases l with
  | nil => cases hx
  | cons z l =>
    obtain rfl := Option.some.inj hx
    rcases List.mem_cons.mp hy with rfl | hy
    · exact Nat.le_refl _
    · exact List.rel_of_pairwise_cons h hy

/-- A test's setting is an event, and the test gets `ok`. -/
theorem set_event (i : SlaveIndex) {value : Nat} (hvalue : value < 2 ^ 16) (s : Sim) :
    controlEvent (some (CommandLine.set (slaveUnitId i) .inputRegister value 0).text) =
        some (.setPoint (slaveUnitId i) .inputRegister 0 (BitVec.ofNat 16 value)) ∧
      (serveControl (some (CommandLine.set (slaveUnitId i) .inputRegister value 0).text) s).1 =
        some "ok".toList := by
  have hpoint : (findPoint (slaveUnitId i) 0).isSome = true := by
    rw [findPoint, if_pos rfl, findSlave_slaveUnitId]
    rfl
  have hunit : slaveUnitId i < 2 ^ 32 := by
    have := i.isLt
    unfold slaveUnitId
    omega
  have hfits : (CommandLine.set (slaveUnitId i) .inputRegister value 0).Representable :=
    ⟨hunit, by omega, by decide⟩
  constructor
  · unfold controlEvent
    rw [Option.bind_some, if_neg (text_ne_nil _), commandLine_received hfits]
    exact commandEvent_set hvalue hpoint .inputRegister
  · show (controlService _ s).1 = _
    rw [controlService_line hfits, (runCommand_line _ hfits s).done _ (if_pos ⟨hpoint, hvalue⟩)]

/-- The events around a test's setting: nothing after it touches the sensor. -/
theorem history_set {i : SlaveIndex} {value : Nat} (hvalue : value < 2 ^ 16)
    {before after : List Turn} {t : Turn} (hp : (loop settings startUp before).2.running = true)
    (hset : t.datagram = some (CommandLine.set (slaveUnitId i) .inputRegister value 0).text)
    (hkey : (isBoiler i && moves (pollKey t.typed)) = false)
    (hafter : ∀ x ∈ after, x.touches i = false) :
    ∃ rest, history settings startUp (before ++ t :: after) =
      (history settings startUp before ++ t.served) ++
        .outside (.setPoint (slaveUnitId i) .inputRegister 0 (BitVec.ofNat 16 value)) :: rest ∧
          ∀ e ∈ rest, disturbs i e = false := by
  have hevent := (set_event i hvalue initialSim).1
  refine ⟨(keyEvent (pollKey t.typed)
      (busAtKey settings (loop settings startUp before).2.sys t)).toList.map .outside ++
    history settings (turn settings (loop settings startUp before).2.sys t).2 after, ?_,
    fun e he => ?_⟩
  · rw [history_append, history, if_pos hp, turnEvents, hset, hevent]
    simp
  rcases List.mem_append.mp he with he | he
  · obtain ⟨e', he', rfl⟩ := List.mem_map.mp he
    exact keyEvent_undisturbed hkey _ e' he'
  · exact history_undisturbed hafter _ e he

/-- No pass of a run is later than its last. -/
theorem served_le {t : Turn} (h : Nondecreasing (evs ++ t.served)) {t' : Nat}
    (ht' : t' ∈ passTimes (evs ++ t.served)) : t' ≤ t.now := by
  unfold Turn.served at h ht'
  unfold Nondecreasing at h
  rw [← List.append_assoc, passTimes_concat] at h ht'
  rcases List.mem_append.mp ht' with hearlier | hlast
  · exact (List.pairwise_append.mp h).2.2 t' hearlier t.now (List.mem_singleton_self _)
  · exact Nat.le_of_eq (List.mem_singleton.mp hlast)

theorem served_earlier {ts : List Turn} (h : (loop settings startUp ts).2.running = true)
    (last : Turn) :
    history settings startUp ts ++ last.served <+: history settings startUp (ts ++ [last]) := by
  rw [history_append, history, if_pos h, List.prefix_append_right_inj, turnEvents,
    List.append_assoc]
  exact List.prefix_append ..

theorem served_times {ts : List Turn} (h : (loop settings startUp ts).2.running = true)
    (last : Turn) :
    passTimes (history settings startUp ts ++ last.served) <+: (ts ++ [last]).map Turn.now := by
  have htimes : passTimes (history settings startUp (ts ++ [last])) = _ :=
    loop_times startUp (ts ++ [last])
  have hprefix : passTimes (history settings startUp ts ++ last.served) <+:
      passTimes (history settings startUp (ts ++ [last])) :=
    List.IsPrefix.filterMap _ (served_earlier h last)
  rw [htimes] at hprefix
  exact hprefix.trans ((turnsTaken_earlier ..).map _)

/-- The test sets a slave's sensor by the control socket while the slave's connection is up,
    and nothing touches that sensor or cable again. The test gets `ok`; and from a poll period,
    a latency and two gaps between turns later, clients read what it set, without a fault,
    whatever else clients, the test and the operator did before and meanwhile. -/
theorem loop_serves_set (settings : Settings) (i : SlaveIndex) (value delta : Nat)
    (hvalue : value < 2 ^ 16) (before after : List Turn)
    (t last : Turn) (hclock : ((before ++ t :: after ++ [last]).map Turn.now).Pairwise (· ≤ ·))
    (hgaps : ((before ++ t :: after ++ [last]).map Turn.now).IsChain fun a b => b ≤ a + delta)
    (hruns : ∀ x ∈ before ++ t :: after, pollKey x.typed ≠ .quit)
    (hset : t.datagram = some (CommandLine.set (slaveUnitId i) .inputRegister value 0).text)
    (hkey : (isBoiler i && moves (pollKey t.typed)) = false)
    (hup : ((loop settings startUp before).2.sys.bus.slaves i).online = true)
    (hafter : ∀ x ∈ after, x.touches i = false)
    (hlate : t.now + pollPeriodMilliseconds i + latencyMilliseconds i + 2 * delta ≤ last.now) :
    .reply "ok".toList ∈ (loop settings startUp (before ++ t :: after ++ [last])).1 ∧
      Serves settings i
        (Lib.binary32.round (Lib.binary64.round (((BitVec.ofNat 16 value).toInt : ℚ) / 10)))
        (loop settings startUp (before ++ t :: after ++ [last])).2.sys.slaves := by
  have hp : (loop settings startUp before).2.running = true :=
    loop_running (fun x hx => hruns x (List.mem_append_left _ hx)) rfl
  have hq : (loop settings startUp (before ++ t :: after)).2.running = true :=
    loop_running hruns rfl
  constructor
  · -- The reply is among what turn `t` sends.
    have hreply := (set_event i hvalue (serviceForeignBus simulatedForeignBus settings t.now
      (t.sets.foldl (serveSet settings) (loop settings startUp before).2.sys)).bus).2
    rw [List.append_assoc, List.cons_append, loop_append, loop_cons hp]
    refine List.mem_append_right _ (List.mem_append_left _ ?_)
    unfold turn
    dsimp only
    rw [hset, hreply]
    simp
  · have hslaves : (loop settings startUp (before ++ t :: after ++ [last])).2.sys.slaves =
        (run simulatedForeignBus settings (start initialSim)
          (history settings startUp (before ++ t :: after) ++ last.served)).slaves := by
      rw [loop_append, loop_cons hq, run_append, ← loop_reached]
      exact turn_slaves _ last
    have htimes := served_times hq last
    have hnondecreasing : Nondecreasing
      (history settings startUp (before ++ t :: after) ++ last.served) :=
      hclock.sublist htimes.sublist
    have hgaps' : Gaps delta (history settings startUp (before ++ t :: after) ++ last.served) :=
      List.IsChain.prefix hgaps htimes
    have hfirst : StartedBy t.now
        (history settings startUp (before ++ t :: after) ++ last.served) := by
      intro first hmem
      exact first_le htimes hclock hmem (by simp)
    obtain ⟨rest, hevents, hrest⟩ := history_set hvalue hp hset hkey hafter
    have hlast : last.served = last.sets.map .set ++ [.pass last.now] := rfl
    have hbefore : Nondecreasing (history settings startUp before ++ t.served) := by
      apply nondecreasing_earlier hnondecreasing
      rw [hevents, List.append_assoc]
      exact List.prefix_append ..
    rw [hslaves, hlast, ← List.append_assoc]
    rw [hlast, ← List.append_assoc] at hnondecreasing hgaps' hfirst
    suffices hrests : RestsFrom settings i (BitVec.ofNat 16 value) t.now
        (history settings startUp (before ++ t :: after) ++ last.sets.map .set ++
          [.pass last.now]) by
      obtain ⟨honline, htemperature⟩ := cached_of_late hnondecreasing hgaps' hfirst hrests hlate
      exact serves_of_cached honline htemperature
    rw [hevents, List.append_assoc, List.append_assoc, List.cons_append] at hnondecreasing ⊢
    rw [loop_reached] at hup
    refine restsFrom_set hnondecreasing (served_up hbefore hup) ?_ ?_
    · intro e he
      simp only [List.mem_append, List.mem_map, List.mem_singleton] at he
      rcases he with he | ⟨call, -, rfl⟩ | rfl
      · exact hrest e he
      · rfl
      · rfl
    · intro t' ht'
      exact served_le hbefore ht'

/-- A test sets the air handler's sensor to 20.0 in the first turn; a turn every 600 ms. -/
def settingTurn : Turn := ⟨[], 0, some (CommandLine.set 2 .inputRegister 200 0).text, []⟩

def laterTurns : List Turn := [⟨[], 600, none, []⟩, ⟨[], 1200, none, [107]⟩, ⟨[], 1800, none, []⟩]

theorem loop_serves_set_airHandler :
    .reply "ok".toList ∈
      (loop embeddedObjects startUp ([] ++ settingTurn :: laterTurns ++ [⟨[], 2400, none, []⟩])).1 ∧
      Serves embeddedObjects 1
        (Lib.binary32.round (Lib.binary64.round (((BitVec.ofNat 16 200).toInt : ℚ) / 10)))
        (loop embeddedObjects startUp
          ([] ++ settingTurn :: laterTurns ++ [⟨[], 2400, none, []⟩])).2.sys.slaves :=
  loop_serves_set embeddedObjects 1 200 600 (by decide) [] laterTurns settingTurn
    ⟨[], 2400, none, []⟩ (by decide) (by decide) (by decide) rfl rfl rfl (by decide) (by decide)

end BacnetGateway.Program
