/-
  BacnetGateway.Lines.Turns — what a pass does to a line, case by case.

  A pass gives each of the slave's conversations one turn. `PollTurn` says everything a
  turn can do to the poll, with the completed poll it adds to the history; `WriteTurn`
  says everything a turn can do to one output: its link, its write on the wire and its
  register. `pass_poll` and `pass_write` are the only places that unfold a pass; every
  invariant of a line is a case analysis of the two.
-/

import BacnetGateway.Lines.Refine
import BacnetGateway.Gateway.Faults

namespace BacnetGateway.Lines

open Seam Gateway Simulation

variable (settings : Settings) (i : SlaveIndex)

/-! ## The turns -/

/-- What register or coil `k` holds once `word` is written to it. -/
def stored (k : Output) (word : Word) : Word :=
  match k with
  | .setpoint => word
  | .enable => if word = 0 then 0 else 1

/-- One output's side of a line. -/
structure Outlet where
  link : WriteThrough
  flight : Option Flight
  register : Word

def Line.outlet (l : Line) (k : Output) : Outlet :=
  ⟨l.slave.link k, l.wire k.kind, l.device.point k.table⟩

/-- The poll's turn: the record, what is in flight, and the poll it completes. -/
inductive PollTurn (now : Nat) (device : SimulatedSlave) :
    GatewayedSlave → Option Flight → Option Attempt → GatewayedSlave → Option Flight → Prop where
  | idle {slave : GatewayedSlave} (hdue : now < slave.nextPollAt) : PollTurn now device slave none
      none slave none
  | start {slave : GatewayedSlave} (hdue : slave.nextPollAt ≤ now) :
      PollTurn now device slave none none (pollStarted slave (now + pollPeriodMilliseconds i) 0)
        (some ⟨now, 0, .pending⟩)
  | pending {slave : GatewayedSlave} {f : Flight} (ha : ¬ Answers i now device f)
      (he : ¬ Expires now f) :
      PollTurn now device slave (some f) none slave (some f)
  | answered {slave : GatewayedSlave} {f : Flight} (ha : Answers i now device f) :
      PollTurn now device slave (some f) (some .answered)
        (pollAnswered slave device.inputRegister) none
  | expired {slave : GatewayedSlave} {f : Flight} (ha : ¬ Answers i now device f)
      (he : Expires now f) :
      PollTurn now device slave (some f) (some .timedOut) (afterTimeout slave) none

/-- A write's turn up to its completion. -/
inductive Concludes (k : Output) (now : Nat) (device : SimulatedSlave) :
    Outlet → Outlet → Prop where
  | free {link : WriteThrough} {register : Word} :
      Concludes k now device ⟨link, none, register⟩ ⟨link, none, register⟩
  | answered {link : WriteThrough} {f : Flight} {register : Word} (ha : Answers i now device f) :
      Concludes k now device ⟨link, some f, register⟩ ⟨writeDone link, none, stored k f.value⟩
  | expired {link : WriteThrough} {f : Flight} {register : Word} (ha : ¬ Answers i now device f)
      (he : Expires now f) :
      Concludes k now device
        ⟨link, some f, register⟩ ⟨writeFailed link (now + pollPeriodMilliseconds i), none, register⟩

/-- Is `value` to be written at `now`? -/
def LinkDue (online : Bool) (value : ℚ) (now : Nat) (link : WriteThrough) : Prop :=
  online = true ∧ link.retryAt ≤ now ∧ ¬ (link.written = true ∧ link.lastWrittenValue = value)

/-- An output's turn, for the belief `online` and the winning value `value`. -/
inductive WriteTurn (k : Output) (now : Nat) (device : SimulatedSlave) (online : Bool) (value : ℚ) :
    Outlet → Outlet → Prop where
  | pending {link : WriteThrough} {f : Flight} {register : Word} (ha : ¬ Answers i now device f)
      (he : ¬ Expires now f) :
      WriteTurn k now device online value ⟨link, some f, register⟩ ⟨link, some f, register⟩
  | quiet {o : Outlet} {link : WriteThrough} {register : Word}
      (hc : Concludes i k now device o ⟨link, none, register⟩)
      (hdue : ¬ LinkDue online value now link) : WriteTurn k now device online value o
        ⟨link, none, register⟩
  | start {o : Outlet} {link : WriteThrough} {register : Word}
      (hc : Concludes i k now device o ⟨link, none, register⟩)
      (hdue : LinkDue online value now link) :
      WriteTurn k now device online value o ⟨writeStarted link 0 value,
        some ⟨now, encode k value, .pending⟩, register⟩

/-! ## A pass gives every conversation its turn -/

/-- Nothing on the wire has been answered or given up yet. -/
def Line.Waiting (l : Line) : Prop := ∀ kind f, l.wire kind = some f → f.outcome = .pending

/-- The polls completed on a line, newest first. -/
def Line.polls (l : Line) : List Attempt := completedPolls (pollAttempts l.log)

/-- The record between the poll and the writes of a pass. -/
def Line.polled (now : Nat) (l : Line) : GatewayedSlave :=
  ((l.service i now).poll settings i now).slave

/-! ### The driver -/

/-- What an output's register holds after its turn in the driver's loop. -/
def registerAfter (k : Output) (now : Nat) (device : SimulatedSlave) (f : Option Flight)
    (register : Word) : Word :=
  match f with
  | some f => if Answers i now device f then stored k f.value else register
  | none => register

theorem registerAfter_congr {k : Output} {now : Nat} {device device' : SimulatedSlave}
    (f : Option Flight) {register : Word} (h : device'.online = device.online) :
    registerAfter i k now device' f register = registerAfter i k now device f register := by
  unfold registerAfter
  cases f with
  | none => rfl
  | some f => simp only [answers_congr f h]

theorem drift_frame (device : SimulatedSlave) (k : Output) :
    device.drift.online = device.online ∧ device.drift.point k.table = device.point k.table := by
  unfold SimulatedSlave.drift
  split
  · cases k <;> exact ⟨rfl, rfl⟩
  · exact ⟨rfl, rfl⟩

theorem advance_frame (now : Nat) (l : Line) (k : Output) :
    (l.advance now).device.online = l.device.online ∧
      (l.advance now).device.point k.table = l.device.point k.table := by
  unfold Line.advance
  dsimp only
  split
  · exact drift_frame l.device k
  · exact ⟨rfl, rfl⟩

theorem deviceAfter_point (now : Nat) (k : Output) (device : SimulatedSlave) (f : Option Flight) :
    (deviceAfter i now k.kind device f).point k.table =
      registerAfter i k now device f (device.point k.table) := by
  unfold deviceAfter registerAfter
  cases f with
  | none => rfl
  | some f =>
    dsimp only
    split
    · cases k <;> rfl
    · rfl

theorem deviceAfter_point_ne (now : Nat) {kind : PointKind} {k : Output} (h : kind ≠ k.kind)
    (device : SimulatedSlave) (f : Option Flight) :
    (deviceAfter i now kind device f).point k.table = device.point k.table := by
  unfold deviceAfter
  cases f with
  | none => rfl
  | some f =>
    dsimp only
    split
    · cases kind <;> cases k <;> first | rfl | exact absurd rfl h
    · rfl

/-- An answered poll leaves the device as it is. -/
theorem deviceAfter_poll (now : Nat) (device : SimulatedSlave) (f : Option Flight) :
    deviceAfter i now .measuredTemperature device f = device := by
  unfold deviceAfter
  cases f with
  | none => rfl
  | some f => exact ite_self _

theorem service_wire (now : Nat) (l : Line) (kind : PointKind) :
    (l.service i now).wire kind =
      (l.wire kind).map (Flight.next i now kind (l.advance now).device) := by
  have resolved : ∀ (m : Line) (kind kind' : PointKind), kind' ≠ kind →
      (m.resolve i now kind).wire kind' = m.wire kind' :=
    fun m kind kind' h => Function.update_of_ne h ..
  have turn : ∀ (m : Line), (m.resolve i now kind).wire kind =
      (m.wire kind).map (Flight.next i now kind m.device) :=
    fun m => Function.update_self ..
  have same : ∀ (m : Line) (kind' : PointKind), (m.resolve i now kind').device.online =
    m.device.online ∧
      (m.resolve i now kind').device.inputRegister = m.device.inputRegister :=
    fun m kind' => deviceAfter_frame i now kind' m.device (m.wire kind')
  unfold Line.service pointKinds
  simp only [List.foldl_cons, List.foldl_nil]
  obtain ⟨h1, g1⟩ := same (l.advance now) .measuredTemperature
  obtain ⟨h2, g2⟩ := same ((l.advance now).resolve i now .measuredTemperature) .setpoint
  cases kind with
  | measuredTemperature => rw [resolved _ _ _ (by decide), resolved _ _ _ (by decide), turn]; rfl
  | setpoint =>
    rw [resolved _ _ _ (by decide), turn, resolved _ _ _ (by decide), next_congr h1 g1]; rfl
  | enable =>
    rw [turn, resolved _ _ _ (by decide), resolved _ _ _ (by decide),
      next_congr (h2.trans h1) (g2.trans g1)]
    rfl

theorem service_device (now : Nat) (l : Line) :
    (l.service i now).device = deviceAfter i now .enable
      (deviceAfter i now .setpoint (l.advance now).device (l.wire .setpoint)) (l.wire .enable) :=
  congrArg (fun device =>
    deviceAfter i now .enable (deviceAfter i now .setpoint device (l.wire .setpoint))
    (l.wire .enable))
    (deviceAfter_poll i now (l.advance now).device (l.wire .measuredTemperature))

theorem service_sensor (now : Nat) (l : Line) :
    (l.service i now).device.online = l.device.online ∧
      (l.service i now).device.inputRegister = (l.advance now).device.inputRegister := by
  obtain ⟨h1, g1⟩ := deviceAfter_frame i now .setpoint (l.advance now).device (l.wire .setpoint)
  obtain ⟨h2, g2⟩ := deviceAfter_frame i now .enable
    (deviceAfter i now .setpoint (l.advance now).device (l.wire .setpoint)) (l.wire .enable)
  rw [service_device]
  exact ⟨h2.trans (h1.trans (advance_frame now l .setpoint).1), g2.trans g1⟩

theorem service_register (now : Nat) (l : Line) (k : Output) :
    (l.service i now).device.point k.table =
      registerAfter i k now (l.advance now).device (l.wire k.kind) (l.device.point k.table) := by
  have hregister := (advance_frame now l k).2
  rw [service_device]
  cases k with
  | setpoint =>
    rw [deviceAfter_point_ne i now (by decide)]
    exact (deviceAfter_point i now .setpoint _ _).trans (by rw [hregister]; rfl)
  | enable =>
    refine (deviceAfter_point i now .enable _ _).trans ?_
    rw [registerAfter_congr i _
      (deviceAfter_frame i now .setpoint (l.advance now).device (l.wire .setpoint)).1,
      deviceAfter_point_ne i now (k := .enable) (show PointKind.setpoint ≠ _ by decide), hregister]
    rfl

theorem next_cases (now : Nat) (kind : PointKind) (device : SimulatedSlave) (f : Flight) :
    (Answers i now device f ∧
        f.next i now kind device =
          { f with value := answerValue kind device f.value, outcome := .done }) ∨
      (¬ Answers i now device f ∧ Expires now f ∧
        f.next i now kind device = { f with outcome := .timeout }) ∨
      (¬ Answers i now device f ∧ ¬ Expires now f ∧ f.next i now kind device = f) := by
  unfold Flight.next
  by_cases ha : Answers i now device f
  · rw [if_pos ha]
    exact Or.inl ⟨ha, rfl⟩
  · by_cases he : Expires now f
    · rw [if_neg ha, if_pos he]
      exact Or.inr (Or.inl ⟨ha, he, rfl⟩)
    · rw [if_neg ha, if_neg he]
      exact Or.inr (Or.inr ⟨ha, he, rfl⟩)

@[simp] theorem called_wire (l : Line) (kind : PointKind) (f : Option Flight)
    (slave : GatewayedSlave) (acts : List Act) :
    (l.called kind f slave acts).wire kind = f := Function.update_self ..

theorem called_wire_ne (l : Line) {kind kind' : PointKind} (f : Option Flight)
    (slave : GatewayedSlave) (acts : List Act)
    (h : kind' ≠ kind) : (l.called kind f slave acts).wire kind' = l.wire kind' :=
  Function.update_of_ne h ..

/-! ### The poll -/

theorem called_polls (l : Line) (kind : PointKind) (f : Option Flight) (slave : GatewayedSlave)
    (acts : List Act) :
    (l.called kind f slave acts).polls = completedPolls (pollAttempts acts) ++ l.polls := by
  unfold Line.polls Line.called
  rw [pollAttempts_append]
  exact List.filter_append ..

variable {settings i} {now : Nat} {l : Line}

theorem poll_turn (h : l.Waiting) :
    ∃ completed,
      PollTurn i now (l.advance now).device l.slave (l.wire .measuredTemperature) completed
        (l.polled settings i now)
          (((l.service i now).poll settings i now).wire .measuredTemperature) ∧
      ((l.service i now).poll settings i now).polls = completed.toList ++ l.polls := by
  have hwire := service_wire i now l .measuredTemperature
  unfold Line.polled Line.poll
  cases hw : l.wire .measuredTemperature with
  | none =>
    rw [hw, Option.map_none] at hwire
    rw [hwire]
    dsimp only
    by_cases hdue : now < l.slave.nextPollAt
    · rw [if_pos (show now < (l.service i now).slave.nextPollAt from hdue), hwire]
      exact ⟨none, .idle hdue, rfl⟩
    · rw [if_neg (show ¬ now < (l.service i now).slave.nextPollAt from hdue), called_wire]
      exact ⟨none, .start (Nat.le_of_not_lt hdue), rfl⟩
  | some f =>
    have hpending := h _ _ hw
    rw [hw, Option.map_some] at hwire
    rw [hwire]
    rcases next_cases i now .measuredTemperature (l.advance now).device f with ⟨ha, hn⟩ |
      ⟨ha, he, hn⟩ | ⟨ha, he, hn⟩
    · rw [hn]
      dsimp only
      rw [called_wire, called_polls, pollAttempts_append, pollAttempts_doneCalls]
      exact ⟨some .answered, .answered ha, rfl⟩
    · rw [hn]
      dsimp only
      rw [called_wire, called_polls, pollAttempts_append, pollAttempts_timeoutCalls]
      exact ⟨some .timedOut, .expired ha he, rfl⟩
    · rw [hn]
      dsimp only
      rw [hpending]
      dsimp only
      rw [hwire, hn]
      exact ⟨none, .pending ha he, rfl⟩

/-- The poll changes of an output's link only `written`, and that when the slave is declared
    offline. -/
theorem polled_link {device : SimulatedSlave} {slave slave' : GatewayedSlave} {f f' : Option Flight}
    {completed : Option Attempt}
    (h : PollTurn i now device slave f completed slave' f') (k : Output) :
    slave'.link k = slave.link k ∨
      slave'.online = false ∧ slave'.link k = { slave.link k with written := false } := by
  cases h with
  | expired ha he =>
    unfold afterTimeout
    split
    · exact Or.inr ⟨rfl, by cases k <;> rfl⟩
    · exact Or.inl (by cases k <;> rfl)
  | _ => exact Or.inl (by cases k <;> rfl)

theorem polled_command {device : SimulatedSlave} {slave slave' : GatewayedSlave}
    {f f' : Option Flight}
    {completed : Option Attempt} (h : PollTurn i now device slave f completed slave' f')
    (k : Output) :
    slave'.command k = slave.command k := by
  cases h with
  | expired ha he =>
    unfold afterTimeout
    split <;> cases k <;> rfl
  | _ => cases k <;> rfl

/-! ### The writes -/

/-- The writes leave the poll, the commands and the device as they are. -/
structure OnlyWrites (m m' : Line) : Prop where
  device : m'.device = m.device
  clock : m'.nowMilliseconds = m.nowMilliseconds
  poll : m'.wire .measuredTemperature = m.wire .measuredTemperature
  command : ∀ k, m'.slave.command k = m.slave.command k
  online : m'.slave.online = m.slave.online
  failed : m'.slave.consecutiveFailedPolls = m.slave.consecutiveFailedPolls
  nextPollAt : m'.slave.nextPollAt = m.slave.nextPollAt
  temperature : m'.slave.measuredTemperature = m.slave.measuredTemperature
  polls : m'.polls = m.polls

theorem OnlyWrites.trans {m m' m'' : Line} (h : OnlyWrites m m') (g : OnlyWrites m' m'') :
    OnlyWrites m m'' where
  device := g.device.trans h.device
  clock := g.clock.trans h.clock
  poll := g.poll.trans h.poll
  command := fun k => (g.command k).trans (h.command k)
  online := g.online.trans h.online
  failed := g.failed.trans h.failed
  nextPollAt := g.nextPollAt.trans h.nextPollAt
  temperature := g.temperature.trans h.temperature
  polls := g.polls.trans h.polls

/-- Output `k`'s turn concerns output `k` alone. -/
structure OnlyOutput (k : Output) (m m' : Line) : Prop extends OnlyWrites m m' where
  wire : ∀ kind, kind ≠ k.kind → m'.wire kind = m.wire kind
  link : ∀ k', k' ≠ k → m'.slave.link k' = m.slave.link k'

theorem onlyOutput_refl (k : Output) (m : Line) : OnlyOutput k m m :=
  ⟨⟨rfl, rfl, rfl, fun _ => rfl, rfl, rfl, rfl, rfl, rfl⟩, fun _ _ => rfl, fun _ _ => rfl⟩

theorem OnlyOutput.trans {k : Output} {m m' m'' : Line} (h : OnlyOutput k m m')
    (g : OnlyOutput k m' m'') : OnlyOutput k m m'' :=
  ⟨h.toOnlyWrites.trans g.toOnlyWrites, fun kind hk => (g.wire kind hk).trans (h.wire kind hk),
    fun k' hk => (g.link k' hk).trans (h.link k' hk)⟩

theorem called_onlyOutput {k : Output} (m : Line) (f : Option Flight) (link : WriteThrough)
    {acts : List Act} (hacts : pollAttempts acts = []) :
    OnlyOutput k m (m.called k.kind f (m.slave.setLink k link) acts) where
  device := rfl
  clock := rfl
  poll := called_wire_ne m f _ _ (by cases k <;> decide)
  command := fun k' => setLink_command ..
  online := setLink_online ..
  failed := setLink_failed ..
  nextPollAt := setLink_nextPollAt ..
  temperature := setLink_temperature ..
  polls := by rw [called_polls, hacts]; rfl
  wire := fun _ hk => called_wire_ne m f _ _ hk
  link := fun _ hk => setLink_link_ne _ _ hk

theorem writeWinningValue_onlyOutput (k : Output) (now : Nat) (m : Line) :
    OnlyOutput k m (m.writeWinningValue i k now) := by
  unfold Line.writeWinningValue
  split
  · exact called_onlyOutput m _ _ rfl
  · exact onlyOutput_refl k m

theorem writeThrough_onlyOutput (k : Output) (now : Nat) (m : Line) :
    OnlyOutput k m (m.writeThrough i k now) := by
  unfold Line.writeThrough
  cases hw : m.wire k.kind with
  | none => exact writeWinningValue_onlyOutput k now m
  | some f =>
    dsimp only
    cases f.outcome with
    | pending =>
      exact ⟨⟨rfl, rfl, rfl, fun _ => rfl, rfl, rfl, rfl, rfl, rfl⟩, fun _ _ => rfl, fun _ _ => rfl⟩
    | done => exact (called_onlyOutput m _ _ rfl).trans (writeWinningValue_onlyOutput k now _)
    | timeout => exact (called_onlyOutput m _ _ rfl).trans (writeWinningValue_onlyOutput k now _)

theorem outlet_called (m : Line) (k : Output) (f : Option Flight) (link : WriteThrough)
    (acts : List Act) :
    (m.called k.kind f (m.slave.setLink k link) acts).outlet k =
      ⟨link, f, m.device.point k.table⟩ := by
  unfold Line.outlet
  rw [called_wire]
  show (⟨(m.slave.setLink k link).link k, f, _⟩ : Outlet) = _
  rw [setLink_link]
  rfl

variable {k : Output} {device : SimulatedSlave} {o : Outlet}

/-- With nothing left in flight, the winning value is written if it is due. -/
theorem winning_turn {m : Line} (hclock : m.nowMilliseconds = now) (hwire : m.wire k.kind = none)
    (hc : Concludes i k now device o (m.outlet k)) :
    WriteTurn i k now device m.slave.online (winningValue (m.slave.command k)) o
      ((m.writeWinningValue i k now).outlet k) := by
  have hout : m.outlet k = ⟨m.slave.link k, none, m.device.point k.table⟩ := by
    unfold Line.outlet
    rw [hwire]
  rw [hout] at hc
  unfold Line.writeWinningValue
  by_cases hdue : writeDue m.slave k now
  · rw [if_pos hdue]
    dsimp only
    rw [outlet_called, hclock]
    exact .start hc hdue
  · rw [if_neg hdue, hout]
    exact .quiet hc hdue

/-- An output's turn, once the driver had its own. -/
theorem write_turn {m : Line} {f : Option Flight} {register : Word}
    (hpending : ∀ g, f = some g → g.outcome = .pending) (hclock : m.nowMilliseconds = now)
    (hwire : m.wire k.kind = f.map (Flight.next i now k.kind device))
    (hregister : m.device.point k.table = registerAfter i k now device f register) :
    WriteTurn i k now device m.slave.online (winningValue (m.slave.command k))
      ⟨m.slave.link k, f, register⟩
      ((m.writeThrough i k now).outlet k) := by
  unfold Line.writeThrough
  cases f with
  | none =>
    rw [Option.map_none] at hwire
    rw [hwire]
    refine winning_turn hclock hwire ?_
    unfold Line.outlet
    rw [hwire, hregister]
    exact .free
  | some g =>
    rw [Option.map_some] at hwire
    rw [hwire]
    dsimp only [registerAfter] at hregister ⊢
    -- A completed write leaves the wire free for the winning value in the same turn.
    have finish : ∀ (link : WriteThrough) (outcome : Outcome),
        Concludes i k now device ⟨m.slave.link k, some g, register⟩ ⟨link, none,
          m.device.point k.table⟩ →
        WriteTurn i k now device m.slave.online (winningValue (m.slave.command k))
          ⟨m.slave.link k, some g, register⟩
          (((m.called k.kind none (m.slave.setLink k link)
            [.checkWrite i k now 0 outcome]).writeWinningValue i k now).outlet k) := by
      intro link outcome hc
      have hone : OnlyOutput k m
          (m.called k.kind none (m.slave.setLink k link) [.checkWrite i k now 0 outcome]) :=
        called_onlyOutput m none link (by cases outcome <;> rfl)
      have hturn :=
        winning_turn (hone.clock.trans hclock) (called_wire ..)
        ((outlet_called m k none link _).symm ▸ hc)
      rwa [hone.online, hone.command] at hturn
    rcases next_cases i now k.kind device g with ⟨ha, hn⟩ | ⟨ha, he, hn⟩ | ⟨ha, he, hn⟩
    · rw [hn]
      rw [if_pos ha] at hregister
      exact finish (writeDone (m.slave.link k)) .done (hregister ▸ .answered ha)
    · rw [hn]
      rw [if_neg ha] at hregister
      exact finish (writeFailed (m.slave.link k) (now + pollPeriodMilliseconds i)) .timeout
        (hregister ▸ .expired ha he)
    · rw [hn, hpending g rfl]
      rw [if_neg ha] at hregister
      unfold Line.outlet
      dsimp only
      rw [hwire, hn, hregister]
      exact .pending ha he

/-! ### The pass -/

theorem PollTurn.waiting {slave slave' : GatewayedSlave} {f f' : Option Flight}
    {completed : Option Attempt} (h : PollTurn i now device slave f completed slave' f')
    (hf : ∀ g, f = some g → g.outcome = .pending) :
    ∀ g, f' = some g → g.outcome = .pending := by
  intro g hg
  cases h with
  | idle hdue => cases hg
  | start hdue => cases hg; rfl
  | pending ha he => exact hf g hg
  | answered ha => cases hg
  | expired ha he => cases hg

theorem WriteTurn.waiting {online : Bool} {value : ℚ} {o' : Outlet}
    (h : WriteTurn i k now device online value o o')
    (ho : ∀ g, o.flight = some g → g.outcome = .pending) :
    ∀ g, o'.flight = some g → g.outcome = .pending := by
  intro g hg
  cases h with
  | pending ha he => exact ho g hg
  | quiet hc hdue => cases hg
  | start hc hdue => cases hg; rfl

variable (settings i now)

theorem poll_only (m : Line) :
    (m.poll settings i now).device = m.device ∧
    (m.poll settings i now).nowMilliseconds = m.nowMilliseconds ∧
      ∀ kind, kind ≠ .measuredTemperature → (m.poll settings i now).wire kind = m.wire kind := by
  unfold Line.poll
  cases m.wire .measuredTemperature with
  | none =>
    dsimp only
    split
    · exact ⟨rfl, rfl, fun _ _ => rfl⟩
    · exact ⟨rfl, rfl, fun _ hk => called_wire_ne m _ _ _ hk⟩
  | some f =>
    dsimp only
    cases f.outcome with
    | pending => exact ⟨rfl, rfl, fun _ _ => rfl⟩
    | done => exact ⟨rfl, rfl, fun _ hk => called_wire_ne m _ _ _ hk⟩
    | timeout => exact ⟨rfl, rfl, fun _ hk => called_wire_ne m _ _ _ hk⟩

/-- After the poll a pass only writes. -/
theorem pass_only (l : Line) :
    OnlyWrites ((l.service i now).poll settings i now) (l.pass settings i now) :=
  (writeThrough_onlyOutput .setpoint now _).toOnlyWrites.trans
    (writeThrough_onlyOutput .enable now _).toOnlyWrites

theorem pass_poll (h : l.Waiting) :
    ∃ completed,
      PollTurn i now (l.advance now).device l.slave (l.wire .measuredTemperature) completed
        (l.polled settings i now) ((l.pass settings i now).wire .measuredTemperature) ∧
      (l.pass settings i now).polls = completed.toList ++ l.polls := by
  rw [(pass_only settings i now l).poll, (pass_only settings i now l).polls]
  exact poll_turn h

theorem pass_write (h : l.Waiting) (k : Output) :
    WriteTurn i k now (l.advance now).device (l.polled settings i now).online
      (winningValue ((l.polled settings i now).command k))
      ⟨(l.polled settings i now).link k, l.wire k.kind, l.device.point k.table⟩
        ((l.pass settings i now).outlet k) := by
  obtain ⟨hdevice, hclock, hwire⟩ := poll_only settings i now (l.service i now)
  have hpending := h k.kind
  have hservice := service_wire i now l k.kind
  have hregister := service_register i now l k
  rw [← hdevice] at hregister
  rw [← hwire k.kind (by cases k <;> decide)] at hservice
  have honly :=
    writeThrough_onlyOutput (i := i) .setpoint now ((l.service i now).poll settings i now)
  cases k with
  | setpoint =>
    have hturn := write_turn hpending hclock hservice hregister
    have hlast := writeThrough_onlyOutput (i := i) .enable now
      (((l.service i now).poll settings i now).writeThrough i .setpoint now)
    have hsame : (l.pass settings i now).outlet .setpoint =
        (((l.service i now).poll settings i now).writeThrough i .setpoint now).outlet
          .setpoint := by
      unfold Line.outlet
      rw [← hlast.device, ← hlast.link .setpoint (by decide),
        ← hlast.wire _ (show Output.kind .setpoint ≠ _ by decide)]
      rfl
    rw [hsame]
    exact hturn
  | enable =>
    have hturn := write_turn hpending (honly.clock.trans hclock)
      ((honly.wire _ (show Output.kind .enable ≠ _ by decide)).trans hservice)
      ((congrArg (fun device : SimulatedSlave => device.point Output.enable.table)
        honly.device).trans hregister)
    rw [honly.online, honly.command, honly.link .enable (by decide)] at hturn
    exact hturn

theorem pass_sensor (l : Line) : (l.pass settings i now).device.online = l.device.online ∧
    (l.pass settings i now).device.inputRegister = (l.advance now).device.inputRegister := by
  rw [(pass_only settings i now l).device, (poll_only settings i now (l.service i now)).1]
  exact service_sensor i now l

/-- A pass leaves what the poll made of the slave's health, and the commands as they were. -/
theorem pass_commands (h : l.Waiting) (k : Output) :
    (l.polled settings i now).command k = l.slave.command k ∧
    (l.pass settings i now).slave.command k = l.slave.command k := by
  obtain ⟨completed, hturn, -⟩ := pass_poll settings i now h
  exact ⟨polled_command hturn k,
    ((pass_only settings i now l).command k).trans (polled_command hturn k)⟩

theorem pass_waiting (h : l.Waiting) : (l.pass settings i now).Waiting := by
  intro kind
  cases kind with
  | measuredTemperature =>
    obtain ⟨completed, hturn, -⟩ := pass_poll settings i now h
    exact hturn.waiting (h _)
  | setpoint => exact (pass_write settings i now h .setpoint).waiting (h .setpoint)
  | enable => exact (pass_write settings i now h .enable).waiting (h .enable)

/-! ## Runs of a line -/

variable {settings i}

/-- What holds of the start and is kept by every event of a run holds after the run. -/
theorem line_invariant {P : Line → Prop} {evs : List (Event FieldEvent)} (hstart : P (Line.start i))
    (hstep : ∀ e ∈ evs, ∀ l, P l → P (l.step settings i e)) :
    P ((Line.start i).run settings i evs) := by
  induction evs using List.reverseRecOn with
  | nil => exact hstart
  | append_singleton evs e ih =>
    rw [Line.run_concat]
    exact hstep e (by simp) _ (ih fun e' he' => hstep e' (List.mem_append_left _ he'))

theorem command_wire (l : Line) (c : Option Command) :
    (l.command i c).wire = l.wire ∧ (l.command i c).device = l.device ∧
    (l.command i c).log = l.log := by
  unfold Line.command
  cases c with
  | none => exact ⟨rfl, rfl, rfl⟩
  | some c => dsimp only; split <;> exact ⟨rfl, rfl, rfl⟩

theorem run_waiting (evs : List (Event FieldEvent)) :
    ((Line.start i).run settings i evs).Waiting := by
  refine line_invariant (fun kind f hf => by cases hf) fun e _ l h => ?_
  cases e with
  | set call =>
    unfold Line.Waiting
    show ∀ kind f, (l.command i (commandOf settings call)).wire kind = some f → _
    rw [(command_wire l _).1]
    exact h
  | pass now => exact pass_waiting settings i now h
  | outside e => exact h

end BacnetGateway.Lines
