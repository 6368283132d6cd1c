/-
  BacnetGateway.Gateway.OneSlave — what the gateway does to one slave, whatever the
  driver answers.

  `One` is a slave's record and the calls made for it. `Move` lists everything a call of
  `ServicePoll`, `ServiceWriteThrough` or a set callback can do to it, with the driver's
  answers left open; `run_moves` says that every run of the gateway over every driver is, seen
  from one slave, a sequence of such moves. A property of one slave that every move keeps
  therefore holds in every run over every driver (`one_invariant`).
-/

import BacnetGateway.Gateway.Steps
import BacnetGateway.Gateway.Commands
import Mathlib.Logic.Relation

namespace BacnetGateway.Gateway

open Seam Relation

variable {σ ε : Type} (D : Driver σ ε) (settings : Settings)

/-! ## Moves -/

/-- A slave's record, and the calls made for it, newest first. -/
structure One where
  slave : GatewayedSlave
  log : List Act

def Sys.one (s : Sys σ) (i : SlaveIndex) : One := ⟨s.slaves i, own i s.log⟩

inductive Move (mode : GatewayMode) (i : SlaveIndex) : One → One → Prop
  | startRead (a : One) (now transactionId : Nat) : a.slave.pollTransactionId = 0 →
      a.slave.nextPollAt ≤ now →
      Move mode i a ⟨pollStarted a.slave (now + pollPeriodMilliseconds i) transactionId,
        .startRead i now transactionId :: a.log⟩
  | pollPending (a : One) (now : Nat) (v : Word) : a.slave.pollTransactionId ≠ 0 →
      Move mode i a ⟨a.slave, .checkRead i now a.slave.pollTransactionId .pending v :: a.log⟩
  | pollDone (a : One) (now : Nat) (v : Word) : a.slave.pollTransactionId ≠ 0 →
      Move mode i a ⟨pollAnswered a.slave v,
        doneCalls mode i a.slave ++ .checkRead i now a.slave.pollTransactionId .done v :: a.log⟩
  | pollTimeout (a : One) (now : Nat) (v : Word) : a.slave.pollTransactionId ≠ 0 →
      Move mode i a ⟨afterTimeout a.slave,
        timeoutCalls mode i a.slave ++ .checkRead i now a.slave.pollTransactionId .timeout v ::
          a.log⟩
  | writePending (a : One) (k : Output) (now : Nat) : (a.slave.link k).transactionId ≠ 0 →
      Move mode i a ⟨a.slave, .checkWrite i k now (a.slave.link k).transactionId .pending :: a.log⟩
  | writeDone (a : One) (k : Output) (now : Nat) : (a.slave.link k).transactionId ≠ 0 →
      Move mode i a ⟨a.slave.setLink k (writeDone (a.slave.link k)),
        .checkWrite i k now (a.slave.link k).transactionId .done :: a.log⟩
  | writeTimeout (a : One) (k : Output) (now : Nat) : (a.slave.link k).transactionId ≠ 0 →
      Move mode i a
        ⟨a.slave.setLink k (writeFailed (a.slave.link k) (now + pollPeriodMilliseconds i)),
        .checkWrite i k now (a.slave.link k).transactionId .timeout :: a.log⟩
  | startWrite (a : One) (k : Output) (now transactionId : Nat) :
      (a.slave.link k).transactionId = 0 →
      writeDue a.slave k now →
      Move mode i a
        ⟨a.slave.setLink k
          (writeStarted (a.slave.link k) transactionId (winningValue (a.slave.command k))),
        .startWrite i k now (winningValue (a.slave.command k))
          (encode k (winningValue (a.slave.command k)))
          transactionId :: a.log⟩
  | command (a : One) (c : Command) : c.Valid →
      Move mode i a
        ⟨a.slave.setCommand c.output ((a.slave.command c.output).setSlot c.slot c.value), a.log⟩

/-! ## Every run is a sequence of moves -/

@[simp] theorem own_doneCalls (mode : GatewayMode) (i : SlaveIndex) (slave : GatewayedSlave) :
    own i (doneCalls mode i slave) = doneCalls mode i slave := by
  unfold doneCalls
  cases mode <;> cases slave.online <;> simp [onlineCalls]

@[simp] theorem own_timeoutCalls (mode : GatewayMode) (i : SlaveIndex) (slave : GatewayedSlave) :
    own i (timeoutCalls mode i slave) = timeoutCalls mode i slave := by
  unfold timeoutCalls
  cases mode <;> split <;> simp [offlineCalls]

theorem own_doneCalls_ne (mode : GatewayMode) {i j : SlaveIndex} (h : i ≠ j)
    (slave : GatewayedSlave) :
    own j (doneCalls mode i slave) = [] := by
  unfold doneCalls
  cases mode <;> cases slave.online <;> simp [onlineCalls, h]

theorem own_timeoutCalls_ne (mode : GatewayMode) {i j : SlaveIndex} (h : i ≠ j)
    (slave : GatewayedSlave) :
    own j (timeoutCalls mode i slave) = [] := by
  unfold timeoutCalls
  cases mode <;> split <;> simp [offlineCalls, h]

/-- `ServicePoll` of slave `i` is at most one move of slave `i`. -/
theorem servicePoll_moves (i : SlaveIndex) (now : Nat) (s : Sys σ) :
    ReflTransGen (Move settings.mode i) (s.one i) ((servicePoll D settings i now s).one i) := by
  by_cases hid : (s.slaves i).pollTransactionId = 0
  · by_cases hdue : now < (s.slaves i).nextPollAt
    · rw [servicePoll_idle D settings hid hdue]
    · have hdue' := Nat.le_of_not_lt hdue
      rw [servicePoll_start D settings hid hdue' rfl]
      refine .single ?_
      simpa [Sys.one] using (Move.startRead (s.one i) now _ hid hdue' : Move settings.mode i _ _)
  · refine .single ?_
    rcases hr : D.checkTransaction (s.slaves i).pollTransactionId s.bus with ⟨⟨o, v⟩, bus⟩
    cases o with
    | pending =>
      rw [servicePoll_pending D settings hid hr]
      simpa [Sys.one] using (Move.pollPending (s.one i) now v hid : Move settings.mode i _ _)
    | done =>
      rw [servicePoll_done D settings hid hr]
      simpa [Sys.one] using (Move.pollDone (s.one i) now v hid : Move settings.mode i _ _)
    | timeout =>
      rw [servicePoll_timeout D settings hid hr]
      simpa [Sys.one] using (Move.pollTimeout (s.one i) now v hid : Move settings.mode i _ _)

theorem servicePoll_other {i j : SlaveIndex} (h : j ≠ i) (now : Nat) (s : Sys σ) :
    (servicePoll D settings i now s).one j = s.one j := by
  have hij : i ≠ j := Ne.symm h
  by_cases hid : (s.slaves i).pollTransactionId = 0
  · by_cases hdue : now < (s.slaves i).nextPollAt
    · rw [servicePoll_idle D settings hid hdue]
    · rw [servicePoll_start D settings hid (Nat.le_of_not_lt hdue) rfl]
      simp [Sys.one, setSlave_ne _ _ h, hij]
  · rcases hr : D.checkTransaction (s.slaves i).pollTransactionId s.bus with ⟨⟨o, v⟩, bus⟩
    cases o with
    | pending => rw [servicePoll_pending D settings hid hr]; simp [Sys.one, hij]
    | done =>
      rw [servicePoll_done D settings hid hr]
      simp [Sys.one, h, hij, own_doneCalls_ne]
    | timeout =>
      rw [servicePoll_timeout D settings hid hr]
      simp [Sys.one, h, hij, own_timeoutCalls_ne]

theorem writeWinningValue_moves (i : SlaveIndex) (k : Output) (now : Nat) (s : Sys σ)
    (hid : ((s.slaves i).link k).transactionId = 0) :
    ReflTransGen (Move settings.mode i) (s.one i) ((writeWinningValue D i k now s).one i) := by
  by_cases hdue : writeDue (s.slaves i) k now
  · rw [writeWinningValue_start D hdue rfl]
    refine .single ?_
    simpa [Sys.one] using (Move.startWrite (s.one i) k now _ hid hdue : Move settings.mode i _ _)
  · rw [writeWinningValue_skip D hdue]

theorem writeWinningValue_other {i j : SlaveIndex} (h : j ≠ i) (k : Output)
    (now : Nat) (s : Sys σ) :
    (writeWinningValue D i k now s).one j = s.one j := by
  have hij : i ≠ j := Ne.symm h
  by_cases hdue : writeDue (s.slaves i) k now
  · rw [writeWinningValue_start D hdue rfl]
    simp [Sys.one, setSlave_ne _ _ h, hij]
  · rw [writeWinningValue_skip D hdue]

/-- `ServiceWriteThrough` of slave `i` is at most two moves of slave `i`: an answer, and a
    write started. -/
theorem serviceWriteThrough_moves (i : SlaveIndex) (k : Output) (now : Nat) (s : Sys σ) :
    ReflTransGen (Move settings.mode i) (s.one i) ((serviceWriteThrough D i k now s).one i) := by
  by_cases hid : ((s.slaves i).link k).transactionId = 0
  · rw [serviceWriteThrough_free D hid]
    exact writeWinningValue_moves D settings i k now s hid
  · rcases hr : D.checkTransaction ((s.slaves i).link k).transactionId s.bus with ⟨⟨o, v⟩, bus⟩
    cases o with
    | pending =>
      rw [serviceWriteThrough_pending D hid hr]
      refine .single ?_
      simpa [Sys.one] using (Move.writePending (s.one i) k now hid : Move settings.mode i _ _)
    | done =>
      rw [serviceWriteThrough_done D hid hr]
      refine .head ?_ (writeWinningValue_moves D settings i k now _ (by simp [writeDone]))
      simpa [Sys.one] using (Move.writeDone (s.one i) k now hid : Move settings.mode i _ _)
    | timeout =>
      rw [serviceWriteThrough_timeout D hid hr]
      refine .head ?_ (writeWinningValue_moves D settings i k now _ (by simp [writeFailed]))
      simpa [Sys.one] using (Move.writeTimeout (s.one i) k now hid : Move settings.mode i _ _)

theorem serviceWriteThrough_other {i j : SlaveIndex} (h : j ≠ i) (k : Output)
    (now : Nat) (s : Sys σ) :
    (serviceWriteThrough D i k now s).one j = s.one j := by
  have hij : i ≠ j := Ne.symm h
  by_cases hid : ((s.slaves i).link k).transactionId = 0
  · rw [serviceWriteThrough_free D hid, writeWinningValue_other D h]
  · rcases hr : D.checkTransaction ((s.slaves i).link k).transactionId s.bus with ⟨⟨o, v⟩, bus⟩
    cases o with
    | pending => rw [serviceWriteThrough_pending D hid hr]; simp [Sys.one, hij]
    | done =>
      rw [serviceWriteThrough_done D hid hr, writeWinningValue_other D h]
      simp [Sys.one, setSlave_ne _ _ h, hij]
    | timeout =>
      rw [serviceWriteThrough_timeout D hid hr, writeWinningValue_other D h]
      simp [Sys.one, setSlave_ne _ _ h, hij]

theorem serviceForeignBus_moves (i : SlaveIndex) (now : Nat) (s : Sys σ) :
    ReflTransGen (Move settings.mode i) (s.one i) ((serviceForeignBus D settings now s).one i) := by
  have slot : ∀ (j : SlaveIndex) (t : Sys σ), ReflTransGen (Move settings.mode i) (t.one i)
      ((serviceWriteThrough D j .enable now
        (serviceWriteThrough D j .setpoint now (servicePoll D settings j now t))).one i) := by
    intro j t
    by_cases hj : i = j
    · subst hj
      exact ((servicePoll_moves D settings i now t).trans
          (serviceWriteThrough_moves D settings i .setpoint now _)).trans
        (serviceWriteThrough_moves D settings i .enable now _)
    · rw [serviceWriteThrough_other D hj, serviceWriteThrough_other D hj,
        servicePoll_other D settings hj]
  have pass : ∀ (l : List SlaveIndex) (t : Sys σ), ReflTransGen (Move settings.mode i) (t.one i)
      ((l.foldl (fun s j => serviceWriteThrough D j .enable now
        (serviceWriteThrough D j .setpoint now (servicePoll D settings j now s))) t).one i) := by
    intro l
    induction l with
    | nil => intro t; exact .refl
    | cons j l ih => intro t; exact (slot j t).trans (ih _)
  exact pass _ { s with bus := D.service now s.bus }

theorem step_moves (i : SlaveIndex) (s : Sys σ) (e : Event ε) :
    ReflTransGen (Move settings.mode i) (s.one i) ((step D settings s e).one i) := by
  cases e with
  | set call =>
    rw [step]
    simp only [Sys.one, (set_result settings s.slaves call).2]
    cases hc : commandOf settings call with
    | none => exact .refl
    | some c =>
      by_cases hi : i = c.slave
      · subst hi
        refine .single ?_
        simpa [applyCommand, Command.apply, Sys.one] using
          (Move.command (s.one c.slave) c (commandOf_valid settings hc) : Move
            settings.mode c.slave _ _)
      · simp only [applyCommand, Command.apply, Function.update_of_ne hi]
        exact .refl
  | pass now => exact serviceForeignBus_moves D settings i now s
  | outside e => exact .refl

theorem run_moves (i : SlaveIndex) (s : Sys σ) (evs : List (Event ε)) :
    ReflTransGen (Move settings.mode i) (s.one i) ((run D settings s evs).one i) := by
  induction evs generalizing s with
  | nil => exact .refl
  | cons e evs ih => exact (step_moves D settings i s e).trans (ih _)

/-- What every move keeps holds of the slave in every run over every driver. -/
theorem one_invariant {P : One → Prop} {i : SlaveIndex} (start : P ⟨initialSlave i, []⟩)
    (move : ∀ a b, Move settings.mode i a b → P a → P b) (bus : σ) (evs : List (Event ε)) :
    P ((run D settings (Gateway.start bus) evs).one i) := by
  have along : ∀ b, ReflTransGen (Move settings.mode i) ⟨initialSlave i, []⟩ b → P b := by
    intro b h
    induction h with
    | refl => exact start
    | tail _ hm ih => exact move _ _ hm ih
  exact along _ (run_moves D settings i (Gateway.start bus) evs)

end BacnetGateway.Gateway
