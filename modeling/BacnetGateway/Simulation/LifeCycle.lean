/-
  BacnetGateway.Simulation.LifeCycle — what becomes of a transaction of the simulated bus,
  whoever its client is.

  `Op` is everything that can be asked of the bus: the calls of the seam, in any order and
  with any arguments, and the back door of the simulation. `Service` goes through the map
  one transaction at a time; `turn` is the state in which its loop gets to one of them.

  A transaction that was started waits (`Waits`): no turn does anything to it or for it.
  It ends in at most one turn (`Finishes`): the answer of its slave, applied to its own
  point if it is a write, or the timeout. Then it rests (`Rests`) until a check hands the
  result out, and after that the id reads as Timeout (`Gone`). `life_cycle` is that every
  transaction goes this way, in every run whose clock never runs backwards and in which no
  id is given out while it is in the map.
-/

import BacnetGateway.Lib.Lists
import BacnetGateway.Simulation.Steps

namespace BacnetGateway.Simulation

open Seam

/-! ## Clients -/

inductive Op where
  | startRead (unitId : Nat) (table : Table) (address : Nat)
  | startWrite (unitId : Nat) (table : Table) (address : Nat) (value : Word)
  | check (transactionId : Nat)
  | field (e : FieldEvent)
  | service (now : Nat)
  deriving DecidableEq

def Sim.exec (s : Sim) : Op → Sim
  | .startRead unitId table address => (startRead unitId table address s).2
  | .startWrite unitId table address value => (startWrite unitId table address value s).2
  | .check id => (checkTransaction id s).2
  | .field e => fieldEvent e s
  | .service now => service now s

/-- The id the operation hands out, 0 for none. -/
def Sim.given (s : Sim) : Op → Nat
  | .startRead unitId table address => (startRead unitId table address s).1
  | .startWrite unitId table address value => (startWrite unitId table address value s).1
  | _ => 0

/-- What the operation asks for, if it starts a transaction. -/
def Op.asks (startedAt : Nat) : Op → Option Transaction
  | .startRead unitId table address => some ⟨unitId, table, address, false, 0, startedAt, .pending⟩
  | .startWrite unitId table address value =>
    some ⟨unitId, table, address, true, value, startedAt, .pending⟩
  | _ => none

def Sim.run (s : Sim) (ops : List Op) : Sim := ops.foldl Sim.exec s

theorem Sim.run_append (s : Sim) (ops ops' : List Op) :
    s.run (ops ++ ops') = (s.run ops).run ops' := List.foldl_append ..

/-- The clock values of the `Service` calls. -/
def clocks (ops : List Op) : List Nat :=
  ops.filterMap fun | .service now => some now | _ => none

/-- The clock never runs backwards. -/
def ClockForward (ops : List Op) : Prop := (clocks ops).Pairwise (· ≤ ·)

instance (ops : List Op) : Decidable (ClockForward ops) :=
  inferInstanceAs (Decidable (List.Pairwise ..))

/-- No id is given out while its transaction is unfinished: not yet reported. -/
def NoReuse (s : Sim) : List Op → Prop
  | [] => True
  | o :: ops => (s.given o ≠ 0 → s.transactions[s.given o]? = none) ∧ NoReuse (s.exec o) ops

instance decidableNoReuse (s : Sim) : (ops : List Op) → Decidable (NoReuse s ops)
  | [] => .isTrue trivial
  | o :: ops =>
    have := decidableNoReuse (s.exec o) ops
    inferInstanceAs
      (Decidable ((s.given o ≠ 0 → s.transactions[s.given o]? = none) ∧ NoReuse (s.exec o) ops))

/-! ## Turns -/

/-- The state in which the loop of `Service` at `now` gets to transaction `id`. -/
def turn (now : Nat) (s : Sim) (id : Nat) : Sim :=
  ((advance now s).transactions.toList.takeWhile fun e => e.1 ≠ id).foldl (resolve now)
    (advance now s)

variable {now id : Nat} {t t' : Transaction} {s : Sim} {o : Op} {ops : List Op}

/-- The loop goes on from there; it finds the transaction as it was, and nothing after its
    turn touches it. -/
theorem service_turn (now : Nat) (hs : s.transactions[id]? = some t) :
    (turn now s id).transactions[id]? = some t ∧
      ∃ later : List (Nat × Transaction), id ∉ later.map Prod.fst ∧
        service now s = later.foldl (resolve now) (resolve now (turn now s id) (id, t)) := by
  obtain ⟨later, hsplit, hbefore, hlater⟩ :=
    Lib.takeWhile_key (nodup_keys_toList s.transactions)
      (Std.TreeMap.mem_toList_iff_getElem?_eq_some.mpr hs)
  refine ⟨(foldl_resolve_other now hbefore _).trans hs, later, hlater, ?_⟩
  have hloop : (advance now s).transactions.toList = _ := hsplit
  unfold service
  rw [hloop, List.foldl_append, List.foldl_cons]
  rfl

theorem service_after_turn (now : Nat) (hs : s.transactions[id]? = some t) :
    (service now s).transactions[id]? =
      (resolve now (turn now s id) (id, t)).transactions[id]? := by
  obtain ⟨-, later, hlater, hservice⟩ := service_turn now hs
  rw [hservice, foldl_resolve_other now hlater]

/-! ## Phases -/

/-- Transaction `id` is `t` throughout, and its turns change nothing. -/
structure Rests (id : Nat) (t : Transaction) (s : Sim) (ops : List Op) : Prop where
  entry : ∀ pre, pre <+: ops → (s.run pre).transactions[id]? = some t
  idle : ∀ pre now, pre ++ [.service now] <+: ops →
    resolve now (turn now (s.run pre) id) (id, t) = turn now (s.run pre) id

/-- It rests unanswered: the timeout has not come, and whoever asks is told to wait. -/
structure Waits (id : Nat) (t : Transaction) (s : Sim)
    (ops : List Op) : Prop extends Rests id t s ops where
  soon : ∀ pre now, pre ++ [.service now] <+: ops →
    now < t.startedAt + RESPONSE_TIMEOUT_MILLISECONDS
  asked : ∀ pre, pre ++ [.check id] <+: ops →
    checkTransaction id (s.run pre) = (⟨.pending, 0⟩, s.run pre)

/-- The turn at `now` that takes the bus from `u` to `u'` ends transaction `t` as `t'`. -/
structure Finishes (now : Nat) (u u' : Sim) (t t' : Transaction) : Prop where
  asked : t' = { t with value := t'.value, outcome := t'.outcome }
  ended : t'.outcome ≠ .pending
  /-- Its slave is connected, and has had the time to answer. -/
  done : t'.outcome = .done →
    ∃ i, findSlave t.unitId = some i ∧ (u.slaves i).online = true ∧
      t.startedAt + latencyMilliseconds i ≤ now
  wrote : t'.outcome = .done → t.isWrite = true → t'.value = t.value ∧
    ∃ i, findSlave t.unitId = some i ∧
      u'.slaves = Function.update u.slaves i ((u.slaves i).assign t.table t.value) ∧
      (u'.slaves i).point t.table = if t.table = .coil then if t.value = 0 then 0
        else 1 else t.value
  read : t'.outcome = .done → t.isWrite = false → u'.slaves = u.slaves ∧
    ∃ i, findSlave t.unitId = some i ∧ t'.value = (u.slaves i).point t.table
  timedOut : t'.outcome = .timeout → u'.slaves = u.slaves ∧
    t.startedAt + RESPONSE_TIMEOUT_MILLISECONDS ≤ now

/-- Until the id is given out again, it reads as Timeout. -/
def Gone (id : Nat) (s : Sim) (ops : List Op) : Prop :=
  ∀ pre, pre <+: ops → (∀ earlier o, earlier ++ [o] <+: pre → (s.run earlier).given o ≠ id) →
    checkTransaction id (s.run pre) = (⟨.timeout, 0⟩, s.run pre)

/-- An ended transaction rests until a check hands its result out, and is gone after that. -/
def Reports (id : Nat) (t : Transaction) (s : Sim) (ops : List Op) : Prop :=
  Rests id t s ops ∨
  ∃ resting later, ops = resting ++ .check id :: later ∧ Rests id t s resting ∧
    (checkTransaction id (s.run resting)).1 =
      ⟨t.outcome, if t.outcome = .done then t.value else 0⟩ ∧
    Gone id (checkTransaction id (s.run resting)).2 later

/-- A transaction waits, and at most one turn, of one `Service` call, ends it. -/
def LifeCycle (id : Nat) (t : Transaction) (s : Sim) (ops : List Op) : Prop :=
  Waits id t s ops ∨
  ∃ waiting now later t', ops = waiting ++ .service now :: later ∧ Waits id t s waiting ∧
    Finishes now (turn now (s.run waiting) id)
      (resolve now (turn now (s.run waiting) id) (id, t)) t t' ∧
    Reports id t' (service now (s.run waiting)) later

/-! ## One operation -/

theorem startTransaction_cases (unitId : Nat) (table : Table) (address : Nat) (isWrite : Bool)
    (value : Word) (s : Sim) :
    startTransaction unitId table address isWrite value s = (0, s) ∨
      (∃ i, findSlave unitId = some i) ∧ startTransaction unitId table address isWrite value s =
        (s.nextTransactionId, { s with
          nextTransactionId := successor s.nextTransactionId
          transactions := s.transactions.insert s.nextTransactionId
            ⟨unitId, table, address, isWrite, value, s.nowMilliseconds, .pending⟩ }) := by
  unfold startTransaction
  cases hi : findPoint unitId address with
  | none => exact Or.inl rfl
  | some i =>
    have hslave : findSlave unitId = some i := by
      unfold findPoint at hi
      split at hi
      · exact hi
      · cases hi
    by_cases hread : isWrite = true ∧ table = .inputRegister
    · exact Or.inl (if_pos hread)
    · exact Or.inr ⟨⟨i, hslave⟩, if_neg hread⟩

/-- The operation starts transaction `t`. -/
structure Starts (o : Op) (s : Sim) (t : Transaction) : Prop where
  asks : o.asks s.nowMilliseconds = some t
  slave : ∃ i, findSlave t.unitId = some i
  given : s.given o = s.nextTransactionId
  exec : s.exec o = { s with
    nextTransactionId := successor s.nextTransactionId
    transactions := s.transactions.insert s.nextTransactionId t }

/-- The operation leaves the transactions, the counter and the clocks alone. -/
structure Leaves (o : Op) (s : Sim) : Prop where
  transactions : (s.exec o).transactions = s.transactions
  next : (s.exec o).nextTransactionId = s.nextTransactionId
  clock : (s.exec o).nowMilliseconds = s.nowMilliseconds
  drift : (s.exec o).lastDriftAt = s.lastDriftAt

theorem exec_cases (o : Op) (s : Sim) :
    (∃ t, Starts o s t) ∨ s.given o = 0 ∧
    (Leaves o s ∨ (∃ id, o = .check id) ∨ ∃ now, o = .service now) := by
  cases o with
  | startRead unitId table address =>
    rcases startTransaction_cases unitId table address false 0 s with h | ⟨hslave, h⟩
    · refine Or.inr ⟨congrArg Prod.fst h, Or.inl ?_⟩
      have hexec : s.exec (.startRead unitId table address) = s := congrArg Prod.snd h
      exact ⟨by rw [hexec], by rw [hexec], by rw [hexec], by rw [hexec]⟩
    · exact Or.inl ⟨_, rfl, hslave, congrArg Prod.fst h, congrArg Prod.snd h⟩
  | startWrite unitId table address value =>
    rcases startTransaction_cases unitId table address true value s with h | ⟨hslave, h⟩
    · refine Or.inr ⟨congrArg Prod.fst h, Or.inl ?_⟩
      have hexec : s.exec (.startWrite unitId table address value) = s := congrArg Prod.snd h
      exact ⟨by rw [hexec], by rw [hexec], by rw [hexec], by rw [hexec]⟩
    · exact Or.inl ⟨_, rfl, hslave, congrArg Prod.fst h, congrArg Prod.snd h⟩
  | check id => exact Or.inr ⟨rfl, Or.inr (Or.inl ⟨id, rfl⟩)⟩
  | service now => exact Or.inr ⟨rfl, Or.inr (Or.inr ⟨now, rfl⟩)⟩
  | field e =>
    refine Or.inr ⟨rfl, Or.inl ?_⟩
    cases e with
    | setSlaveOnline unitId online =>
      show Leaves (.field (.setSlaveOnline unitId online)) s
      constructor <;> (show _ = _; simp only [Sim.exec, fieldEvent, setSlaveOnline]; split <;> rfl)
    | setPoint unitId table address value =>
      constructor <;> (show _ = _; simp only [Sim.exec, fieldEvent, setPoint]; split <;> rfl)

/-- A check of a transaction that is there. -/
theorem check_entry (hs : s.transactions[id]? = some t) :
    checkTransaction id s = (⟨t.outcome, if t.outcome = .done then t.value else 0⟩,
      if t.outcome ≠ .pending then { s with transactions := s.transactions.erase id } else s) := by
  unfold checkTransaction
  rw [hs]

theorem check_none (hs : s.transactions[id]? = none) :
    checkTransaction id s = (⟨.timeout, 0⟩, s) := by
  unfold checkTransaction
  rw [hs]

/-- A check touches only the transaction it is about, and that it can only take out. -/
theorem check_transactions (id id' : Nat) (s : Sim) :
    (checkTransaction id' s).2.transactions[id]? = s.transactions[id]? ∨
      id' = id ∧ (checkTransaction id' s).2.transactions[id]? = none := by
  cases hs : s.transactions[id']? with
  | none =>
    rw [check_none hs]
    exact Or.inl rfl
  | some t =>
    rw [check_entry hs]
    dsimp only
    split
    · rw [getElem?_erase_ite]
      split
      · exact Or.inr ⟨‹_›, rfl⟩
      · exact Or.inl rfl
    · exact Or.inl rfl

theorem check_frame (id : Nat) (s : Sim) :
    (checkTransaction id s).2.nextTransactionId = s.nextTransactionId ∧
      (checkTransaction id s).2.nowMilliseconds = s.nowMilliseconds ∧
      (checkTransaction id s).2.lastDriftAt = s.lastDriftAt := by
  unfold checkTransaction
  split
  · exact ⟨rfl, rfl, rfl⟩
  · dsimp only
    split <;> exact ⟨rfl, rfl, rfl⟩

theorem assign_point (slave : SimulatedSlave) (table : Table) (value : Word) :
    (slave.assign table value).point table = if table = .coil then if value = 0 then 0 else 1
      else value := by
  cases table <;> rfl

/-- What a turn does: nothing, or it ends the transaction. -/
theorem resolve_turn {u : Sim} {i : Fin 3} (hi : findSlave t.unitId = some i)
    (hstarted : t.startedAt ≤ now) (hu : u.transactions[id]? = some t) :
    resolve now u (id, t) = u ∧
    (t.outcome = .pending → now < t.startedAt + RESPONSE_TIMEOUT_MILLISECONDS) ∨
      ∃ t', t.outcome = .pending ∧ (resolve now u (id, t)).transactions[id]? = some t' ∧
        Finishes now u (resolve now u (id, t)) t t' := by
  by_cases hp : t.outcome = .pending
  · have hentry := resolve_entry now hp hi hu id
    have hslaves := resolve_slaves now u id hp hi
    rw [if_pos rfl] at hentry
    unfold Transaction.answer at hentry
    unfold SimulatedSlave.effect at hslaves
    by_cases hanswers : (u.slaves i).online = true ∧ latencyMilliseconds i ≤ now - t.startedAt
    · have hdone : ∃ i, findSlave t.unitId = some i ∧ (u.slaves i).online = true ∧
          t.startedAt + latencyMilliseconds i ≤ now :=
        ⟨i, hi, hanswers.1, by omega⟩
      rw [if_pos hanswers] at hentry
      cases hw : t.isWrite with
      | true =>
        rw [if_pos hw] at hentry
        rw [if_pos ⟨hanswers.1, hanswers.2, hw⟩] at hslaves
        refine Or.inr ⟨_, hp, hentry, rfl, Outcome.noConfusion, fun _ => hdone,
          fun _ _ => ⟨rfl, i, hi, hslaves, ?_⟩, ?_, Outcome.noConfusion⟩
        · rw [hslaves, Function.update_self, assign_point]
        · rw [hw]
          exact fun _ => Bool.noConfusion
      | false =>
        rw [if_neg (Bool.eq_false_iff.mp hw)] at hentry
        rw [if_neg fun h => Bool.eq_false_iff.mp hw h.2.2, Function.update_eq_self] at hslaves
        refine Or.inr ⟨_, hp, hentry, rfl, Outcome.noConfusion, fun _ => hdone, ?_,
          fun _ _ => ⟨hslaves, i, hi, rfl⟩, Outcome.noConfusion⟩
        rw [hw]
        exact fun _ => Bool.noConfusion
    · rw [if_neg hanswers] at hentry
      rw [if_neg fun h => hanswers ⟨h.1, h.2.1⟩, Function.update_eq_self] at hslaves
      by_cases htimeout : RESPONSE_TIMEOUT_MILLISECONDS ≤ now - t.startedAt
      · rw [if_pos htimeout] at hentry
        refine Or.inr ⟨_, hp, hentry, rfl, Outcome.noConfusion, Outcome.noConfusion,
          Outcome.noConfusion, Outcome.noConfusion, fun _ => ⟨hslaves, by omega⟩⟩
      · refine Or.inl ⟨?_, fun _ => by omega⟩
        unfold resolve
        simp only [hp, hi, hanswers, htimeout, ne_eq, not_true, if_false]
  · refine Or.inl ⟨?_, fun h => absurd h hp⟩
    unfold resolve
    exact if_pos hp

/-! ## Reachable states -/

/-- Every transaction in the map is of a slave, and was not started in the future. -/
structure Sound (s : Sim) : Prop where
  next : s.nextTransactionId ≠ 0
  drift : s.lastDriftAt ≤ s.nowMilliseconds
  entries : ∀ (id : Nat) (t : Transaction), s.transactions[id]? = some t →
    t.startedAt ≤ s.nowMilliseconds ∧ ∃ i, findSlave t.unitId = some i

theorem initialSim_sound : Sound initialSim :=
  ⟨by decide, Nat.le_refl _, fun id t h => by simp [initialSim] at h⟩

theorem successor_ne_zero (id : Nat) : successor id ≠ 0 := by
  unfold successor
  split
  · decide
  · assumption

/-- What one `Service` call does for a transaction: its turn does nothing, or ends it. -/
theorem service_turns (h : Sound s) (hnow : s.nowMilliseconds ≤ now)
    (hs : s.transactions[id]? = some t) :
    (service now s).transactions[id]? = some t ∧
    resolve now (turn now s id) (id, t) = turn now s id ∧
        (t.outcome = .pending → now < t.startedAt + RESPONSE_TIMEOUT_MILLISECONDS) ∨
      ∃ t', t.outcome = .pending ∧ (service now s).transactions[id]? = some t' ∧
        Finishes now (turn now s id) (resolve now (turn now s id) (id, t)) t t' := by
  obtain ⟨hstarted, i, hi⟩ := h.entries id t hs
  obtain ⟨hturn, -⟩ := service_turn now hs
  rw [service_after_turn now hs]
  rcases resolve_turn hi (hstarted.trans hnow) hturn with ⟨hidle, hsoon⟩ | hfinish
  · exact Or.inl ⟨by rw [hidle, hturn], hidle, hsoon⟩
  · exact Or.inr hfinish

theorem service_sound (h : Sound s) (hnow : s.nowMilliseconds ≤ now) : Sound (service now s) := by
  obtain ⟨hnext, hclock⟩ := service_frame now s
  refine ⟨hnext ▸ h.next, ?_, fun id t ht => ?_⟩
  · have hdrift : (service now s).lastDriftAt = (advance now s).lastDriftAt :=
      (foldl_resolve_frame now _ _).2.2
    have hle := h.drift
    rw [hdrift, hclock]
    show (if driftDue s.lastDriftAt now then now else driftTimer s.lastDriftAt now) ≤ now
    split
    · exact Nat.le_refl _
    · unfold driftTimer
      split <;> omega
  · rw [hclock]
    cases hs : s.transactions[id]? with
    | none =>
      rw [service_no_entry now hs] at ht
      cases ht
    | some t₀ =>
      obtain ⟨hstarted, i, hi⟩ := h.entries id t₀ hs
      rcases service_turns h hnow hs with ⟨hsame, -⟩ | ⟨t', -, hended, hfinish⟩
      · obtain rfl : t₀ = t := Option.some.inj (hsame.symm.trans ht)
        exact ⟨hstarted.trans hnow, i, hi⟩
      · obtain rfl : t' = t := Option.some.inj (hended.symm.trans ht)
        rw [hfinish.asked]
        exact ⟨hstarted.trans hnow, i, hi⟩

/-- The operation gives out no id in the map, and does not turn the clock back. -/
structure Allows (s : Sim) (o : Op) : Prop where
  fresh : s.given o ≠ 0 → s.transactions[s.given o]? = none
  clock : ∀ now, o = .service now → s.nowMilliseconds ≤ now

theorem exec_sound (h : Sound s) (ho : Allows s o) : Sound (s.exec o) := by
  rcases exec_cases o s with ⟨t, hstart⟩ | ⟨-, hleaves | ⟨id, rfl⟩ | ⟨now, rfl⟩⟩
  · rw [hstart.exec]
    refine ⟨successor_ne_zero _, h.drift, fun id t' ht => ?_⟩
    rw [getElem?_insert_ite] at ht
    split at ht
    · obtain rfl : t = t' := Option.some.inj ht
      have hstarted : t.startedAt = s.nowMilliseconds := by
        have hasks := hstart.asks
        cases o <;> cases hasks <;> rfl
      exact ⟨hstarted.le, hstart.slave⟩
    · exact h.entries id t' ht
  · refine ⟨hleaves.next ▸ h.next, by rw [hleaves.drift, hleaves.clock]; exact h.drift,
      fun id t ht => ?_⟩
    rw [hleaves.transactions] at ht
    rw [hleaves.clock]
    exact h.entries id t ht
  · obtain ⟨hnext, hclock, hdrift⟩ := check_frame id s
    refine ⟨hnext ▸ h.next, ?_, fun id' t ht => ?_⟩
    · show (checkTransaction id s).2.lastDriftAt ≤ (checkTransaction id s).2.nowMilliseconds
      rw [hdrift, hclock]
      exact h.drift
    · rw [show (s.exec (.check id)).nowMilliseconds = s.nowMilliseconds from hclock]
      rcases check_transactions id' id s with hsame | ⟨-, hnone⟩
      · exact h.entries id' t (hsame.symm.trans ht)
      · cases hnone.symm.trans ht
  · exact service_sound h (ho.clock now rfl)

/-- An operation that neither checks on a transaction nor serves the bus leaves it there. -/
theorem exec_entry (ho : Allows s o) (hs : s.transactions[id]? = some t) (hcheck : o ≠ .check id)
    (hservice : ∀ now, o ≠ .service now) (hnext : s.nextTransactionId ≠ 0) :
    (s.exec o).transactions[id]? = some t := by
  rcases exec_cases o s with ⟨t', hstart⟩ | ⟨-, hleaves | ⟨id', rfl⟩ | ⟨now, rfl⟩⟩
  · have hfree := ho.fresh (hstart.given ▸ hnext)
    rw [hstart.given] at hfree
    rw [hstart.exec, getElem?_insert_ite, if_neg, hs]
    rintro rfl
    rw [hs] at hfree
    cases hfree
  · rw [hleaves.transactions, hs]
  · rcases check_transactions id id' s with hsame | ⟨rfl, -⟩
    · exact hsame.trans hs
    · exact absurd rfl hcheck
  · exact absurd rfl (hservice now)

/-- A transaction that is not there comes only with its id. -/
theorem exec_none (hs : s.transactions[id]? = none) (hid : s.given o ≠ id) :
    (s.exec o).transactions[id]? = none := by
  rcases exec_cases o s with ⟨t', hstart⟩ | ⟨-, hleaves | ⟨id', rfl⟩ | ⟨now, rfl⟩⟩
  · rw [hstart.exec, getElem?_insert_ite, if_neg (hstart.given ▸ hid), hs]
  · rw [hleaves.transactions, hs]
  · rcases check_transactions id id' s with hsame | ⟨-, hnone⟩
    · exact hsame.trans hs
    · exact hnone
  · exact service_no_entry now hs

/-! ## Runs -/

/-- Every operation is allowed where it is made. -/
def Allowed (s : Sim) : List Op → Prop
  | [] => True
  | o :: ops => Allows s o ∧ Allowed (s.exec o) ops

theorem exec_clock (ho : ∀ now, o ≠ .service now) (s : Sim) :
    (s.exec o).nowMilliseconds = s.nowMilliseconds := by
  rcases exec_cases o s with ⟨t, hstart⟩ | ⟨-, hleaves | ⟨id, rfl⟩ | ⟨now, rfl⟩⟩
  · rw [hstart.exec]
  · exact hleaves.clock
  · exact (check_frame id s).2.1
  · exact absurd rfl (ho now)

theorem allowed_of_clock (hnow : ∀ now ∈ clocks ops, s.nowMilliseconds ≤ now)
    (hclock : ClockForward ops) (hfresh : NoReuse s ops) :
    Allowed s ops := by
  induction ops generalizing s with
  | nil => trivial
  | cons o ops ih =>
    by_cases hservice : ∃ now, o = .service now
    · obtain ⟨now, rfl⟩ := hservice
      obtain ⟨hlater, hclock⟩ :=
        List.pairwise_cons.mp (show (now :: clocks ops).Pairwise (· ≤ ·) from hclock)
      refine ⟨⟨hfresh.1, fun now' heq => ?_⟩, ih ?_ hclock hfresh.2⟩
      · cases heq
        exact hnow now (List.mem_cons_self ..)
      · rw [show (s.exec (.service now)).nowMilliseconds = now from (service_frame now s).2]
        exact hlater
    · have hclocks : clocks (o :: ops) = clocks ops := by
        cases o with
        | service now => exact absurd ⟨now, rfl⟩ hservice
        | _ => rfl
      have hsame := exec_clock (fun now h => hservice ⟨now, h⟩) s
      rw [ClockForward, hclocks] at hclock
      rw [hclocks] at hnow
      exact ⟨⟨hfresh.1, fun now h => absurd ⟨now, h⟩ hservice⟩, ih (hsame ▸ hnow) hclock hfresh.2⟩

theorem allowed_append {ops' : List Op} (h : Allowed s (ops ++ ops')) :
    Allowed s ops ∧ Allowed (s.run ops) ops' := by
  induction ops generalizing s with
  | nil => exact ⟨trivial, h⟩
  | cons o ops ih => exact ⟨⟨h.1, (ih h.2).1⟩, (ih h.2).2⟩

theorem run_sound (h : Sound s) (hops : Allowed s ops) : Sound (s.run ops) := by
  induction ops generalizing s with
  | nil => exact h
  | cons o ops ih => exact ih (exec_sound h hops.1) hops.2

/-- The clock of the bus is that of the last `Service` call. -/
theorem run_lastService (ops : List Op) :
    (initialSim.run ops).nowMilliseconds = (clocks ops).getLast?.getD 0 := by
  induction ops using List.reverseRecOn with
  | nil => rfl
  | append_singleton ops o ih =>
    rw [Sim.run_append, clocks, List.filterMap_append]
    by_cases hservice : ∃ now, o = .service now
    · obtain ⟨now, rfl⟩ := hservice
      refine (service_frame now _).2.trans ?_
      simp
    · have hnone : [o].filterMap (fun | .service now => some now | _ => none) = [] := by
        cases o with
        | service now => exact absurd ⟨now, rfl⟩ hservice
        | _ => rfl
      rw [hnone, List.append_nil]
      exact (exec_clock (fun now h => hservice ⟨now, h⟩) _).trans ih

theorem Rests.cons (h : Rests id t (s.exec o) ops) (hs : s.transactions[id]? = some t)
    (hidle : ∀ now, o = .service now → resolve now (turn now s id) (id, t) = turn now s id) :
    Rests id t s (o :: ops) where
  entry := fun pre hpre => by
    rcases List.prefix_cons_iff.mp hpre with rfl | ⟨pre, rfl, hrest⟩
    · exact hs
    · exact h.entry pre hrest
  idle := fun pre now hpre => by
    rcases Lib.concat_prefix_cons.mp hpre with ⟨rfl, rfl⟩ | ⟨pre, rfl, hrest⟩
    · exact hidle now rfl
    · exact h.idle pre now hrest

theorem Waits.cons (h : Waits id t (s.exec o) ops) (hs : s.transactions[id]? = some t)
    (hp : t.outcome = .pending)
    (hidle : ∀ now, o = .service now → resolve now (turn now s id) (id, t) = turn now s id)
    (hsoon : ∀ now, o = .service now → now < t.startedAt + RESPONSE_TIMEOUT_MILLISECONDS) :
    Waits id t s (o :: ops) where
  toRests := h.toRests.cons hs hidle
  soon := fun pre now hpre => by
    rcases Lib.concat_prefix_cons.mp hpre with ⟨rfl, rfl⟩ | ⟨pre, rfl, hrest⟩
    · exact hsoon now rfl
    · exact h.soon pre now hrest
  asked := fun pre hpre => by
    rcases Lib.concat_prefix_cons.mp hpre with ⟨rfl, -⟩ | ⟨pre, rfl, hrest⟩
    · rw [show s.run [] = s from rfl, check_entry hs, hp]
      rfl
    · exact h.asked pre hrest

theorem rests_nil (hs : s.transactions[id]? = some t) : Rests id t s [] where
  entry := fun pre hpre => by
    rw [List.prefix_nil.mp hpre]
    exact hs
  idle := fun pre now hpre => absurd (List.prefix_nil.mp hpre) (by simp)

theorem waits_nil (hs : s.transactions[id]? = some t) : Waits id t s [] where
  toRests := rests_nil hs
  soon := fun pre now hpre => absurd (List.prefix_nil.mp hpre) (by simp)
  asked := fun pre hpre => absurd (List.prefix_nil.mp hpre) (by simp)

theorem gone_of_none (hs : s.transactions[id]? = none) : Gone id s ops := by
  intro pre hops hpre
  clear hops
  refine check_none ?_
  induction pre using List.reverseRecOn with
  | nil => exact hs
  | append_singleton pre o ih =>
    rw [Sim.run_append]
    refine exec_none (ih fun earlier o' h => hpre earlier o' (h.trans (List.prefix_append ..))) ?_
    exact hpre pre o (List.prefix_refl _)

theorem reports_of_ended (h : Sound s) (hops : Allowed s ops) (hs : s.transactions[id]? = some t)
    (ht : t.outcome ≠ .pending) :
    Reports id t s ops := by
  induction ops generalizing s with
  | nil => exact Or.inl (rests_nil hs)
  | cons o ops ih =>
    obtain ⟨ho, hops⟩ := hops
    have later (hs' : (s.exec o).transactions[id]? = some t)
        (hidle : ∀ now, o = .service now → resolve now (turn now s id) (id, t) =
          turn now s id) : Reports id t s (o :: ops) := by
      rcases ih (exec_sound h ho) hops hs' with hrests | ⟨resting, later, rfl, hrests, hreport⟩
      · exact Or.inl (hrests.cons hs hidle)
      · exact Or.inr ⟨o :: resting, later, rfl, hrests.cons hs hidle, hreport⟩
    by_cases hcheck : o = .check id
    · subst hcheck
      refine Or.inr ⟨[], ops, rfl, rests_nil hs, by rw [show s.run [] = s from rfl, check_entry hs],
        gone_of_none ?_⟩
      rw [show s.run [] = s from rfl, check_entry hs]
      dsimp only
      rw [if_pos ht, getElem?_erase_ite, if_pos rfl]
    · by_cases hservice : ∃ now, o = .service now
      · obtain ⟨now, rfl⟩ := hservice
        rcases service_turns h (ho.clock now rfl) hs with ⟨hsame, hidle, -⟩ | ⟨_, hp, -⟩
        · refine later hsame fun now' hnow => ?_
          cases hnow
          exact hidle
        · exact absurd hp ht
      · exact later (exec_entry ho hs hcheck (fun now h => hservice ⟨now, h⟩) h.next) fun now h =>
          absurd ⟨now, h⟩ hservice

theorem lifeCycle_of_pending (h : Sound s) (hops : Allowed s ops)
    (hs : s.transactions[id]? = some t) (hp : t.outcome = .pending) :
    LifeCycle id t s ops := by
  induction ops generalizing s with
  | nil => exact Or.inl (waits_nil hs)
  | cons o ops ih =>
    obtain ⟨ho, hops⟩ := hops
    have later (hs' : (s.exec o).transactions[id]? = some t)
        (hidle : ∀ now, o = .service now → resolve now (turn now s id) (id, t) = turn now s id)
        (hsoon : ∀ now, o = .service now →
          now < t.startedAt + RESPONSE_TIMEOUT_MILLISECONDS) : LifeCycle id t s (o :: ops) := by
      rcases ih (exec_sound h ho) hops hs' with hwaits |
        ⟨waiting, now, later, t', rfl, hwaits, hfinish⟩
      · exact Or.inl (hwaits.cons hs hp hidle hsoon)
      · exact Or.inr ⟨o :: waiting, now, later, t', rfl, hwaits.cons hs hp hidle hsoon, hfinish⟩
    by_cases hservice : ∃ now, o = .service now
    · obtain ⟨now, rfl⟩ := hservice
      rcases service_turns h (ho.clock now rfl) hs with ⟨hsame, hidle, hsoon⟩ |
        ⟨t', -, hended, hfinish⟩
      · refine later hsame (fun now' hnow => ?_) fun now' hnow => ?_
        · cases hnow
          exact hidle
        · cases hnow
          exact hsoon hp
      · exact Or.inr ⟨[], now, ops, t', rfl, waits_nil hs, hfinish,
          reports_of_ended (exec_sound h ho) hops hended hfinish.ended⟩
    · refine later ?_ (fun now h => absurd ⟨now, h⟩ hservice) fun now h => absurd ⟨now, h⟩ hservice
      by_cases hcheck : o = .check id
      · subst hcheck
        show (checkTransaction id s).2.transactions[id]? = some t
        rw [check_entry hs, hp]
        exact hs
      · exact exec_entry ho hs hcheck (fun now h => hservice ⟨now, h⟩) h.next

/-- In every run of the simulated bus, by any client, whose clock never runs backwards and
    in which no id is given out while its transaction is unfinished:
    - no `Service` call finds a transaction started, or the drift timer set, after its own
      clock;
    - each `Service` call gives every transaction in the map one turn;
    - every transaction that is started goes through its life cycle: it waits, at most one
      turn ends it, its result is handed out at most once, and then the id is gone. -/
theorem life_cycle (ops : List Op) (hclock : ClockForward ops) (hfresh : NoReuse initialSim ops) :
    (∀ pre now, pre ++ [.service now] <+: ops →
      (initialSim.run pre).lastDriftAt ≤ now ∧
      ∀ (id : Nat) (t : Transaction), (initialSim.run pre).transactions[id]? = some t →
        t.startedAt ≤ now ∧
        (turn now (initialSim.run pre) id).transactions[id]? = some t ∧
        ∃ later : List (Nat × Transaction), id ∉ later.map Prod.fst ∧
          service now (initialSim.run pre) =
            later.foldl (resolve now) (resolve now (turn now (initialSim.run pre) id) (id, t))) ∧
    (∀ pre o later t, ops = pre ++ o :: later → o.asks ((clocks pre).getLast?.getD 0) = some t →
      (initialSim.run pre).given o ≠ 0 →
      LifeCycle ((initialSim.run pre).given o) t ((initialSim.run pre).exec o) later) := by
  have hallowed : Allowed initialSim ops :=
    allowed_of_clock (fun now _ => Nat.zero_le now) hclock hfresh
  refine ⟨fun pre now hpre => ?_, fun pre o later t hops hasks hgiven => ?_⟩
  · obtain ⟨later, rfl⟩ := hpre
    rw [List.append_assoc] at hallowed
    obtain ⟨hpre, hnext, -⟩ := allowed_append hallowed
    have hsound := run_sound initialSim_sound hpre
    have hnow := hnext.clock now rfl
    refine ⟨hsound.drift.trans hnow, fun id t ht => ⟨(hsound.entries id t ht).1.trans hnow, ?_⟩⟩
    exact service_turn now ht
  · subst hops
    obtain ⟨hpre, ho, hlater⟩ := allowed_append hallowed
    have hsound := run_sound initialSim_sound hpre
    rcases exec_cases o (initialSim.run pre) with ⟨t', hstart⟩ | ⟨hnone, -⟩
    · have hsame := hstart.asks
      rw [run_lastService, hasks] at hsame
      cases hsame
      have hpending : t.outcome = .pending := by cases o <;> cases hasks <;> rfl
      refine lifeCycle_of_pending (exec_sound hsound ho) hlater ?_ hpending
      rw [hstart.exec, hstart.given, getElem?_insert_ite, if_pos rfl]
    · exact absurd hnone hgiven

/-- A coil is written while a read of it is under way; both results are handed out. -/
def writeAndRead : List Op :=
  [.service 1000, .startWrite 1 .coil 0 7, .startRead 1 .coil 0, .service 1010, .check 1,
    .service 1020, .check 1, .check 2, .check 1]

theorem life_cycle_coil :
    LifeCycle 1 ⟨1, .coil, 0, true, 7, 1000, .pending⟩ (initialSim.run (writeAndRead.take 2))
      (writeAndRead.drop 2) :=
  (life_cycle writeAndRead (by decide) (by decide +kernel)).2 [.service 1000]
    (.startWrite 1 .coil 0 7) _ _ rfl rfl (by decide +kernel)

end BacnetGateway.Simulation
