/-
  BacnetGateway.Simulation.Ownership — who waits for which transaction, when the gateway
  runs on the simulated bus.

  A `Holder` is a variable of the gateway that can hold a transaction id: a slave's
  `pollTransactionId`, or the `transactionId` of one of its links. `Owned visited` is the
  invariant inside a pass, `visited` the holders whose call the pass has made already:
  the entries of the map are exactly the transactions the holders wait for, each entry is
  what its holder asked for, and is pending once its holder was visited. That no id is
  handed out while it is still held, also after the 32-bit counter wrapped, is
  `Lib.next_fresh`: a transaction is kept for at least 20 ms, the least latency, and is
  less than 300 ms old after its holder's visit.
-/

import BacnetGateway.Lib.Ids
import BacnetGateway.Simulation.Steps
import BacnetGateway.Gateway.Calls

namespace BacnetGateway.Simulation

open Seam Gateway

/-! ## Holders -/

abbrev Holder := SlaveIndex × PointKind

def kindTable : PointKind → Table
  | .measuredTemperature => .inputRegister
  | .setpoint => .holdingRegister
  | .enable => .coil

theorem kindTable_inj {kind kind' : PointKind} (h : kindTable kind = kindTable kind') :
    kind = kind' := by
  cases kind <;> cases kind' <;> first | rfl | cases h

def transactionOf (slave : GatewayedSlave) : PointKind → Nat
  | .measuredTemperature => slave.pollTransactionId
  | .setpoint => slave.setpointLink.transactionId
  | .enable => slave.enableLink.transactionId

theorem transactionOf_kind (slave : GatewayedSlave) (k : Output) :
    transactionOf slave k.kind = (slave.link k).transactionId := by cases k <;> rfl

/-- The id a holder holds, 0 for none. -/
def heldId (slaves : SlaveIndex → GatewayedSlave) (h : Holder) : Nat :=
  transactionOf (slaves h.1) h.2

/-- The transaction is what the holder asked for. -/
structure Matches (slaves : SlaveIndex → GatewayedSlave) (h : Holder) (t : Transaction) : Prop where
  unitId : t.unitId = unitId h.1
  table : t.table = kindTable h.2
  address : t.address = pointAddress
  isWrite : t.isWrite = decide (h.2 ≠ .measuredTemperature)
  value : ∀ k : Output, h.2 = k.kind → t.value = encode k ((slaves h.1).link k).inFlightValue

/-- What a holder's own call has left, or the pass has not reached yet. -/
structure Phase (visited : List Holder) (now : Nat) (h : Holder) (t : Transaction) : Prop where
  young : t.outcome = .pending → now < t.startedAt + RESPONSE_TIMEOUT_MILLISECONDS
  verdict : t.outcome ≠ .pending → t.startedAt + 20 ≤ now ∧ h ∉ visited

/-- The greatest transaction id. -/
def LAST_ID : Nat := 2 ^ 32 - 1

/-- The ids held, for `Lib.Ids`. -/
def heldIds (s : Sys Sim) : Lib.Ids Holder where
  id := heldId s.slaves
  since h :=
    if heldId s.slaves h = 0 then none else s.bus.transactions[heldId s.slaves h]?.map (·.startedAt)
  next := s.bus.nextTransactionId
  now := s.bus.nowMilliseconds

/-- Ids are kept for the least latency, and given back at the timeout. -/
abbrev IdsOk (visited : List Holder) (ids : Lib.Ids Holder) : Prop :=
  ids.Ok LAST_ID 20 RESPONSE_TIMEOUT_MILLISECONDS 15 visited

structure Owned (visited : List Holder) (s : Sys Sim) : Prop where
  entry : ∀ h, heldId s.slaves h ≠ 0 → ∃ t, s.bus.transactions[heldId s.slaves h]? = some t ∧
    Matches s.slaves h t ∧ Phase visited s.bus.nowMilliseconds h t
  key : ∀ (id : Nat) (t : Transaction), s.bus.transactions[id]? = some t →
    id ≠ 0 ∧ ∃ h, heldId s.slaves h = id
  ids : IdsOk visited (heldIds s)

variable {visited : List Holder} {s : Sys Sim} {h h' : Holder} {i j : SlaveIndex} {k : Output}

theorem matches_unique {slaves : SlaveIndex → GatewayedSlave} {t : Transaction}
    (h1 : Matches slaves h t) (h2 : Matches slaves h' t) : h = h' :=
  Prod.ext (unitId_inj (h1.unitId.symm.trans h2.unitId))
    (kindTable_inj (h1.table.symm.trans h2.table))

/-- No two holders wait for the same transaction. -/
theorem heldId_inj (ho : Owned visited s) (hne : heldId s.slaves h ≠ 0)
    (heq : heldId s.slaves h = heldId s.slaves h') :
    h = h' := by
  obtain ⟨t, ht, hm, -⟩ := ho.entry h hne
  obtain ⟨t', ht', hm', -⟩ := ho.entry h' (heq ▸ hne)
  rw [heq, ht'] at ht
  cases ht
  exact matches_unique hm hm'

theorem holder_card : Fintype.card Holder = 9 := by decide

/-- The next id names no entry. -/
theorem next_absent (ho : Owned visited s) :
    s.bus.transactions[s.bus.nextTransactionId]? = none := by
  cases ht : s.bus.transactions[s.bus.nextTransactionId]? with
  | none => rfl
  | some t =>
    obtain ⟨hne, h, hid⟩ := ho.key _ t ht
    have hsince : (heldIds s).since h = some t.startedAt := by
      show (if heldId s.slaves h = 0 then none else _) = _
      rw [if_neg (hid ▸ hne), hid, ht]
      rfl
    exact absurd hid.symm (Lib.next_fresh ho.ids (by rw [holder_card]; decide) hsince)

/-! ## The bus calls a holder makes -/

theorem successor_eq {id : Nat} (hpos : 1 ≤ id) (hle : id ≤ LAST_ID) :
    successor id = Lib.next LAST_ID id := by
  unfold successor Lib.next
  unfold LAST_ID at hle ⊢
  by_cases h : id = 2 ^ 32 - 1
  · rw [if_pos h, if_pos (by omega)]
  · rw [if_neg h, if_neg (by omega)]
    omega

theorem findPoint_unitId (i : SlaveIndex) : findPoint (unitId i) pointAddress = some i :=
  (if_pos rfl).trans (findSlave_slaveUnitId i)

/-- What the bus does for a holder's `StartRead` or `StartWrite`. -/
def started (s : Sim) (h : Holder) (value : Word) : Sim :=
  { s with
    nextTransactionId := successor s.nextTransactionId
    transactions := s.transactions.insert s.nextTransactionId
      ⟨unitId h.1, kindTable h.2, pointAddress, decide (h.2 ≠ .measuredTemperature), value,
        s.nowMilliseconds, .pending⟩ }

theorem startRead_eq (i : SlaveIndex) (s : Sim) :
    startRead (unitId i) .inputRegister pointAddress s =
      (s.nextTransactionId, started s (i, .measuredTemperature) 0) := by
  unfold startRead startTransaction
  rw [findPoint_unitId]
  rfl

theorem startWrite_eq (i : SlaveIndex) (k : Output) (word : Word) (s : Sim) :
    startWrite (unitId i) k.table pointAddress word s =
      (s.nextTransactionId, started s (i, k.kind) word) := by
  unfold startWrite startTransaction
  rw [findPoint_unitId]
  cases k <;> rfl

theorem checkTransaction_pending {s : Sim} {id : Nat} {t : Transaction}
    (ht : s.transactions[id]? = some t)
    (hp : t.outcome = .pending) : checkTransaction id s = (⟨.pending, 0⟩, s) := by
  unfold checkTransaction
  rw [ht]
  simp [hp]

theorem checkTransaction_ended {s : Sim} {id : Nat} {t : Transaction}
    (ht : s.transactions[id]? = some t) (hp : t.outcome ≠ .pending) :
    checkTransaction id s =
      (⟨t.outcome, if t.outcome = .done then t.value else 0⟩,
        { s with transactions := s.transactions.erase id }) := by
  unfold checkTransaction
  rw [ht]
  simp [hp]

/-! ## A visit -/

/-- Holder `h` waits for the same transaction, with the same word, in both. -/
def SameAsk (slaves slaves' : SlaveIndex → GatewayedSlave) (h : Holder) : Prop :=
  heldId slaves' h = heldId slaves h ∧
    ∀ k : Output, h.2 = k.kind → ((slaves' h.1).link k).inFlightValue =
      ((slaves h.1).link k).inFlightValue

theorem Matches.congr {slaves slaves' : SlaveIndex → GatewayedSlave} {t : Transaction}
    (hm : Matches slaves h t) (hsame : SameAsk slaves slaves' h) : Matches slaves' h t :=
  ⟨hm.unitId, hm.table, hm.address, hm.isWrite,
    fun k hk => by rw [hsame.2 k hk]; exact hm.value k hk⟩

theorem Phase.visit {now : Nat} {t : Transaction} (hp : Phase visited now h t) (hne : h ≠ h') :
    Phase (h' :: visited) now h t :=
  ⟨hp.young, fun hv =>
    ⟨(hp.verdict hv).1, fun hmem => (List.mem_cons.mp hmem).elim hne (hp.verdict hv).2⟩⟩

theorem owned_congr (ho : Owned visited s) {slaves' : SlaveIndex → GatewayedSlave}
    (hsame : ∀ h, SameAsk s.slaves slaves' h) (log : List Act) :
    Owned visited ⟨slaves', s.bus, log⟩ := by
  have hid : heldId slaves' = heldId s.slaves := funext fun h => (hsame h).1
  refine ⟨fun h hne => ?_, fun id t ht => ?_, ?_⟩
  · rw [show heldId slaves' h = heldId s.slaves h from (hsame h).1] at hne ⊢
    obtain ⟨t, ht, hm, hp⟩ := ho.entry h hne
    exact ⟨t, ht, hm.congr (hsame h), hp⟩
  · obtain ⟨hne, h, hh⟩ := ho.key id t ht
    exact ⟨hne, h, (hsame h).1.trans hh⟩
  · have hids : heldIds ⟨slaves', s.bus, log⟩ = heldIds s := by
      unfold heldIds
      simp only [hid]
    rw [hids]
    exact ho.ids

theorem started_entry (s : Sim) (h : Holder) (value : Word) (id : Nat) :
    (started s h value).transactions[id]? =
    if s.nextTransactionId = id then some ⟨unitId h.1, kindTable h.2, pointAddress,
      decide (h.2 ≠ .measuredTemperature), value, s.nowMilliseconds, .pending⟩
    else s.transactions[id]? := getElem?_insert_ite ..

/-- Nobody waits for the id that comes next. -/
theorem next_ne (ho : Owned visited s) {h' : Holder} (hh' : heldId s.slaves h' ≠ 0) :
    s.bus.nextTransactionId ≠ heldId s.slaves h' := by
  intro heq
  obtain ⟨t, ht, -⟩ := ho.entry h' hh'
  rw [← heq, next_absent ho] at ht
  cases ht

theorem heldId_update {slaves slaves' : SlaveIndex → GatewayedSlave} {id : Nat}
    (hself : heldId slaves' h = id) (hsame : ∀ h', h' ≠ h → SameAsk slaves slaves' h') :
    heldId slaves' = Function.update (heldId slaves) h id := by
  funext h'
  by_cases heq : h' = h
  · subst heq
    rw [Function.update_self, hself]
  · rw [Function.update_of_ne heq, (hsame h' heq).1]

section
variable {slaves' : SlaveIndex → GatewayedSlave}
    (hsame : ∀ h', h' ≠ h → SameAsk s.slaves slaves' h') (log : List Act)
include hsame

/-- A start takes the next id. -/
theorem heldIds_started (ho : Owned visited s) (value : Word)
    (hself : heldId slaves' h = s.bus.nextTransactionId) :
    heldIds ⟨slaves', started s.bus h value, log⟩ = (heldIds s).take LAST_ID h := by
  have hrange := ho.ids.nextRange
  have hsince : (heldIds ⟨slaves', started s.bus h value, log⟩).since =
      Function.update (heldIds s).since h (some s.bus.nowMilliseconds) := by
    funext h'
    show (if heldId slaves' h' = 0 then none
      else (started s.bus h value).transactions[heldId slaves' h']?.map _) = _
    by_cases heq : h' = h
    · subst heq
      rw [Function.update_self, hself,
        if_neg (by have := hrange.1; exact Nat.one_le_iff_ne_zero.mp this), started_entry,
        if_pos rfl]
      rfl
    · rw [Function.update_of_ne heq, (hsame h' heq).1]
      by_cases hz : heldId s.slaves h' = 0
      · rw [if_pos hz]
        exact (if_pos hz).symm
      · rw [if_neg hz, started_entry, if_neg (next_ne ho hz)]
        exact (if_neg hz).symm
  unfold Lib.Ids.take
  rw [← successor_eq hrange.1 hrange.2]
  exact congrArg₂ (fun id since =>
      (⟨id, since, successor s.bus.nextTransactionId, s.bus.nowMilliseconds⟩ : Lib.Ids Holder))
    (heldId_update hself hsame) hsince

/-- The end of a transaction gives the id back. -/
theorem heldIds_erased (ho : Owned visited s) (hheld : heldId s.slaves h ≠ 0)
    (hself : heldId slaves' h = 0) :
    heldIds ⟨slaves', { s.bus with transactions := s.bus.transactions.erase (heldId s.slaves h) },
      log⟩ = (heldIds s).release h := by
  have hsince : (heldIds ⟨slaves',
    { s.bus with transactions := s.bus.transactions.erase (heldId s.slaves h) },
      log⟩).since = Function.update (heldIds s).since h none := by
    funext h'
    show (if heldId slaves' h' = 0 then none
      else (s.bus.transactions.erase (heldId s.slaves h))[heldId slaves' h']?.map _) = _
    by_cases heq : h' = h
    · subst heq
      rw [Function.update_self, if_pos hself]
    · rw [Function.update_of_ne heq, (hsame h' heq).1]
      by_cases hz : heldId s.slaves h' = 0
      · rw [if_pos hz]
        exact (if_pos hz).symm
      · rw [if_neg hz, getElem?_erase_ite, if_neg fun hid => heq (heldId_inj ho hheld hid).symm]
        exact (if_neg hz).symm
  exact congrArg₂ (fun id since =>
      (⟨id, since, s.bus.nextTransactionId, s.bus.nowMilliseconds⟩ : Lib.Ids Holder))
    (heldId_update hself hsame) hsince

end

/-- A visit in which the holder starts a transaction. -/
theorem owned_start (ho : Owned visited s) (hfree : heldId s.slaves h = 0) (hnew : h ∉ visited)
    {slaves' : SlaveIndex → GatewayedSlave} {value : Word}
    (hself : heldId slaves' h = s.bus.nextTransactionId)
    (hvalue : ∀ k : Output, h.2 = k.kind → value = encode k ((slaves' h.1).link k).inFlightValue)
    (hsame : ∀ h', h' ≠ h → SameAsk s.slaves slaves' h') (log : List Act) :
    Owned (h :: visited) ⟨slaves', started s.bus h value, log⟩ := by
  refine ⟨fun h' hh' => ?_, fun id t ht => ?_, ?_⟩
  · by_cases heq : h' = h
    · subst heq
      refine ⟨_, (congrArg _ hself).trans ((started_entry ..).trans (if_pos rfl)),
        ⟨rfl, rfl, rfl, rfl, hvalue⟩, ?_⟩
      exact ⟨fun _ => Nat.lt_add_of_pos_right (by decide), fun hv => absurd rfl hv⟩
    · rw [(hsame h' heq).1] at hh' ⊢
      obtain ⟨t, ht, hm, hp⟩ := ho.entry h' hh'
      exact ⟨t, (started_entry ..).trans ((if_neg (next_ne ho hh')).trans ht),
        hm.congr (hsame h' heq), hp.visit heq⟩
  · rw [show (started s.bus h value).transactions[id]? = _ from started_entry ..] at ht
    by_cases hid : s.bus.nextTransactionId = id
    · subst hid
      exact ⟨Nat.one_le_iff_ne_zero.mp ho.ids.nextRange.1, h, hself⟩
    · rw [if_neg hid] at ht
      obtain ⟨hz, h', hh'⟩ := ho.key id t ht
      have hhne : h' ≠ h := by
        rintro rfl
        exact hz (hh'.symm.trans hfree)
      exact ⟨hz, h', (hsame h' hhne).1.trans hh'⟩
  · rw [heldIds_started hsame log ho value hself]
    refine Lib.ok_take ho.ids (by decide) ?_ hnew
    exact if_pos hfree

/-- A holder is told how its transaction ended, and gives the id back. -/
theorem owned_finish (ho : Owned visited s) (hheld : heldId s.slaves h ≠ 0) {t : Transaction}
    (ht : s.bus.transactions[heldId s.slaves h]? = some t) (hended : t.outcome ≠ .pending)
    {slaves' : SlaveIndex → GatewayedSlave} (hself : heldId slaves' h = 0)
    (hsame : ∀ h', h' ≠ h → SameAsk s.slaves slaves' h') (log : List Act) :
    Owned visited ⟨slaves',
      { s.bus with transactions := s.bus.transactions.erase (heldId s.slaves h) }, log⟩ := by
  have hentry : ∀ id, (s.bus.transactions.erase (heldId s.slaves h))[id]? =
      if heldId s.slaves h = id then none else s.bus.transactions[id]? :=
        fun id => getElem?_erase_ite ..
  obtain ⟨t', ht', -, hp⟩ := ho.entry h hheld
  rw [ht] at ht'
  cases ht'
  refine ⟨fun h' hh' => ?_, fun id t' ht' => ?_, ?_⟩
  · by_cases heq : h' = h
    · subst heq
      exact absurd hself hh'
    · rw [(hsame h' heq).1] at hh' ⊢
      obtain ⟨t', ht', hm, hp'⟩ := ho.entry h' hh'
      have hne : heldId s.slaves h ≠ heldId s.slaves h' :=
        fun hid => heq (heldId_inj ho hheld hid).symm
      exact ⟨t', (hentry _).trans ((if_neg hne).trans ht'), hm.congr (hsame h' heq), hp'⟩
  · rw [show ({ s.bus with transactions := s.bus.transactions.erase (heldId s.slaves h) } :
        Sim).transactions[id]? = _ from hentry id] at ht'
    by_cases hid : heldId s.slaves h = id
    · rw [if_pos hid] at ht'
      cases ht'
    · rw [if_neg hid] at ht'
      obtain ⟨hz, h', hh'⟩ := ho.key id t' ht'
      have hhne : h' ≠ h := by
        rintro rfl
        exact hid hh'
      exact ⟨hz, h', (hsame h' hhne).1.trans hh'⟩
  · rw [heldIds_erased hsame log ho hheld hself]
    refine Lib.ok_release ho.ids ?_ (hp.verdict hended).1
    show (if heldId s.slaves h = 0 then none else s.bus.transactions[heldId s.slaves h]?.map _) = _
    rw [if_neg hheld, ht]
    rfl

/-- A visit to a holder that waits for nothing, or whose transaction is still pending. -/
theorem owned_visit (ho : Owned visited s)
    (hp : ∀ t, heldId s.slaves h ≠ 0 → s.bus.transactions[heldId s.slaves h]? = some t →
      t.outcome = .pending) :
    Owned (h :: visited) s := by
  refine ⟨fun h' hh' => ?_, ho.key, Lib.ok_visit ho.ids fun b hb => ?_⟩
  · obtain ⟨t, ht, hm, hphase⟩ := ho.entry h' hh'
    by_cases heq : h' = h
    · subst heq
      exact ⟨t, ht, hm, hphase.young, fun hv => absurd (hp t hh' ht) hv⟩
    · exact ⟨t, ht, hm, hphase.visit heq⟩
  · by_cases hz : heldId s.slaves h = 0
    · rw [show (heldIds s).since h = none from if_pos hz] at hb
      cases hb
    · obtain ⟨t, ht, -, hphase⟩ := ho.entry h hz
      rw [show (heldIds s).since h = some t.startedAt from (if_neg hz).trans (by rw [ht]; rfl)]
        at hb
      cases hb
      exact hphase.young (hp t hz ht)

/-! ## The calls of a pass -/

theorem owned_allPending (ho : Owned visited s) (hall : ∀ h, h ∈ visited) : AllPending s.bus := by
  intro id t ht
  obtain ⟨hne, h, hid⟩ := ho.key id t ht
  obtain ⟨t', ht', hm, hp⟩ := ho.entry h (hid ▸ hne)
  rw [hid, ht] at ht'
  cases ht'
  refine ⟨?_, h.1, by rw [hm.unitId]; exact findSlave_slaveUnitId h.1⟩
  by_contra hv
  exact (hp.verdict hv).2 (hall h)

/-- The driver's turn: every transaction is answered, and no holder is visited yet. -/
theorem owned_service (ho : Owned visited s) (hall : ∀ h, h ∈ visited) {now : Nat}
    (hnow : s.bus.nowMilliseconds ≤ now) :
    Owned [] { s with bus := service now s.bus } := by
  have hpending := owned_allPending ho hall
  obtain ⟨hnext, hclock⟩ := service_frame now s.bus
  have hanswer : ∀ {id : Nat} {t : Transaction}, s.bus.transactions[id]? = some t →
      ∃ t', (service now s.bus).transactions[id]? = some t' ∧ Answered now t t' := by
    intro id t ht
    obtain ⟨i, slave, -, h'⟩ := service_entry now hpending ht
    exact ⟨_, h', answer_answered now i slave (hpending id t ht).1⟩
  refine ⟨fun h hh => ?_, fun id t ht => ?_, ?_⟩
  · obtain ⟨t, ht, hm, -⟩ := ho.entry h hh
    obtain ⟨t', ht', ha⟩ := hanswer ht
    refine ⟨t', ht',
      ⟨ha.unitId.trans hm.unitId, ha.table.trans hm.table, ha.address.trans hm.address,
      ha.isWrite.trans hm.isWrite, fun k hk => (ha.value ?_).trans (hm.value k hk)⟩, ?_⟩
    · rw [hm.isWrite, hk]
      cases k <;> rfl
    · show Phase [] (service now s.bus).nowMilliseconds h t'
      rw [hclock]
      exact ⟨fun hp => ha.startedAt ▸ ha.pending hp, fun hv =>
        ⟨ha.startedAt ▸ ha.verdict hv, by simp⟩⟩
  · cases hs : s.bus.transactions[id]? with
    | none =>
      rw [show (service now s.bus).transactions[id]? = none from service_no_entry now hs] at ht
      cases ht
    | some t' => exact ho.key id t' hs
  · have hids : heldIds { s with bus := service now s.bus } = { heldIds s with now := now } := by
      have hsince : (heldIds { s with bus := service now s.bus }).since = (heldIds s).since := by
        funext h
        show (if heldId s.slaves h = 0 then none
            else (service now s.bus).transactions[heldId s.slaves h]?.map _) =
          (if heldId s.slaves h = 0 then none else s.bus.transactions[heldId s.slaves h]?.map _)
        by_cases hz : heldId s.slaves h = 0
        · rw [if_pos hz, if_pos hz]
        · rw [if_neg hz, if_neg hz]
          obtain ⟨t, ht, -⟩ := ho.entry h hz
          obtain ⟨t', ht', ha⟩ := hanswer ht
          rw [ht, ht']
          exact congrArg some ha.startedAt
      show (⟨heldId s.slaves, (heldIds { s with bus := service now s.bus }).since,
        (service now s.bus).nextTransactionId,
        (service now s.bus).nowMilliseconds⟩ : Lib.Ids Holder) =
        ⟨heldId s.slaves, (heldIds s).since, s.bus.nextTransactionId, now⟩
      rw [hnext, hclock, hsince]
    rw [hids]
    exact Lib.ok_round ho.ids (by decide) hall hnow

variable (settings : Settings)

theorem update_sameAsk {slaves : SlaveIndex → GatewayedSlave} {slave : GatewayedSlave}
    (hother : h'.1 ≠ i) :
    SameAsk slaves (Function.update slaves i slave) h' := by
  unfold SameAsk heldId
  rw [Function.update_of_ne hother]
  exact ⟨rfl, fun _ _ => rfl⟩

/-- Replacing a slave's record changes only what its own holder `h` asks. -/
theorem update_sameAsk_of {slaves : SlaveIndex → GatewayedSlave} {slave : GatewayedSlave}
    {kind : PointKind} (hne : h' ≠ (i, kind))
    (hrest : ∀ kind', kind' ≠ kind → transactionOf slave kind' = transactionOf (slaves i) kind' ∧
      ∀ k : Output, kind' = k.kind → (slave.link k).inFlightValue =
        ((slaves i).link k).inFlightValue) : SameAsk slaves
        (Function.update slaves i slave) h' := by
  by_cases hi : h'.1 = i
  · obtain ⟨j, kind'⟩ := h'
    dsimp only at hi
    subst hi
    have hkind : kind' ≠ kind := fun hk => hne (by rw [hk])
    unfold SameAsk heldId
    rw [Function.update_self]
    exact hrest kind' hkind
  · exact update_sameAsk hi

theorem poll_rest {slave slave' : GatewayedSlave}
    (hlink : ∀ k, (slave'.link k).transactionId = (slave.link k).transactionId ∧
      (slave'.link k).inFlightValue = (slave.link k).inFlightValue) (kind : PointKind)
        (hne : kind ≠ .measuredTemperature) :
    transactionOf slave' kind = transactionOf slave kind ∧
      ∀ k : Output, kind = k.kind → (slave'.link k).inFlightValue =
        (slave.link k).inFlightValue := by
  cases kind with
  | measuredTemperature => exact absurd rfl hne
  | setpoint => exact ⟨(hlink .setpoint).1, fun k _ => (hlink k).2⟩
  | enable => exact ⟨(hlink .enable).1, fun k _ => (hlink k).2⟩

theorem poll_owned (ho : Owned visited s) (hnew : (i, .measuredTemperature) ∉ visited) (now : Nat) :
    Owned ((i, .measuredTemperature) :: visited)
      (servicePoll simulatedForeignBus settings i now s) := by
  by_cases hid : (s.slaves i).pollTransactionId = 0
  · by_cases hdue : now < (s.slaves i).nextPollAt
    · rw [servicePoll_idle _ settings hid hdue]
      exact owned_visit ho fun t hz => absurd hid hz
    · rw [servicePoll_start _ settings hid (Nat.le_of_not_lt hdue) (startRead_eq i s.bus)]
      refine owned_start (h := (i, .measuredTemperature)) ho hid hnew ?_
        (fun k hk => by cases k <;> cases hk) (fun h' hne => update_sameAsk_of hne ?_) _
      · show transactionOf (Function.update s.slaves i _ i) _ = _
        rw [Function.update_self]
        rfl
      · exact poll_rest fun k => by cases k <;> exact ⟨rfl, rfl⟩
  · obtain ⟨t, ht, -, -⟩ := ho.entry (i, .measuredTemperature) hid
    by_cases hp : t.outcome = .pending
    · rw [servicePoll_pending _ settings hid (checkTransaction_pending ht hp)]
      refine owned_congr (owned_visit ho fun t' _ ht' => ?_) (fun h => ⟨rfl, fun _ _ => rfl⟩) _
      rw [ht] at ht'
      cases ht'
      exact hp
    · have hr := checkTransaction_ended ht hp
      have finish : ∀ (slave : GatewayedSlave) (log : List Act), slave.pollTransactionId = 0 →
          (∀ k, (slave.link k).transactionId = ((s.slaves i).link k).transactionId ∧
            (slave.link k).inFlightValue = ((s.slaves i).link k).inFlightValue) →
          Owned ((i, .measuredTemperature) :: visited) ⟨Function.update s.slaves i slave,
            { s.bus with transactions := s.bus.transactions.erase (s.slaves i).pollTransactionId },
            log⟩ := by
        intro slave log hpoll hlink
        have hself : heldId (Function.update s.slaves i slave) (i, .measuredTemperature) = 0 := by
          show transactionOf (Function.update s.slaves i _ i) _ = _
          rw [Function.update_self]
          exact hpoll
        exact owned_visit
            (owned_finish (h := (i, .measuredTemperature)) ho hid ht hp hself (fun h' hne =>
              update_sameAsk_of hne (poll_rest hlink)) log)
          fun _ hz => absurd hself hz
      cases ho : t.outcome with
      | pending => exact absurd ho hp
      | done =>
        rw [ho] at hr
        rw [servicePoll_done _ settings hid hr]
        exact finish _ _ rfl fun k => by cases k <;> exact ⟨rfl, rfl⟩
      | timeout =>
        rw [ho] at hr
        rw [servicePoll_timeout _ settings hid hr]
        refine finish _ _ ?_ fun k => ?_
        · unfold afterTimeout
          split <;> rfl
        · unfold afterTimeout
          split <;> cases k <;> exact ⟨rfl, rfl⟩

theorem write_rest {slave : GatewayedSlave} {link : WriteThrough} (kind : PointKind)
    (hne : kind ≠ k.kind) :
    transactionOf (slave.setLink k link) kind = transactionOf slave kind ∧
      ∀ k' : Output, kind = k'.kind → ((slave.setLink k link).link k').inFlightValue =
        (slave.link k').inFlightValue := by
  cases k <;> cases kind <;> first
    | exact absurd rfl hne
    | exact ⟨rfl, fun k' hk' => by cases k' <;> first | rfl | cases hk'⟩

theorem writeWinningValue_owned (ho : Owned visited s)
    (hid : ((s.slaves i).link k).transactionId = 0) (hnew : (i, k.kind) ∉ visited) (now : Nat) :
    Owned ((i, k.kind) :: visited) (writeWinningValue simulatedForeignBus i k now s) := by
  have hz : heldId s.slaves (i, k.kind) = 0 := (transactionOf_kind _ k).trans hid
  by_cases hdue : writeDue (s.slaves i) k now
  · rw [writeWinningValue_start _ hdue (startWrite_eq i k _ s.bus)]
    refine owned_start ho hz hnew ?_ (fun k' hk' => ?_) (fun h' hne =>
      update_sameAsk_of hne write_rest) _
    · show transactionOf (Function.update s.slaves i _ i) _ = _
      rw [Function.update_self, transactionOf_kind, setLink_link]
      rfl
    · have hkk : k = k' := by cases k <;> cases k' <;> first | rfl | cases hk'
      subst hkk
      show _ = encode k ((Function.update s.slaves i _ i).link k).inFlightValue
      rw [Function.update_self, setLink_link]
      rfl
  · rw [writeWinningValue_skip _ hdue]
    exact owned_visit ho fun t hnz => absurd hz hnz

theorem writeThrough_owned (ho : Owned visited s) (hnew : (i, k.kind) ∉ visited) (now : Nat) :
    Owned ((i, k.kind) :: visited) (serviceWriteThrough simulatedForeignBus i k now s) := by
  by_cases hid : ((s.slaves i).link k).transactionId = 0
  · rw [serviceWriteThrough_free _ hid]
    exact writeWinningValue_owned ho hid hnew now
  · have hheld : heldId s.slaves (i, k.kind) = ((s.slaves i).link k).transactionId :=
      transactionOf_kind _ k
    obtain ⟨t, ht, -, -⟩ := ho.entry (i, k.kind) (hheld ▸ hid)
    have ht' := ht
    rw [hheld] at ht'
    by_cases hp : t.outcome = .pending
    · rw [serviceWriteThrough_pending _ hid (checkTransaction_pending ht' hp)]
      refine owned_congr (owned_visit ho fun t' _ ht' => ?_) (fun h => ⟨rfl, fun _ _ => rfl⟩) _
      rw [ht] at ht'
      cases ht'
      exact hp
    · have hr := checkTransaction_ended ht' hp
      have finish : ∀ (link : WriteThrough) (act : Act), link.transactionId = 0 →
          Owned ((i, k.kind) :: visited) (writeWinningValue simulatedForeignBus i k now
            ((s.setSlave i ((s.slaves i).setLink k link)).called
              { s.bus with transactions :=
                s.bus.transactions.erase ((s.slaves i).link k).transactionId } act)) := by
        intro link act hzero
        have hself : transactionOf (Function.update s.slaves i ((s.slaves i).setLink k link) i)
            k.kind = 0 := by
          rw [Function.update_self, transactionOf_kind, setLink_link, hzero]
        have hfinished := owned_finish ho (hheld ▸ hid) ht hp hself
          (fun h' hne => update_sameAsk_of hne write_rest) (act :: s.log)
        rw [hheld] at hfinished
        refine writeWinningValue_owned hfinished ?_ hnew now
        exact (transactionOf_kind _ k).symm.trans hself
      cases ho : t.outcome with
      | pending => exact absurd ho hp
      | done =>
        rw [ho] at hr
        rw [serviceWriteThrough_done _ hid hr]
        exact finish _ _ rfl
      | timeout =>
        rw [ho] at hr
        rw [serviceWriteThrough_timeout _ hid hr]
        exact finish _ _ rfl

/-! ## Runs -/

/-- The holder a call is for. -/
def Call.holder : Call → Option Holder
  | .service _ => none
  | .poll i _ => some (i, .measuredTemperature)
  | .writeThrough i k _ => some (i, k.kind)

/-- The calls of a pass after the driver's turn. -/
def holderCalls (now : Nat) : List Call := (List.finRange 3).flatMap (slaveCalls now)

/-- Every holder, in the order of the pass. -/
def allHolders : List Holder :=
  (List.finRange 3).flatMap fun i => [(i, .measuredTemperature), (i, .setpoint), (i, .enable)]

theorem mem_allHolders (h : Holder) : h ∈ allHolders := by
  revert h
  decide

theorem allHolders_nodup : allHolders.Nodup := by decide

theorem holderCalls_holders (now : Nat) : (holderCalls now).map Call.holder = allHolders.map some :=
  rfl

/-- The calls a pass makes visit their holders one after the other. -/
theorem calls_owned {calls : List Call} {holders : List Holder}
    (hcalls : calls.map Call.holder = holders.map some)
    (hnd : holders.Nodup) (hnew : ∀ h ∈ holders, h ∉ visited) (ho : Owned visited s) :
    Owned (holders.reverse ++ visited) (calls.foldl (exec simulatedForeignBus settings) s) := by
  induction calls generalizing holders visited s with
  | nil =>
    have : holders = [] := by simpa using hcalls
    subst this
    exact ho
  | cons c calls ih =>
    cases holders with
    | nil => simp at hcalls
    | cons h holders =>
      rw [List.map_cons, List.map_cons, List.cons.injEq] at hcalls
      obtain ⟨hc, hcalls⟩ := hcalls
      obtain ⟨hnot, hnd⟩ := List.nodup_cons.mp hnd
      have hfirst : Owned (h :: visited) (exec simulatedForeignBus settings s c) := by
        have hv := hnew h (List.mem_cons_self ..)
        cases c with
        | service now => cases hc
        | poll i now => cases hc; exact poll_owned settings ho hv now
        | writeThrough i k now => cases hc; exact writeThrough_owned ho hv now
      have hrest := ih hcalls hnd (fun h' hh' (hmem : h' ∈ h :: visited) => ?_) hfirst
      · rw [List.foldl_cons, List.reverse_cons, List.append_assoc]
        exact hrest
      · rcases List.mem_cons.mp hmem with rfl | hmem
        · exact hnot hh'
        · exact hnew h' (List.mem_cons_of_mem _ hh') hmem

/-- Between two events every holder was visited. -/
abbrev Between (s : Sys Sim) : Prop := Owned allHolders s

theorem owned_perm {visited' : List Holder} (hmem : ∀ h, h ∈ visited' ↔ h ∈ visited)
    (ho : Owned visited s) :
    Owned visited' s := by
  refine ⟨fun h hh => ?_, ho.key, ho.ids.nextRange, ho.ids.idRange, ho.ids.sinceLe,
    fun e he => ho.ids.young e ((hmem e).mp he), fun e b he => ?_⟩
  · obtain ⟨t, ht, hm, hp⟩ := ho.entry h hh
    exact ⟨t, ht, hm, hp.young, fun hv =>
      ⟨(hp.verdict hv).1, fun hv' => (hp.verdict hv).2 ((hmem h).mp hv')⟩⟩
  · obtain ⟨count, hnext, hcount⟩ := ho.ids.taken e b he
    exact ⟨count, hnext, fun j =>
      ⟨(hcount j).1.imp_right fun hv => ⟨(hmem j).mpr hv.1, hv.2⟩, (hcount j).2⟩⟩

theorem pass_between (ho : Between s) {now : Nat} (hnow : s.bus.nowMilliseconds ≤ now) :
    Between (serviceForeignBus simulatedForeignBus settings now s) := by
  rw [serviceForeignBus_calls, show passCalls now = .service now :: holderCalls now from rfl,
    List.foldl_cons]
  have hserved := owned_service ho mem_allHolders hnow
  have hcalls :=
    calls_owned settings (holderCalls_holders now) allHolders_nodup
    (fun h _ hmem => by cases hmem) hserved
  refine owned_perm (fun h => ⟨fun _ => ?_, fun _ => mem_allHolders h⟩) hcalls
  rw [List.append_nil, List.mem_reverse]
  exact mem_allHolders h

theorem set_sameAsk (slaves : SlaveIndex → GatewayedSlave) (call : SetCall) (h : Holder) :
    SameAsk slaves (call.result settings slaves).slaves h := by
  rw [(set_result settings slaves call).2]
  cases commandOf settings call with
  | none => exact ⟨rfl, fun _ _ => rfl⟩
  | some c =>
    show SameAsk slaves (Function.update slaves c.slave _) h
    by_cases hi : h.1 = c.slave
    · obtain ⟨j, kind⟩ := h
      dsimp only at hi
      subst hi
      unfold SameAsk heldId
      rw [Function.update_self]
      refine ⟨?_, fun k _ => by rw [setCommand_link]⟩
      cases kind with
      | measuredTemperature => exact setCommand_pollId ..
      | setpoint => exact congrArg WriteThrough.transactionId (setCommand_link _ _ .setpoint _)
      | enable => exact congrArg WriteThrough.transactionId (setCommand_link _ _ .enable _)
    · exact update_sameAsk hi

theorem set_between (ho : Between s) (call : SetCall) :
    Between { s with slaves := (call.result settings s.slaves).slaves } :=
  owned_congr ho (set_sameAsk settings s.slaves call) s.log

/-- The back door touches no transaction. -/
theorem fieldEvent_frame (e : FieldEvent) (s : Sim) :
    (fieldEvent e s).transactions = s.transactions ∧
    (fieldEvent e s).nextTransactionId = s.nextTransactionId ∧
      (fieldEvent e s).nowMilliseconds = s.nowMilliseconds ∧
      (fieldEvent e s).lastDriftAt = s.lastDriftAt := by
  cases e with
  | setSlaveOnline unitId online =>
    unfold fieldEvent setSlaveOnline
    dsimp only
    split <;> exact ⟨rfl, rfl, rfl, rfl⟩
  | setPoint unitId table address value =>
    unfold fieldEvent setPoint
    dsimp only
    split <;> exact ⟨rfl, rfl, rfl, rfl⟩

theorem outside_between (ho : Between s) (e : FieldEvent) :
    Between { s with bus := fieldEvent e s.bus } := by
  obtain ⟨h1, h2, h3, -⟩ := fieldEvent_frame e s.bus
  refine ⟨fun h hh => ?_, fun id t ht =>
    ho.key id t (by rw [← ht]; exact congrArg (fun m => m[id]?) h1.symm), ?_⟩
  · obtain ⟨t, ht, hm, hp⟩ := ho.entry h hh
    exact ⟨t, by rw [← ht]; exact congrArg (fun m => m[heldId s.slaves h]?) h1, hm, by
      show Phase _ (fieldEvent e s.bus).nowMilliseconds h t
      rw [h3]
      exact hp⟩
  · have hids : heldIds { s with bus := fieldEvent e s.bus } = heldIds s := by
      unfold heldIds
      simp only [h1, h2, h3]
    rw [hids]
    exact ho.ids

theorem start_between : Between (start initialSim) := by
  have hzero : ∀ h, heldId initialSlave h = 0 := by
    rintro ⟨i, kind⟩
    cases kind <;> rfl
  refine ⟨fun h hh => absurd (hzero h) hh, fun id t ht => ?_, ?_⟩
  · rw [show (start initialSim).bus.transactions[id]? = none from Std.TreeMap.getElem?_emptyc] at ht
    cases ht
  · have hnone : ∀ h b, (heldIds (start initialSim)).since h = some b → False := by
      intro h b hb
      rw [show (heldIds (start initialSim)).since h = none from if_pos (hzero h)] at hb
      cases hb
    exact ⟨⟨le_refl _, by decide⟩, fun e b hb => (hnone e b hb).elim,
      fun e b hb => (hnone e b hb).elim,
      fun e _ b hb => (hnone e b hb).elim, fun e b hb => (hnone e b hb).elim⟩

/-! ### The clock -/

/-- What the driver calls of a slave leave alone: the devices, the clock and the drift timer. -/
structure SameDevices (b b' : Sim) : Prop where
  slaves : b'.slaves = b.slaves
  nowMilliseconds : b'.nowMilliseconds = b.nowMilliseconds
  lastDriftAt : b'.lastDriftAt = b.lastDriftAt

theorem startTransaction_devices (unitId : Nat) (table : Table) (address : Nat) (isWrite : Bool)
    (value : Word) (s : Sim) :
    SameDevices s (startTransaction unitId table address isWrite value s).2 := by
  unfold startTransaction
  split
  · exact ⟨rfl, rfl, rfl⟩
  · split <;> exact ⟨rfl, rfl, rfl⟩

theorem checkTransaction_devices (id : Nat) (s : Sim) :
    SameDevices s (checkTransaction id s).2 := by
  unfold checkTransaction
  split
  · exact ⟨rfl, rfl, rfl⟩
  · dsimp only
    split <;> exact ⟨rfl, rfl, rfl⟩

theorem exec_devices {c : Call} (hc : ∀ now, c ≠ .service now) (s : Sys Sim) :
    SameDevices s.bus (exec simulatedForeignBus settings s c).bus := by
  have trans : ∀ {b b' b'' : Sim}, SameDevices b b' → SameDevices b' b'' → SameDevices b b'' :=
    fun h h' => ⟨h'.1.trans h.1, h'.2.trans h.2, h'.3.trans h.3⟩
  exact exec_bus simulatedForeignBus settings (P := SameDevices s.bus)
    (fun _ _ h => trans h (startTransaction_devices ..)) (fun _ _ _ _ h =>
      trans h (startTransaction_devices ..))
    (fun _ _ h => trans h (checkTransaction_devices ..)) hc s ⟨rfl, rfl, rfl⟩

theorem holderCalls_devices {calls : List Call} (hcalls : ∀ c ∈ calls, ∀ now, c ≠ .service now)
    (s : Sys Sim) :
    SameDevices s.bus (calls.foldl (exec simulatedForeignBus settings) s).bus := by
  induction calls generalizing s with
  | nil => exact ⟨rfl, rfl, rfl⟩
  | cons c calls ih =>
    have h := exec_devices settings (hcalls c (List.mem_cons_self ..)) s
    have h' :=
      ih (fun c' hc' => hcalls c' (List.mem_cons_of_mem _ hc'))
      (exec simulatedForeignBus settings s c)
    exact ⟨h'.1.trans h.1, h'.2.trans h.2, h'.3.trans h.3⟩

theorem mem_holderCalls {now : Nat} {c : Call} (hc : c ∈ holderCalls now) :
    ∀ t, c ≠ .service t := by
  rintro t rfl
  simp [holderCalls, slaveCalls] at hc

/-- After the driver's turn a pass leaves the devices, the clock and the timer alone. -/
theorem pass_devices (now : Nat) (s : Sys Sim) :
    SameDevices (service now s.bus) (serviceForeignBus simulatedForeignBus settings now s).bus := by
  rw [serviceForeignBus_calls, show passCalls now = .service now :: holderCalls now from rfl,
    List.foldl_cons]
  exact holderCalls_devices settings (fun c hc => mem_holderCalls hc)
    (exec simulatedForeignBus settings s (.service now))

theorem pass_clock (now : Nat) (s : Sys Sim) :
    (serviceForeignBus simulatedForeignBus settings now s).bus.nowMilliseconds = now :=
  (pass_devices settings now s).nowMilliseconds.trans (service_frame now s.bus).2

theorem passTimes_concat {ε : Type} (evs : List (Event ε)) (e : Event ε) :
    passTimes (evs ++ [e]) = passTimes evs ++ passTimes [e] := List.filterMap_append ..

/-- The clock is the last pass's. -/
theorem run_clock (evs : List (Event FieldEvent)) :
    (run simulatedForeignBus settings (start initialSim) evs).bus.nowMilliseconds =
      (passTimes evs).getLast?.getD 0 := by
  induction evs using List.reverseRecOn with
  | nil => rfl
  | append_singleton evs e ih =>
    rw [run_concat, passTimes_concat]
    cases e with
    | set call =>
      rw [show passTimes [(.set call : Event FieldEvent)] = [] from rfl, List.append_nil]
      exact ih
    | outside e =>
      rw [show passTimes [Event.outside e] = [] from rfl, List.append_nil]
      exact (fieldEvent_frame e _).2.2.1.trans ih
    | pass now =>
      rw [show passTimes [(.pass now : Event FieldEvent)] = [now] from rfl,
        List.getLast?_concat, step, pass_clock]
      rfl

theorem nondecreasing_earlier {ε : Type} {evs evs' : List (Event ε)} (h : Nondecreasing evs)
    (hp : evs' <+: evs) :
    Nondecreasing evs' :=
  h.sublist (List.IsPrefix.filterMap _ hp).sublist

theorem clock_le {evs : List (Event FieldEvent)} {now : Nat}
    (h : Nondecreasing (evs ++ [.pass now])) :
    (run simulatedForeignBus settings (start initialSim) evs).bus.nowMilliseconds ≤ now := by
  rw [run_clock]
  unfold Nondecreasing at h
  rw [passTimes_concat] at h
  cases hlast : (passTimes evs).getLast? with
  | none => exact Nat.zero_le _
  | some t =>
    exact (List.pairwise_append.mp h).2.2 t (List.mem_of_getLast? hlast) now
      (List.mem_singleton_self _)

/-- Between any two events of a run every transaction is pending and has its one owner. -/
theorem run_between {evs : List (Event FieldEvent)} (h : Nondecreasing evs) :
    Between (run simulatedForeignBus settings (start initialSim) evs) := by
  induction evs using List.reverseRecOn with
  | nil => exact start_between
  | append_singleton evs e ih =>
    rw [run_concat]
    have hbefore := ih (nondecreasing_earlier h (List.prefix_append ..))
    cases e with
    | set call => exact set_between settings hbefore call
    | outside e => exact outside_between hbefore e
    | pass now => exact pass_between settings hbefore (clock_le settings h)

/-- Inside a pass, too, every transaction has its one owner. -/
theorem micro_owned {evs : List (Event FieldEvent)} (h : Nondecreasing evs)
    {ms : List (Micro FieldEvent)} (hms : ms <+: micro evs) :
    ∃ visited, Owned visited (microRun simulatedForeignBus settings (start initialSim) ms) := by
  induction evs using List.reverseRecOn generalizing ms with
  | nil =>
    rw [List.prefix_nil.mp hms]
    exact ⟨allHolders, start_between⟩
  | append_singleton evs e ih =>
    have hbefore := nondecreasing_earlier h (List.prefix_append ..)
    rw [micro, List.flatMap_append, List.flatMap_singleton] at hms
    obtain ⟨rest, hrest⟩ := hms
    rcases List.append_eq_append_iff.mp hrest with ⟨l, hl, -⟩ | ⟨l, hl, hl'⟩
    · exact ih hbefore ⟨l, hl.symm⟩
    · rw [hl, show microRun simulatedForeignBus settings (start initialSim)
            (evs.flatMap Event.micro ++ l) =
          microRun simulatedForeignBus settings
            (run simulatedForeignBus settings (start initialSim) evs) l by
          rw [run_micro]; exact List.foldl_append ..]
      have hb := run_between settings hbefore
      generalize hs : run simulatedForeignBus settings (start initialSim) evs = s at hb
      have hprefix : l <+: e.micro := ⟨rest, hl'.symm⟩
      cases e with
      | set call =>
        rcases List.prefix_cons_iff.mp hprefix with rfl | ⟨t, rfl, ht⟩
        · exact ⟨_, hb⟩
        · rw [List.prefix_nil.mp ht]
          exact ⟨_, set_between settings hb call⟩
      | outside e =>
        rcases List.prefix_cons_iff.mp hprefix with rfl | ⟨t, rfl, ht⟩
        · exact ⟨_, hb⟩
        · rw [List.prefix_nil.mp ht]
          exact ⟨_, outside_between hb e⟩
      | pass now =>
        obtain ⟨calls, hcalls, rfl⟩ := List.prefix_map_iff.mp hprefix
        have hrun : microRun simulatedForeignBus settings s (calls.map Micro.call) =
            calls.foldl (exec simulatedForeignBus settings) s := List.foldl_map ..
        rw [hrun]
        rcases List.prefix_cons_iff.mp hcalls with rfl | ⟨t, rfl, ht⟩
        · exact ⟨_, hb⟩
        · have hnow : s.bus.nowMilliseconds ≤ now := hs ▸ clock_le settings h
          have hholders : t.map Call.holder = (allHolders.take t.length).map some := by
            rw [List.prefix_iff_eq_take.mp ht, List.map_take, List.map_take, List.length_take,
              Nat.min_eq_left ht.length_le, ← holderCalls_holders now]
            rfl
          rw [List.foldl_cons]
          exact ⟨_, calls_owned settings hholders (allHolders_nodup.sublist (List.take_sublist ..))
            (fun h' _ (hmem : h' ∈ ([] : List Holder)) => by cases hmem)
            (owned_service hb mem_allHolders hnow)⟩

/-! ## The main result -/

/-- Every holder's transaction is in the map, as it asked for it, and the next id is free. -/
def Answerable (s : Sys Sim) : Prop :=
  s.bus.transactions[s.bus.nextTransactionId]? = none ∧
    ∀ h, heldId s.slaves h ≠ 0 →
      ∃ t, s.bus.transactions[heldId s.slaves h]? = some t ∧ Matches s.slaves h t

theorem owned_size (ho : Owned visited s) : s.bus.transactions.size ≤ 9 := by
  have hsub : s.bus.transactions.keys.toFinset ⊆ Finset.univ.image (heldId s.slaves) := by
    intro id hid
    have hmem : id ∈ s.bus.transactions := Std.TreeMap.mem_keys.mp (List.mem_toFinset.mp hid)
    obtain ⟨t, ht⟩ := Option.isSome_iff_exists.mp (Std.TreeMap.mem_iff_isSome_getElem?.mp hmem)
    obtain ⟨-, h, hh⟩ := ho.key id t ht
    exact Finset.mem_image.mpr ⟨h, Finset.mem_univ h, hh⟩
  rw [← Std.TreeMap.length_keys, ← List.toFinset_card_of_nodup Std.TreeMap.nodup_keys]
  exact (Finset.card_le_card hsub).trans
    (Finset.card_image_le.trans (by rw [Finset.card_univ, holder_card]))

/-- In every run on the simulated bus, however often the id counter has wrapped: the keys
    of the map are exactly the nonzero ids held, which are pairwise distinct; every entry
    is pending and is what its holder asked for; there are at most nine. Inside the passes,
    too, a holder that asks for its answer finds its own transaction, and the id the next
    request takes names no entry. -/
theorem transaction_ownership (settings : Settings) (evs : List (Event FieldEvent))
    (h : Nondecreasing evs) :
    let s := run simulatedForeignBus settings (start initialSim) evs
    (∀ id : Nat, (s.bus.transactions[id]?).isSome ↔ id ≠ 0 ∧ ∃ h, heldId s.slaves h = id) ∧
    (∀ h h', heldId s.slaves h ≠ 0 → heldId s.slaves h = heldId s.slaves h' → h = h') ∧
    (∀ (id : Nat) (t : Transaction), s.bus.transactions[id]? = some t →
      t.outcome = .pending ∧ ∃ h, heldId s.slaves h = id ∧ Matches s.slaves h t) ∧
    s.bus.transactions.size ≤ 9 ∧
    ∀ ms, ms <+: micro evs →
      Answerable (microRun simulatedForeignBus settings (start initialSim) ms) := by
  intro s
  have ho : Between s := run_between settings h
  refine ⟨fun id => ⟨fun hid => ?_, ?_⟩, fun h h' hne heq => heldId_inj ho hne heq,
    fun id t ht => ?_, owned_size ho, fun ms hms => ?_⟩
  · obtain ⟨t, ht⟩ := Option.isSome_iff_exists.mp hid
    exact ho.key id t ht
  · rintro ⟨hne, h, rfl⟩
    obtain ⟨t, ht, -⟩ := ho.entry h hne
    rw [ht]
    rfl
  · obtain ⟨hne, h, rfl⟩ := ho.key id t ht
    obtain ⟨t', ht', hm, -⟩ := ho.entry h hne
    rw [ht] at ht'
    cases ht'
    exact ⟨(owned_allPending ho mem_allHolders _ t ht).1, h, rfl, hm⟩
  · obtain ⟨visited, ho'⟩ := micro_owned settings h hms
    refine ⟨next_absent ho', fun h hh => ?_⟩
    obtain ⟨t, ht, hm, -⟩ := ho'.entry h hh
    exact ⟨t, ht, hm⟩

/-- After the first pass all nine holders wait; the second answers unit 1's three. -/
theorem transaction_ownership_two_passes :
    let s := run simulatedForeignBus embeddedObjects (start initialSim) [.pass 0, .pass 20]
    s.bus.transactions.size ≤ 9 ∧ ∀ ms, ms <+: micro [.pass 0, .pass 20] →
      Answerable (microRun simulatedForeignBus embeddedObjects (start initialSim) ms) :=
  (transaction_ownership embeddedObjects [.pass 0, .pass 20] (by decide)).2.2.2

end BacnetGateway.Simulation
