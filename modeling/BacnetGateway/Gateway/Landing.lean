/-
  BacnetGateway.Gateway.Landing — which writes reach the device, over every driver whose
  Timeout is ambiguous.

  `Field` is what a driver does to the devices: the contents of their output points, and
  for each request the driver took whether it was applied and whether its end was
  reported. `Lawful` is the promise of the seam: ids are nonzero and not in use, only the
  gateway's own writes change an output point, each at most once and before its end is
  reported; a write reported Done was applied, one reported Timeout may have been.

  `Owns` (every driver request still open is the one some slave waits for, and a write
  that landed is what the device holds) holds after every call. `Confirmed` (while
  `written` is set and nothing newer landed, the device holds `lastWrittenValue`) is kept
  by every call but one: a Timeout reported for a write that did land leaves `written`
  set, though the comment beside it says that it stays false. So:
  - `landed_timeout_loses_command`: a value confirmed, a second value timed out but
    landed, the first value commanded again: it is never sent.
  - `settled_delivered`: in every run without such a report for an output, whenever the
    output is settled the device holds the winning value.
-/

import BacnetGateway.Gateway.Calls

namespace BacnetGateway.Gateway

open Seam Relation

variable {σ ε : Type}

/-! ## The devices behind a driver -/

/-- What a request asks for. -/
inductive Asks where
  | read (i : SlaveIndex)
  | write (i : SlaveIndex) (k : Output) (word : Word)
  deriving DecidableEq

structure Request where
  asks : Asks
  applied : Bool
  reported : Bool
  deriving DecidableEq

structure Field where
  point : SlaveIndex → Output → Word
  request : Nat → Option Request

def setPointOf (point : SlaveIndex → Output → Word) (i : SlaveIndex) (k : Output) (word : Word) :
    SlaveIndex → Output → Word :=
  fun j l => if j = i ∧ l = k then word else point j l

def Field.opened (f : Field) (id : Nat) (asks : Asks) : Field :=
  { f with request := Function.update f.request id (some ⟨asks, false, false⟩) }

def Field.closed (f : Field) (id : Nat) : Field :=
  { f with request :=
    Function.update f.request id ((f.request id).map fun r => { r with reported := true }) }

/-- An open write reaches its device. -/
inductive Lands : Field → Field → Prop
  | mk (f : Field) (id : Nat) (i : SlaveIndex) (k : Output) (word : Word) :
      f.request id = some ⟨.write i k word, false, false⟩ →
      Lands f ⟨setPointOf f.point i k word,
        Function.update f.request id (some ⟨.write i k word, true, false⟩)⟩

/-- The id names no request that is still open. -/
def Free (f : Field) (id : Nat) : Prop := ∀ r, f.request id = some r → r.reported = true

/-- A request reported Done was applied, if it is a write. -/
def Landed (f : Field) (id : Nat) : Prop :=
  ∀ i k word applied, f.request id = some ⟨.write i k word, applied, false⟩ → applied = true

/-- What every driver promises the gateway. -/
structure Lawful (D : Driver σ ε) (field : σ → Field) : Prop where
  service : ∀ now s, ReflTransGen Lands (field s) (field (D.service now s))
  outside : ∀ e s, ReflTransGen Lands (field s) (field (D.outside e s))
  startRead : ∀ i s, let r := D.startRead (unitId i) .inputRegister pointAddress s
    r.1 ≠ 0 ∧ Free (field s) r.1 ∧ ReflTransGen Lands ((field s).opened r.1 (.read i)) (field r.2)
  startWrite : ∀ i k word s, let r := D.startWrite (unitId i) k.table pointAddress word s
    r.1 ≠ 0 ∧ Free (field s) r.1 ∧
      ReflTransGen Lands ((field s).opened r.1 (.write i k word)) (field r.2)
  checkTransaction : ∀ id s, let r := D.checkTransaction id s
    match r.1.outcome with
    | .pending => ReflTransGen Lands (field s) (field r.2)
    | .done => ∃ f, ReflTransGen Lands (field s) f ∧ Landed f id ∧
        ReflTransGen Lands (f.closed id) (field r.2)
    | .timeout => ∃ f, ReflTransGen Lands (field s) f ∧ ReflTransGen Lands (f.closed id) (field r.2)

/-! ## Ownership -/

variable {slaves slaves' : SlaveIndex → GatewayedSlave} {f f' : Field} {i j : SlaveIndex}
    {k l : Output} {id : Nat}

structure Owns (slaves : SlaveIndex → GatewayedSlave) (f : Field) : Prop where
  poll : ∀ i, (slaves i).pollTransactionId ≠ 0 →
    ∃ applied, f.request (slaves i).pollTransactionId = some ⟨.read i, applied, false⟩
  link : ∀ i k, ((slaves i).link k).transactionId ≠ 0 →
    ∃ applied, f.request ((slaves i).link k).transactionId =
      some ⟨.write i k (encode k ((slaves i).link k).inFlightValue), applied, false⟩ ∧
      (applied = true → f.point i k = encode k ((slaves i).link k).inFlightValue)
  owner : ∀ id i k word applied, f.request id = some ⟨.write i k word, applied, false⟩ →
    ((slaves i).link k).transactionId = id ∧ id ≠ 0

/-- Has the write in flight of this link landed? -/
def InFlightLanded (f : Field) (link : WriteThrough) : Prop :=
  link.transactionId ≠ 0 ∧ ∃ r, f.request link.transactionId = some r ∧ r.applied = true

/-- While `written` is set and nothing newer landed, the device holds `lastWrittenValue`. -/
def Confirmed (slaves : SlaveIndex → GatewayedSlave) (f : Field) (i : SlaveIndex)
    (k : Output) : Prop :=
  ((slaves i).link k).written = true → ¬ InFlightLanded f ((slaves i).link k) →
    f.point i k = encode k ((slaves i).link k).lastWrittenValue

/-- No two holders wait for one request. -/
theorem Owns.poll_inj (h : Owns slaves f) (hi : (slaves i).pollTransactionId ≠ 0)
    (heq : (slaves j).pollTransactionId = (slaves i).pollTransactionId) : j = i := by
  obtain ⟨applied, hreq⟩ := h.poll i hi
  obtain ⟨applied', hreq'⟩ := h.poll j (heq.trans_ne hi)
  rw [heq, hreq] at hreq'
  cases hreq'
  rfl

theorem Owns.link_inj (h : Owns slaves f) (hi : ((slaves i).link k).transactionId ≠ 0)
    (heq : ((slaves j).link l).transactionId = ((slaves i).link k).transactionId) :
    j = i ∧ l = k := by
  obtain ⟨applied, hreq, -⟩ := h.link i k hi
  obtain ⟨applied', hreq', -⟩ := h.link j l (heq.trans_ne hi)
  rw [heq, hreq] at hreq'
  simp only [Option.some.injEq, Request.mk.injEq, Asks.write.injEq] at hreq'
  exact ⟨hreq'.1.1.symm, hreq'.1.2.1.symm⟩

theorem Owns.link_ne_poll (h : Owns slaves f) (hi : (slaves i).pollTransactionId ≠ 0)
    (j : SlaveIndex) (l : Output) :
    ((slaves j).link l).transactionId ≠ (slaves i).pollTransactionId := by
  intro heq
  obtain ⟨applied, hreq⟩ := h.poll i hi
  obtain ⟨applied', hreq', -⟩ := h.link j l (heq.trans_ne hi)
  rw [heq, hreq] at hreq'
  cases hreq'

/-- What a step on slave `i`'s record leaves of the others'. -/
theorem update_setLink_ne (slaves : SlaveIndex → GatewayedSlave) (link : WriteThrough)
    (h : ¬ (j = i ∧ l = k)) :
    (Function.update slaves i ((slaves i).setLink k link) j).link l = (slaves j).link l := by
  by_cases hj : j = i
  · subst hj
    rw [Function.update_self, setLink_link_ne _ _ fun hl => h ⟨rfl, hl⟩]
  · rw [Function.update_of_ne hj]

theorem update_setLink_pollId (slaves : SlaveIndex → GatewayedSlave) (link : WriteThrough)
    (i j : SlaveIndex) (k : Output) :
    (Function.update slaves i ((slaves i).setLink k link) j).pollTransactionId =
      (slaves j).pollTransactionId := by
  by_cases hj : j = i
  · subst hj
    rw [Function.update_self, setLink_pollId]
  · rw [Function.update_of_ne hj]

theorem update_pollStarted_link (slaves : SlaveIndex → GatewayedSlave) (t id : Nat)
    (i j : SlaveIndex) (l : Output) :
    (Function.update slaves i (pollStarted (slaves i) t id) j).link l = (slaves j).link l := by
  by_cases hj : j = i
  · subst hj
    rw [Function.update_self]
    cases l <;> rfl
  · rw [Function.update_of_ne hj]

theorem setPointOf_self (point : SlaveIndex → Output → Word) (i : SlaveIndex) (k : Output)
    (word : Word) :
    setPointOf point i k word i k = word := if_pos ⟨rfl, rfl⟩

theorem setPointOf_ne (point : SlaveIndex → Output → Word) (word : Word) (h : ¬ (j = i ∧ l = k)) :
    setPointOf point i k word j l = point j l := if_neg h

theorem lands_owns (h : Owns slaves f) (hl : Lands f f') : Owns slaves f' := by
  rcases hl with ⟨id, i, k, word, hr⟩
  obtain ⟨hid, hne⟩ := h.owner id i k word false hr
  have hword : word = encode k ((slaves i).link k).inFlightValue := by
    obtain ⟨applied, hown, -⟩ := h.link i k (hid ▸ hne)
    rw [hid, hr] at hown
    simp only [Option.some.injEq, Request.mk.injEq, Asks.write.injEq] at hown
    exact hown.1.2.2
  refine ⟨fun j hj => ?_, fun j l hj => ?_, fun id' j l word' applied hr' => ?_⟩
  · obtain ⟨applied, hown⟩ := h.poll j hj
    have hids : (slaves j).pollTransactionId ≠ id := by
      rintro heq
      rw [heq, hr] at hown
      cases hown
    exact ⟨applied, (Function.update_of_ne hids ..).trans hown⟩
  · by_cases hjl : j = i ∧ l = k
    · obtain ⟨rfl, rfl⟩ := hjl
      refine ⟨true, ?_, fun _ => ?_⟩
      · show Function.update f.request id _ _ = _
        rw [hid, Function.update_self, hword]
      · show setPointOf f.point j l word j l = _
        rw [setPointOf_self, hword]
    · obtain ⟨applied, hown, hpoint⟩ := h.link j l hj
      have hids : ((slaves j).link l).transactionId ≠ id := by
        rintro heq
        rw [heq, hr] at hown
        simp only [Option.some.injEq, Request.mk.injEq, Asks.write.injEq] at hown
        exact hjl ⟨hown.1.1.symm, hown.1.2.1.symm⟩
      refine ⟨applied, (Function.update_of_ne hids ..).trans hown, fun ha => ?_⟩
      show setPointOf f.point i k word j l = _
      rw [setPointOf_ne _ _ hjl, hpoint ha]
  · by_cases heq : id' = id
    · subst heq
      have hr'' := (Function.update_self ..).symm.trans hr'
      simp only [Option.some.injEq, Request.mk.injEq, Asks.write.injEq] at hr''
      obtain ⟨⟨rfl, rfl, -⟩, -⟩ := hr''
      exact ⟨hid, hne⟩
    · exact h.owner id' j l word' applied ((Function.update_of_ne heq ..).symm.trans hr')

theorem lands_confirmed (h : Owns slaves f) (hc : Confirmed slaves f j l) (hl : Lands f f') :
    Confirmed slaves f' j l := by
  rcases hl with ⟨id, i, k, word, hr⟩
  obtain ⟨hid, hne⟩ := h.owner id i k word false hr
  intro hwritten hlanded
  by_cases hjl : j = i ∧ l = k
  · obtain ⟨rfl, rfl⟩ := hjl
    refine absurd ⟨hid ▸ hne, ⟨.write j l word, true, false⟩, ?_, rfl⟩ hlanded
    show Function.update f.request id _ _ = _
    rw [hid, Function.update_self]
  · show setPointOf f.point i k word j l = _
    rw [setPointOf_ne _ _ hjl]
    refine hc hwritten fun hflight => hlanded ?_
    obtain ⟨hnz, r, hreq, happlied⟩ := hflight
    have hids : ((slaves j).link l).transactionId ≠ id := by
      rintro heq
      rw [heq, hr] at hreq
      cases hreq
      cases happlied
    exact ⟨hnz, r, (Function.update_of_ne hids ..).trans hreq, happlied⟩

theorem landing_owns (h : Owns slaves f) (hl : ReflTransGen Lands f f') : Owns slaves f' := by
  induction hl with
  | refl => exact h
  | tail _ hl ih => exact lands_owns ih hl

theorem landing_confirmed (h : Owns slaves f) (hc : Confirmed slaves f i k)
    (hl : ReflTransGen Lands f f') :
    Confirmed slaves f' i k := by
  induction hl with
  | refl => exact hc
  | tail hl hlast ih => exact lands_confirmed (landing_owns h hl) ih hlast

/-- A request whose end was reported stays as it is. -/
theorem landing_reported {r : Request} (h : f.request id = some r) (hr : r.reported = true)
    (hl : ReflTransGen Lands f f') : f'.request id = some r := by
  induction hl with
  | refl => exact h
  | tail _ hl ih =>
    rcases hl with ⟨id', i, k, word, hopen⟩
    by_cases heq : id = id'
    · subst heq
      rw [ih] at hopen
      cases hopen
      cases hr
    · exact (Function.update_of_ne heq ..).trans ih

/-! ## Requests opened and closed -/

theorem free_ne (hfree : Free f id) {id' : Nat} {asks : Asks} {applied : Bool}
    (h : f.request id' = some ⟨asks, applied, false⟩) : id' ≠ id := by
  rintro rfl
  exact absurd (hfree _ h) (by simp)

theorem opened_ne {id' : Nat} (f : Field) (asks : Asks) (h : id' ≠ id) :
    (f.opened id asks).request id' = f.request id' :=
  Function.update_of_ne h ..

theorem closed_ne {id' : Nat} (f : Field) (h : id' ≠ id) :
    (f.closed id).request id' = f.request id' :=
  Function.update_of_ne h ..

@[simp] theorem opened_self (f : Field) (id : Nat) (asks : Asks) :
    (f.opened id asks).request id = some ⟨asks, false, false⟩ := Function.update_self ..

theorem closed_self {r : Request} (h : f.request id = some r) :
    (f.closed id).request id = some { r with reported := true } := by
  show Function.update f.request id _ id = _
  rw [Function.update_self, h]
  rfl

/-- A closed request is reported, so it is not an open one. -/
theorem closed_open {id' : Nat} {asks : Asks} {applied : Bool}
    (h : (f.closed id).request id' = some ⟨asks, applied, false⟩) : id' ≠ id := by
  rintro rfl
  have h' : (f.request id').map (fun r => { r with reported := true }) =
      some ⟨asks, applied, false⟩ := by
    rw [← h]
    show _ = Function.update f.request id' _ id'
    rw [Function.update_self]
  obtain ⟨r, -, hr⟩ := Option.map_eq_some_iff.mp h'
  have := congrArg Request.reported hr
  cases this

/-- The slaves wait for the same requests as before, but no longer for `id`. -/
structure Forgets (slaves slaves' : SlaveIndex → GatewayedSlave) (id : Nat) : Prop where
  poll : ∀ j, (slaves' j).pollTransactionId = if (slaves j).pollTransactionId = id then 0
    else (slaves j).pollTransactionId
  link : ∀ j l, ((slaves' j).link l).transactionId =
    if ((slaves j).link l).transactionId = id then 0 else ((slaves j).link l).transactionId
  value : ∀ j l, ((slaves' j).link l).inFlightValue = ((slaves j).link l).inFlightValue

theorem owns_closed (h : Owns slaves f) (hf : Forgets slaves slaves' id) :
    Owns slaves' (f.closed id) := by
  refine ⟨fun j hj => ?_, fun j l hj => ?_, fun id' j l word applied hr => ?_⟩
  · rw [hf.poll j] at hj ⊢
    by_cases heq : (slaves j).pollTransactionId = id
    · exact absurd (if_pos heq) hj
    · rw [if_neg heq] at hj ⊢
      rw [closed_ne f heq]
      exact h.poll j hj
  · rw [hf.link j l] at hj ⊢
    rw [hf.value j l]
    by_cases heq : ((slaves j).link l).transactionId = id
    · exact absurd (if_pos heq) hj
    · rw [if_neg heq] at hj ⊢
      rw [closed_ne f heq]
      exact h.link j l hj
  · have hne := closed_open hr
    rw [closed_ne f hne] at hr
    obtain ⟨hid, hnz⟩ := h.owner id' j l word applied hr
    rw [hf.link j l, if_neg (hid.trans_ne hne)]
    exact ⟨hid, hnz⟩

theorem owns_opened_poll (h : Owns slaves f) (hnz : id ≠ 0) (hfree : Free f id) (t : Nat) :
    Owns (Function.update slaves i (pollStarted (slaves i) t id)) (f.opened id (.read i)) := by
  have hlink := update_pollStarted_link slaves t id i
  refine ⟨fun j hj => ?_, fun j l hj => ?_, fun id' j l word applied hr => ?_⟩
  · by_cases hji : j = i
    · subst hji
      rw [Function.update_self]
      exact ⟨false, opened_self ..⟩
    · rw [Function.update_of_ne hji] at hj ⊢
      obtain ⟨applied, hown⟩ := h.poll j hj
      exact ⟨applied, (opened_ne f _ (free_ne hfree hown)).trans hown⟩
  · rw [hlink] at hj ⊢
    obtain ⟨applied, hown, hpoint⟩ := h.link j l hj
    exact ⟨applied, (opened_ne f _ (free_ne hfree hown)).trans hown, hpoint⟩
  · have hne : id' ≠ id := by
      rintro rfl
      rw [opened_self] at hr
      cases hr
    rw [opened_ne f _ hne] at hr
    rw [hlink]
    exact h.owner id' j l word applied hr

theorem owns_opened_link (h : Owns slaves f) (hnz : id ≠ 0) (hfree : Free f id)
    (hidle : ((slaves i).link k).transactionId = 0) (v : ℚ) :
    Owns (Function.update slaves i ((slaves i).setLink k (writeStarted ((slaves i).link k) id v)))
      (f.opened id (.write i k (encode k v))) := by
  have hpoll := fun j => update_setLink_pollId slaves (writeStarted ((slaves i).link k) id v) i j k
  have hlink : ∀ j l, ¬ (j = i ∧ l = k) →
      (Function.update slaves i
        ((slaves i).setLink k (writeStarted ((slaves i).link k) id v)) j).link l =
        (slaves j).link l := fun j l hjl => update_setLink_ne slaves _ hjl
  refine ⟨fun j hj => ?_, fun j l hj => ?_, fun id' j l word applied hr => ?_⟩
  · rw [hpoll] at hj ⊢
    obtain ⟨applied, hown⟩ := h.poll j hj
    exact ⟨applied, (opened_ne f _ (free_ne hfree hown)).trans hown⟩
  · by_cases hjl : j = i ∧ l = k
    · obtain ⟨rfl, rfl⟩ := hjl
      rw [Function.update_self, setLink_link]
      exact ⟨false, opened_self .., fun ha => by cases ha⟩
    · rw [hlink j l hjl] at hj ⊢
      obtain ⟨applied, hown, hpoint⟩ := h.link j l hj
      exact ⟨applied, (opened_ne f _ (free_ne hfree hown)).trans hown, hpoint⟩
  · by_cases heq : id' = id
    · subst heq
      rw [opened_self] at hr
      cases hr
      rw [Function.update_self, setLink_link]
      exact ⟨rfl, hnz⟩
    · rw [opened_ne f _ heq] at hr
      obtain ⟨hid, hnz'⟩ := h.owner id' j l word applied hr
      have hjl : ¬ (j = i ∧ l = k) := by
        rintro ⟨rfl, rfl⟩
        exact hnz' (hid.symm.trans hidle)
      rw [hlink j l hjl]
      exact ⟨hid, hnz'⟩

/-- Other requests do not touch what is confirmed of an output. -/
theorem confirmed_of_request (slaves : SlaveIndex → GatewayedSlave) (f : Field)
    (hpoint : f'.point i k = f.point i k)
    (hid : ((slaves' i).link k).transactionId = ((slaves i).link k).transactionId)
    (hlast : ((slaves' i).link k).lastWrittenValue = ((slaves i).link k).lastWrittenValue)
    (hwritten : ((slaves' i).link k).written = true → ((slaves i).link k).written = true)
    (hreq : ((slaves i).link k).transactionId ≠ 0 →
      f'.request ((slaves i).link k).transactionId = f.request ((slaves i).link k).transactionId)
    (hc : Confirmed slaves f i k) : Confirmed slaves' f' i k := by
  intro hw hl
  rw [hpoint, hlast]
  refine hc (hwritten hw) fun hlanded => hl ?_
  obtain ⟨hnz, r, hr, happlied⟩ := hlanded
  exact ⟨hid.trans_ne hnz, r, by rw [hid, hreq hnz, hr], happlied⟩

theorem confirmed_of_link (slaves : SlaveIndex → GatewayedSlave) (f : Field)
    (hpoint : f'.point i k = f.point i k) (hlink : (slaves' i).link k = (slaves i).link k)
    (hreq : ((slaves i).link k).transactionId ≠ 0 →
      f'.request ((slaves i).link k).transactionId = f.request ((slaves i).link k).transactionId)
    (hc : Confirmed slaves f i k) : Confirmed slaves' f' i k :=
  confirmed_of_request slaves f hpoint (congrArg _ hlink) (congrArg _ hlink) (fun hw =>
    (congrArg _ hlink).symm.trans hw) hreq hc

/-- A write that was only started has not landed. -/
theorem confirmed_started (hidle : ((slaves i).link k).transactionId = 0) {v : ℚ} {asks : Asks}
    (hc : Confirmed slaves f i k) :
    Confirmed
      (Function.update slaves i ((slaves i).setLink k (writeStarted ((slaves i).link k) id v)))
      (f.opened id asks) i k := by
  intro hw _
  rw [Function.update_self, setLink_link] at hw ⊢
  exact hc hw fun hlanded => hlanded.1 hidle

/-! ## Calls -/

variable (D : Driver σ ε) (field : σ → Field) (settings : Settings)

/-- The driver reports Timeout for a write of output `k` that did land, with another word
    than the confirmed one, while `written` is set. -/
def LandedTimeout (s : Sys σ) (i : SlaveIndex) (k : Output) : Prop :=
  let link := (s.slaves i).link k
  let r := D.checkTransaction link.transactionId s.bus
  link.transactionId ≠ 0 ∧ link.written = true ∧ r.1.outcome = .timeout ∧
    (∃ q, (field r.2).request link.transactionId = some q ∧ q.applied = true) ∧
    encode k link.inFlightValue ≠ encode k link.lastWrittenValue

/-- Every open request has its owner. -/
def Owned (s : Sys σ) : Prop := Owns s.slaves (field s.bus)

/-- The device holds what output `k` has confirmed. -/
def Truthful (s : Sys σ) (i : SlaveIndex) (k : Output) : Prop :=
  Confirmed s.slaves (field s.bus) i k

variable {D field}

theorem afterTimeout_link (slave : GatewayedSlave) (l : Output) :
    ((afterTimeout slave).link l).transactionId = (slave.link l).transactionId ∧
      ((afterTimeout slave).link l).inFlightValue = (slave.link l).inFlightValue ∧
      ((afterTimeout slave).link l).lastWrittenValue = (slave.link l).lastWrittenValue ∧
      (((afterTimeout slave).link l).written = true → (slave.link l).written = true) := by
  unfold afterTimeout
  split
  · cases l <;> exact ⟨rfl, rfl, rfl, fun h => by cases h⟩
  · cases l <;> exact ⟨rfl, rfl, rfl, id⟩

theorem afterTimeout_pollId (slave : GatewayedSlave) :
    (afterTimeout slave).pollTransactionId = 0 := by
  unfold afterTimeout
  split <;> rfl

/-- A poll that ended: its request is closed, and the links wait as before. -/
theorem poll_ended {s : Sys σ} (h : Owned field s) (hid : (s.slaves i).pollTransactionId ≠ 0)
    {slave : GatewayedSlave} (hpoll : slave.pollTransactionId = 0)
    (hlink : ∀ l, (slave.link l).transactionId = ((s.slaves i).link l).transactionId ∧
      (slave.link l).inFlightValue = ((s.slaves i).link l).inFlightValue ∧
      (slave.link l).lastWrittenValue = ((s.slaves i).link l).lastWrittenValue ∧
      ((slave.link l).written = true → ((s.slaves i).link l).written = true))
    {f : Field} (hf : ReflTransGen Lands (field s.bus) f) {bus : σ}
    (hbus : ReflTransGen Lands (f.closed (s.slaves i).pollTransactionId) (field bus))
    (log : List Act) :
    Owned field ⟨Function.update s.slaves i slave, bus, log⟩ ∧
      ∀ j l, Truthful field s j l →
        Truthful field ⟨Function.update s.slaves i slave, bus, log⟩ j l := by
  have hown := landing_owns h hf
  have hlinkne := hown.link_ne_poll hid
  have hsame : ∀ j l, ((Function.update s.slaves i slave j).link l).transactionId =
    ((s.slaves j).link l).transactionId ∧
      ((Function.update s.slaves i slave j).link l).inFlightValue =
        ((s.slaves j).link l).inFlightValue ∧
      ((Function.update s.slaves i slave j).link l).lastWrittenValue =
        ((s.slaves j).link l).lastWrittenValue ∧
      (((Function.update s.slaves i slave j).link l).written = true →
        ((s.slaves j).link l).written = true) := by
    intro j l
    by_cases hj : j = i
    · subst hj
      rw [Function.update_self]
      exact hlink l
    · rw [Function.update_of_ne hj]
      exact ⟨rfl, rfl, rfl, fun hw => hw⟩
  have hforgets : Forgets s.slaves (Function.update s.slaves i slave)
      (s.slaves i).pollTransactionId := by
    refine ⟨fun j => ?_, fun j l => ?_, fun j l => (hsame j l).2.1⟩
    · by_cases hj : j = i
      · subst hj
        rw [Function.update_self, if_pos rfl, hpoll]
      · rw [Function.update_of_ne hj]
        rw [if_neg fun heq => hj (hown.poll_inj hid heq)]
    · rw [(hsame j l).1, if_neg (hlinkne j l)]
  have hclosed := owns_closed hown hforgets
  refine ⟨landing_owns hclosed hbus, fun j l hc => landing_confirmed hclosed ?_ hbus⟩
  exact confirmed_of_request s.slaves f rfl (hsame j l).1 (hsame j l).2.2.1 (hsame j l).2.2.2
    (fun _ => closed_ne f (hlinkne j l)) (landing_confirmed h hc hf)

theorem poll_landing (hlaw : Lawful D field) {s : Sys σ} (h : Owned field s)
    (i : SlaveIndex) (now : Nat) :
    Owned field (servicePoll D settings i now s) ∧
      ∀ j l, Truthful field s j l → Truthful field (servicePoll D settings i now s) j l := by
  by_cases hid : (s.slaves i).pollTransactionId = 0
  · by_cases hdue : now < (s.slaves i).nextPollAt
    · rw [servicePoll_idle D settings hid hdue]
      exact ⟨h, fun _ _ hc => hc⟩
    · rw [servicePoll_start D settings hid (Nat.le_of_not_lt hdue) rfl]
      obtain ⟨hnz, hfree, hland⟩ := hlaw.startRead i s.bus
      have hopened := owns_opened_poll (i := i) h hnz hfree (now + pollPeriodMilliseconds i)
      refine ⟨landing_owns hopened hland, fun j l hc => landing_confirmed hopened ?_ hland⟩
      refine confirmed_of_link s.slaves (field s.bus) rfl (update_pollStarted_link ..)
        (fun hj => ?_) hc
      obtain ⟨applied, hown, -⟩ := h.link j l hj
      exact opened_ne _ _ (free_ne hfree hown)
  · have hcheck := hlaw.checkTransaction (s.slaves i).pollTransactionId s.bus
    rcases hr : D.checkTransaction (s.slaves i).pollTransactionId s.bus with ⟨⟨o, v⟩, bus⟩
    rw [hr] at hcheck
    cases o with
    | pending =>
      rw [servicePoll_pending D settings hid hr]
      exact ⟨landing_owns h hcheck, fun j l hc => landing_confirmed h hc hcheck⟩
    | done =>
      rw [servicePoll_done D settings hid hr]
      obtain ⟨f, hf, -, hbus⟩ := hcheck
      exact poll_ended h hid rfl (fun l => by cases l <;> exact ⟨rfl, rfl, rfl, fun hw => hw⟩)
        hf hbus _
    | timeout =>
      rw [servicePoll_timeout D settings hid hr]
      obtain ⟨f, hf, hbus⟩ := hcheck
      exact poll_ended h hid (afterTimeout_pollId _) (afterTimeout_link _) hf hbus _

theorem writeWinningValue_landing (hlaw : Lawful D field) {s : Sys σ} (h : Owned field s)
    (i : SlaveIndex) (k : Output) (now : Nat) (hidle : ((s.slaves i).link k).transactionId = 0) :
    Owned field (writeWinningValue D i k now s) ∧
      ∀ j l, Truthful field s j l → Truthful field (writeWinningValue D i k now s) j l := by
  by_cases hdue : writeDue (s.slaves i) k now
  · rw [writeWinningValue_start D hdue rfl]
    obtain ⟨hnz, hfree, hland⟩ :=
      hlaw.startWrite i k (encode k (winningValue ((s.slaves i).command k))) s.bus
    have hopened := owns_opened_link h hnz hfree hidle (winningValue ((s.slaves i).command k))
    refine ⟨landing_owns hopened hland, fun j l hc => landing_confirmed hopened ?_ hland⟩
    by_cases hjl : j = i ∧ l = k
    · obtain ⟨rfl, rfl⟩ := hjl
      exact confirmed_started hidle hc
    · refine confirmed_of_link s.slaves (field s.bus) rfl (update_setLink_ne s.slaves _ hjl)
        (fun hj => ?_) hc
      obtain ⟨applied, hown, -⟩ := h.link j l hj
      exact opened_ne _ _ (free_ne hfree hown)
  · rw [writeWinningValue_skip D hdue]
    exact ⟨h, fun _ _ hc => hc⟩

/-- A write that ended: its request is closed, and everybody else waits as before. -/
theorem write_ended {s : Sys σ} (h : Owned field s) (hid : ((s.slaves i).link k).transactionId ≠ 0)
    (link : WriteThrough) (hzero : link.transactionId = 0)
    (hvalue : link.inFlightValue = ((s.slaves i).link k).inFlightValue)
    {f : Field} (hf : ReflTransGen Lands (field s.bus) f) {bus : σ}
    (hbus : ReflTransGen Lands (f.closed ((s.slaves i).link k).transactionId) (field bus))
    (act : Act) :
    let t := (s.setSlave i ((s.slaves i).setLink k link)).called bus act
    Owned field t ∧
      ∀ j l, (j = i ∧ l = k → link.written = true → f.point i k = encode k link.lastWrittenValue) →
        Truthful field s j l → Truthful field t j l := by
  intro t
  have hown := landing_owns h hf
  have hlink : ∀ j l, ¬ (j = i ∧ l = k) → (t.slaves j).link l = (s.slaves j).link l :=
    fun j l hjl => update_setLink_ne s.slaves link hjl
  have hself : (t.slaves i).link k = link := by
    show (Function.update s.slaves i _ i).link k = _
    rw [Function.update_self, setLink_link]
  have hlinkne : ∀ j l, ¬ (j = i ∧ l = k) →
      ((s.slaves j).link l).transactionId ≠ ((s.slaves i).link k).transactionId :=
    fun j l hjl heq => hjl (hown.link_inj hid heq)
  have hforgets : Forgets s.slaves t.slaves ((s.slaves i).link k).transactionId := by
    refine ⟨fun j => ?_, fun j l => ?_, fun j l => ?_⟩
    · have hpoll : (t.slaves j).pollTransactionId = (s.slaves j).pollTransactionId :=
        update_setLink_pollId ..
      rw [hpoll]
      split
      · rename_i heq
        exact absurd heq.symm (hown.link_ne_poll (heq.trans_ne hid) i k)
      · rfl
    · by_cases hjl : j = i ∧ l = k
      · obtain ⟨rfl, rfl⟩ := hjl
        rw [hself, if_pos rfl, hzero]
      · rw [hlink j l hjl, if_neg (hlinkne j l hjl)]
    · by_cases hjl : j = i ∧ l = k
      · obtain ⟨rfl, rfl⟩ := hjl
        rw [hself, hvalue]
      · rw [hlink j l hjl]
  have hclosed := owns_closed hown hforgets
  refine ⟨landing_owns hclosed hbus, fun j l hconfirmed hc => landing_confirmed hclosed ?_ hbus⟩
  by_cases hjl : j = i ∧ l = k
  · obtain ⟨rfl, rfl⟩ := hjl
    intro hw _
    rw [hself] at hw ⊢
    exact hconfirmed ⟨rfl, rfl⟩ hw
  · exact confirmed_of_link s.slaves f rfl (hlink j l hjl)
      (fun _ => closed_ne f (hlinkne j l hjl)) (landing_confirmed h hc hf)

theorem writeThrough_landing (hlaw : Lawful D field) {s : Sys σ} (h : Owned field s)
    (i : SlaveIndex) (k : Output) (now : Nat) :
    Owned field (serviceWriteThrough D i k now s) ∧
      ∀ j l, (j = i ∧ l = k → ¬ LandedTimeout D field s i k) → Truthful field s j l →
        Truthful field (serviceWriteThrough D i k now s) j l := by
  by_cases hid : ((s.slaves i).link k).transactionId = 0
  · rw [serviceWriteThrough_free D hid]
    obtain ⟨h1, h2⟩ := writeWinningValue_landing hlaw h i k now hid
    exact ⟨h1, fun j l _ hc => h2 j l hc⟩
  · have hcheck := hlaw.checkTransaction ((s.slaves i).link k).transactionId s.bus
    rcases hr : D.checkTransaction ((s.slaves i).link k).transactionId s.bus with ⟨⟨o, v⟩, bus⟩
    rw [hr] at hcheck
    cases o with
    | pending =>
      rw [serviceWriteThrough_pending D hid hr]
      exact ⟨landing_owns h hcheck, fun j l _ hc => landing_confirmed h hc hcheck⟩
    | done =>
      rw [serviceWriteThrough_done D hid hr]
      obtain ⟨f, hf, hlanded, hbus⟩ := hcheck
      -- A write reported Done is what the device holds now.
      obtain ⟨applied, hreq, hpoint⟩ := (landing_owns h hf).link i k hid
      have happlied := hlanded i k _ applied hreq
      obtain ⟨h1, h2⟩ := write_ended h hid (writeDone ((s.slaves i).link k)) rfl rfl hf hbus
        (.checkWrite i k now ((s.slaves i).link k).transactionId .done)
      obtain ⟨h3, h4⟩ := writeWinningValue_landing hlaw h1 i k now (by simp [writeDone])
      exact ⟨h3, fun j l _ hc => h4 j l (h2 j l (fun _ _ => hpoint happlied) hc)⟩
    | timeout =>
      rw [serviceWriteThrough_timeout D hid hr]
      obtain ⟨f, hf, hbus⟩ := hcheck
      obtain ⟨applied, hreq, hpoint⟩ := (landing_owns h hf).link i k hid
      obtain ⟨h1, h2⟩ :=
          write_ended h hid (writeFailed ((s.slaves i).link k) (now + pollPeriodMilliseconds i))
        rfl rfl hf hbus (.checkWrite i k now ((s.slaves i).link k).transactionId .timeout)
      obtain ⟨h3, h4⟩ := writeWinningValue_landing hlaw h1 i k now (by simp [writeFailed])
      refine ⟨h3, fun j l hcond hc => h4 j l (h2 j l (fun hjl hw => ?_) hc)⟩
      obtain ⟨rfl, rfl⟩ := hjl
      -- The write did not land, or it wrote what is confirmed: the point still holds that.
      by_cases happlied : applied = true
      · have hpoint := hpoint happlied
        by_contra hne
        have hrequest := landing_reported (closed_self hreq) rfl hbus
        refine hcond ⟨rfl, rfl⟩ ⟨hid, hw, by rw [hr], ?_, fun heq => hne (hpoint.trans heq)⟩
        rw [hr]
        exact ⟨_, hrequest, happlied⟩
      · refine landing_confirmed h hc hf hw fun hlanded => happlied ?_
        obtain ⟨-, q, hq, hqa⟩ := hlanded
        rw [hreq] at hq
        cases hq
        exact hqa

/-! ## Runs -/

theorem microStep_landing (hlaw : Lawful D field) {s : Sys σ} (h : Owned field s) (m : Micro ε) :
    Owned field (microStep D settings s m) ∧
      ∀ i k, (∀ now, m = .call (.writeThrough i k now) → ¬ LandedTimeout D field s i k) →
        Truthful field s i k →
        Truthful field (microStep D settings s m) i k := by
  cases m with
  | outside e =>
    exact ⟨landing_owns h (hlaw.outside e s.bus), fun i k _ hc =>
      landing_confirmed h hc (hlaw.outside e s.bus)⟩
  | set call =>
    have hsame : ∀ i, ((call.result settings s.slaves).slaves i).pollTransactionId =
      (s.slaves i).pollTransactionId ∧
        ∀ k, ((call.result settings s.slaves).slaves i).link k = (s.slaves i).link k := by
      intro i
      obtain ⟨_, _, h⟩ := set_frame settings s.slaves call i
      rw [h]
      exact ⟨rfl, fun k => by cases k <;> rfl⟩
    refine ⟨⟨fun i hi => ?_, fun i k hi => ?_, fun id i k word applied hr => ?_⟩,
      fun i k _ hc => ?_⟩
    · rw [microStep, (hsame i).1] at hi ⊢
      exact h.poll i hi
    · rw [microStep, (hsame i).2 k] at hi ⊢
      exact h.link i k hi
    · rw [microStep, (hsame i).2 k]
      exact h.owner id i k word applied hr
    · exact confirmed_of_link s.slaves (field s.bus) rfl ((hsame i).2 k) (fun _ => rfl) hc
  | call c =>
    cases c with
    | service now =>
      exact ⟨landing_owns h (hlaw.service now s.bus), fun i k _ hc =>
        landing_confirmed h hc (hlaw.service now s.bus)⟩
    | poll i now =>
      obtain ⟨h1, h2⟩ := poll_landing settings hlaw h i now
      exact ⟨h1, fun j l _ hc => h2 j l hc⟩
    | writeThrough i k now =>
      obtain ⟨h1, h2⟩ := writeThrough_landing hlaw h i k now
      refine ⟨h1, fun j l hcond hc => h2 j l (fun hjl => ?_) hc⟩
      obtain ⟨rfl, rfl⟩ := hjl
      exact hcond now rfl

/-- The driver takes over devices on which nothing is open. -/
def Fresh (f : Field) : Prop := ∀ id, Free f id

theorem start_owned {bus : σ} (hfresh : Fresh (field bus)) : Owned field (start bus) := by
  refine ⟨fun i hi => absurd rfl hi, fun i k hi => ?_, fun id i k word applied hr => ?_⟩
  · cases k <;> exact absurd rfl hi
  · exact absurd (hfresh id _ hr) (by simp)

theorem start_truthful (bus : σ) (i : SlaveIndex) (k : Output) :
    Truthful field (start bus) i k := by
  intro hw
  cases k <;> cases hw

/-- No write-through call of output `k` is told Timeout about a write that landed over a
    different confirmed value. -/
def NoLandedTimeout (D : Driver σ ε) (field : σ → Field) (s : Sys σ) (ms : List (Micro ε))
    (i : SlaveIndex) (k : Output) : Prop :=
  ∀ pre now, pre ++ [.call (.writeThrough i k now)] <+: ms →
    ¬ LandedTimeout D field (microRun D settings s pre) i k

theorem microRun_landing (hlaw : Lawful D field) {s : Sys σ} (h : Owned field s)
    (ms : List (Micro ε)) :
    Owned field (microRun D settings s ms) ∧
      ∀ i k, NoLandedTimeout settings D field s ms i k → Truthful field s i k →
        Truthful field (microRun D settings s ms) i k := by
  induction ms using List.reverseRecOn with
  | nil => exact ⟨h, fun _ _ _ hc => hc⟩
  | append_singleton ms m ih =>
    obtain ⟨ih1, ih2⟩ := ih
    rw [microRun_concat]
    obtain ⟨h1, h2⟩ := microStep_landing settings hlaw ih1 m
    refine ⟨h1, fun i k hcond hc => h2 i k (fun now hm => ?_) (ih2 i k (fun pre now hpre => ?_) hc)⟩
    · exact hcond ms now (hm ▸ List.prefix_refl _)
    · exact hcond pre now (hpre.trans (List.prefix_append ..))

/-- Over every lawful driver: in every run in which no write of an output is reported
    Timeout after it landed over a different confirmed value, whenever a pass ends with
    the output settled, the device holds the winning value. -/
theorem settled_delivered (hlaw : Lawful D field) (bus : σ) (hfresh : Fresh (field bus))
    (evs : List (Event ε)) (now : Nat) (i : SlaveIndex) (k : Output)
    (hcond : NoLandedTimeout settings D field (start bus) (micro (evs ++ [.pass now])) i k) :
    let s := run D settings (start bus) (evs ++ [.pass now])
    (s.slaves i).online = true → ((s.slaves i).link k).transactionId = 0 →
      ((s.slaves i).link k).retryAt ≤ now →
      (field s.bus).point i k = encode k (winningValue ((s.slaves i).command k)) := by
  intro s honline hid hretry
  have hquiet : Quiet (s.slaves i) k now := by
    have hpass := pass_quiet D settings now (run D settings (start bus) evs) i k fun w bus =>
      (hlaw.startWrite i k w bus).1
    rwa [show s = serviceForeignBus D settings now (run D settings (start bus) evs) from
      run_concat ..]
  have hwritten : ((s.slaves i).link k).written = true ∧
      ((s.slaves i).link k).lastWrittenValue = winningValue ((s.slaves i).command k) := by
    by_contra hnot
    exact hquiet hid ⟨honline, hretry, hnot⟩
  have htruth : Truthful field s i k := by
    show Truthful field (run D settings (start bus) (evs ++ [.pass now])) i k
    rw [run_micro]
    exact (microRun_landing settings hlaw (start_owned hfresh) _).2 i k hcond
      (start_truthful bus i k)
  rw [← hwritten.2]
  exact htruth hwritten.1 fun hlanded => hlanded.1 hid

/-! ## A lawful driver that loses an answer -/

/-- Devices that do a write at once, and the requests taken so far: request `n` has id
    `n + 1`; the flag is set once its end was reported. -/
structure LateState where
  point : SlaveIndex → Output → Word
  requests : List (Asks × Bool)

def slaveOfUnit (unitId : Nat) : SlaveIndex := if unitId = 1 then 0 else if unitId = 2 then 1 else 2

def outputOfTable : Table → Output
  | .coil => .enable
  | _ => .setpoint

/-- Every answer arrives but one: the write of 70.0 to unit 1 is done, and reported
    Timeout. -/
def lateAnswer : Driver LateState Unit where
  service _ s := s
  outside _ s := s
  startRead unitId _ _ s :=
    (s.requests.length + 1,
      { s with requests := s.requests ++ [(.read (slaveOfUnit unitId), false)] })
  startWrite unitId table _ word s :=
    (s.requests.length + 1,
      ⟨setPointOf s.point (slaveOfUnit unitId) (outputOfTable table) word,
        s.requests ++ [(.write (slaveOfUnit unitId) (outputOfTable table) word, false)]⟩)
  checkTransaction
    | 0, s => (⟨.timeout, 0⟩, s)
    | n + 1, s =>
      match s.requests[n]? with
      | none => (⟨.timeout, 0⟩, s)
      | some (asks, _) =>
        (⟨if asks = .write 0 .setpoint 700 then .timeout else .done, 0⟩,
          { s with requests := s.requests.set n (asks, true) })

/-- A write of `lateAnswer` is applied from the start. -/
def lateRequest (r : Asks × Bool) : Request :=
  ⟨r.1, match r.1 with | .read _ => false | .write .. => true, r.2⟩

def lateField (s : LateState) : Field :=
  ⟨s.point, fun
    | 0 => none
    | n + 1 => s.requests[n]?.map lateRequest⟩

theorem lateField_push (s : LateState) (point : SlaveIndex → Output → Word) (r : Asks × Bool) :
    lateField ⟨point, s.requests ++ [r]⟩ =
      ⟨point,
        Function.update (lateField s).request (s.requests.length + 1) (some (lateRequest r))⟩ := by
  unfold lateField
  congr 1
  funext id
  cases id with
  | zero => rfl
  | succ n =>
    by_cases hn : n = s.requests.length
    · subst hn
      simp
    · rw [Function.update_of_ne (by omega)]
      by_cases hlt : n < s.requests.length
      · simp [List.getElem?_append_left hlt]
      · simp [List.getElem?_eq_none (show s.requests.length ≤ n by omega),
          List.getElem?_eq_none (show (s.requests ++ [r]).length ≤ n by simp; omega)]

theorem lateField_set (s : LateState) {n : Nat} {asks : Asks} {reported : Bool}
    (h : s.requests[n]? = some (asks, reported)) :
    lateField { s with requests := s.requests.set n (asks, true) } =
      (lateField s).closed (n + 1) := by
  unfold lateField Field.closed
  congr 1
  funext id
  cases id with
  | zero => rfl
  | succ m =>
    by_cases hm : m = n
    · subst hm
      obtain ⟨hlt, hget⟩ := List.getElem?_eq_some_iff.mp h
      simp [hlt, hget, lateRequest]
    · rw [Function.update_of_ne (by omega)]
      simp [List.getElem?_set_ne (Ne.symm hm)]

theorem lateField_free (s : LateState) : Free (lateField s) (s.requests.length + 1) := by
  intro r hr
  simp [lateField] at hr

theorem slaveOfUnit_unitId (i : SlaveIndex) : slaveOfUnit (unitId i) = i := by
  revert i
  decide

theorem outputOfTable_table (k : Output) : outputOfTable k.table = k := by cases k <;> rfl

theorem lateAnswer_lawful : Lawful lateAnswer lateField where
  service _ _ := .refl
  outside _ _ := .refl
  startRead i s := by
    refine ⟨Nat.succ_ne_zero _, lateField_free s, ?_⟩
    show ReflTransGen Lands _
      (lateField ⟨s.point, s.requests ++ [(.read (slaveOfUnit (unitId i)), false)]⟩)
    rw [lateField_push, slaveOfUnit_unitId]
    exact .refl
  startWrite i k word s := by
    refine ⟨Nat.succ_ne_zero _, lateField_free s, .single ?_⟩
    show Lands _
      (lateField ⟨setPointOf s.point (slaveOfUnit (unitId i)) (outputOfTable k.table) word,
      s.requests ++ [(.write (slaveOfUnit (unitId i)) (outputOfTable k.table) word, false)]⟩)
    rw [lateField_push, slaveOfUnit_unitId, outputOfTable_table]
    have hland :=
        Lands.mk ((lateField s).opened (s.requests.length + 1) (.write i k word))
        (s.requests.length + 1) i k
      word (opened_self ..)
    rwa [Field.opened, Function.update_idem] at hland
  checkTransaction id s := by
    have absent : (lateField s).request id = none → (lateField s).closed id = lateField s := by
      intro h
      unfold Field.closed
      rw [h, Option.map_none, ← h, Function.update_eq_self]
    cases id with
    | zero => exact ⟨lateField s, .refl, by rw [absent rfl]; exact .refl⟩
    | succ n =>
      simp only [lateAnswer]
      cases hn : s.requests[n]? with
      | none => exact ⟨lateField s, .refl, by rw [absent (by simp [lateField, hn])]⟩
      | some r =>
        obtain ⟨asks, reported⟩ := r
        dsimp only
        rw [lateField_set s hn]
        by_cases hasks : asks = .write 0 .setpoint 700
        · rw [if_pos hasks]
          exact ⟨lateField s, .refl, .refl⟩
        · rw [if_neg hasks]
          refine ⟨lateField s, .refl, fun i k word applied hr => ?_, .refl⟩
          simp only [lateField, hn, Option.map_some, Option.some.injEq, lateRequest,
            Request.mk.injEq] at hr
          obtain ⟨rfl, rfl, -⟩ := hr
          rfl

/-- The devices hold the words of the relinquish defaults at the start. -/
def lateStart : LateState :=
  ⟨fun i k => encode k ((initialSlave i).command k).relinquishDefault, []⟩

theorem lateStart_fresh : Fresh (lateField lateStart) := by
  intro id r hr
  cases id <;> simp [lateField, lateStart] at hr

/-- 65.0 is confirmed; 70.0 is commanded, lands and times out; then it is relinquished. -/
def relinquishAfterTimeout : List (Event Unit) :=
  [.pass 0, .pass 1, .set (.real boilerSetpoint (.finite 70) 8), .pass 2, .pass 3,
    .set (.null boilerSetpoint 8)]

/-- As built, the command is lost: the output is settled, 65.0 wins and was never sent
    again, and the device holds 70.0. -/
theorem landed_timeout_loses_command :
    ¬ ∀ (σ ε : Type) (D : Driver σ ε) (field : σ → Field) (settings : Settings) (bus : σ),
      Lawful D field →
      Fresh (field bus) → ∀ (evs : List (Event ε)) (now : Nat) (i : SlaveIndex) (k : Output),
        Nondecreasing (evs ++ [.pass now]) →
        let s := run D settings (start bus) (evs ++ [.pass now])
        (s.slaves i).online = true → ((s.slaves i).link k).transactionId = 0 →
          ((s.slaves i).link k).retryAt ≤ now →
          (field s.bus).point i k = encode k (winningValue ((s.slaves i).command k)) := by
  intro h
  have hlost := h LateState Unit lateAnswer lateField embeddedObjects lateStart lateAnswer_lawful
    lateStart_fresh relinquishAfterTimeout 600 0 .setpoint (by decide) (by decide +kernel)
    (by decide +kernel) (by decide +kernel)
  revert hlost
  decide +kernel

/-- Does the step write unit 1's setpoint through? -/
def writesBoilerSetpoint : Micro Unit → Bool
  | .call (.writeThrough 0 .setpoint _) => true
  | _ => false

/-- 70.0 is commanded and the first pass sends it; it lands, and the pass at 1 is told
    Timeout while nothing is confirmed. It is relinquished before the back-off is over. -/
def relinquishedEarly : List (Event Unit) :=
  [.set (.real boilerSetpoint (.finite 70) 8), .pass 0, .pass 1, .set (.null boilerSetpoint 8),
    .pass 501]

/-- A write that lands and is reported Timeout loses nothing while no value is confirmed:
    the device holds 70.0 after the Timeout, the pass at 501 sends 65.0, and the pass at 502
    ends with the winning value delivered. -/
theorem settled_delivered_boiler :
    let s := run lateAnswer embeddedObjects (start lateStart) (relinquishedEarly ++ [.pass 502])
    let told := run lateAnswer embeddedObjects (start lateStart) (relinquishedEarly.take 3)
    .checkWrite 0 .setpoint 1 2 .timeout ∈ told.log ∧
      (lateField told.bus).point 0 .setpoint = 700 ∧
      winningValue ((s.slaves 0).command .setpoint) = 65 ∧
      (lateField s.bus).point 0 .setpoint =
        encode .setpoint (winningValue ((s.slaves 0).command .setpoint)) := by
  have unwritten : ∀ n < 60,
      (micro (relinquishedEarly ++ [.pass 502]))[n]?.map writesBoilerSetpoint = some true →
        (((microRun lateAnswer embeddedObjects (start lateStart)
          ((micro (relinquishedEarly ++ [.pass 502])).take n)).slaves 0).link
            .setpoint).written = false := by decide +kernel
  refine ⟨by decide +kernel, by decide +kernel, by decide +kernel, ?_⟩
  refine settled_delivered embeddedObjects lateAnswer_lawful lateStart lateStart_fresh
    relinquishedEarly 502 0 .setpoint ?_ (by decide +kernel) (by decide +kernel) (by decide +kernel)
  rintro pre now hpre ⟨-, hwritten, -⟩
  obtain ⟨rest, hrest⟩ := hpre
  have hget : (micro (relinquishedEarly ++ [.pass 502]))[pre.length]? =
      some (.call (.writeThrough 0 .setpoint now)) := by
    rw [← hrest]
    simp
  have htake : (micro (relinquishedEarly ++ [.pass 502])).take pre.length = pre := by
    rw [← hrest]
    simp
  have hlen : pre.length < 60 :=
    Nat.lt_of_lt_of_le (List.getElem?_eq_some_iff.mp hget).1 (by decide)
  have := unwritten pre.length hlen (by rw [hget]; rfl)
  rw [htake, hwritten] at this
  cases this

end BacnetGateway.Gateway
