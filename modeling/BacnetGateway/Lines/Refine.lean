/-
  BacnetGateway.Lines.Refine — the gateway on the simulated bus is three lines side by
  side.

  `view i` shows of the whole system what concerns slave `i`, with the ids left out. Each
  event takes the view to the line's own step of that event (`pass_view`, `set_view`,
  `outside_view`), so a run of the system is, seen from slave `i`, the run of its line
  (`run_view`), however the shared transaction map, id counter and loop order interleave
  the slaves. What is proved of a line holds of the code through these theorems.

  `no_interference` is the first use: a line's run depends only on the passes and on the
  events that concern the slave.
-/

import BacnetGateway.Lines.Model

namespace BacnetGateway.Lines

open Seam Gateway Simulation

variable (settings : Settings) {i j : SlaveIndex} {visited : List Holder} {s : Sys Sim}
    {now : Nat} {k : Output}

/-! ## The view of one slave -/

/-- A record without its transaction ids. -/
def anonymous (slave : GatewayedSlave) : GatewayedSlave :=
  { slave with
    pollTransactionId := 0
    setpointLink := { slave.setpointLink with transactionId := 0 }
    enableLink := { slave.enableLink with transactionId := 0 } }

/-- A call without its transaction id. -/
def anonymousAct : Act → Act
  | .startRead i now _ => .startRead i now 0
  | .startWrite i k now value word _ => .startWrite i k now value word 0
  | .checkRead i now _ outcome value => .checkRead i now 0 outcome value
  | .checkWrite i k now _ outcome => .checkWrite i k now 0 outcome
  | .setServiceEnabled i service enabled => .setServiceEnabled i service enabled
  | .sendIAm i => .sendIAm i

def flight (t : Transaction) : Flight := ⟨t.startedAt, t.value, t.outcome⟩

/-- What is in flight for a holder. -/
def wire (slaves : SlaveIndex → GatewayedSlave) (b : Sim) (h : Holder) : Option Flight :=
  if heldId slaves h = 0 then none else (b.transactions[heldId slaves h]?).map flight

def view (i : SlaveIndex) (s : Sys Sim) : Line :=
  ⟨anonymous (s.slaves i), fun kind => wire s.slaves s.bus (i, kind), s.bus.slaves i,
    s.bus.nowMilliseconds, s.bus.lastDriftAt, (own i s.log).map anonymousAct⟩

@[simp] theorem anonymous_command (slave : GatewayedSlave) (k : Output) :
    (anonymous slave).command k = slave.command k := by cases k <;> rfl

@[simp] theorem anonymous_link (slave : GatewayedSlave) (k : Output) :
    (anonymous slave).link k = { slave.link k with transactionId := 0 } := by cases k <;> rfl

theorem anonymous_writeDue (slave : GatewayedSlave) (k : Output) (now : Nat) :
    writeDue (anonymous slave) k now ↔ writeDue slave k now := by
  unfold writeDue
  rw [anonymous_link, anonymous_command]
  rfl

theorem anonymous_afterTimeout (slave : GatewayedSlave) :
    anonymous (afterTimeout slave) = afterTimeout (anonymous slave) := by
  unfold afterTimeout
  by_cases h : declaresOffline slave
  · rw [if_pos h, if_pos (show declaresOffline (anonymous slave) from h)]
    rfl
  · rw [if_neg h, if_neg (show ¬ declaresOffline (anonymous slave) from h)]
    rfl

theorem anonymous_setLink (slave : GatewayedSlave) (k : Output) (link : WriteThrough) :
    anonymous (slave.setLink k link) =
      (anonymous slave).setLink k { link with transactionId := 0 } := by
  cases k <;> rfl

theorem anonymous_setCommand (slave : GatewayedSlave) (k : Output) (command : Commandable) :
    anonymous (slave.setCommand k command) = (anonymous slave).setCommand k command := by
  cases k <;> rfl

theorem anonymous_doneCalls (mode : GatewayMode) (i : SlaveIndex) (slave : GatewayedSlave) :
    (doneCalls mode i slave).map anonymousAct = doneCalls mode i (anonymous slave) := by
  unfold doneCalls onlineCalls
  show _ = if slave.online = true then _ else _
  cases mode <;> cases slave.online <;> rfl

theorem anonymous_timeoutCalls (mode : GatewayMode) (i : SlaveIndex) (slave : GatewayedSlave) :
    (timeoutCalls mode i slave).map anonymousAct = timeoutCalls mode i (anonymous slave) := by
  unfold timeoutCalls offlineCalls
  by_cases h : declaresOffline slave
  · rw [if_pos h, if_pos (show declaresOffline (anonymous slave) from h)]
    cases mode <;> rfl
  · rw [if_neg h, if_neg (show ¬ declaresOffline (anonymous slave) from h)]
    rfl

theorem line_ext {l l' : Line} (h1 : l.slave = l'.slave) (h2 : l.wire = l'.wire)
    (h3 : l.device = l'.device)
    (h4 : l.nowMilliseconds = l'.nowMilliseconds) (h5 : l.lastDriftAt = l'.lastDriftAt)
    (h6 : l.log = l'.log) : l = l' := by
  cases l
  cases l'
  simp_all

/-! ## The driver's turn -/

section
variable {slaves : SlaveIndex → GatewayedSlave} {h : Holder} {t : Transaction}

theorem findSlave_matches (hm : Matches slaves h t) : findSlave t.unitId = some h.1 := by
  rw [hm.unitId]
  exact findSlave_slaveUnitId h.1

variable (hm : Matches slaves h t) (hp : t.outcome = .pending)
include hm hp

/-- What the driver makes of a pending transaction is what the line makes of its flight. -/
theorem flight_answer (now : Nat) (device : SimulatedSlave) :
    flight (t.answer now h.1 device) = (flight t).next h.1 now h.2 device := by
  unfold Transaction.answer Flight.next Answers Expires flight
  simp only [hp, true_and]
  by_cases h1 : device.online = true ∧ latencyMilliseconds h.1 ≤ now - t.startedAt
  · rw [if_pos h1, if_pos h1]
    rw [hm.isWrite, hm.table]
    rcases h with ⟨j, kind⟩
    cases kind <;> rfl
  · rw [if_neg h1, if_neg h1]
    by_cases h2 : RESPONSE_TIMEOUT_MILLISECONDS ≤ now - t.startedAt
    · rw [if_pos h2, if_pos h2]
    · rw [if_neg h2, if_neg h2, hp]

theorem flight_effect (now : Nat) (device : SimulatedSlave) :
    device.effect now h.1 t = deviceAfter h.1 now h.2 device (some (flight t)) := by
  unfold SimulatedSlave.effect deviceAfter Answers flight
  simp only [hp, true_and]
  rw [hm.isWrite, hm.table]
  rcases h with ⟨j, kind⟩
  cases kind with
  | measuredTemperature => simp [answerEffect]
  | setpoint => simp [answerEffect]
  | enable => simp [answerEffect]

/-- Only the wire of its own point moves. -/
theorem wire_resolve (now : Nat) {b : Sim}
    (hinj : ∀ h', heldId slaves h = heldId slaves h' → h = h') (hheld : heldId slaves h ≠ 0)
    (ht : b.transactions[heldId slaves h]? = some t) (h' : Holder) :
    wire slaves (resolve now b (heldId slaves h, t)) h' =
      if h' = h then some (flight (t.answer now h.1 (b.slaves h.1))) else wire slaves b h' := by
  have hi := findSlave_matches hm
  unfold wire
  by_cases heq : h' = h
  · subst heq
    rw [if_neg hheld, if_pos rfl, resolve_entry now hp hi ht, if_pos rfl]
    rfl
  · rw [if_neg heq, resolve_entry now hp hi ht, if_neg fun hid => heq (hinj h' hid).symm]

end

/-- A turn of the driver's loop is the turn of one point of one line. -/
theorem resolve_view (i : SlaveIndex) (now : Nat) (log : List Act)
    {slaves : SlaveIndex → GatewayedSlave} {b : Sim} {h : Holder} {t : Transaction}
    (hinj : ∀ h', heldId slaves h = heldId slaves h' → h = h') (hheld : heldId slaves h ≠ 0)
    (ht : b.transactions[heldId slaves h]? = some t) (hp : t.outcome = .pending)
    (hm : Matches slaves h t) :
    view i ⟨slaves, resolve now b (heldId slaves h, t), log⟩ =
      if h.1 = i then (view i ⟨slaves, b, log⟩).resolve i now h.2 else view i ⟨slaves, b, log⟩ := by
  obtain ⟨-, hnow, hdrift⟩ := resolve_frame now b (heldId slaves h, t)
  have hwire := wire_resolve hm hp now hinj hheld ht
  have hslaves := resolve_slaves now b (heldId slaves h) hp (findSlave_matches hm)
  have hself : wire slaves b h = some (flight t) := by
    unfold wire
    rw [if_neg hheld, ht]
    rfl
  by_cases hh : h.1 = i
  · obtain ⟨j, kind⟩ := h
    dsimp only at hh
    subst hh
    rw [if_pos rfl]
    refine line_ext rfl ?_ ?_ hnow hdrift rfl
    · funext kind'
      show wire slaves (resolve now b _) (j, kind') =
        Function.update (fun kind => wire slaves b (j, kind)) kind _ kind'
      rw [hwire]
      by_cases hk : kind' = kind
      · subst hk
        rw [if_pos rfl, Function.update_self, flight_answer hm hp]
        show _ = Option.map _ (wire slaves b (j, kind'))
        rw [hself]
        rfl
      · rw [if_neg fun heq => hk (Prod.ext_iff.mp heq).2, Function.update_of_ne hk]
    · show (resolve now b _).slaves j =
        deviceAfter j now kind (b.slaves j) (wire slaves b (j, kind))
      rw [hslaves, Function.update_self, flight_effect hm hp, hself]
  · rw [if_neg hh]
    refine line_ext rfl ?_ ?_ hnow hdrift rfl
    · funext kind'
      show wire slaves (resolve now b _) (i, kind') = wire slaves b (i, kind')
      rw [hwire, if_neg fun heq => hh (Prod.ext_iff.mp heq).1.symm]
    · show (resolve now b _).slaves i = b.slaves i
      rw [hslaves, Function.update_of_ne (Ne.symm hh)]

/-- The point of a slave whose transaction has this id. -/
def kindAt (slave : GatewayedSlave) (id : Nat) : Option PointKind :=
  pointKinds.find? fun kind => transactionOf slave kind = id

theorem mem_pointKinds (kind : PointKind) : kind ∈ pointKinds := by cases kind <;> decide

theorem kindAt_eq_some {slave : GatewayedSlave} {id : Nat} {kind : PointKind}
    (h : kindAt slave id = some kind) :
    transactionOf slave kind = id := by
  have := List.find?_some h
  exact of_decide_eq_true this

theorem kindAt_held {slaves : SlaveIndex → GatewayedSlave} {h : Holder}
    (hinj : ∀ h', heldId slaves h = heldId slaves h' → h = h') :
    kindAt (slaves i) (heldId slaves h) = if h.1 = i then some h.2 else none := by
  by_cases hi : h.1 = i
  · obtain ⟨j, kind⟩ := h
    dsimp only at hi
    subst hi
    rw [if_pos rfl]
    refine (Lib.find?_eq_some_iff_of_unique (fun a _ b _ ha hb => ?_) (mem_pointKinds kind)).mpr
      (decide_eq_true rfl)
    have ha' := hinj (j, a) (of_decide_eq_true ha).symm
    have hb' := hinj (j, b) (of_decide_eq_true hb).symm
    exact (Prod.ext_iff.mp ha').2.symm.trans (Prod.ext_iff.mp hb').2
  · rw [if_neg hi]
    refine List.find?_eq_none.mpr fun kind _ heq => hi ?_
    exact (Prod.ext_iff.mp (hinj (i, kind) (of_decide_eq_true heq).symm)).1

/-- Every entry is some holder's. -/
def AllHeld (slaves : SlaveIndex → GatewayedSlave) (l : List (Nat × Transaction)) : Prop :=
  ∀ e ∈ l, ∃ h, heldId slaves h = e.1 ∧ e.1 ≠ 0 ∧ Matches slaves h e.2

theorem foldl_resolve_view (i : SlaveIndex) (now : Nat) (log : List Act)
    {slaves : SlaveIndex → GatewayedSlave} {b : Sim}
    (hinj : ∀ h h', heldId slaves h ≠ 0 → heldId slaves h = heldId slaves h' → h = h')
    {l : List (Nat × Transaction)}
    (hheld : AllHeld slaves l) (hentries : Entries b l) (hnd : (l.map Prod.fst).Nodup) :
    view i ⟨slaves, l.foldl (resolve now) b, log⟩ =
      ((l.map Prod.fst).filterMap (kindAt (slaves i))).foldl (Line.resolve i now)
        (view i ⟨slaves, b, log⟩) := by
  induction l generalizing b with
  | nil => rfl
  | cons e l ih =>
    obtain ⟨h, hid, hne, hm⟩ := hheld e (List.mem_cons_self ..)
    obtain ⟨ht, hp, -⟩ := hentries e (List.mem_cons_self ..)
    have hne' : heldId slaves h ≠ 0 := hid.trans_ne hne
    have hfirst := resolve_view i now log (hinj h · hne') hne' (hid ▸ ht) hp hm
    rw [hid] at hfirst
    rw [List.foldl_cons, ih (fun e' he' => hheld e' (List.mem_cons_of_mem _ he'))
      (entries_tail now hentries hnd) (List.nodup_cons.mp hnd).2, hfirst, List.map_cons,
      List.filterMap_cons, ← hid, kindAt_held (hinj h · hne')]
    by_cases hi : h.1 = i
    · rw [if_pos hi, if_pos hi]
      rfl
    · rw [if_neg hi, if_neg hi]

/-- Points with nothing in flight sit the driver's loop out. -/
theorem foldl_resolve_idle {l : Line} {kinds : List PointKind}
    (h : ∀ kind ∈ kinds, l.wire kind = none) :
    kinds.foldl (Line.resolve i now) l = l := by
  induction kinds with
  | nil => rfl
  | cons kind kinds ih =>
    rw [List.foldl_cons, resolve_none (h kind (List.mem_cons_self ..))]
    exact ih fun kind' hk => h kind' (List.mem_cons_of_mem _ hk)

/-- The driver's loop over the map is, for each line, one turn of each of its points. -/
theorem service_view (ho : Between s) :
    view i { s with bus := service now s.bus } = (view i s).service i now := by
  have hall := owned_allPending ho mem_allHolders
  have hinj : ∀ h h', heldId s.slaves h ≠ 0 → heldId s.slaves h = heldId s.slaves h' → h = h' :=
    fun _ _ hne heq => heldId_inj ho hne heq
  have hheld : AllHeld s.slaves (advance now s.bus).transactions.toList := by
    rintro ⟨id, t⟩ he
    have ht : s.bus.transactions[id]? = some t := Std.TreeMap.mem_toList_iff_getElem?_eq_some.mp he
    obtain ⟨hne, h, hid⟩ := ho.key id t ht
    obtain ⟨t', ht', hm, -⟩ := ho.entry h (hid.trans_ne hne)
    rw [hid, ht] at ht'
    cases ht'
    exact ⟨h, hid, hne, hm⟩
  have hnd := nodup_keys_toList (advance now s.bus).transactions
  have hfold := foldl_resolve_view i now s.log hinj hheld (entries_toList now hall) hnd
  refine hfold.trans ?_
  show _ = pointKinds.foldl (Line.resolve i now) (view i ⟨s.slaves, advance now s.bus, s.log⟩)
  generalize hkinds : ((advance now s.bus).transactions.toList.map Prod.fst).filterMap
    (kindAt (s.slaves i)) = kinds
  have hmem : ∀ kind, kind ∈ kinds ↔ transactionOf (s.slaves i) kind ≠ 0 := by
    intro kind
    rw [← hkinds, List.mem_filterMap]
    constructor
    · rintro ⟨id, hid, hk⟩
      obtain ⟨⟨id', t⟩, he, rfl⟩ := List.mem_map.mp hid
      rw [kindAt_eq_some hk]
      exact (ho.key id' t (Std.TreeMap.mem_toList_iff_getElem?_eq_some.mp he)).1
    · intro hne
      obtain ⟨t, ht, -⟩ := ho.entry (i, kind) hne
      refine ⟨_, List.mem_map_of_mem (Std.TreeMap.mem_toList_iff_getElem?_eq_some.mpr ht), ?_⟩
      rw [kindAt_held (hinj (i, kind) · hne), if_pos rfl]
  have hknd : kinds.Nodup := by
    rw [← hkinds]
    refine hnd.filterMap fun a a' kind ha ha' => ?_
    exact (kindAt_eq_some ha).symm.trans (kindAt_eq_some ha')
  -- The points with nothing in flight, and then the others in the order of their ids.
  have hperm : (pointKinds.filter (fun kind => transactionOf (s.slaves i) kind = 0) ++ kinds).Perm
      pointKinds := by
    refine (List.perm_ext_iff_of_nodup ?_ (by decide)).mpr fun kind => ?_
    · refine List.nodup_append.mpr ⟨List.Nodup.filter _ (by decide), hknd, ?_⟩
      rintro a ha b hb rfl
      exact (hmem a).mp hb (of_decide_eq_true (List.mem_filter.mp ha).2)
    · refine ⟨fun _ => mem_pointKinds kind, fun hk => List.mem_append.mpr ?_⟩
      by_cases hz : transactionOf (s.slaves i) kind = 0
      · exact Or.inl (List.mem_filter.mpr ⟨hk, decide_eq_true hz⟩)
      · exact Or.inr ((hmem kind).mpr hz)
  rw [← hperm.foldl_eq, List.foldl_append, foldl_resolve_idle fun kind hk =>
    if_pos (of_decide_eq_true (List.mem_filter.mp hk).2)]

/-! ## The gateway's turn -/

variable {h h' : Holder} {slaves' : SlaveIndex → GatewayedSlave}

theorem wire_start (ho : Owned visited s) (value : Word)
    (hself : heldId slaves' h = s.bus.nextTransactionId)
    (hsame : ∀ h', h' ≠ h → heldId slaves' h' = heldId s.slaves h') (h' : Holder) :
    wire slaves' (started s.bus h value) h' =
      if h' = h then some ⟨s.bus.nowMilliseconds, value, .pending⟩ else wire s.slaves s.bus h' := by
  have hentry : ∀ id : Nat, (started s.bus h value).transactions[id]? =
      if s.bus.nextTransactionId = id then some _ else s.bus.transactions[id]? :=
        fun id => getElem?_insert_ite ..
  have hnz : s.bus.nextTransactionId ≠ 0 := Nat.one_le_iff_ne_zero.mp ho.ids.nextRange.1
  unfold wire
  by_cases heq : h' = h
  · subst heq
    rw [hself, if_neg hnz, if_pos rfl, hentry, if_pos rfl]
    rfl
  · rw [hsame h' heq, if_neg heq]
    by_cases hz : heldId s.slaves h' = 0
    · rw [if_pos hz, if_pos hz]
    · rw [if_neg hz, if_neg hz, hentry, if_neg]
      intro hnext
      obtain ⟨t, ht, -⟩ := ho.entry h' hz
      rw [← hnext, next_absent ho] at ht
      cases ht

theorem wire_finish (ho : Owned visited s) (hheld : heldId s.slaves h ≠ 0)
    (hself : heldId slaves' h = 0)
    (hsame : ∀ h', h' ≠ h → heldId slaves' h' = heldId s.slaves h') (h' : Holder) :
    wire slaves' { s.bus with transactions := s.bus.transactions.erase (heldId s.slaves h) } h' =
      if h' = h then none else wire s.slaves s.bus h' := by
  unfold wire
  by_cases heq : h' = h
  · subst heq
    rw [if_pos hself, if_pos rfl]
  · rw [hsame h' heq, if_neg heq]
    by_cases hz : heldId s.slaves h' = 0
    · rw [if_pos hz, if_pos hz]
    · rw [if_neg hz, if_neg hz, getElem?_erase_ite, if_neg fun hid =>
        heq (heldId_inj ho hheld hid).symm]

theorem own_all {acts : List Act} (hacts : ∀ a ∈ acts, a.slave = i) (j : SlaveIndex) :
    own j acts = if j = i then acts else [] := by
  unfold own
  by_cases hj : j = i
  · subst hj
    rw [if_pos rfl]
    exact List.filter_eq_self.mpr fun a ha => decide_eq_true (hacts a ha)
  · rw [if_neg hj]
    exact List.filter_eq_nil_iff.mpr fun a ha heq =>
      hj ((of_decide_eq_true heq).symm.trans (hacts a ha))

/-- A call for one point of slave `i`, in every line. -/
theorem called_view (slave : GatewayedSlave) (acts : List Act) {kind : PointKind}
    {f : Option Flight} {bus : Sim}
    (hwire : ∀ h', wire (Function.update s.slaves i slave) bus h' = if h' = (i, kind) then f
      else wire s.slaves s.bus h')
    (hdevices : SameDevices s.bus bus) (hacts : ∀ a ∈ acts, a.slave = i) (j : SlaveIndex) :
    view j ⟨Function.update s.slaves i slave, bus, acts ++ s.log⟩ =
      if j = i then (view i s).called kind f (anonymous slave) (acts.map anonymousAct)
          else view j s := by
  by_cases hj : j = i
  · subst hj
    rw [if_pos rfl]
    refine line_ext ?_ ?_ (congrFun hdevices.slaves j)
      hdevices.nowMilliseconds hdevices.lastDriftAt ?_
    · show anonymous (Function.update s.slaves j slave j) = anonymous slave
      rw [Function.update_self]
    · funext kind'
      show wire _ bus (j, kind') =
        Function.update (fun kind => wire s.slaves s.bus (j, kind)) kind f kind'
      rw [hwire]
      by_cases hk : kind' = kind
      · subst hk
        rw [if_pos rfl, Function.update_self]
      · rw [if_neg fun heq => hk (Prod.ext_iff.mp heq).2, Function.update_of_ne hk]
    · show (own j (acts ++ s.log)).map anonymousAct =
        acts.map anonymousAct ++ (own j s.log).map anonymousAct
      rw [own_append, own_all hacts, if_pos rfl, List.map_append]
  · rw [if_neg hj]
    refine line_ext ?_ ?_ (congrFun hdevices.slaves j)
      hdevices.nowMilliseconds hdevices.lastDriftAt ?_
    · show anonymous (Function.update s.slaves i slave j) = anonymous (s.slaves j)
      rw [Function.update_of_ne hj]
    · funext kind'
      show wire _ bus (j, kind') = wire s.slaves s.bus (j, kind')
      rw [hwire, if_neg fun heq => hj (Prod.ext_iff.mp heq).1]
    · show (own j (acts ++ s.log)).map anonymousAct = (own j s.log).map anonymousAct
      rw [own_append, own_all hacts, if_neg hj, List.nil_append]

/-- A call that is told to wait. -/
theorem logged_view {act : Act} (hact : act.slave = i) (j : SlaveIndex) :
    view j (s.called s.bus act) =
      if j = i then { view i s with log := anonymousAct act :: (view i s).log } else view j s := by
  by_cases hj : j = i
  · subst hj
    rw [if_pos rfl]
    refine line_ext rfl rfl rfl rfl rfl ?_
    show (own j (act :: s.log)).map anonymousAct = _
    rw [own_cons, if_pos hact]
    rfl
  · rw [if_neg hj]
    refine line_ext rfl rfl rfl rfl rfl ?_
    show (own j (act :: s.log)).map anonymousAct = _
    rw [own_cons, if_neg fun heq => hj (heq.symm.trans hact)]
    rfl

theorem wire_idle (hz : heldId s.slaves h = 0) : wire s.slaves s.bus h = none := if_pos hz

theorem wire_entry (hz : heldId s.slaves h ≠ 0) {t : Transaction}
    (ht : s.bus.transactions[heldId s.slaves h]? = some t) :
    wire s.slaves s.bus h = some (flight t) := by
  unfold wire
  rw [if_neg hz, ht]
  rfl

theorem doneCalls_slave (mode : GatewayMode) (i : SlaveIndex) (slave : GatewayedSlave) (a : Act)
    (ha : a ∈ doneCalls mode i slave) : a.slave = i := by
  have hown : own i (doneCalls mode i slave) = doneCalls mode i slave := own_doneCalls ..
  rw [← hown] at ha
  exact of_decide_eq_true (List.mem_filter.mp ha).2

theorem timeoutCalls_slave (mode : GatewayMode) (i : SlaveIndex) (slave : GatewayedSlave) (a : Act)
    (ha : a ∈ timeoutCalls mode i slave) : a.slave = i := by
  have hown : own i (timeoutCalls mode i slave) = timeoutCalls mode i slave := own_timeoutCalls ..
  rw [← hown] at ha
  exact of_decide_eq_true (List.mem_filter.mp ha).2

theorem poll_view (ho : Owned visited s) (i : SlaveIndex) (now : Nat) (j : SlaveIndex) :
    view j (servicePoll simulatedForeignBus settings i now s) =
      if j = i then (view i s).poll settings i now else view j s := by
  have hsame : ∀ {slave : GatewayedSlave},
    (∀ k, (slave.link k).transactionId = ((s.slaves i).link k).transactionId ∧
      (slave.link k).inFlightValue = ((s.slaves i).link k).inFlightValue) →
      ∀ h', h' ≠ (i, .measuredTemperature) →
        heldId (Function.update s.slaves i slave) h' = heldId s.slaves h' :=
    fun hlink h' hne => (update_sameAsk_of hne (poll_rest hlink)).1
  unfold Line.poll
  by_cases hid : (s.slaves i).pollTransactionId = 0
  · rw [show (view i s).wire .measuredTemperature = none from
      wire_idle (h := (i, .measuredTemperature)) hid]
    dsimp only
    by_cases hdue : now < (s.slaves i).nextPollAt
    · rw [servicePoll_idle _ settings hid hdue,
        if_pos (show now < (view i s).slave.nextPollAt from hdue)]
      split
      · rename_i hj
        rw [hj]
      · rfl
    · rw [servicePoll_start _ settings hid (Nat.le_of_not_lt hdue) (startRead_eq i s.bus),
        if_neg (show ¬ now < (view i s).slave.nextPollAt from hdue)]
      refine called_view _ [_] (wire_start ho 0 ?_ (hsame fun k => by cases k <;> exact ⟨rfl, rfl⟩))
        ⟨rfl, rfl, rfl⟩ (by simp) j
      show transactionOf (Function.update s.slaves i _ i) _ = _
      rw [Function.update_self]
      rfl
  · obtain ⟨t, ht, -, -⟩ := ho.entry (i, .measuredTemperature) hid
    rw [show (view i s).wire .measuredTemperature = some (flight t) from
      wire_entry (h := (i, .measuredTemperature)) hid ht]
    dsimp only
    by_cases hp : t.outcome = .pending
    · rw [servicePoll_pending _ settings hid (checkTransaction_pending ht hp),
        show (flight t).outcome = _ from hp]
      exact logged_view rfl j
    · have hr := checkTransaction_ended ht hp
      have finish : ∀ (slave : GatewayedSlave) (acts : List Act), slave.pollTransactionId = 0 →
          (∀ k, (slave.link k).transactionId = ((s.slaves i).link k).transactionId ∧
            (slave.link k).inFlightValue = ((s.slaves i).link k).inFlightValue) →
            (∀ a ∈ acts, a.slave = i) →
          view j ⟨Function.update s.slaves i slave,
            { s.bus with transactions := s.bus.transactions.erase (s.slaves i).pollTransactionId },
            acts ++ s.log⟩ =
          if j = i then (view i s).called .measuredTemperature none (anonymous slave)
              (acts.map anonymousAct)
            else view j s := by
        intro slave acts hpoll hlink hacts
        refine called_view slave acts
          (wire_finish (h := (i, .measuredTemperature)) ho hid ?_ (hsame hlink))
            ⟨rfl, rfl, rfl⟩ hacts j
        show transactionOf (Function.update s.slaves i _ i) _ = _
        rw [Function.update_self]
        exact hpoll
      cases ho : t.outcome with
      | pending => exact absurd ho hp
      | done =>
        rw [ho] at hr
        rw [servicePoll_done _ settings hid hr, show (flight t).outcome = _ from ho]
        dsimp only
        have hview := finish (pollAnswered (s.slaves i) t.value)
          (doneCalls settings.mode i (s.slaves i) ++
            [.checkRead i now (s.slaves i).pollTransactionId .done t.value])
          rfl (fun k => by cases k <;> exact ⟨rfl, rfl⟩)
          (by simpa [or_imp, forall_and] using doneCalls_slave settings.mode i (s.slaves i))
        rw [List.append_assoc, List.map_append, anonymous_doneCalls] at hview
        exact hview
      | timeout =>
        rw [ho] at hr
        rw [servicePoll_timeout _ settings hid hr, show (flight t).outcome = _ from ho]
        dsimp only
        have hview := finish (afterTimeout (s.slaves i))
          (timeoutCalls settings.mode i (s.slaves i) ++
            [.checkRead i now (s.slaves i).pollTransactionId .timeout 0])
          (by unfold afterTimeout; split <;> rfl)
          (fun k => by unfold afterTimeout; split <;> cases k <;> exact ⟨rfl, rfl⟩)
          (by simpa [or_imp, forall_and] using timeoutCalls_slave settings.mode i (s.slaves i))
        rw [List.append_assoc, List.map_append, anonymous_timeoutCalls, anonymous_afterTimeout]
          at hview
        exact hview

theorem writeWinningValue_view (ho : Owned visited s) (i : SlaveIndex) (k : Output) (now : Nat)
    (j : SlaveIndex) :
    view j (writeWinningValue simulatedForeignBus i k now s) =
      if j = i then (view i s).writeWinningValue i k now else view j s := by
  unfold Line.writeWinningValue
  by_cases hdue : writeDue (s.slaves i) k now
  · rw [writeWinningValue_start _ hdue (startWrite_eq i k _ s.bus),
      if_pos (show writeDue (view i s).slave k now from (anonymous_writeDue ..).mpr hdue)]
    have hview :=
        called_view (s := s) (i := i)
        ((s.slaves i).setLink k (writeStarted ((s.slaves i).link k) s.bus.nextTransactionId
        (winningValue ((s.slaves i).command k))))
      ([.startWrite i k now (winningValue ((s.slaves i).command k))
        (encode k (winningValue ((s.slaves i).command k))) s.bus.nextTransactionId])
      (wire_start ho (encode k (winningValue ((s.slaves i).command k)))
        (by
          show transactionOf (Function.update s.slaves i _ i) _ = _
          rw [Function.update_self, transactionOf_kind, setLink_link]
          rfl)
        (fun h' hne => (update_sameAsk_of hne write_rest).1))
      ⟨rfl, rfl, rfl⟩ (by simp) j
    rw [anonymous_setLink] at hview
    refine hview.trans ?_
    show (if j = i then _ else _) = if j = i then _ else _
    rw [show (view i s).slave.command k = (s.slaves i).command k from anonymous_command ..,
      show (view i s).slave.link k = _ from anonymous_link ..]
    rfl
  · rw [writeWinningValue_skip _ hdue,
      if_neg (show ¬ writeDue (view i s).slave k now from fun h =>
        hdue ((anonymous_writeDue ..).mp h))]
    split
    · rename_i hj
      rw [hj]
    · rfl

theorem writeThrough_view (ho : Owned visited s) (i : SlaveIndex) (k : Output) (now : Nat)
    (j : SlaveIndex) :
    view j (serviceWriteThrough simulatedForeignBus i k now s) =
      if j = i then (view i s).writeThrough i k now else view j s := by
  have hheld : heldId s.slaves (i, k.kind) = ((s.slaves i).link k).transactionId :=
    transactionOf_kind _ k
  unfold Line.writeThrough
  by_cases hid : ((s.slaves i).link k).transactionId = 0
  · rw [show (view i s).wire k.kind = none from wire_idle (h := (i, k.kind)) (hheld.trans hid),
      serviceWriteThrough_free _ hid]
    exact writeWinningValue_view ho i k now j
  · obtain ⟨t, ht, -, -⟩ := ho.entry (i, k.kind) (hheld ▸ hid)
    have ht' := ht
    rw [hheld] at ht'
    rw [show (view i s).wire k.kind = some (flight t) from
      wire_entry (h := (i, k.kind)) (hheld ▸ hid) ht]
    dsimp only
    by_cases hp : t.outcome = .pending
    · rw [serviceWriteThrough_pending _ hid (checkTransaction_pending ht' hp),
        show (flight t).outcome = _ from hp]
      exact logged_view rfl j
    · have hr := checkTransaction_ended ht' hp
      have finish : ∀ (link : WriteThrough) (outcome : Outcome), link.transactionId = 0 →
          view j
            (writeWinningValue simulatedForeignBus i k now
              ((s.setSlave i ((s.slaves i).setLink k link)).called
                { s.bus with
                  transactions := s.bus.transactions.erase ((s.slaves i).link k).transactionId }
                (.checkWrite i k now ((s.slaves i).link k).transactionId outcome))) =
          if j = i then ((view i s).called k.kind none ((view i s).slave.setLink k link)
            [.checkWrite i k now 0 outcome]).writeWinningValue i k now else view j s := by
        intro link outcome hzero
        have hself :
            heldId (Function.update s.slaves i ((s.slaves i).setLink k link)) (i, k.kind) = 0 := by
          show transactionOf (Function.update s.slaves i _ i) _ = 0
          rw [Function.update_self, transactionOf_kind, setLink_link, hzero]
        have hrest : ∀ h', h' ≠ (i, k.kind) →
            SameAsk s.slaves (Function.update s.slaves i ((s.slaves i).setLink k link)) h' :=
          fun h' hne => update_sameAsk_of hne write_rest
        have howned := owned_finish ho (hheld ▸ hid) ht hp hself hrest
          (.checkWrite i k now ((s.slaves i).link k).transactionId outcome :: s.log)
        have hview := called_view (s := s) (i := i) ((s.slaves i).setLink k link)
          [.checkWrite i k now ((s.slaves i).link k).transactionId outcome]
          (wire_finish ho (hheld ▸ hid) hself fun h' hne => (hrest h' hne).1)
            ⟨rfl, rfl, rfl⟩ (by simp)
        rw [hheld] at howned hview
        have hstart := writeWinningValue_view howned i k now j
        refine hstart.trans ?_
        by_cases hj : j = i
        · rw [if_pos hj, if_pos hj]
          refine congrArg (Line.writeWinningValue i k now) ((hview i).trans ((if_pos rfl).trans ?_))
          rw [anonymous_setLink]
          obtain ⟨a, b, c, d, e⟩ := link
          dsimp only at hzero
          subst hzero
          rfl
        · rw [if_neg hj, if_neg hj]
          exact (hview j).trans (if_neg hj)
      have hlink : (view i s).slave.link k = { (s.slaves i).link k with transactionId := 0 } :=
        anonymous_link ..
      cases ho : t.outcome with
      | pending => exact absurd ho hp
      | done =>
        rw [ho] at hr
        rw [serviceWriteThrough_done _ hid hr, show (flight t).outcome = _ from ho]
        dsimp only
        rw [hlink]
        exact finish (writeDone ((s.slaves i).link k)) .done rfl
      | timeout =>
        rw [ho] at hr
        rw [serviceWriteThrough_timeout _ hid hr, show (flight t).outcome = _ from ho]
        dsimp only
        rw [hlink]
        exact finish (writeFailed ((s.slaves i).link k) (now + pollPeriodMilliseconds i))
          .timeout rfl

/-! ## Passes and runs -/

/-- What a call of a pass does to line `j`. -/
def Line.exec (j : SlaveIndex) (l : Line) : Call → Line
  | .service now => l.service j now
  | .poll i now => if j = i then l.poll settings i now else l
  | .writeThrough i k now => if j = i then l.writeThrough i k now else l

theorem exec_view (ho : Owned visited s) {c : Call} (hc : ∀ now, c ≠ .service now)
    (j : SlaveIndex) :
    view j (exec simulatedForeignBus settings s c) = (view j s).exec settings j c := by
  cases c with
  | service now => exact absurd rfl (hc now)
  | poll i now =>
    refine (poll_view settings ho i now j).trans ?_
    by_cases hj : j = i
    · subst hj
      rfl
    · rw [if_neg hj]
      exact (if_neg hj).symm
  | writeThrough i k now =>
    refine (writeThrough_view ho i k now j).trans ?_
    by_cases hj : j = i
    · subst hj
      rfl
    · rw [if_neg hj]
      exact (if_neg hj).symm

/-- As `calls_owned` visits the holders, the view follows. -/
theorem calls_view {calls : List Call} {holders : List Holder}
    (hcalls : calls.map Call.holder = holders.map some)
    (hnd : holders.Nodup) (hnew : ∀ h ∈ holders, h ∉ visited) (ho : Owned visited s)
    (j : SlaveIndex) :
    view j (calls.foldl (exec simulatedForeignBus settings) s) =
      calls.foldl (Line.exec settings j) (view j s) := by
  induction calls generalizing holders visited s with
  | nil => rfl
  | cons c calls ih =>
    cases holders with
    | nil => simp at hcalls
    | cons h holders =>
      rw [List.map_cons, List.map_cons, List.cons.injEq] at hcalls
      obtain ⟨hc, hcalls⟩ := hcalls
      have hone :=
          calls_owned settings (show [c].map Call.holder = [h].map some by simp [hc])
          (List.nodup_singleton h)
        (fun h' hh' => hnew h' (List.mem_cons.mpr (Or.inl (List.mem_singleton.mp hh')))) ho
      have hservice : ∀ now, c ≠ .service now := by
        rintro now rfl
        cases hc
      obtain ⟨hnot, hnd⟩ := List.nodup_cons.mp hnd
      rw [List.foldl_cons, List.foldl_cons, ← exec_view settings ho hservice]
      refine ih hcalls hnd (fun h' hh' hmem => ?_) hone
      rcases List.mem_cons.mp hmem with rfl | hmem
      · exact hnot hh'
      · exact hnew h' (List.mem_cons_of_mem _ hh') hmem

theorem exec_pass (j : SlaveIndex) (now : Nat) (l : Line) :
    (passCalls now).foldl (Line.exec settings j) l = l.pass settings j now := by
  match j with
  | 0 => rfl
  | 1 => rfl
  | 2 => rfl

/-- A pass of the gateway is, for each line, the line's own pass. -/
theorem pass_view (ho : Between s) (hnow : s.bus.nowMilliseconds ≤ now) (j : SlaveIndex) :
    view j (serviceForeignBus simulatedForeignBus settings now s) =
      (view j s).pass settings j now := by
  have hserved := owned_service ho mem_allHolders hnow
  rw [serviceForeignBus_calls, ← exec_pass,
    show passCalls now = .service now :: holderCalls now from rfl, List.foldl_cons, List.foldl_cons]
  have hcalls :=
    calls_view settings (holderCalls_holders now) allHolders_nodup
    (fun h _ hmem => by cases hmem) hserved j
  rw [service_view ho] at hcalls
  exact hcalls

theorem set_view (s : Sys Sim) (call : SetCall) (j : SlaveIndex) :
    view j { s with slaves := (call.result settings s.slaves).slaves } =
      (view j s).command j (commandOf settings call) := by
  have hwire : ∀ h, wire (call.result settings s.slaves).slaves s.bus h =
      wire s.slaves s.bus h := by
    intro h
    unfold wire
    rw [(set_sameAsk settings s.slaves call h).1]
  have hslaves := (set_result settings s.slaves call).2
  have hview : view j { s with slaves := (call.result settings s.slaves).slaves } =
      { view j s with slave := anonymous ((call.result settings s.slaves).slaves j) } :=
    line_ext rfl (funext fun kind => hwire (j, kind)) rfl rfl rfl rfl
  rw [hview, hslaves]
  cases commandOf settings call with
  | none => rfl
  | some c =>
    by_cases hj : c.slave = j
    · subst hj
      rw [Line.command_self]
      refine line_ext ?_ rfl rfl rfl rfl rfl
      show anonymous (Function.update s.slaves c.slave _ c.slave) =
          (anonymous (s.slaves c.slave)).setCommand _
        (((anonymous (s.slaves c.slave)).command c.output).setSlot c.slot c.value)
      rw [Function.update_self, anonymous_setCommand, anonymous_command]
    · rw [Line.command_other _ hj]
      refine line_ext ?_ rfl rfl rfl rfl rfl
      show anonymous (Function.update s.slaves c.slave _ j) = _
      rw [Function.update_of_ne (Ne.symm hj)]
      rfl

theorem outside_view (s : Sys Sim) (e : FieldEvent) (j : SlaveIndex) :
    view j { s with bus := fieldEvent e s.bus } =
      { view j s with device := fieldEffect j (view j s).device e } := by
  obtain ⟨h1, -, h3, h4⟩ := fieldEvent_frame e s.bus
  refine line_ext rfl (funext fun kind => ?_) ?_ h3 h4 rfl
  · show wire s.slaves (fieldEvent e s.bus) (j, kind) = wire s.slaves s.bus (j, kind)
    unfold wire
    rw [h1]
  · show (fieldEvent e s.bus).slaves j = fieldEffect j (s.bus.slaves j) e
    cases e with
    | setSlaveOnline unitId online =>
      simp only [fieldEvent, setSlaveOnline, fieldEffect]
      cases findSlave unitId with
      | none => rfl
      | some i =>
        by_cases hj : j = i
        · subst hj
          simp
        · simp [hj, Ne.symm hj]
    | setPoint unitId table address value =>
      simp only [fieldEvent, setPoint, fieldEffect]
      cases findPoint unitId address with
      | none => rfl
      | some i =>
        by_cases hj : j = i
        · subst hj
          simp
        · simp [hj, Ne.symm hj]

theorem start_view (i : SlaveIndex) : view i (start initialSim) = Line.start i := by
  refine line_ext rfl (funext fun kind => ?_) rfl rfl rfl rfl
  cases kind <;> rfl

/-- The run of the system, seen from one slave, is the run of its line. -/
theorem run_view {evs : List (Event FieldEvent)} (h : Nondecreasing evs) (i : SlaveIndex) :
    view i (run simulatedForeignBus settings (start initialSim) evs) =
      (Line.start i).run settings i evs := by
  induction evs using List.reverseRecOn with
  | nil => exact start_view i
  | append_singleton evs e ih =>
    have hprefix := nondecreasing_earlier h (List.prefix_append ..)
    rw [Gateway.run_concat, Line.run_concat, ← ih hprefix]
    cases e with
    | set call => exact set_view settings _ call i
    | outside e => exact outside_view _ e i
    | pass now => exact pass_view settings (run_between settings hprefix) (clock_le settings h) i

/-! ## No interference -/

/-- Does the event concern slave `j`? A set call does if it names an object of the slave,
    accepted or not. -/
def Concerns (j : SlaveIndex) : Event FieldEvent → Bool
  | .pass _ => true
  | .set call => pointKinds.any fun kind => Names settings call.property j kind
  | .outside (.setSlaveOnline unitId' _) => unitId' = unitId j
  | .outside (.setPoint unitId' _ _ _) => unitId' = unitId j

theorem step_unconcerned {j : SlaveIndex} {e : Event FieldEvent}
    (h : Concerns settings j e = false) (l : Line) :
    l.step settings j e = l := by
  cases e with
  | pass now => cases h
  | set call =>
    show l.command j (commandOf settings call) = l
    cases hc : commandOf settings call with
    | none => rfl
    | some c =>
      refine l.command_other fun hj => ?_
      have hn := ((commandOf_iff settings call c).mp hc).1
      rw [hj] at hn
      have := List.any_eq_false.mp h c.output.kind (mem_pointKinds _)
      exact this (decide_eq_true hn)
  | outside e =>
    have silent : fieldEffect j l.device e = l.device := by
      cases e with
      | setSlaveOnline unitId' online =>
        exact if_neg fun hf => of_decide_eq_false h (findSlave_eq_some hf)
      | setPoint unitId' table address value =>
        refine if_neg fun hf => ?_
        unfold findPoint at hf
        split at hf
        · exact of_decide_eq_false h (findSlave_eq_some hf)
        · cases hf
    show { l with device := fieldEffect j l.device e } = l
    rw [silent]

/-- A line's run depends only on the events that concern it. -/
theorem run_concerning (j : SlaveIndex) (l : Line) (evs : List (Event FieldEvent)) :
    l.run settings j evs = l.run settings j (evs.filter (Concerns settings j)) := by
  induction evs generalizing l with
  | nil => rfl
  | cons e evs ih =>
    rw [List.filter_cons]
    show (l.step settings j e).run settings j evs = _
    cases hc : Concerns settings j e with
    | true => rw [if_pos rfl]; exact ih _
    | false => rw [if_neg (by simp), step_unconcerned settings hc]; exact ih _

theorem passTimes_concerning (j : SlaveIndex) (evs : List (Event FieldEvent)) :
    passTimes (evs.filter (Concerns settings j)) = passTimes evs := by
  induction evs with
  | nil => rfl
  | cons e evs ih =>
    rw [List.filter_cons]
    cases e with
    | pass now => exact congrArg (now :: ·) ih
    | set call => split <;> exact ih
    | outside e => split <;> exact ih

variable {settings}

/-- The callbacks answer for slave `j`'s objects from slave `j`'s cache alone. -/
theorem answers_of_view {slaves slaves' : SlaveIndex → GatewayedSlave} {j : SlaveIndex}
    (h : anonymous (slaves j) = anonymous (slaves' j)) {p : PropertyReference} {kind : PointKind}
    (hn : Names settings p j kind) :
    getPropertyReal settings slaves p = getPropertyReal settings slaves' p ∧
      getPropertyEnumerated settings slaves p = getPropertyEnumerated settings slaves' p ∧
      getPropertyBool settings slaves p = getPropertyBool settings slaves' p := by
  have hf := (findMappedPoint_iff settings p j kind).mpr hn
  have htemperature := congrArg GatewayedSlave.measuredTemperature h
  have honline := congrArg GatewayedSlave.online h
  have hsetpoint := congrArg GatewayedSlave.setpoint h
  have henable := congrArg GatewayedSlave.enable h
  dsimp only [anonymous] at htemperature honline hsetpoint henable
  refine ⟨?_, ?_, ?_⟩
  · unfold getPropertyReal
    rw [hf]
    dsimp only
    rw [htemperature, hsetpoint]
  · unfold getPropertyEnumerated
    rw [hf]
    dsimp only
    rw [honline, henable]
  · unfold getPropertyBool findCommandable
    rw [hf]
    cases kind with
    | measuredTemperature => rfl
    | setpoint => simp only [GatewayedSlave.command, hsetpoint]
    | enable => simp only [GatewayedSlave.command, henable]

/-- Two runs on the simulated bus with the same passes and the same events about slave
    `j`, whatever else happens in them: every answer for the slave's objects, its device
    with registers and drift, and every call made for it (bus requests with times, values
    and outcomes, discoverability, I-Ams) are the same, up to the transaction ids. -/
theorem no_interference (settings : Settings) (j : SlaveIndex) (evs evs' : List (Event FieldEvent))
    (h : Nondecreasing evs)
    (hsame : evs.filter (Concerns settings j) = evs'.filter (Concerns settings j)) :
    let s := run simulatedForeignBus settings (start initialSim) evs
    let s' := run simulatedForeignBus settings (start initialSim) evs'
    (∀ p kind, Names settings p j kind →
      getPropertyReal settings s.slaves p = getPropertyReal settings s'.slaves p ∧
        getPropertyEnumerated settings s.slaves p = getPropertyEnumerated settings s'.slaves p ∧
        getPropertyBool settings s.slaves p = getPropertyBool settings s'.slaves p) ∧
      s.bus.slaves j = s'.bus.slaves j ∧ (own j s.log).map anonymousAct =
        (own j s'.log).map anonymousAct := by
  intro s s'
  have h' : Nondecreasing evs' := by
    unfold Nondecreasing at h ⊢
    rwa [← passTimes_concerning settings j, ← hsame, passTimes_concerning]
  have hview : view j s = view j s' := by
    rw [run_view settings h, run_view settings h', run_concerning, hsame, ← run_concerning]
  exact ⟨fun p kind hn => answers_of_view (congrArg Line.slave hview) hn,
    congrArg Line.device hview, congrArg Line.log hview⟩

/-- Unit 1 commanded and unit 2 cut off, or neither: unit 3 is the same. -/
theorem no_interference_chiller :
    (run simulatedForeignBus embeddedObjects (start initialSim)
      [.set (.real boilerSetpoint (.finite 70) 8), .pass 0, .outside (.setSlaveOnline 2 false),
        .pass 80]).bus.slaves 2 =
    (run simulatedForeignBus embeddedObjects (start initialSim) [.pass 0, .pass 80]).bus.slaves 2 :=
  (no_interference embeddedObjects 2
    [.set (.real boilerSetpoint (.finite 70) 8), .pass 0,
      .outside (.setSlaveOnline 2 false), .pass 80]
    [.pass 0, .pass 80] (by decide) rfl).2.1

end BacnetGateway.Lines
