/-
  BacnetGateway.Transport.Links — which socket the stack's messages leave by, and where to.

  `Links` is what the table is for: the Network Ports it has an entry for, in the order they
  came, and the UDP port of the open socket each has. A `SetupUDP` that fails still takes an
  entry, and where the Network Port was bound it closes the socket and leaves `bound` set:
  `HelperSendMessage` goes on, and `Send` returns 0. The table is the `Links` of the calls made
  so far, after every sequence of them (`ports_refine`), so these say what every send does
  (`sends_follow_links`).

  What the stack is handed says where the answer goes: sent back, it leaves by the socket the
  message arrived on, to the address it came from (`answers_reach_sender`).
-/

import BacnetGateway.Transport.Delivery

namespace BacnetGateway.Transport

/-! ## Addresses -/

theorem portOf_portOctets (port : UInt16) : portOf (port >>> 8).toUInt8 port.toUInt8 = port := by
  have hlt : port.toNat < 65536 := port.toNat_lt
  apply UInt16.toNat_inj.mp
  unfold portOf
  rw [UInt16.toNat_or, UInt16.toNat_shiftLeft, UInt8.toNat_toUInt16, UInt8.toNat_toUInt16,
    UInt16.toNat_toUInt8, UInt16.toNat_toUInt8, UInt16.toNat_shiftRight]
  have hhigh : port.toNat >>> 8 % 256 = port.toNat / 256 := by
    rw [Nat.shiftRight_eq_div_pow]
    omega
  show (port.toNat >>> 8 % 256) <<< 8 % 65536 ||| port.toNat % 256 = port.toNat
  rw [hhigh, Nat.shiftLeft_eq, Nat.mod_eq_of_lt (by omega), ← Nat.shiftLeft_eq,
    ← Nat.shiftLeft_add_eq_or_of_lt (by omega), Nat.shiftLeft_eq]
  omega

/-! ## What the table is for -/

structure Links where
  known : List UInt32
  port : UInt32 → Option UInt16

def noLinks : Links := ⟨[], fun _ => none⟩

/-- A call that changes the table, or which Network Port is the current one. -/
inductive Setup where
  | setupUDP (port : UInt16) (networkPortInstance : UInt32) (opening : Opening)
  | shutdownUDP
  | setNetworkPortInstance (networkPortInstance : UInt32)
  deriving DecidableEq

def Setup.apply (p : Ports) : Setup → Ports
  | .setupUDP port networkPortInstance opening =>
    (Transport.setupUDP port networkPortInstance opening p).2
  | .shutdownUDP => Transport.shutdownUDP p
  | .setNetworkPortInstance networkPortInstance =>
    Transport.setNetworkPortInstance networkPortInstance p

def Links.open (l : Links) (port : UInt16) (networkPortInstance : UInt32)
    (opening : Opening) : Links :=
  { l with port :=
    Function.update l.port networkPortInstance (if opening = .bound then some port else none) }

def Setup.link (l : Links) : Setup → Links
  | .setupUDP port networkPortInstance opening =>
    if networkPortInstance ∈ l.known then l.open port networkPortInstance opening
    else if l.known.length < MAX_UDP_BINDINGS then
      ({ l with known := l.known ++ [networkPortInstance] } : Links).open
        port networkPortInstance opening
    else l
  | .shutdownUDP => { l with port := fun _ => none }
  | .setNetworkPortInstance _ => l

/-- The port of the open socket of a Network Port. -/
def UdpBinding.link (b : UdpBinding) : Option UInt16 :=
  if b.bound ∧ b.udp.connected ∧ b.udp.socket.isSome then some b.port else none

structure Refines (t : Table) (l : Links) : Prop where
  known : t.bindings.map (·.networkPortInstance) = l.known
  port : ∀ b ∈ t.bindings, l.port b.networkPortInstance = b.link
  unknown : ∀ x, x ∉ l.known → l.port x = none

theorem find_none_iff {t : Table} {l : Links} (h : Refines t l) (x : UInt32) :
    t.find x = none ↔ x ∉ l.known := by
  rw [← h.known]
  unfold Table.find
  simp [List.findIdx?_eq_none_iff]

theorem find_getElem? {t : Table} {x : UInt32} {i : Nat} (h : t.find x = some i) :
    ∃ b, t.bindings[i]? = some b ∧ b.networkPortInstance = x := by
  obtain ⟨hlt, hx, -⟩ := List.findIdx?_eq_some_iff_getElem.mp h
  exact ⟨_, List.getElem?_eq_getElem hlt, of_decide_eq_true hx⟩

/-- An entry that is opened, or fails to. -/
theorem openBinding_refines {p : Ports} {l : Links} (h : Refines p.table l) {i : Nat}
    {b : UdpBinding} (hb : p.table.bindings[i]? = some b) (port : UInt16) (opening : Opening) :
    Refines (openBinding p i port b.networkPortInstance opening).2.table
      (l.open port b.networkPortInstance opening) := by
  have hi := lt_count_of_getElem? hb
  have hmem : b.networkPortInstance ∈ l.known := by
    rw [← h.known]
    exact List.mem_map.mpr ⟨b, List.mem_of_getElem? hb, rfl⟩
  -- every entry but `b` is as it was, and has another instance
  have hother (change : Change) (c : UdpBinding) (hc : c ∈ (p.table.modify i change).bindings) :
      c = change.apply b ∨ c ∈ p.table.bindings ∧
      c.networkPortInstance ≠ b.networkPortInstance := by
    obtain ⟨j, hj⟩ := List.mem_iff_getElem?.mp hc
    by_cases hij : j = i
    · left
      subst hij
      rw [modify_self hb] at hj
      exact (Option.some.inj hj).symm
    · right
      rw [modify_ne _ _ hij] at hj
      refine ⟨List.mem_of_getElem? hj, fun heq => hij (Eq.symm ?_)⟩
      refine instance?_inj hi ?_
      simp [Table.instance?, hb, hj, heq]
  have hrefines (change : Change) (link : Option UInt16) (hlink : (change.apply b).link = link) :
      Refines (p.table.modify i change)
        { l with port := Function.update l.port b.networkPortInstance link } := by
    refine ⟨(modify_instances ..).trans h.known, fun c hc => ?_, fun x hx => ?_⟩
    · rcases hother change c hc with rfl | ⟨hc, hne⟩
      · rw [hlink, change.same]
        exact Function.update_self ..
      · exact (Function.update_of_ne hne ..).trans (h.port c hc)
    · refine (Function.update_of_ne ?_ ..).trans (h.unknown x hx)
      rintro rfl
      exact hx hmem
  unfold openBinding Links.open
  rw [hb]
  cases opening with
  | noSocket => exact hrefines _ none (if_neg fun hopen => absurd hopen.2.2 (by simp [withUdp]))
  | noBind =>
    exact hrefines _ none (if_neg fun hopen => absurd hopen.2.1 (by simp [withUdp, closed]))
  | bound => exact hrefines _ (some port) (if_pos ⟨rfl, rfl, rfl⟩)

theorem apply_refines {p : Ports} {l : Links} (h : Refines p.table l) (op : Setup) :
    Refines (op.apply p).table (op.link l) := by
  cases op with
  | setNetworkPortInstance x => exact h
  | shutdownUDP =>
    refine ⟨?_, ?_, fun _ _ => rfl⟩
    · rw [show (Setup.shutdownUDP.link l).known = l.known from rfl, ← h.known]
      show ((p.table.bindings.map shutdown).map (·.networkPortInstance)) = _
      rw [List.map_map]
      exact List.map_congr_left fun b _ => shutdown_instance b
    · intro c hc
      obtain ⟨b, -, rfl⟩ := List.mem_map.mp hc
      simp only [Setup.link, UdpBinding.link, shutdown]
      split <;> simp_all
  | setupUDP port x opening =>
    simp only [Setup.apply, setupUDP, Setup.link]
    split
    · rename_i i hfind
      have hknown : x ∈ l.known := by
        by_contra hnot
        rw [(find_none_iff h x).mpr hnot] at hfind
        cases hfind
      rw [if_pos hknown]
      obtain ⟨b, hb, rfl⟩ := find_getElem? hfind
      exact openBinding_refines h hb port opening
    · rename_i hfind
      have hlength : l.known.length = p.table.count := by
        rw [← h.known, List.length_map]
        rfl
      rw [if_neg ((find_none_iff h x).mp hfind), hlength]
      split
      · rename_i hroom
        have hadded : Refines (p.table.add x hfind hroom) { l with known := l.known ++ [x] } := by
          refine ⟨?_, ?_, ?_⟩
          · show (p.table.bindings ++ [fresh x]).map _ = _
            rw [List.map_append, h.known]
            rfl
          · intro c hc
            rcases List.mem_append.mp hc with hc | hc
            · exact h.port c hc
            · rw [List.mem_singleton.mp hc]
              exact h.unknown x ((find_none_iff h x).mp hfind)
          · intro y hy
            exact h.unknown y fun hmem => hy (List.mem_append_left _ hmem)
        have hlast : (p.table.add x hfind hroom).bindings[p.table.count]? = some (fresh x) := by
          simp [Table.add, Table.count]
        exact openBinding_refines (p := { p with table := p.table.add x hfind hroom })
          hadded hlast port opening
      · exact h

/-- The transport after a sequence of calls, from start-up. -/
def portsAfter (ops : List Setup) : Ports := ops.foldl Setup.apply initialPorts

def linksAfter (ops : List Setup) : Links := ops.foldl Setup.link noLinks

theorem ports_refine (ops : List Setup) : Refines (portsAfter ops).table (linksAfter ops) := by
  have hinit : Refines initialPorts.table noLinks := ⟨rfl, (fun _ h => nomatch h), fun _ _ => rfl⟩
  unfold portsAfter linksAfter
  generalize initialPorts = p at hinit
  generalize noLinks = l at hinit
  induction ops generalizing p l with
  | nil => exact hinit
  | cons op ops ih => exact ih _ _ (apply_refines hinit op)

/-! ## Sends -/

section
variable {primary : Option (Ip × Ip)} {p : Ports} {i : Nat} {b : UdpBinding}

theorem find_of_getElem? {t : Table} (h : t.bindings[i]? = some b) :
    t.find b.networkPortInstance = some i := by
  have hi := lt_count_of_getElem? h
  cases hfind : t.find b.networkPortInstance with
  | none =>
    have := List.findIdx?_eq_none_iff.mp hfind b (List.mem_of_getElem? h)
    simp at this
  | some j =>
    obtain ⟨c, hc, hsame⟩ := find_getElem? hfind
    refine congrArg some (instance?_inj (lt_count_of_getElem? hc) ?_)
    simp [Table.instance?, hc, h, hsame]

/-- What `Send` gets out of an open socket is all it is given. -/
theorem send_open {udp : SimpleUDP} (h : udp.connected = true ∧ udp.socket.isSome)
    (outgoing : Outgoing) :
    udp.send outgoing = some outgoing := by
  obtain ⟨datagrams, hsocket⟩ := Option.isSome_iff_exists.mp h.2
  simp [SimpleUDP.send, h.1, hsocket]

/-- Nothing is sent through an entry without an open socket, whether it is bound or not. -/
theorem send_closed (hb : p.table.bindings[i]? = some b) (hlink : b.link = none)
    (connectionString : List UInt8) (broadcast : Bool) :
    helperSendMessage primary p connectionString b.networkPortInstance broadcast = none := by
  have hclosed : b.bound = true → ∀ outgoing, b.udp.send outgoing = none := by
    intro hbound outgoing
    unfold UdpBinding.link at hlink
    unfold SimpleUDP.send
    cases hconnected : b.udp.connected with
    | false => rfl
    | true => cases hsocket : b.udp.socket <;> simp_all
  unfold helperSendMessage
  rw [find_of_getElem? hb]
  simp only [hb]
  split
  · next hbound =>
    cases destination primary i b connectionString broadcast with
    | none => rfl
    | some outgoing => exact hclosed hbound outgoing
  · rfl

/-- Through an entry that has an open socket. -/
theorem send_bound (hb : p.table.bindings[i]? = some b)
    (hopen : b.bound = true ∧ b.udp.connected = true ∧ b.udp.socket.isSome)
    (connectionString : List UInt8) (broadcast : Bool) :
    helperSendMessage primary p connectionString b.networkPortInstance broadcast =
      destination primary i b connectionString broadcast := by
  unfold helperSendMessage
  rw [find_of_getElem? hb]
  simp only [hb, hopen.1, if_true]
  cases destination primary i b connectionString broadcast with
  | none => rfl
  | some outgoing => exact send_open hopen.2 outgoing

/-- To a whole address. -/
theorem send_address (hb : p.table.bindings[i]? = some b)
    (hopen : b.bound = true ∧ b.udp.connected = true ∧ b.udp.socket.isSome)
    (ip : Ip) (port : UInt16) (broadcast : Bool) :
    helperSendMessage primary p (connectionString ip port) b.networkPortInstance broadcast =
      if broadcast = true ∧ port = b.port ∧
        primary.map Prod.fst = some ip then some ⟨i, getLocalBroadcastIPv4 primary, port⟩
      else some ⟨i, ip, port⟩ := by
  rw [send_bound hb hopen]
  simp only [destination, connectionString, Ip.octets, portOctets, List.cons_append,
    List.nil_append, portOf_portOctets]

theorem send_partial (hb : p.table.bindings[i]? = some b)
    (hopen : b.bound = true ∧ b.udp.connected = true ∧ b.udp.socket.isSome)
    {connectionString : List UInt8}
    (hpos : 0 < connectionString.length) (hlt : connectionString.length < 6) (broadcast : Bool) :
    helperSendMessage primary p connectionString b.networkPortInstance broadcast = none := by
  rw [send_bound hb hopen]
  unfold destination
  split
  · simp at hpos
  · simp only [List.length_cons] at hlt
    omega
  · rfl

theorem sendIAm_bound (hb : p.table.bindings[i]? = some b) (hbound : b.bound = true) :
    sendIAm primary p b.networkPortInstance =
      connectionString (getLocalBroadcastIPv4 primary) b.port := by
  unfold sendIAm
  rw [find_of_getElem? hb]
  simp [hb, hbound]

end

/-- A `SetupUDP` that fails leaves its Network Port without an open socket. -/
theorem failed_link {t : Table} {l : Links} (h : Refines t l) (port : UInt16) {x : UInt32}
    {opening : Opening}
    (hfailed : opening ≠ .bound) : ((Setup.setupUDP port x opening).link l).port x = none := by
  simp only [Setup.link]
  split
  · simp [Links.open, hfailed]
  · next hunknown =>
    split
    · simp [Links.open, hfailed]
    · exact h.unknown x hunknown

/-- After any sequence of `SetupUDP`, `ShutdownUDP` and `SetNetworkPortInstance`, a Network Port
    without an open socket sends nothing; after a `SetupUDP` that failed it has none, also where
    it was bound before. One with a socket bound to a UDP port sends by its own socket:
    - without a connection string, to the local subnet broadcast on that port;
    - with less than a whole address, nothing;
    - with an address, there, broadcast or not, but for one case: a broadcast to the socket
      itself goes to the local subnet broadcast;
    - what `SendIAm` gives the stack, to the local subnet broadcast on that port. -/
theorem sends_follow_links (primary : Option (Ip × Ip)) (ops : List Setup) (x : UInt32) :
    ((linksAfter ops).port x = none →
      ∀ address broadcast, helperSendMessage primary (portsAfter ops) address x broadcast = none) ∧
    (∀ port opening address broadcast, opening ≠ .bound →
      helperSendMessage primary (portsAfter (ops ++ [.setupUDP port x opening]))
        address x broadcast = none) ∧
    ∀ port, (linksAfter ops).port x = some port → ∃ i, (linksAfter ops).known[i]? = some x ∧
      (∀ broadcast, helperSendMessage primary (portsAfter ops) [] x broadcast =
        some ⟨i, getLocalBroadcastIPv4 primary, port⟩) ∧
      (∀ address broadcast, 0 < address.length → address.length < 6 →
        helperSendMessage primary (portsAfter ops) address x broadcast = none) ∧
      (∀ ip target broadcast,
        ¬ (broadcast = true ∧ target = port ∧ primary.map Prod.fst = some ip) →
        helperSendMessage primary (portsAfter ops) (connectionString ip target) x broadcast =
          some ⟨i, ip, target⟩) ∧
      (∀ ip mask, primary = some (ip, mask) →
        helperSendMessage primary (portsAfter ops) (connectionString ip port) x true =
          some ⟨i, ip.broadcast mask, port⟩) ∧
      helperSendMessage primary (portsAfter ops) (sendIAm primary (portsAfter ops) x) x true =
        some ⟨i, getLocalBroadcastIPv4 primary, port⟩ := by
  have hsilent (ops : List Setup) (hnone : (linksAfter ops).port x = none) (address : List UInt8)
      (broadcast : Bool) :
      helperSendMessage primary (portsAfter ops) address x broadcast = none := by
    have href := ports_refine ops
    cases hfind : (portsAfter ops).table.find x with
    | none =>
      unfold helperSendMessage
      rw [hfind]
    | some i =>
      obtain ⟨b, hb, rfl⟩ := find_getElem? hfind
      exact send_closed hb ((href.port b (List.mem_of_getElem? hb)).symm.trans hnone)
        address broadcast
  have href := ports_refine ops
  refine ⟨hsilent ops, fun port opening address broadcast hfailed => ?_, fun port hport => ?_⟩
  · refine hsilent _ ?_ address broadcast
    unfold linksAfter
    rw [List.foldl_append, List.foldl_cons, List.foldl_nil]
    exact failed_link (ports_refine ops) port hfailed
  · cases hfind : (portsAfter ops).table.find x with
    | none =>
      rw [href.unknown x ((find_none_iff href x).mp hfind)] at hport
      cases hport
    | some i =>
      obtain ⟨b, hb, rfl⟩ := find_getElem? hfind
      have hlink := href.port b (List.mem_of_getElem? hb)
      rw [hport] at hlink
      unfold UdpBinding.link at hlink
      split at hlink
      · rename_i hopen
        obtain rfl := Option.some.inj hlink
        refine ⟨i, ?_, fun broadcast => ?_, fun address broadcast => ?_,
          fun ip target broadcast hother => ?_, fun ip mask hprimary => ?_, ?_⟩
        · rw [← href.known, List.getElem?_map, hb]
          rfl
        · rw [send_bound hb hopen]
          rfl
        · intro hpos hlt
          exact send_partial hb hopen hpos hlt broadcast
        · rw [send_address hb hopen, if_neg hother]
        · rw [send_address hb hopen, if_pos (by simp [hprimary]), hprimary]
          rfl
        · rw [sendIAm_bound hb hopen.1, send_address hb hopen]
          split <;> rfl
      · cases hlink

/-- The second port was closed, and one more was opened. -/
def reopened : List Setup :=
  [.setupUDP 47808 1 .bound, .setupUDP 47809 2 .noBind, .shutdownUDP, .setupUDP 47810 3 .bound,
    .setNetworkPortInstance 3]

/-- The third port sends, until it is to be moved to a UDP port that is taken. -/
theorem sends_follow_links_reopened :
    helperSendMessage none (portsAfter reopened) [] 2 true = none ∧
      (∃ i, (linksAfter reopened).known[i]? = some 3 ∧
        helperSendMessage none (portsAfter reopened) [] 3 true =
          some ⟨i, ⟨255, 255, 255, 255⟩, 47810⟩) ∧
      helperSendMessage none (portsAfter (reopened ++ [.setupUDP 47808 3 .noBind])) [] 3 true =
        none := by
  refine ⟨(sends_follow_links none reopened 2).1 (by decide) [] true, ?_, ?_⟩
  · obtain ⟨i, hi, hsend, -⟩ := (sends_follow_links none reopened 3).2.2 47810 (by decide)
    exact ⟨i, hi, hsend true⟩
  · exact (sends_follow_links none reopened 3).2.1 47808 .noBind [] true (by decide)

/-! ## Answers -/

section
variable {buffers : Buffers} {p : Ports}

theorem taken_subset {maxLength : UInt16} {x : UInt32} {waiting waiting' : List Datagram}
    {out : Option Received} (h : Taken maxLength x waiting waiting' out) : waiting' ⊆ waiting := by
  cases h with
  | nothing => exact fun _ h => h
  | silent => exact List.subset_cons_self ..
  | delivered => exact List.subset_cons_self ..

theorem arrival_subset (b : UdpBinding) (datagram : Datagram) :
    ((arrival datagram).apply b).waiting ⊆ b.waiting ++ [datagram] := by
  obtain ⟨⟨socket, connected⟩, port, networkPortInstance, bound⟩ := b
  cases bound with
  | false => exact List.nil_subset _
  | true =>
    cases connected with
    | false => exact List.nil_subset _
    | true =>
      cases socket with
      | none => exact List.nil_subset _
      | some queue => exact fun _ h => h

/-- Whatever waits on an entry after a step waited there or arrived. -/
theorem step_waiting_subset (p : Ports) (e : Event) (i : Nat) :
    (step buffers p e).2.table.waiting i ⊆ p.table.waiting i ++ e.arrivals i := by
  cases e with
  | arrives j datagram =>
    show (p.table.modify j (arrival datagram)).waiting i ⊆ _
    by_cases hj : j = i
    · subst hj
      cases hb : p.table.bindings[j]? with
      | none => simp [Table.waiting, Table.modify, hb]
      | some b =>
        rw [waiting_of_getElem? (modify_self hb _), waiting_of_getElem? hb]
        simp only [Event.arrivals, if_true]
        exact arrival_subset b datagram
    · rw [modify_waiting_ne _ _ (Ne.symm hj)]
      exact List.subset_append_left ..
  | receive =>
    refine List.Subset.trans ?_ (List.subset_append_left ..)
    rcases helperReceiveMessage_cases buffers.maxMessageLength
        buffers.maxConnectionStringLength p with
      ⟨-, heq⟩ | ⟨served, table, hchecked, heq⟩
    · rw [step, heq]
      exact fun _ h => h
    · rw [step, heq]
      cases hb : p.table.bindings[i]? with
      | some b =>
        exact taken_subset (hchecked.taken i b.networkPortInstance (by simp [Table.instance?, hb]))
      | none =>
        have hgone : table.bindings[i]? = none := by
          have := hchecked.instances i
          simpa [Table.instance?, hb] using this
        simp [Table.waiting, hgone]

/-- What a step hands to the stack waited on an open socket, and comes under its Network Port. -/
theorem step_message {e : Event} {message : Received} (h : (step buffers p e).1 = some message) :
    ∃ i x datagram, p.table.Listens i ∧ p.table.instance? i = some x ∧
      datagram ∈ p.table.waiting i ∧
      message = received x (truncated buffers.maxMessageLength datagram) := by
  cases e with
  | arrives j datagram => cases h
  | receive =>
    rcases helperReceiveMessage_cases buffers.maxMessageLength
        buffers.maxConnectionStringLength p with
      ⟨-, heq⟩ | ⟨served, table, hchecked, heq⟩
    · rw [step, heq] at h
      cases h
    · rw [step, heq] at h
      obtain ⟨⟨i, _⟩, hserved, rfl⟩ := Option.map_eq_some_iff.mp h
      obtain ⟨-, hi⟩ := hchecked.member i _ hserved
      obtain ⟨b, hb⟩ : ∃ b, p.table.bindings[i]? = some b := ⟨_, List.getElem?_eq_getElem hi⟩
      have hport : p.table.instance? i = some b.networkPortInstance := by simp [Table.instance?, hb]
      have htaken := hchecked.taken i _ hport
      simp only [hserved, Option.bind_some, if_true] at htaken
      obtain ⟨datagram, rest, hwaiting, hmessage⟩ := htaken.front
      refine ⟨i, _, datagram, ?_, hport, by simp [hwaiting], hmessage⟩
      rw [waiting_of_getElem? hb] at hwaiting
      exact ⟨b, hb, listens_of_waiting hwaiting⟩

theorem send_listens {i : Nat} {x : UInt32} (hlistens : p.table.Listens i)
    (hi : p.table.instance? i = some x) (primary : Option (Ip × Ip)) (ip : Ip) (port : UInt16) :
    helperSendMessage primary p (connectionString ip port) x false = some ⟨i, ip, port⟩ := by
  obtain ⟨b, hb, hopen⟩ := hlistens
  obtain rfl := instance?_of_getElem? hb hi
  rw [send_address hb hopen]
  rfl

theorem run_listens {i : Nat} (h : p.table.Listens i) (evs : List Event) :
    (run buffers p evs).2.table.Listens i := by
  induction evs generalizing p with
  | nil => exact h
  | cons e evs ih => exact ih (step_listens h e)

theorem run_instance? (p : Ports) (evs : List Event) (i : Nat) :
    (run buffers p evs).2.table.instance? i = p.table.instance? i := by
  induction evs generalizing p with
  | nil => rfl
  | cons e evs ih => exact (ih _).trans ((step_table p e).2 i)

end

/-- Whatever the stack is handed in a run, a unicast answer to it, with the connection string
    and the Network Port it came with, leaves by the socket it arrived on, to the address it
    came from, then and ever after. -/
theorem answers_reach_sender (primary : Option (Ip × Ip)) (buffers : Buffers) (p : Ports)
    (evs : List Event) (message : Received) (h : message ∈ (run buffers p evs).1) :
    ∃ i datagram, datagram ∈ p.table.waiting i ++ evs.flatMap (Event.arrivals i) ∧
      message.message = (truncated buffers.maxMessageLength datagram).octets ∧
      helperSendMessage primary (run buffers p evs).2
        message.sourceConnectionString message.networkPortInstance false =
        some ⟨i, datagram.fromIp, datagram.fromPort⟩ := by
  induction evs generalizing p with
  | nil => cases h
  | cons e evs ih =>
    rcases List.mem_append.mp h with hnow | hlater
    · obtain ⟨i, x, datagram, hlistens, hi, hmem, rfl⟩ := step_message (Option.mem_toList.mp hnow)
      refine ⟨i, datagram, List.mem_append_left _ hmem, rfl, ?_⟩
      exact send_listens (run_listens hlistens (e :: evs)) ((run_instance? p (e :: evs) i).trans hi)
          primary datagram.fromIp
        datagram.fromPort
    · obtain ⟨i, datagram, hmem, hmessage, hsend⟩ := ih (step buffers p e).2 hlater
      refine ⟨i, datagram, ?_, hmessage, hsend⟩
      rw [List.flatMap_cons, ← List.append_assoc]
      rcases List.mem_append.mp hmem with hmem | hmem
      · exact List.mem_append_left _ (step_waiting_subset p e i hmem)
      · exact List.mem_append_right _ hmem

theorem answers_reach_sender_busy :
    ∃ i datagram, datagram ∈ twoPorts.table.waiting i ++ busy.flatMap (Event.arrivals i) ∧
      [0x81, 0x0B] = (truncated 1497 datagram).octets ∧
      helperSendMessage none (run ⟨1497, 6⟩ twoPorts busy).2 [10, 0, 0, 9, 0xBA, 0xC1] 2 false =
        some ⟨i, datagram.fromIp, datagram.fromPort⟩ :=
  answers_reach_sender none ⟨1497, 6⟩ twoPorts busy
    ⟨[0x81, 0x0B], [10, 0, 0, 9, 0xBA, 0xC1], 2⟩ (by decide)

end BacnetGateway.Transport
