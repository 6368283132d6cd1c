/-
  BacnetGateway.Transport.Delivery — what arrives on the sockets reaches the stack.

  `Event` is what happens to the transport while the sockets stay open: a datagram arrives on
  one of them, or the stack calls `HelperReceiveMessage`. One call does at most one thing to
  each socket: it takes the datagram at the front, which is delivered or silent (`Taken`,
  `receive_taken`). So every socket's datagrams come out in the order they arrived, each once,
  under the Network Port they arrived on (`delivered_in_order`).

  Where a socket has something waiting, a call takes the front of it or moves the cursor
  nearer to it (`receive_progress`). `wait` counts both: it falls with every call, whatever
  else arrives, and bounds how many calls a datagram can wait (`no_starvation`).
-/

import BacnetGateway.Transport.Ports

namespace BacnetGateway.Transport

open Lib.Rotation

/-! ## What waits -/

/-- What waits on a socket the receive loop looks at. -/
def UdpBinding.waiting (b : UdpBinding) : List Datagram :=
  if b.bound = true ∧ b.udp.connected = true then b.udp.socket.getD [] else []

def Table.waiting (t : Table) (i : Nat) : List Datagram :=
  (t.bindings[i]?.map UdpBinding.waiting).getD []

/-- Entry `i` has an open socket. -/
def Table.Listens (t : Table) (i : Nat) : Prop :=
  ∃ b ∈ t.bindings[i]?, b.bound = true ∧ b.udp.connected = true ∧ b.udp.socket.isSome

/-- The Network Port of entry `i`. -/
def Table.instance? (t : Table) (i : Nat) : Option UInt32 :=
  t.bindings[i]?.map (·.networkPortInstance)

@[simp] theorem modify_count (t : Table) (i : Nat) (change : Change) :
    (t.modify i change).count = t.count :=
  List.length_modify ..

@[simp] theorem modify_instance? (t : Table) (i j : Nat) (change : Change) :
    (t.modify i change).instance? j = t.instance? j := by
  have h := congrArg (·[j]?) (modify_instances t.bindings i change)
  simpa [Table.instance?, Table.modify] using h

theorem modify_ne (t : Table) {i j : Nat} (change : Change) (h : j ≠ i) :
    (t.modify i change).bindings[j]? = t.bindings[j]? := by
  simp [Table.modify, Ne.symm h]

theorem modify_self {t : Table} {i : Nat} {b : UdpBinding} (h : t.bindings[i]? = some b)
    (change : Change) :
    (t.modify i change).bindings[i]? = some (change.apply b) := by
  simp [Table.modify, h]

theorem modify_waiting_ne (t : Table) {i j : Nat} (change : Change) (h : j ≠ i) :
    (t.modify i change).waiting j = t.waiting j := by
  unfold Table.waiting
  rw [modify_ne t change h]

theorem instance?_inj {t : Table} {i j : Nat} (hi : i < t.count)
    (h : t.instance? i = t.instance? j) : i = j := by
  have hnodup := t.distinct
  refine (List.getElem?_inj ?_ hnodup).mp ?_
  · rw [List.length_map]
    exact hi
  · rw [List.getElem?_map, List.getElem?_map]
    exact h

/-! ## One call -/

variable {maxLength : UInt16}

/-- What became of the datagrams waiting on a socket: the front was delivered, or was silent,
    or nothing was taken. -/
inductive Taken (maxLength : UInt16) (networkPortInstance : UInt32) :
    List Datagram → List Datagram → Option Received → Prop where
  | nothing (waiting : List Datagram) : Taken maxLength networkPortInstance waiting waiting none
  | silent {datagram : Datagram} (waiting : List Datagram)
      (hsilent : silent maxLength datagram = true) :
      Taken maxLength networkPortInstance (datagram :: waiting) waiting none
  | delivered {datagram : Datagram} (waiting : List Datagram)
      (hspoken : Transport.silent maxLength datagram = false) :
      Taken maxLength networkPortInstance (datagram :: waiting) waiting
        (some (received networkPortInstance (truncated maxLength datagram)))

theorem Taken.port {p : UInt32} {waiting waiting' : List Datagram} {message : Received}
    (h : Taken maxLength p waiting waiting' (some message)) : message.networkPortInstance = p := by
  cases h
  rfl

theorem Taken.front {p : UInt32} {waiting waiting' : List Datagram} {message : Received}
    (h : Taken maxLength p waiting waiting' (some message)) :
    ∃ datagram rest, waiting = datagram :: rest ∧
      message = received p (truncated maxLength datagram) := by
  cases h
  exact ⟨_, _, rfl, rfl⟩

theorem Taken.tail_or {p : UInt32} {waiting waiting' : List Datagram}
    (h : Taken maxLength p waiting waiting' none) :
    waiting' = waiting.tail ∨ waiting' = waiting := by
  cases h with
  | nothing => exact Or.inr rfl
  | silent rest => exact Or.inl rfl

/-- A socket that has something to receive is open. -/
theorem listens_of_waiting {b : UdpBinding} {datagram : Datagram} {rest : List Datagram}
    (h : b.waiting = datagram :: rest) :
    b.bound = true ∧ b.udp.connected = true ∧ b.udp.socket.isSome := by
  unfold UdpBinding.waiting at h
  split at h
  · rename_i hopen
    refine ⟨hopen.1, hopen.2, ?_⟩
    cases hsocket : b.udp.socket with
    | none => simp [hsocket] at h
    | some queue => rfl
  · cases h

/-- One look at one socket. -/
theorem receive_cases (maxLength : UInt16) (b : UdpBinding) (hbound : b.bound = true) :
    (b.waiting = [] ∧ b.udp.receive maxLength = (none, b.udp)) ∨
      ∃ datagram rest udp, b.waiting = datagram :: rest ∧
        ({ b with udp := udp } : UdpBinding).waiting = rest ∧
        udp.connected = b.udp.connected ∧ udp.socket = some rest ∧
        b.udp.receive maxLength =
          (if silent maxLength datagram then none else some (truncated maxLength datagram),
            udp) := by
  unfold UdpBinding.waiting SimpleUDP.receive
  simp only [hbound, true_and]
  cases hconnected : b.udp.connected with
  | false => simp
  | true =>
    cases hsocket : b.udp.socket with
    | none => simp
    | some queue =>
      cases queue with
      | nil => simp
      | cons datagram rest => simp

/-- What the loop over `slots` does to the table, if it serviced `served`. -/
structure Checked (maxLength : UInt16) (slots : List Nat) (t : Table)
    (served : Option (Nat × Received)) (t' : Table) : Prop where
  count : t'.count = t.count
  instances : ∀ i, t'.instance? i = t.instance? i
  listens : ∀ i, t.Listens i → t'.Listens i
  taken : ∀ i p, t.instance? i = some p →
    Taken maxLength p (t.waiting i) (t'.waiting i) (served.bind fun s =>
      if s.1 = i then some s.2 else none)
  untouched : ∀ i, i ∉ slots → t'.waiting i = t.waiting i
  /-- Every slot lost its front, unless it comes after the one that was serviced. -/
  looked : ∀ i ∈ slots, t'.waiting i = (t.waiting i).tail ∨
    ∃ j message passed rest, served = some (j, message) ∧ slots = passed ++ j :: rest ∧ i ∈ rest
  member : ∀ j message, served = some (j, message) → j ∈ slots ∧ j < t.count

theorem listens_modify {t : Table} {i : Nat} {b : UdpBinding} {udp : SimpleUDP}
    (hb : t.bindings[i]? = some b) (hconnected : udp.connected = b.udp.connected)
    (hsocket : b.udp.socket.isSome → udp.socket.isSome) (j : Nat) (h : t.Listens j) :
    (t.modify i (withUdp udp)).Listens j := by
  obtain ⟨c, hc, hbound, hconnected', hsome⟩ := h
  by_cases hij : j = i
  · subst hij
    obtain rfl : b = c := by simpa [hb] using hc
    exact ⟨{ b with udp := udp }, modify_self hb _, hbound, hconnected.trans hconnected',
      hsocket hsome⟩
  · exact ⟨c, (modify_ne t _ hij).trans hc, hbound, hconnected', hsome⟩

theorem waiting_of_getElem? {t : Table} {i : Nat} {b : UdpBinding} (h : t.bindings[i]? = some b) :
    t.waiting i = b.waiting := by
  simp [Table.waiting, h]

theorem lt_count_of_getElem? {t : Table} {i : Nat} {b : UdpBinding} (h : t.bindings[i]? = some b) :
    i < t.count :=
  (List.getElem?_eq_some_iff.mp h).1

theorem instance?_of_getElem? {t : Table} {i : Nat} {b : UdpBinding} {p : UInt32}
    (h : t.bindings[i]? = some b) (hp : t.instance? i = some p) : b.networkPortInstance = p := by
  simpa [Table.instance?, h] using hp

section
variable {slots : List Nat} {t t' : Table} {i : Nat} {served : Option (Nat × Received)}

/-- The slots that come after a serviced one of `slots` come after it of `i :: slots`. -/
theorem after_cons {j : Nat} (i : Nat) (h : ∃ k message passed rest, served = some (k, message) ∧
      slots = passed ++ k :: rest ∧ j ∈ rest) :
    ∃ k message passed rest, served = some (k, message) ∧ i :: slots = passed ++ k :: rest ∧
      j ∈ rest := by
  obtain ⟨k, message, passed, rest, hserved, rfl, hrest⟩ := h
  exact ⟨k, message, i :: passed, rest, hserved, rfl, hrest⟩

/-- Nothing waits at slot `i`. -/
theorem checked_empty (hi : i ∉ slots) (hempty : t.waiting i = [])
    (h : Checked maxLength slots t served t') :
    Checked maxLength (i :: slots) t served t' where
  count := h.count
  instances := h.instances
  listens := h.listens
  taken := h.taken
  untouched := fun j hj => h.untouched j fun hmem => hj (List.mem_cons_of_mem _ hmem)
  looked := by
    intro j hj
    rcases List.mem_cons.mp hj with rfl | hj
    · left
      rw [h.untouched j hi, hempty]
      rfl
    · rcases h.looked j hj with htail | hafter
      · exact Or.inl htail
      · exact Or.inr (after_cons i hafter)
  member := fun j message hserved =>
    ⟨List.mem_cons_of_mem _ (h.member j message hserved).1, (h.member j message hserved).2⟩

variable {datagram : Datagram} {rest : List Datagram} {udp : SimpleUDP}

/-- The front of slot `i` is silent: the loop goes on without it. -/
theorem checked_silent (hi : i ∉ slots) (hfront : t.waiting i = datagram :: rest)
    (hrest : (t.modify i (withUdp udp)).waiting i = rest)
    (hlistens : ∀ j, t.Listens j → (t.modify i (withUdp udp)).Listens j)
    (hsilent : silent maxLength datagram = true)
    (h : Checked maxLength slots (t.modify i (withUdp udp)) served t') :
    Checked maxLength (i :: slots) t served t' where
  count := h.count.trans (modify_count ..)
  instances := fun j => (h.instances j).trans (modify_instance? ..)
  listens := fun j hj => h.listens j (hlistens j hj)
  taken := by
    intro j p hp
    by_cases hj : j = i
    · subst hj
      have hnone : (served.bind fun s => if s.1 = j then some s.2 else none) = none := by
        cases served with
        | none => rfl
        | some s =>
          refine if_neg ?_
          rintro rfl
          exact hi (h.member s.1 s.2 rfl).1
      rw [hnone, h.untouched j hi, hfront, hrest]
      exact .silent rest hsilent
    · have htaken := h.taken j p ((modify_instance? ..).trans hp)
      rw [modify_waiting_ne t _ hj] at htaken
      exact htaken
  untouched := by
    intro j hj
    simp only [List.mem_cons, not_or] at hj
    rw [h.untouched j hj.2, modify_waiting_ne t _ hj.1]
  looked := by
    intro j hj
    by_cases hji : j = i
    · left
      subst hji
      rw [h.untouched j hi, hrest, hfront]
      rfl
    · have hmem : j ∈ slots := by
        rcases List.mem_cons.mp hj with rfl | hmem
        · exact absurd rfl hji
        · exact hmem
      rcases h.looked j hmem with htail | hafter
      · left
        rw [htail, modify_waiting_ne t _ hji]
      · exact Or.inr (after_cons i hafter)
  member := by
    intro j message hserved
    obtain ⟨hmem, hlt⟩ := h.member j message hserved
    rw [modify_count] at hlt
    exact ⟨List.mem_cons_of_mem _ hmem, hlt⟩

/-- The front of slot `i` is delivered: the loop ends. -/
theorem checked_delivered {b : UdpBinding} (hb : t.bindings[i]? = some b)
    (hfront : t.waiting i = datagram :: rest) (hrest : (t.modify i (withUdp udp)).waiting i = rest)
    (hlistens : ∀ j, t.Listens j → (t.modify i (withUdp udp)).Listens j)
    (hspoken : silent maxLength datagram = false) :
    Checked maxLength (i :: slots) t
      (some (i, received b.networkPortInstance (truncated maxLength datagram)))
      (t.modify i (withUdp udp)) where
  count := modify_count ..
  instances := fun j => modify_instance? ..
  listens := hlistens
  taken := by
    intro j p hp
    by_cases hj : j = i
    · subst hj
      obtain rfl := instance?_of_getElem? hb hp
      simp only [Option.bind_some, if_true]
      rw [hfront, hrest]
      exact .delivered rest hspoken
    · simp only [Option.bind_some, Ne.symm hj, if_false]
      rw [modify_waiting_ne t _ hj]
      exact .nothing _
  untouched := fun j hj => modify_waiting_ne t _ (List.ne_of_not_mem_cons hj)
  looked := by
    intro j hj
    by_cases hji : j = i
    · left
      subst hji
      rw [hrest, hfront]
      rfl
    · right
      refine ⟨i, _, [], slots, rfl, rfl, ?_⟩
      rcases List.mem_cons.mp hj with rfl | hmem
      · exact absurd rfl hji
      · exact hmem
  member := by
    intro j message hserved
    simp only [Option.some.injEq, Prod.mk.injEq] at hserved
    rw [← hserved.1]
    exact ⟨List.mem_cons_self .., lt_count_of_getElem? hb⟩

end

theorem modify_unchanged {t : Table} {i : Nat} {b : UdpBinding} (hb : t.bindings[i]? = some b) :
    t.modify i (withUdp b.udp) = t := by
  have hbindings : t.bindings.modify i (withUdp b.udp).apply = t.bindings := by
    refine List.ext_getElem? fun j => ?_
    by_cases hj : j = i
    · subst hj
      simp [hb, withUdp]
    · simp [Ne.symm hj]
  unfold Table.modify
  simp only [hbindings]

theorem checkBindings_checked {slots : List Nat} (hnodup : slots.Nodup) (t : Table) :
    Checked maxLength slots t (checkBindings maxLength slots t).1
      (checkBindings maxLength slots t).2 := by
  induction slots generalizing t with
  | nil =>
    exact ⟨rfl, fun _ => rfl, fun _ h => h, fun _ _ _ => .nothing _, fun _ _ => rfl,
      (fun _ h => nomatch h), fun _ _ h => nomatch h⟩
  | cons i slots ih =>
    obtain ⟨hi, hnodup⟩ := List.nodup_cons.mp hnodup
    cases hb : t.bindings[i]? with
    | none =>
      simp only [checkBindings, hb]
      exact checked_empty hi (by simp [Table.waiting, hb]) (ih hnodup t)
    | some b =>
      simp only [checkBindings, hb]
      have hwaiting := waiting_of_getElem? hb
      split
      · rename_i hbound
        rcases receive_cases maxLength b hbound with ⟨hempty, hreceive⟩ | ⟨datagram, rest, udp,
          hqueue, hrest, hconnected, hsocket, hreceive⟩
        · simp only [hreceive]
          rw [modify_unchanged hb]
          exact checked_empty hi (hwaiting.trans hempty) (ih hnodup t)
        · have hself : (t.modify i (withUdp udp)).waiting i = rest :=
            (waiting_of_getElem? (modify_self hb _)).trans hrest
          have hfront : t.waiting i = datagram :: rest := hwaiting.trans hqueue
          have hlistens := listens_modify hb hconnected (fun _ => by simp [hsocket])
          simp only [hreceive]
          cases hsilent : silent maxLength datagram with
          | true => exact checked_silent hi hfront hself hlistens hsilent (ih hnodup _)
          | false => exact checked_delivered hb hfront hself hlistens hsilent
      · rename_i hbound
        exact checked_empty hi (by simp [hwaiting, UdpBinding.waiting, hbound]) (ih hnodup t)

/-- Where the cursor goes when the loop serviced `served`. -/
def cursorAfter (n cursor : Nat) (served : Option (Nat × Received)) : Nat :=
  match served with
  | some (j, _) => (j + 1) % n
  | none => (cursor + 1) % n

/-- All that a call can do. -/
theorem helperReceiveMessage_cases (maxLength : UInt16) (room : UInt8) (p : Ports) :
    (room < 6 ∨ p.table.count = 0) ∧ helperReceiveMessage maxLength room p = (none, p) ∨
      ∃ served table,
        Checked maxLength (order p.table.count p.nextBindingToCheck) p.table served table ∧
        helperReceiveMessage maxLength room p = (served.map Prod.snd, { p with
          table := table
          nextBindingToCheck := cursorAfter p.table.count p.nextBindingToCheck served }) := by
  by_cases hguard : room < 6 ∨ p.table.count = 0
  · exact Or.inl ⟨hguard, if_pos hguard⟩
  · right
    have hchecked : Checked maxLength _ p.table _ _ :=
      checkBindings_checked (order_nodup p.table.count p.nextBindingToCheck) p.table
    unfold helperReceiveMessage
    simp only [hguard, if_false]
    generalize checkBindings maxLength (order p.table.count p.nextBindingToCheck) p.table =
      result at hchecked
    obtain ⟨served, table⟩ := result
    refine ⟨served, table, hchecked, ?_⟩
    cases served with
    | none => rfl
    | some s => rfl

/-! ## Runs -/

inductive Event where
  | arrives (i : Nat) (datagram : Datagram)
  | receive
  deriving DecidableEq

def arrival (datagram : Datagram) : Change :=
  ⟨fun b => { b with udp := { b.udp with socket := b.udp.socket.map (· ++ [datagram]) } },
    fun _ => rfl⟩

/-- The stack's buffer, and the room it has for a connection string. -/
structure Buffers where
  maxMessageLength : UInt16
  maxConnectionStringLength : UInt8

variable (buffers : Buffers)

def step (p : Ports) : Event → Option Received × Ports
  | .arrives i datagram => (none, { p with table := p.table.modify i (arrival datagram) })
  | .receive => helperReceiveMessage buffers.maxMessageLength buffers.maxConnectionStringLength p

/-- What the stack was handed, in order, and the transport after it. -/
def run (p : Ports) : List Event → List Received × Ports
  | [] => ([], p)
  | e :: evs =>
    ((step buffers p e).1.toList ++ (run (step buffers p e).2 evs).1,
      (run (step buffers p e).2 evs).2)

/-- What arrives on entry `i`. -/
def Event.arrivals (i : Nat) : Event → List Datagram
  | .arrives j datagram => if j = i then [datagram] else []
  | .receive => []

/-- What the stack is to be handed of these datagrams, on a Network Port. -/
def spoken (networkPortInstance : UInt32) (datagrams : List Datagram) : List Received :=
  (datagrams.filter (! silent buffers.maxMessageLength ·)).map fun datagram =>
    received networkPortInstance (truncated buffers.maxMessageLength datagram)

section
variable {buffers : Buffers} {p : Ports} {i : Nat} {networkPortInstance : UInt32}

theorem taken_spoken {waiting waiting' : List Datagram} {out : Option Received}
    (h : Taken buffers.maxMessageLength networkPortInstance waiting waiting' out) :
    out.toList ++ spoken buffers networkPortInstance waiting' =
      spoken buffers networkPortInstance waiting := by
  cases h with
  | nothing => rfl
  | silent rest hsilent => simp [spoken, hsilent]
  | delivered rest hspoken => simp [spoken, hspoken]

theorem step_listens (h : p.table.Listens i) (e : Event) :
    (step buffers p e).2.table.Listens i := by
  cases e with
  | arrives j datagram =>
    obtain ⟨b, hb, hbound, hconnected, hsome⟩ := h
    by_cases hj : i = j
    · subst hj
      exact ⟨_, modify_self hb _, hbound, hconnected, by simpa [arrival] using hsome⟩
    · exact ⟨b, (modify_ne p.table _ hj).trans hb, hbound, hconnected, hsome⟩
  | receive =>
    rcases helperReceiveMessage_cases buffers.maxMessageLength
        buffers.maxConnectionStringLength p with
      ⟨-, heq⟩ | ⟨served, table, hchecked, heq⟩
    · rw [step, heq]
      exact h
    · rw [step, heq]
      exact hchecked.listens i h

theorem step_table (p : Ports) (e : Event) :
    (step buffers p e).2.table.count = p.table.count ∧
    ∀ i, (step buffers p e).2.table.instance? i = p.table.instance? i := by
  cases e with
  | arrives j datagram => exact ⟨modify_count .., fun i => modify_instance? ..⟩
  | receive =>
    rcases helperReceiveMessage_cases buffers.maxMessageLength
        buffers.maxConnectionStringLength p with
      ⟨-, heq⟩ | ⟨served, table, hchecked, heq⟩
    · rw [step, heq]
      exact ⟨rfl, fun i => rfl⟩
    · rw [step, heq]
      exact ⟨hchecked.count, hchecked.instances⟩

theorem arrives_waiting (hlistens : p.table.Listens i) (j : Nat) (datagram : Datagram) :
    (p.table.modify j (arrival datagram)).waiting i =
      p.table.waiting i ++ (Event.arrives j datagram).arrivals i := by
  obtain ⟨b, hb, hbound, hconnected, hsome⟩ := hlistens
  obtain ⟨queue, hqueue⟩ := Option.isSome_iff_exists.mp hsome
  simp only [Event.arrivals]
  by_cases hj : j = i
  · subst hj
    rw [waiting_of_getElem? hb, waiting_of_getElem? (modify_self hb _), if_pos rfl]
    simp [UdpBinding.waiting, arrival, hbound, hconnected, hqueue]
  · rw [modify_waiting_ne p.table _ (Ne.symm hj), if_neg hj, List.append_nil]

/-- Only what was taken from entry `i` is handed over under its Network Port. -/
theorem served_filter {slots : List Nat} {t t' : Table} {served : Option (Nat × Received)}
    {maxLength : UInt16}
    (h : Checked maxLength slots t served t') (hi : t.instance? i = some networkPortInstance) :
    (served.map Prod.snd).toList.filter (·.networkPortInstance = networkPortInstance) =
      (served.bind fun s => if s.1 = i then some s.2 else none).toList := by
  cases hserved : served with
  | none => rfl
  | some s =>
    obtain ⟨j, message⟩ := s
    obtain ⟨-, hj⟩ := h.member j message hserved
    obtain ⟨b, hb⟩ : ∃ b, t.bindings[j]? = some b := ⟨_, List.getElem?_eq_getElem hj⟩
    have hport : t.instance? j = some b.networkPortInstance := by simp [Table.instance?, hb]
    have htaken := h.taken j _ hport
    simp only [hserved, Option.bind_some, if_true] at htaken
    have hmessage := htaken.port
    by_cases hij : j = i
    · subst hij
      obtain rfl := instance?_of_getElem? hb hi
      simp [hmessage]
    · have hne : b.networkPortInstance ≠ networkPortInstance := by
        intro heq
        exact hij (instance?_inj hj (hport.trans ((congrArg some heq).trans hi.symm)))
      simp [hij, hmessage, hne]

/-- One step neither loses, repeats nor reorders anything of entry `i`. -/
theorem step_spoken (hlistens : p.table.Listens i)
    (hi : p.table.instance? i = some networkPortInstance) (e : Event) :
    (step buffers p e).1.toList.filter (·.networkPortInstance = networkPortInstance) ++
        spoken buffers networkPortInstance ((step buffers p e).2.table.waiting i) =
      spoken buffers networkPortInstance (p.table.waiting i ++ e.arrivals i) := by
  cases e with
  | arrives j datagram =>
    rw [← arrives_waiting hlistens]
    rfl
  | receive =>
    have hnone : Event.receive.arrivals i = [] := rfl
    rw [hnone, List.append_nil]
    rcases helperReceiveMessage_cases buffers.maxMessageLength
        buffers.maxConnectionStringLength p with
      ⟨-, heq⟩ | ⟨served, table, hchecked, heq⟩
    · rw [step, heq]
      rfl
    · rw [step, heq, served_filter hchecked hi]
      exact taken_spoken (hchecked.taken i _ hi)

theorem spoken_append (networkPortInstance : UInt32) (l l' : List Datagram) :
    spoken buffers networkPortInstance (l ++ l') =
      spoken buffers networkPortInstance l ++ spoken buffers networkPortInstance l' := by
  simp [spoken]

/-- In every run over open sockets, what the stack is handed under a Network Port, followed by
    what still waits there, is what waited at the start followed by what arrived there: in the
    order it arrived, each datagram once, with the address it came from, cut to the stack's
    buffer, and nothing under another Network Port. What is silent, and only that, is dropped. -/
theorem delivered_in_order (buffers : Buffers) (p : Ports) (i : Nat) (networkPortInstance : UInt32)
    (hlistens : p.table.Listens i)
    (hi : p.table.instance? i = some networkPortInstance) (evs : List Event) :
    (run buffers p evs).1.filter (·.networkPortInstance = networkPortInstance) ++
        spoken buffers networkPortInstance ((run buffers p evs).2.table.waiting i) =
      spoken buffers networkPortInstance (p.table.waiting i ++ evs.flatMap (Event.arrivals i)) := by
  induction evs generalizing p with
  | nil => simp [run]
  | cons e evs ih =>
    have hnext :=
      ih (step buffers p e).2 (step_listens hlistens e) (((step_table p e).2 i).trans hi)
    have hstep : _ ++ spoken buffers networkPortInstance _ = _ := step_spoken hlistens hi e
    rw [spoken_append] at hnext hstep
    simp only [run, List.filter_append, List.append_assoc, hnext, List.flatMap_cons]
    rw [← List.append_assoc, hstep]
    simp only [spoken_append, List.append_assoc]

/-- Two ports, on each of which the same client has sent something. -/
def twoPorts : Ports :=
  let p := (setupUDP 47809 2 .bound (setupUDP 47808 1 .bound initialPorts).2).2
  { p with
    table := (p.table.modify 0 (arrival ⟨[0x81, 0x0A], ⟨10, 0, 0, 9⟩, 47808⟩)).modify 1
      (arrival ⟨[0x81, 0x0B], ⟨10, 0, 0, 9⟩, 47809⟩) }

/-- The first port is busy. -/
def busy : List Event :=
  [.receive, .arrives 0 ⟨[0x81, 0x0A], ⟨10, 0, 0, 9⟩, 47808⟩,
    .arrives 1 ⟨[], ⟨10, 0, 0, 9⟩, 47809⟩, .receive]

theorem delivered_in_order_busy :
    (run ⟨1497, 6⟩ twoPorts busy).1.filter (·.networkPortInstance = 2) ++
        spoken ⟨1497, 6⟩ 2 ((run ⟨1497, 6⟩ twoPorts busy).2.table.waiting 1) =
      [⟨[0x81, 0x0B], [10, 0, 0, 9, 0xBA, 0xC1], 2⟩] := by
  rw [delivered_in_order ⟨1497, 6⟩ twoPorts 1 2 ⟨_, rfl, rfl, rfl, rfl⟩ rfl busy]
  decide

/-! ## Waiting -/

/-- How many calls a datagram behind `ahead` others on entry `i` can still wait. -/
def wait (p : Ports) (i ahead : Nat) : Nat :=
  p.table.count * ahead + rank p.table.count p.nextBindingToCheck i

/-- A call takes the front of what waits on entry `i`, or moves the cursor nearer to it. -/
theorem receive_progress {maxLength : UInt16} {slots : List Nat} {served : Option (Nat × Received)}
    {table : Table}
    (hslots : slots = order p.table.count p.nextBindingToCheck) (hi : i < p.table.count)
    (h : Checked maxLength slots p.table served table) :
    table.waiting i = (p.table.waiting i).tail ∨ (table.waiting i = p.table.waiting i ∧
      rank p.table.count (cursorAfter p.table.count p.nextBindingToCheck served) i <
        rank p.table.count p.nextBindingToCheck i) := by
  have hmem : i ∈ slots := by
    rw [hslots]
    exact (mem_order (by omega)).mpr hi
  rcases h.looked i hmem with htail | ⟨j, message, passed, rest, hserved, hsplit, hrest⟩
  · exact Or.inl htail
  · have hj := (h.member j message hserved).2
    have hrank := rank_lt_of_before (hslots.symm.trans hsplit) hrest
    have hne : j ≠ i := by
      rintro rfl
      omega
    obtain ⟨b, hb⟩ : ∃ b, p.table.bindings[i]? = some b := ⟨_, List.getElem?_eq_getElem hi⟩
    have htaken := h.taken i b.networkPortInstance (by simp [Table.instance?, hb])
    simp only [hserved, Option.bind_some, hne, if_false] at htaken
    rcases htaken.tail_or with htail | hsame
    · exact Or.inl htail
    · right
      refine ⟨hsame, ?_⟩
      rw [hserved]
      exact rank_served hi hj hrank

/-- Where something waits on entry `i`, a call hands its front to the stack, unless it is
    silent or stays. -/
theorem taken_front {datagram : Datagram} {rest : List Datagram} {waiting' : List Datagram}
    {out : Option Received}
    (h : Taken buffers.maxMessageLength networkPortInstance (datagram :: rest) waiting' out)
    (htail : waiting' = rest) (hspoken : silent buffers.maxMessageLength datagram = false) :
    out = some (received networkPortInstance (truncated buffers.maxMessageLength datagram)) := by
  cases h with
  | nothing =>
    have := congrArg List.length htail
    simp at this
  | silent rest hsilent =>
    rw [hspoken] at hsilent
    cases hsilent
  | delivered => rfl

/-- With room for an address, `wait` falls with every call until the datagram is delivered. -/
theorem receive_wait (hroom : 6 ≤ buffers.maxConnectionStringLength) (hi : i < p.table.count)
    (hport : p.table.instance? i = some networkPortInstance) {before after : List Datagram}
    {datagram : Datagram} (hwaiting : p.table.waiting i = before ++ datagram :: after)
    (hspoken : silent buffers.maxMessageLength datagram = false) :
    (step buffers p .receive).1 =
      some (received networkPortInstance (truncated buffers.maxMessageLength datagram)) ∨
      ∃ before', (step buffers p .receive).2.table.waiting i = before' ++ datagram :: after ∧
        wait (step buffers p .receive).2 i before'.length < wait p i before.length := by
  rcases helperReceiveMessage_cases buffers.maxMessageLength
      buffers.maxConnectionStringLength p with
    ⟨hguard, -⟩ | ⟨served, table, hchecked, heq⟩
  · rcases hguard with hguard | hguard
    · exact absurd hroom (UInt8.not_le.mpr hguard)
    · omega
  · have hcount := hchecked.count
    have hranks :=
      rank_lt (show 0 < p.table.count by omega)
      (cursorAfter p.table.count p.nextBindingToCheck served) i
    rw [step, heq]
    unfold wait
    simp only [hcount]
    rcases receive_progress rfl hi hchecked with htail | ⟨hsame, hrank⟩
    · cases before with
      | nil =>
        left
        have htaken := hchecked.taken i _ hport
        rw [hwaiting] at htaken htail
        have hout := taken_front htaken htail hspoken
        cases served with
        | none => cases hout
        | some s =>
          simp only [Option.bind_some] at hout
          split at hout
          · exact hout
          · cases hout
      | cons first before =>
        right
        refine ⟨before, ?_, ?_⟩
        · rw [htail, hwaiting]
          rfl
        · rw [List.length_cons, Nat.mul_succ]
          omega
    · right
      exact ⟨before, hsame.trans hwaiting, by omega⟩

/-- A datagram that waits on an open socket behind `before` others is handed to the stack
    within `count * (before.length + 1)` calls, whatever arrives on this or any other socket
    in the meantime: no socket starves another. -/
theorem no_starvation (buffers : Buffers) (hroom : 6 ≤ buffers.maxConnectionStringLength)
    (p : Ports) (i : Nat) (networkPortInstance : UInt32) (hlistens : p.table.Listens i)
    (hport : p.table.instance? i = some networkPortInstance)
    (before after : List Datagram) (datagram : Datagram)
    (hwaiting : p.table.waiting i = before ++ datagram :: after)
    (hspoken : silent buffers.maxMessageLength datagram = false) (evs : List Event)
    (hcalls : p.table.count * (before.length + 1) ≤ evs.count .receive) :
    received networkPortInstance (truncated buffers.maxMessageLength datagram) ∈
      (run buffers p evs).1 := by
  have hi : i < p.table.count := by
    obtain ⟨b, hb, -⟩ := hlistens
    exact lt_count_of_getElem? hb
  have hwait : wait p i before.length < evs.count .receive := by
    have hrank := rank_lt (show 0 < p.table.count by omega) p.nextBindingToCheck i
    rw [Nat.mul_succ] at hcalls
    unfold wait
    omega
  clear hcalls
  induction evs generalizing p before after with
  | nil => simp at hwait
  | cons e evs ih =>
    obtain ⟨hcount, hinstance⟩ := @step_table buffers p e
    have hnext := ih (step buffers p e).2 (step_listens hlistens e) ((hinstance i).trans hport)
    simp only [run, List.mem_append]
    cases e with
    | arrives j datagram' =>
      right
      refine hnext before (after ++ (Event.arrives j datagram').arrivals i) ?_ (by rwa [hcount]) ?_
      · show (p.table.modify j (arrival datagram')).waiting i = _
        rw [arrives_waiting hlistens, hwaiting, List.append_assoc, List.cons_append]
      · rw [List.count_cons_of_ne (by simp)] at hwait
        show wait { p with table := p.table.modify j (arrival datagram') } i before.length < _
        unfold wait at hwait ⊢
        simpa using hwait
    | receive =>
      rw [List.count_cons_self] at hwait
      rcases receive_wait hroom hi hport hwaiting hspoken with hout | ⟨before', hwaiting', hless⟩
      · left
        simp [hout]
      · right
        exact hnext before' after hwaiting' (by rwa [hcount]) (by omega)

theorem no_starvation_busy :
    ⟨[0x81, 0x0B], [10, 0, 0, 9, 0xBA, 0xC1], 2⟩ ∈ (run ⟨1497, 6⟩ twoPorts busy).1 :=
  no_starvation ⟨1497, 6⟩ (by decide) twoPorts 1 2 ⟨_, rfl, rfl, rfl, rfl⟩ rfl [] []
    ⟨[0x81, 0x0B], ⟨10, 0, 0, 9⟩, 47809⟩ rfl (by decide) busy
    (by decide)

end

end BacnetGateway.Transport
