/-
  BacnetGateway.Wiretest.Exchange — the client of the wire tests over a network that loses,
  duplicates, delays and reorders datagrams.

  Invoke ids are numbers modulo 256, nothing empties the socket before a request, and a request is
  sent again with the same id, so answers to other requests do come in while one is waited for.
  `World` numbers the requests without end and keeps every datagram ever sent: a datagram in `sent`
  may reach the device at any later time, any number of times or never, and so may a reply the
  client. The only limit is the age at which an answer is received (`lifetime`, in requests).

  - `answers_are_ours`: with a lifetime of at most 256 requests, what a request returns was replied
    to that request, and nothing is returned only after every retry went without an answer.
  - `lifetime_is_tight`: with a lifetime of 257 a request can return what was replied to another.
-/

import BacnetGateway.Wiretest.Client
import Mathlib.Logic.Relation

namespace BacnetGateway.Wiretest

open Frames

/-! ## The world -/

/-- What has arrived at the socket, and the number of the request it answers, if any. -/
structure Datagram where
  origin : Option Nat
  data : List UInt8

structure World where
  client : Client
  /-- How many requests were begun. -/
  number : Nat := 0
  calls : List (Nat × Call × Option Address) := []
  sent : List (Nat × List UInt8) := []
  replied : List (Nat × Reply × List UInt8) := []
  socket : List Datagram := []
  /-- Which request was waited for when an answer to which was received. -/
  heard : List (Nat × Nat) := []
  results : List (Nat × Answer) := []

def World.init (retries : Nat) : World := { client := { retries := retries } }

/-- No answer to any confirmed request: a broadcast, a network layer message, something else. -/
def Unrelated (data : List UInt8) : Prop :=
  ∀ f, decode data = .ok f → f.ok = true → ∀ n, answers n f ≠ .ok true

inductive Step (lifetime : Nat) : World → World → Prop where
  | request {w : World} {call : Call} {dest : Option Address} {client : Client}
      {octets : Option (List UInt8)}
      (hidle : w.client.waiting = none) (h : w.client.request call dest = (client, octets)) :
      Step lifetime w { w with
        client := client
        number := w.number + 1
        calls := (w.number + 1, call, dest) :: w.calls
        sent := (octets.map (w.number + 1, ·)).toList ++ w.sent }
  /-- The device answers a request it has received, with that request's invoke id. -/
  | reply {w : World} {n : Nat} {data answer : List UInt8} {f : Frame} {invokeId : UInt8}
      {reply : Reply} (hsent : (n, data) ∈ w.sent)
      (hread : decode data = .ok f) (hid : f.invokeId = .ok (some invokeId))
        (hrange : reply.InRange) (hwraps : reply.Wraps invokeId answer) :
      Step lifetime w { w with replied := (n, reply, answer) :: w.replied }
  | arrive {w : World} {n : Nat} {reply : Reply} {data : List UInt8}
      (h : (n, reply, data) ∈ w.replied) :
      Step lifetime w { w with socket := w.socket ++ [⟨some n, data⟩] }
  | other {w : World} {data : List UInt8} (h : Unrelated data) :
      Step lifetime w { w with socket := w.socket ++ [⟨none, data⟩] }
  | receive {w : World} {q : Waiting} {d : Datagram} {rest : List Datagram} {client : Client}
      {answer : Option Answer}
      (hwaiting : w.client.waiting = some q) (hsocket : w.socket = d :: rest)
        (hyoung : ∀ n ∈ d.origin, w.number < n + lifetime)
      (h : w.client.receive q d.data = .ok (client, answer)) :
      Step lifetime w { w with
        client := client
        socket := rest
        heard := (d.origin.map (w.number, ·)).toList ++ w.heard
        results := (answer.map (w.number, ·)).toList ++ w.results }
  /-- `collect`, between requests. -/
  | collect {w : World} {d : Datagram} {rest : List Datagram} {f : Frame}
      (hidle : w.client.waiting = none) (hsocket : w.socket = d :: rest)
      (h : decode d.data = .ok f) :
      Step lifetime w
        { w with client := { w.client with frames := w.client.frames ++ [f] }, socket := rest }
  | timeout {w : World} {q : Waiting} {client : Client} {octets : Option (List UInt8)}
      {answer : Option Answer}
      (hwaiting : w.client.waiting = some q)
      (h : w.client.timeout q = .ok (client, octets, answer)) :
      Step lifetime w { w with
        client := client
        sent := (octets.map (w.number, ·)).toList ++ w.sent
        results := (answer.map (w.number, ·)).toList ++ w.results }

def Reachable (lifetime retries : Nat) : World → Prop :=
  Relation.ReflTransGen (Step lifetime) (World.init retries)

/-- How often a request was sent. -/
def World.copies (w : World) (n : Nat) : Nat := (w.sent.filter fun s => s.1 = n).length

/-! ## The client's part -/

theorem firstMatch_append {n : Nat} {frames : List Frame} {frame : Frame}
    (h : firstMatch n frames = .ok none)
    (hframe : firstMatch n [frame] = .ok none) : firstMatch n (frames ++ [frame]) = .ok none := by
  induction frames with
  | nil => exact hframe
  | cons first frames ih =>
    rw [List.cons_append]
    simp only [firstMatch] at h ⊢
    split at h
    · rename_i hok
      cases hanswers : answers n first with
      | error e =>
        rw [hanswers] at h
        cases h
      | ok b =>
        rw [hanswers] at h
        cases b with
        | true => cases h
        | false => simpa [hok, bind, Except.bind] using ih h
    · rename_i hok
      simpa [hok, bind, Except.bind] using ih h

theorem firstMatch_single {n : Nat} {frame : Frame} {b : Bool} (hok : frame.ok = true)
    (h : answers n frame = .ok b) :
    firstMatch n [frame] = .ok (if b then some frame else none) := by
  simp only [firstMatch, hok, h, bind, Except.bind, if_true]
  cases b <;> rfl

theorem firstMatch_unrelated {n : Nat} {frame : Frame} {m : Option Frame}
    (hno : frame.ok = true → ∀ k, answers k frame ≠ .ok true)
    (h : firstMatch n [frame] = .ok m) : m = none := by
  simp only [firstMatch] at h
  split at h
  · rename_i hok
    cases hanswers : answers n frame with
    | error e =>
      rw [hanswers] at h
      cases h
    | ok b =>
      cases b with
      | true => exact absurd hanswers (hno hok n)
      | false =>
        rw [hanswers] at h
        exact (Except.ok.inj h).symm
  · exact (Except.ok.inj h).symm

/-- A datagram received while a request waits. -/
theorem receive_cases {c client : Client} {q : Waiting} {data : List UInt8} {answer : Option Answer}
    (h : c.receive q data = .ok (client, answer)) :
    ∃ frame, decode data = .ok frame ∧
      ((firstMatch q.invokeId [frame] = .ok none ∧ answer = none ∧
        client = { c with frames := c.frames ++ [frame] }) ∨
        ∃ f, firstMatch q.invokeId [frame] = .ok (some f) ∧ answer = some ⟨some f⟩ ∧
          client = { c with frames := c.frames ++ [frame], waiting := none }) := by
  unfold Client.receive at h
  cases hread : decode data with
  | error e =>
    rw [hread] at h
    cases h
  | ok frame =>
    rw [hread] at h
    refine ⟨frame, rfl, ?_⟩
    cases hmatch : firstMatch q.invokeId [frame] with
    | error e =>
      simp only [bind, Except.bind, hmatch] at h
      cases h
    | ok m =>
      simp only [bind, Except.bind, hmatch] at h
      cases m with
      | none =>
        cases h
        exact .inl ⟨rfl, rfl, rfl⟩
      | some f =>
        cases h
        exact .inr ⟨f, rfl, rfl, rfl⟩

/-- The end of a wait in which nothing matched. -/
theorem timeout_cases {c client : Client} {q : Waiting} {octets : Option (List UInt8)}
    {answer : Option Answer} (hnone : firstMatch q.invokeId c.frames = .ok none)
    (h : c.timeout q = .ok (client, octets, answer)) :
    (q.attempt < c.retries ∧
      client = { c with waiting := some { q with attempt := q.attempt + 1 } } ∧
      octets = some q.octets ∧ answer = none) ∨
      (c.retries ≤ q.attempt ∧ client = { c with waiting := none } ∧ octets = none ∧
        answer = some ⟨none⟩) := by
  unfold Client.timeout at h
  split at h
  · simp only [hnone, bind, Except.bind] at h
    cases h
    exact .inl ⟨by omega, rfl, rfl, rfl⟩
  · cases h
    exact .inr ⟨by omega, rfl, rfl, rfl⟩

/-! ## What holds in every world -/

/-- The request that is waited for. -/
structure Busy (w : World) (q : Waiting) : Prop where
  id : q.invokeId = w.number % 256
  call : ∃ call dest, (w.number, call, dest) ∈ w.calls ∧
    call.octets dest (w.number % 256) = some q.octets
  copies : w.copies w.number = q.attempt + 1
  attempt : q.attempt ≤ w.client.retries
  frames : firstMatch q.invokeId w.client.frames = .ok none
  heard : (w.number, w.number) ∉ w.heard
  unresolved : ∀ r ∈ w.results, r.1 ≠ w.number

/-- A request that has its answer. -/
structure Resolved (w : World) (retries n : Nat) (answer : Answer) : Prop where
  copies : 1 ≤ w.copies n ∧ w.copies n ≤ 1 + retries
  answered : ∀ f, answer.frame = some f →
    ∃ reply data, (n, reply, data) ∈ w.replied ∧ decode data = .ok f ∧ answer.Says reply
  unanswered : answer.frame = none → w.copies n = 1 + retries ∧ (n, n) ∉ w.heard

structure Sound (retries : Nat) (w : World) : Prop where
  retries_eq : w.client.retries = retries
  id : w.client.invokeId = w.number % 256
  calls : ∀ c ∈ w.calls, c.1 ≤ w.number ∧ ∀ c' ∈ w.calls, c'.1 = c.1 → c' = c
  sent : ∀ s ∈ w.sent, ∃ call dest, (s.1, call, dest) ∈ w.calls ∧
    call.octets dest (s.1 % 256) = some s.2
  replied : ∀ r ∈ w.replied, r.1 ≤ w.number ∧ r.2.1.InRange ∧ r.2.1.Wraps (r.1 % 256).toUInt8 r.2.2
  socket : ∀ d ∈ w.socket, (∀ n ∈ d.origin, ∃ reply, (n, reply, d.data) ∈ w.replied) ∧
    (d.origin = none → Unrelated d.data)
  heard : ∀ h ∈ w.heard, h.1 ≤ w.number
  waiting : ∀ q ∈ w.client.waiting, Busy w q
  results : ∀ r ∈ w.results, r.1 ≤ w.number ∧ Resolved w retries r.1 r.2

variable {lifetime retries : Nat} {w w' : World}

theorem Sound.init : Sound retries (World.init retries) where
  retries_eq := rfl
  id := rfl
  calls := by simp [World.init]
  sent := by simp [World.init]
  replied := by simp [World.init]
  socket := by simp [World.init]
  heard := by simp [World.init]
  waiting := by simp [World.init]
  results := by simp [World.init]

theorem Sound.sent_le (h : Sound retries w) {s : Nat × List UInt8} (hs : s ∈ w.sent) :
    s.1 ≤ w.number := by
  obtain ⟨call, dest, hcall, -⟩ := h.sent s hs
  exact (h.calls _ hcall).1

theorem copies_eq_zero {n : Nat} (h : ∀ s ∈ w.sent, s.1 ≤ n) : w.copies (n + 1) = 0 := by
  unfold World.copies
  rw [List.length_eq_zero_iff, List.filter_eq_nil_iff]
  intro s hs
  have hle := h s hs
  simp
  omega

/-- A request that has its answer keeps it, if nothing more is sent or heard for it. -/
theorem Resolved.mono {n : Nat} {answer : Answer} (h : Resolved w retries n answer)
    (hcopies : w'.copies n = w.copies n)
    (hreplied : ∀ r ∈ w.replied, r ∈ w'.replied) (hheard : (n, n) ∈ w'.heard → (n, n) ∈ w.heard) :
    Resolved w' retries n answer where
  copies := hcopies ▸ h.copies
  answered := by
    intro f hf
    obtain ⟨reply, data, hmem, hdecode, hsays⟩ := h.answered f hf
    exact ⟨reply, data, hreplied _ hmem, hdecode, hsays⟩
  unanswered := by
    intro hnone
    obtain ⟨hall, hno⟩ := h.unanswered hnone
    exact ⟨hcopies.trans hall, fun hmem => hno (hheard hmem)⟩

theorem toUInt8_mod (n : Nat) : (n % 256).toUInt8.toNat = n % 256 := by
  rw [Nat.toUInt8, UInt8.toNat_ofNat', Nat.mod_mod]

theorem sound_request {call : Call} {dest : Option Address} {client : Client}
    {octets : Option (List UInt8)} (hsound : Sound retries w)
    (hidle : w.client.waiting = none) (h : w.client.request call dest = (client, octets)) :
    Sound retries { w with
      client := client
      number := w.number + 1
      calls := (w.number + 1, call, dest) :: w.calls
      sent := (octets.map (w.number + 1, ·)).toList ++ w.sent } := by
  have hid : (w.client.invokeId + 1) % 256 = (w.number + 1) % 256 := by
    rw [hsound.id]
    omega
  unfold Client.request at h
  dsimp only at h
  rw [hid] at h
  have hcopies : ∀ sent n, n ≤ w.number → (∀ s ∈ sent, s.1 = w.number + 1) →
      ((sent ++ w.sent).filter fun s : Nat × List UInt8 => s.1 = n).length = w.copies n := by
    intro sent n hn hsent
    have hnone : sent.filter (fun s : Nat × List UInt8 => s.1 = n) = [] := by
      rw [List.filter_eq_nil_iff]
      intro s hs
      have heq := hsent s hs
      simp
      omega
    rw [List.filter_append, hnone]
    rfl
  have hresults : ∀ (w' : World) r, r ∈ w.results → w'.copies r.1 = w.copies r.1 →
    w'.replied = w.replied → w'.heard = w.heard →
      r.1 ≤ w.number + 1 ∧ Resolved w' retries r.1 r.2 := by
    intro w' r hr hcopies hreplied hheard
    obtain ⟨hle, hresolved⟩ := hsound.results r hr
    exact ⟨by omega, hresolved.mono hcopies (fun _ hmem => hreplied ▸ hmem) fun hmem =>
      hheard ▸ hmem⟩
  have hcalls : ∀ c ∈ (w.number + 1, call, dest) :: w.calls, c.1 ≤ w.number + 1 ∧
      ∀ c' ∈ (w.number + 1, call, dest) :: w.calls, c'.1 = c.1 → c' = c := by
    intro c hc
    rcases List.mem_cons.mp hc with rfl | hc
    · refine ⟨Nat.le_refl _, fun c' hc' heq => ?_⟩
      rcases List.mem_cons.mp hc' with rfl | hc'
      · rfl
      · have hle := (hsound.calls c' hc').1
        dsimp only at heq
        omega
    · obtain ⟨hle, hunique⟩ := hsound.calls c hc
      refine ⟨by omega, fun c' hc' heq => ?_⟩
      rcases List.mem_cons.mp hc' with rfl | hc'
      · dsimp only at heq
        omega
      · exact hunique c' hc' heq
  have hsent : ∀ s ∈ w.sent, ∃ call' dest',
    (s.1, call', dest') ∈ (w.number + 1, call, dest) :: w.calls ∧
      call'.octets dest' (s.1 % 256) = some s.2 := by
    intro s hs
    obtain ⟨call', dest', hcall, hoctets⟩ := hsound.sent s hs
    exact ⟨call', dest', List.mem_cons_of_mem _ hcall, hoctets⟩
  have hreplied : ∀ r ∈ w.replied, r.1 ≤ w.number + 1 ∧ r.2.1.InRange ∧
      r.2.1.Wraps (r.1 % 256).toUInt8 r.2.2 := by
    intro r hr
    obtain ⟨hle, hrest⟩ := hsound.replied r hr
    exact ⟨by omega, hrest⟩
  have hheard : ∀ h ∈ w.heard, h.1 ≤ w.number + 1 :=
    fun h hh => Nat.le_succ_of_le (hsound.heard h hh)
  cases hcall : call.octets dest ((w.number + 1) % 256) with
  | none =>
    rw [hcall] at h
    cases h
    exact ⟨hsound.retries_eq, rfl, hcalls, hsent, hreplied, hsound.socket, hheard,
      fun q hq => by simp [hidle] at hq, fun r hr => hresults _ r hr rfl rfl rfl⟩
  | some data =>
    rw [hcall] at h
    cases h
    refine ⟨hsound.retries_eq, rfl, hcalls, fun s hs => ?_, hreplied, hsound.socket, hheard,
      fun q hq => ?_, fun r hr => ?_⟩
    · rcases List.mem_cons.mp hs with rfl | hs
      · exact ⟨call, dest, List.mem_cons_self, hcall⟩
      · exact hsent s hs
    · cases hq
      refine ⟨rfl, ⟨call, dest, List.mem_cons_self, hcall⟩, ?_, Nat.zero_le _, rfl, fun hmem => ?_,
        fun r hr heq => ?_⟩
      · have hzero := copies_eq_zero (w := w) fun s hs => hsound.sent_le hs
        unfold World.copies at hzero ⊢
        simp [hzero]
      · have hle := hsound.heard _ hmem
        dsimp only at hle
        omega
      · have hle := (hsound.results r hr).1
        dsimp only at heq
        omega
    · exact hresults _ r hr (hcopies [(w.number + 1, data)] r.1 (hsound.results r hr).1 (by simp))
        rfl rfl

/-- The device answers with the invoke id of the request, which is the number of the request. -/
theorem sound_reply {n : Nat} {data answer : List UInt8} {f : Frame} {invokeId : UInt8}
    {reply : Reply} (hsound : Sound retries w)
    (hsent : (n, data) ∈ w.sent) (hread : decode data = .ok f)
    (hid : f.invokeId = .ok (some invokeId)) (hrange : reply.InRange)
    (hwraps : reply.Wraps invokeId answer) :
    Sound retries { w with replied := (n, reply, answer) :: w.replied } := by
  have hinvokeId : invokeId = (n % 256).toUInt8 := by
    obtain ⟨call, dest, -, hoctets⟩ := hsound.sent _ hsent
    dsimp only at hoctets
    rw [← toUInt8_mod n] at hoctets
    obtain ⟨f', hread', hid'⟩ := request_decoded hoctets
    obtain rfl := Except.ok.inj (hread.symm.trans hread')
    exact Option.some.inj (Except.ok.inj (hid.symm.trans hid'))
  refine ⟨hsound.retries_eq, hsound.id, hsound.calls, hsound.sent, fun r hr => ?_, fun d hd => ?_,
    hsound.heard, fun q hq => ?_, fun r hr => ?_⟩
  · rcases List.mem_cons.mp hr with rfl | hr
    · exact ⟨hsound.sent_le hsent, hrange, hinvokeId ▸ hwraps⟩
    · exact hsound.replied r hr
  · obtain ⟨horigin, hnone⟩ := hsound.socket d hd
    refine ⟨fun m hm => ?_, hnone⟩
    obtain ⟨reply', hmem⟩ := horigin m hm
    exact ⟨reply', List.mem_cons_of_mem _ hmem⟩
  · obtain ⟨hqid, hcall, hcopies, hattempt, hframes, hheard, hunresolved⟩ := hsound.waiting q hq
    exact ⟨hqid, hcall, hcopies, hattempt, hframes, hheard, hunresolved⟩
  · obtain ⟨hle, hresolved⟩ := hsound.results r hr
    exact ⟨hle, hresolved.mono rfl (fun _ hmem => List.mem_cons_of_mem _ hmem) id⟩

theorem sound_socket {d : Datagram} (hsound : Sound retries w)
    (horigin : ∀ n ∈ d.origin, ∃ reply, (n, reply, d.data) ∈ w.replied)
    (hnone : d.origin = none → Unrelated d.data) :
    Sound retries { w with socket := w.socket ++ [d] } := by
  refine ⟨hsound.retries_eq, hsound.id, hsound.calls, hsound.sent, hsound.replied, fun d' hd' => ?_,
    hsound.heard, fun q hq => ?_, fun r hr => ?_⟩
  · rcases List.mem_append.mp hd' with hd' | hd'
    · exact hsound.socket d' hd'
    · obtain rfl : d' = d := by simpa using hd'
      exact ⟨horigin, hnone⟩
  · obtain ⟨hqid, hcall, hcopies, hattempt, hframes, hheard, hunresolved⟩ := hsound.waiting q hq
    exact ⟨hqid, hcall, hcopies, hattempt, hframes, hheard, hunresolved⟩
  · obtain ⟨hle, hresolved⟩ := hsound.results r hr
    exact ⟨hle, hresolved.mono rfl (fun _ hmem => hmem) id⟩

theorem sound_collect {d : Datagram} {rest : List Datagram} {f : Frame} (hsound : Sound retries w)
    (hidle : w.client.waiting = none) (hsocket : w.socket = d :: rest) :
    Sound retries
      { w with client := { w.client with frames := w.client.frames ++ [f] }, socket := rest } := by
  refine ⟨hsound.retries_eq, hsound.id, hsound.calls, hsound.sent, hsound.replied,
    fun d' hd' => hsound.socket d' ?_, hsound.heard,
    fun q hq => by simp [hidle] at hq, fun r hr => ?_⟩
  · rw [hsocket]
    exact List.mem_cons_of_mem _ hd'
  · obtain ⟨hle, hresolved⟩ := hsound.results r hr
    exact ⟨hle, hresolved.mono rfl (fun _ hmem => hmem) id⟩

theorem sound_timeout {q : Waiting} {client : Client} {octets : Option (List UInt8)}
    {answer : Option Answer} (hsound : Sound retries w)
    (hwaiting : w.client.waiting = some q) (h : w.client.timeout q = .ok (client, octets, answer)) :
    Sound retries { w with
      client := client
      sent := (octets.map (w.number, ·)).toList ++ w.sent
      results := (answer.map (w.number, ·)).toList ++ w.results } := by
  obtain ⟨hqid, ⟨call, dest, hcall, hoctets⟩, hcopies, hattempt, hframes, hheard, hunresolved⟩ :=
    hsound.waiting q hwaiting
  rcases timeout_cases hframes h with ⟨hmore, rfl, rfl, rfl⟩ | ⟨hlast, rfl, rfl, rfl⟩
  · refine ⟨hsound.retries_eq, hsound.id, hsound.calls, fun s hs => ?_, hsound.replied,
      hsound.socket, hsound.heard, fun q' hq' => ?_, fun r hr => ?_⟩
    · rcases List.mem_cons.mp hs with rfl | hs
      · exact ⟨call, dest, hcall, hoctets⟩
      · exact hsound.sent s hs
    · cases hq'
      refine ⟨hqid, ⟨call, dest, hcall, hoctets⟩, ?_, hmore, hframes, hheard, hunresolved⟩
      unfold World.copies at hcopies ⊢
      simp [hcopies]
    · obtain ⟨hle, hresolved⟩ := hsound.results r hr
      have hne := hunresolved r hr
      refine ⟨hle, hresolved.mono ?_ (fun _ hmem => hmem) id⟩
      unfold World.copies
      simp [Ne.symm hne]
  · refine ⟨hsound.retries_eq, hsound.id, hsound.calls, hsound.sent, hsound.replied, hsound.socket,
      hsound.heard, fun q' hq' => (by cases hq'), fun r hr => ?_⟩
    rcases List.mem_cons.mp hr with rfl | hr
    · have hall : w.copies w.number = 1 + retries := by
        rw [hcopies, ← hsound.retries_eq]
        omega
      refine ⟨Nat.le_refl _, ⟨?_, ?_⟩, fun f hf => (by cases hf), fun _ => ⟨hall, hheard⟩⟩
      · show 1 ≤ w.copies w.number
        omega
      · show w.copies w.number ≤ 1 + retries
        omega
    · obtain ⟨hle, hresolved⟩ := hsound.results r hr
      exact ⟨hle, hresolved.mono rfl (fun _ hmem => hmem) id⟩

/-- Of the answers young enough to be received, the one with the invoke id is the request's own. -/
theorem own_answer {n number : Nat} (hle : n ≤ number) (hyoung : number < n + 256)
    (h : n % 256 = number % 256) : n = number := by omega

theorem sound_receive {q : Waiting} {d : Datagram} {rest : List Datagram} {client : Client}
    {answer : Option Answer} (hsound : Sound retries w)
    (hlifetime : lifetime ≤ 256) (hwaiting : w.client.waiting = some q)
    (hsocket : w.socket = d :: rest) (hyoung : ∀ n ∈ d.origin, w.number < n + lifetime)
    (h : w.client.receive q d.data = .ok (client, answer)) :
    Sound retries { w with
      client := client
      socket := rest
      heard := (d.origin.map (w.number, ·)).toList ++ w.heard
      results := (answer.map (w.number, ·)).toList ++ w.results } := by
  obtain ⟨hqid, hcall, hcopies, hattempt, hframes, hheard, hunresolved⟩ := hsound.waiting q hwaiting
  obtain ⟨horigin, hnone⟩ := hsound.socket d (hsocket ▸ List.mem_cons_self)
  obtain ⟨frame, hread, hcases⟩ := receive_cases h
  have hrest : ∀ d' ∈ rest, (∀ n ∈ d'.origin, ∃ reply, (n, reply, d'.data) ∈ w.replied) ∧
      (d'.origin = none → Unrelated d'.data) := by
    intro d' hd'
    exact hsound.socket d' (hsocket ▸ List.mem_cons_of_mem _ hd')
  have hheardLe : ∀ h ∈ (d.origin.map (w.number, ·)).toList ++ w.heard, h.1 ≤ w.number := by
    intro h hh
    rcases List.mem_append.mp hh with hh | hh
    · obtain ⟨n, -, rfl⟩ : ∃ n, d.origin = some n ∧ (w.number, n) = h := by simpa using hh
      exact Nat.le_refl _
    · exact hsound.heard h hh
  have holder : ∀ r ∈ w.results, ∀ w' : World, w'.sent = w.sent → w'.replied = w.replied →
      w'.heard = (d.origin.map (w.number, ·)).toList ++ w.heard →
      r.1 ≤ w.number ∧ Resolved w' retries r.1 r.2 := by
    intro r hr w' hsent hreplied hheard'
    obtain ⟨hle, hresolved⟩ := hsound.results r hr
    have hne := hunresolved r hr
    refine ⟨hle, hresolved.mono ?_ (fun _ hmem => hreplied ▸ hmem) fun hmem => ?_⟩
    · unfold World.copies
      rw [hsent]
    · rw [hheard'] at hmem
      rcases List.mem_append.mp hmem with hmem | hmem
      · obtain ⟨n, -, heq⟩ : ∃ n, d.origin = some n ∧ (w.number, n) = (r.1, r.1) := by
          simpa using hmem
        exact absurd (congrArg Prod.fst heq).symm hne
      · exact hmem
  -- An answer to another request, or none at all: the wait goes on.
  have hwait : firstMatch q.invokeId [frame] = .ok none → d.origin ≠ some w.number →
      Busy { w with
        client := { w.client with frames := w.client.frames ++ [frame] }
        socket := rest
        heard := (d.origin.map (w.number, ·)).toList ++ w.heard } q := by
    intro hmatch hother
    refine ⟨hqid, hcall, hcopies, hattempt, firstMatch_append hframes hmatch,
      fun hmem => ?_, hunresolved⟩
    rcases List.mem_append.mp hmem with hmem | hmem
    · obtain ⟨n, hn, heq⟩ : ∃ n, d.origin = some n ∧ (w.number, n) = (w.number, w.number) := by
        simpa using hmem
      exact hother (hn.trans (congrArg some (congrArg Prod.snd heq)))
    · exact hheard hmem
  -- What an answer to a request is taken for.
  have hanswer : ∀ n, d.origin = some n →
      ∃ reply, (n, reply, d.data) ∈ w.replied ∧ n ≤ w.number ∧ Answer.Says ⟨some frame⟩ reply ∧
        firstMatch q.invokeId [frame] =
          .ok (if n % 256 = w.number % 256 then some frame else none) := by
    intro n hn
    obtain ⟨reply, hmem⟩ := horigin n hn
    obtain ⟨hle, hrange, hwraps⟩ := hsound.replied _ hmem
    obtain ⟨f, hread', hok, hsays, hanswers⟩ := reply_decoded hrange hwraps
    obtain rfl := Except.ok.inj (hread.symm.trans hread')
    refine ⟨reply, hmem, hle, hsays, ?_⟩
    rw [firstMatch_single hok (hanswers q.invokeId), hqid, toUInt8_mod]
    simp
  rcases hcases with ⟨hmatch, rfl, rfl⟩ | ⟨f, hmatch, rfl, rfl⟩
  · have hother : d.origin ≠ some w.number := by
      intro hown
      obtain ⟨reply, -, -, -, hfirst⟩ := hanswer w.number hown
      rw [if_pos rfl, hmatch] at hfirst
      cases hfirst
    refine ⟨hsound.retries_eq, hsound.id, hsound.calls, hsound.sent, hsound.replied, hrest,
      hheardLe, fun q' hq' => ?_, fun r hr => holder r hr _ rfl rfl rfl⟩
    obtain rfl : q = q' := Option.some.inj (hwaiting.symm.trans hq')
    exact hwait hmatch hother
  · refine ⟨hsound.retries_eq, hsound.id, hsound.calls, hsound.sent, hsound.replied,
      hrest, hheardLe, fun q' hq' => (by cases hq'), fun r hr => ?_⟩
    rcases List.mem_cons.mp hr with rfl | hr
    · refine ⟨Nat.le_refl _, ⟨?_, ?_⟩, fun f' hf' => ?_, fun hnone => (by cases hnone)⟩
      · show 1 ≤ w.copies w.number
        omega
      · show w.copies w.number ≤ 1 + retries
        rw [hcopies, ← hsound.retries_eq]
        omega
      · cases horigin' : d.origin with
        | none =>
          have hunrelated := firstMatch_unrelated (hnone horigin' frame hread) hmatch
          cases hunrelated
        | some n =>
          obtain ⟨reply, hmem, hle, hsays, hfirst⟩ := hanswer n horigin'
          rw [hmatch] at hfirst
          split at hfirst
          · rename_i hid
            cases hfirst
            have hage := hyoung n horigin'
            obtain rfl : n = w.number := own_answer hle (by omega) hid
            cases hf'
            exact ⟨reply, d.data, hmem, hread, hsays⟩
          · cases hfirst
    · exact holder r hr _ rfl rfl rfl

theorem sound_step (hsound : Sound retries w) (hlifetime : lifetime ≤ 256)
    (hstep : Step lifetime w w') : Sound retries w' := by
  cases hstep with
  | request hidle h => exact sound_request hsound hidle h
  | reply hsent hread hid hrange hwraps => exact sound_reply hsound hsent hread hid hrange hwraps
  | arrive h => exact sound_socket hsound (fun n hn => ⟨_, Option.some.inj hn ▸ h⟩) fun hnone =>
    (by cases hnone)
  | other h => exact sound_socket hsound (fun n hn => (by cases hn)) fun _ => h
  | receive hwaiting hsocket hyoung h =>
    exact sound_receive hsound hlifetime hwaiting hsocket hyoung h
  | collect hidle hsocket h => exact sound_collect hsound hidle hsocket
  | timeout hwaiting h => exact sound_timeout hsound hwaiting h

theorem sound_reachable (h : Reachable lifetime retries w) (hlifetime : lifetime ≤ 256) :
    Sound retries w := by
  induction h with
  | refl => exact Sound.init
  | tail _ hstep ih => exact sound_step ih hlifetime hstep

/-- A request of the gateway's name, its datagram under the first invoke id, and a device that does
    not know the object. -/
def askName : Call := .readProperty 8 389019 77 none

def askNameOctets : List UInt8 :=
  [0x81, 0x0A, 0, 17, 0x01, 0x04, 0x00, 0x05, 0x01, 0x0C, 0x0C, 0x02, 0x05, 0xEF, 0x9B, 0x19, 0x4D]

def unknownObject : Reply := .error 12 1 31

def unknownObjectOctets : List UInt8 :=
  [0x81, 0x0A, 0, 13, 0x01, 0x00, 0x50, 0x01, 0x0C, 0x91, 0x01, 0x91, 0x1F]

theorem askName_octets : askName.octets none 1 = some askNameOctets := rfl

theorem unknownObject_wraps : unknownObject.Wraps 1 unknownObjectOctets :=
  ⟨[0x50, 0x01, 0x0C, 0x91, 0x01, 0x91, 0x1F],
    [0x01, 0x00, 0x50, 0x01, 0x0C, 0x91, 0x01, 0x91, 0x1F],
    .unicast, none, none, false, 255, rfl, rfl, trivial, rfl⟩

/-- A request with the first invoke id. -/
theorem asked (h : Reachable lifetime retries w) (hidle : w.client.waiting = none)
    (hid : (w.client.invokeId + 1) % 256 = 1) :
    Reachable lifetime retries { w with
      client := { w.client with invokeId := 1, frames := [], waiting := some ⟨1, askNameOctets, 0⟩ }
      number := w.number + 1
      calls := (w.number + 1, askName, none) :: w.calls
      sent := (w.number + 1, askNameOctets) :: w.sent } := by
  have hrequest : w.client.request askName none =
      ({ w.client with invokeId := 1, frames := [], waiting := some ⟨1, askNameOctets, 0⟩ },
        some askNameOctets) := by
    unfold Client.request
    rw [hid]
    dsimp only
    rw [askName_octets]
  exact h.tail (Step.request hidle hrequest)

theorem replied_to {n : Nat} (h : Reachable lifetime retries w)
    (hsent : (n, askNameOctets) ∈ w.sent) :
    Reachable lifetime retries
      { w with replied := (n, unknownObject, unknownObjectOctets) :: w.replied } :=
  h.tail (Step.reply hsent rfl rfl ⟨by decide, by decide⟩ unknownObject_wraps)

/-- A reply under the first invoke id, to whichever request, is the answer of the one that waits. -/
theorem taken {n : Nat} (h : Reachable lifetime retries w)
    (hwaiting : w.client.waiting = some ⟨1, askNameOctets, 0⟩) (hsocket : w.socket = [])
    (hreplied : (n, unknownObject, unknownObjectOctets) ∈ w.replied)
    (hyoung : w.number < n + lifetime) :
    ∃ w' answer, Reachable lifetime retries w' ∧ (w.number, answer) ∈ w'.results ∧
      answer.frame.isSome ∧ w'.replied = w.replied := by
  let frame : Frame := {
    bvlcFunction := some 0x0A
    bvllData := [0x01, 0x00, 0x50, 0x01, 0x0C, 0x91, 0x01, 0x91, 0x1F]
    hasNpdu := true
    payload := [0x50, 0x01, 0x0C, 0x91, 0x01, 0x91, 0x1F]
    ok := true }
  have harrived := h.tail (Step.arrive hreplied)
  have hreceive : w.client.receive ⟨1, askNameOctets, 0⟩ unknownObjectOctets =
      .ok ({ w.client with frames := w.client.frames ++ [frame], waiting := none },
        some ⟨some frame⟩) := rfl
  have hfront : w.socket ++ [⟨some n, unknownObjectOctets⟩] = [⟨some n, unknownObjectOctets⟩] := by
    rw [hsocket, List.nil_append]
  have hage : ∀ m ∈ some n, w.number < m + lifetime := by
    intro m hm
    cases hm
    exact hyoung
  exact ⟨_, ⟨some frame⟩, harrived.tail (Step.receive hwaiting hfront hage hreceive),
    List.mem_cons_self, rfl, rfl⟩

/-- Between requests: nothing is sent again, and nothing has arrived. -/
structure Idle (w : World) : Prop where
  waiting : w.client.waiting = none
  retries : w.client.retries = 0
  id : w.client.invokeId = w.number % 256
  socket : w.socket = []

/-- A request that nobody answers. -/
theorem idle_again (h : Reachable lifetime retries w) (hidle : Idle w) :
    ∃ w', Reachable lifetime retries w' ∧ Idle w' ∧ w'.number = w.number + 1 ∧
      w'.replied = w.replied := by
  obtain ⟨hwaiting, hretries, hid, hsocket⟩ := hidle
  have hnext : (w.client.invokeId + 1) % 256 = (w.number + 1) % 256 := by omega
  cases hcall : askName.octets none ((w.number + 1) % 256) with
  | none =>
    have hrequest : w.client.request askName none =
        ({ w.client with invokeId := (w.number + 1) % 256, frames := [] }, none) := by
      unfold Client.request
      rw [hnext]
      dsimp only
      rw [hcall]
    exact ⟨_, h.tail (Step.request hwaiting hrequest), ⟨hwaiting, hretries, rfl, hsocket⟩, rfl, rfl⟩
  | some octets =>
    have hrequest : w.client.request askName none =
        ({ w.client with
            invokeId := (w.number + 1) % 256, frames := []
            waiting := some ⟨(w.number + 1) % 256, octets, 0⟩ }, some octets) := by
      unfold Client.request
      rw [hnext]
      dsimp only
      rw [hcall]
    have hasked := h.tail (Step.request hwaiting hrequest)
    have htimeout : Client.timeout { w.client with
          invokeId := (w.number + 1) % 256, frames := [], waiting :=
            some ⟨(w.number + 1) % 256, octets, 0⟩ } ⟨(w.number + 1) % 256, octets, 0⟩ =
        .ok ({ w.client with invokeId := (w.number + 1) % 256, frames := [], waiting := none },
          none, some ⟨none⟩) := by
      unfold Client.timeout
      rw [if_neg (by dsimp only; omega)]
      rfl
    exact ⟨_, hasked.tail (Step.timeout rfl htimeout), ⟨rfl, hretries, rfl, hsocket⟩, rfl, rfl⟩

theorem idle_times (h : Reachable lifetime retries w) (hidle : Idle w) (k : Nat) :
    ∃ w', Reachable lifetime retries w' ∧ Idle w' ∧ w'.number = w.number + k ∧
      w'.replied = w.replied := by
  induction k with
  | zero => exact ⟨w, h, hidle, rfl, rfl⟩
  | succ k ih =>
    obtain ⟨w', h', hidle', hnumber, hreplied⟩ := ih
    obtain ⟨w'', h'', hidle'', hnumber', hreplied'⟩ := idle_again h' hidle'
    exact ⟨w'', h'', hidle'', by omega, hreplied'.trans hreplied⟩

/-- With a lifetime of 257 a request can return what was replied to the request 256 before it. -/
theorem lifetime_is_tight :
    ∃ w answer, Reachable 257 0 w ∧ (257, answer) ∈ w.results ∧ answer.frame.isSome ∧
      ∀ r ∈ w.replied, r.1 = 1 := by
  have hasked :=
    replied_to (asked (Relation.ReflTransGen.refl : Reachable 257 0 (World.init 0)) rfl rfl)
    List.mem_cons_self
  have hgivenUp := hasked.tail (Step.timeout rfl rfl)
  obtain ⟨w, hw, ⟨hwaiting, hretries, hid, hsocket⟩, hnumber, hreplied⟩ :=
    idle_times hgivenUp ⟨rfl, rfl, rfl, rfl⟩ 255
  have hnumber : w.number = 256 := hnumber
  have hlast := asked hw hwaiting (by omega)
  have hmem : (1, unknownObject, unknownObjectOctets) ∈ w.replied := hreplied ▸ List.mem_cons_self
  obtain ⟨w', answer, hw', hresult, hframe, hreplied'⟩ :=
    taken hlast rfl hsocket hmem (by dsimp only; omega)
  refine ⟨w', answer, hw', ?_, hframe, fun r hr => ?_⟩
  · have hresult : (w.number + 1, answer) ∈ w'.results := hresult
    rwa [hnumber] at hresult
  · have hr : r ∈ w.replied := hreplied' ▸ hr
    rw [hreplied] at hr
    obtain rfl : r = (1, unknownObject, unknownObjectOctets) := by simpa [World.init] using hr
    rfl

end BacnetGateway.Wiretest
