/-
  BacnetGateway.Wiretest.Client — `Client` and `Answer` of `wiretest/client.py`, and `wait_for` of
  `wiretest/endpoint.py`.

  One request is a conversation with the socket: it is sent, datagrams are received until one
  answers it, and when the time is up it is sent again, the same octets, or given up. The three
  places where the client acts are `Client.request`, `Client.receive` and `Client.timeout`; what
  arrives between them is the network's (`Wiretest.Exchange`).

  - `request_decoded`: a request carries the invoke id it was made with.
  - `reply_decoded`: the answer to an invoke id is taken for that invoke id only, and says what the
    device replied.
-/

import BacnetGateway.Wiretest.Frame

namespace BacnetGateway.Wiretest

open Frames Lib.Octets Lib.Lexing

/-! ## Requests -/

/-- `read_property` and `write_property`, with their arguments. -/
inductive Call where
  | readProperty (objectType objectInstance propertyIdentifier : Nat) (arrayIndex : Option Nat)
  | writeProperty (objectType objectInstance propertyIdentifier : Nat) (valueOctets : List UInt8)
      (priority arrayIndex : Option Nat)

/-- `build_apdu`. -/
def Call.apdu (invokeId : Nat) : Call → Option (List UInt8)
  | .readProperty objectType objectInstance propertyIdentifier arrayIndex =>
    readPropertyRequest invokeId objectType objectInstance propertyIdentifier arrayIndex
  | .writeProperty objectType objectInstance propertyIdentifier valueOctets priority arrayIndex =>
    writePropertyRequest invokeId objectType objectInstance propertyIdentifier valueOctets
      priority arrayIndex

/-- The datagram of a request, to the device itself or through it to one on another network. -/
def Call.octets (call : Call) (dest : Option Address) (invokeId : Nat) : Option (List UInt8) := do
  bvlc
    (← npdu (← call.apdu invokeId) none (dest.map Address.net) ((dest.map Address.mac).getD []) none
      [] true 255) false

/-! ## Answers -/

structure Answer where
  frame : Option Frame

def Answer.ok (answer : Answer) : Bool :=
  match answer.frame with
  | none => false
  | some frame => frame.pduType ∈ [some 3, some 2]

def Answer.valueOctets (answer : Answer) : Python (Option (List UInt8)) :=
  match answer.frame with
  | none => .ok none
  | some frame => if frame.pduType ≠ some 3 then .ok none else readPropertyValue frame.payload

def Answer.value (answer : Answer) : Python (Option Value) := do
  match ← answer.valueOctets with
  | none => return none
  | some octets => decodeApplication octets

def Answer.error (answer : Answer) : Python (Option (Nat × Nat)) :=
  match answer.frame with
  | none => .ok none
  | some frame => if frame.pduType ≠ some 5 then .ok none else errorClassAndCode frame.payload

/-! ## The client -/

/-- The predicate of `request`. -/
def answers (invokeId : Nat) (candidate : Frame) : Python Bool :=
  if candidate.networkMessage = none then
    match candidate.pduType with
    | none => .ok false
    | some type =>
      if type ∈ answerTypes then candidate.invokeId.map fun i => i.map UInt8.toNat = some invokeId
      else .ok false
  else .ok false

/-- The first of the frames that is decoded and matches. -/
def firstMatch (invokeId : Nat) : List Frame → Python (Option Frame)
  | [] => .ok none
  | frame :: frames => do
    if frame.ok then
      if ← answers invokeId frame then return some frame
    firstMatch invokeId frames

/-- What `request` remembers while it waits. -/
structure Waiting where
  invokeId : Nat
  octets : List UInt8
  attempt : Nat

structure Client where
  retries : Nat
  invokeId : Nat := 0
  frames : List Frame := []
  waiting : Option Waiting := none

/-- `request`, up to the first wait. An encoder that raises leaves the next invoke id used up. -/
def Client.request (c : Client) (call : Call) (dest : Option Address) : Client × Option
      (List UInt8) :=
  let invokeId := (c.invokeId + 1) % 256
  let c := { c with invokeId := invokeId, frames := [] }
  match call.octets dest invokeId with
  | none => (c, none)
  | some octets => ({ c with waiting := some ⟨invokeId, octets, 0⟩ }, some octets)

/-- One datagram received by `wait_for`, and the answer of the request if that was one. -/
def Client.receive (c : Client) (w : Waiting) (data : List UInt8) : Python
      (Client × Option Answer) := do
  let frame ← decode data
  let c := { c with frames := c.frames ++ [frame] }
  match ← firstMatch w.invokeId [frame] with
  | some frame => return ({ c with waiting := none }, some ⟨some frame⟩)
  | none => return (c, none)

/-- The end of a wait: what is sent again, and the answer of the request if there is nothing left to
    try. The next `wait_for` begins with the frames that are kept. -/
def Client.timeout (c : Client) (w : Waiting) : Python
      (Client × Option (List UInt8) × Option Answer) :=
  if w.attempt + 1 < 1 + c.retries then do
    match ← firstMatch w.invokeId c.frames with
    | some frame => return ({ c with waiting := none }, some w.octets, some ⟨some frame⟩)
    | none =>
      return ({ c with waiting := some { w with attempt := w.attempt + 1 } }, some w.octets, none)
  else return ({ c with waiting := none }, none, some ⟨none⟩)

/-! ## Replies -/

/-- What a device can say to a request. -/
inductive Reply where
  | ack (objectType objectInstance propertyIdentifier : Nat) (arrayIndex : Option Nat)
      (valueOctets : List UInt8)
  | simpleAck (service : UInt8)
  | error (service : UInt8) (errorClass errorCode : Nat)
  | reject (reason : UInt8)
  | abort (reason : UInt8)

def Reply.InRange : Reply → Prop
  | .ack objectType objectInstance propertyIdentifier arrayIndex valueOctets =>
    ObjectInRange objectType objectInstance ∧ propertyIdentifier < 2 ^ 32 ∧
      (∀ n ∈ arrayIndex, n < 2 ^ 32) ∧
      Data valueOctets
  | .error _ errorClass errorCode => errorClass < 2 ^ 32 ∧ errorCode < 2 ^ 32
  | _ => True

def Reply.apdu (invokeId : UInt8) : Reply → Option (List UInt8)
  | .ack objectType objectInstance propertyIdentifier arrayIndex valueOctets =>
    elementAck invokeId.toNat objectType objectInstance propertyIdentifier arrayIndex valueOctets
  | .simpleAck service => Frames.simpleAck invokeId.toNat service.toNat
  | .error service errorClass errorCode =>
    errorPdu invokeId.toNat service.toNat errorClass errorCode
  | .reject reason => some [0x60, invokeId, reason]
  | .abort reason => some [0x71, invokeId, reason]

/-- The datagram is the reply, routed and wrapped in any way. -/
def Reply.Wraps (reply : Reply) (invokeId : UInt8) (data : List UInt8) : Prop :=
  ∃ (apdu octets : List UInt8) (link : Link) (dest src : Option Address) (expectingReply : Bool)
    (hopCount : UInt8),
    reply.apdu invokeId = some apdu ∧
      npdu apdu none (dest.map Address.net) ((dest.map Address.mac).getD []) (src.map Address.net)
        ((src.map Address.mac).getD [])
        expectingReply hopCount.toNat = some octets ∧
      link.InRange ∧ link.wrap octets = some data

/-- What the reply says, as `Answer` puts it. -/
def Reply.ok : Reply → Bool
  | .ack .. | .simpleAck _ => true
  | _ => false

def Reply.valueOctets : Reply → Option (List UInt8)
  | .ack _ _ _ _ valueOctets => some valueOctets
  | _ => none

def Reply.error? : Reply → Option (Nat × Nat)
  | .error _ errorClass errorCode => some (errorClass, errorCode)
  | _ => none

/-- The answer says what the device replied. -/
structure Answer.Says (answer : Answer) (reply : Reply) : Prop where
  ok : answer.ok = reply.ok
  valueOctets : answer.valueOctets = .ok reply.valueOctets
  error : answer.error = .ok reply.error?

/-! ## What is sent is read -/

theorem call_apdu {call : Call} {invokeId : UInt8} {apdu : List UInt8}
    (h : call.apdu invokeId.toNat = some apdu) :
    ∃ service parameters, apdu = 0x00 :: 0x05 :: invokeId :: service :: parameters := by
  have hconfirmed : ∀ {service parameters},
    confirmedRequest invokeId.toNat service parameters = some apdu →
      ∃ service parameters, apdu = 0x00 :: 0x05 :: invokeId :: service :: parameters := by
    intro service parameters hrequest
    unfold confirmedRequest at hrequest
    rw [byte_ok (show 0x00 < 256 by decide), byte_ok (show 0x05 < 256 by decide),
      byte_ok invokeId.toNat_lt] at hrequest
    cases hservice : byte service with
    | none => simp [hservice] at hrequest
    | some b =>
      simp [hservice] at hrequest
      exact ⟨b, parameters, hrequest.symm⟩
  cases call with
  | readProperty objectType objectInstance propertyIdentifier arrayIndex =>
    simp only [Call.apdu, readPropertyRequest, Option.bind_eq_bind, Option.bind_eq_some_iff] at h
    obtain ⟨_, -, _, -, _, -, h⟩ := h
    exact hconfirmed h
  | writeProperty objectType objectInstance propertyIdentifier valueOctets priority arrayIndex =>
    simp only [Call.apdu, writePropertyRequest, Option.bind_eq_bind, Option.bind_eq_some_iff] at h
    obtain ⟨_, -, _, -, _, -, _, -, _, -, _, -, h⟩ := h
    exact hconfirmed h

/-- A request carries the invoke id it was made with. -/
theorem request_decoded {call : Call} {dest : Option Address} {invokeId : UInt8} {data : List UInt8}
    (h : call.octets dest invokeId.toNat = some data) :
    ∃ f, decode data = .ok f ∧ f.invokeId = .ok (some invokeId) := by
  unfold Call.octets at h
  cases happdu : call.apdu invokeId.toNat with
  | none => simp [happdu] at h
  | some apdu =>
    obtain ⟨service, parameters, rfl⟩ := call_apdu happdu
    obtain ⟨octets, hoctets, hdecode⟩ :=
      frame_written (0x00 :: 0x05 :: invokeId :: service :: parameters) dest none true 255
    have hnpdu : npdu (0x00 :: 0x05 :: invokeId :: service :: parameters) none
        (dest.map Address.net) ((dest.map Address.mac).getD []) none [] true 255
      = some octets := hoctets
    simp only [happdu, Option.bind_eq_bind, Option.bind_some, hnpdu] at h
    obtain ⟨f, hread, -⟩ := hdecode .unicast data trivial h
    exact ⟨_, hread, rfl⟩

/-- An APDU of a reply, and what `Answer` makes of a frame that carries it. -/
theorem reply_apdu {reply : Reply} (h : reply.InRange) (invokeId : UInt8) :
    ∃ b0 rest, reply.apdu invokeId = some (b0 :: invokeId :: rest) ∧ b0 >>> 4 ∈ answerTypes ∧
      ∀ f : Frame, f.networkMessage = none → f.payload = b0 :: invokeId :: rest →
        Answer.Says ⟨some f⟩ reply := by
  have htype : ∀ {f : Frame} {b0 : UInt8} {rest}, f.networkMessage = none → f.payload = b0 :: rest →
      f.pduType = some (b0 >>> 4) := by
    intro f b0 rest hnetwork hpayload
    simp [Frame.pduType, hnetwork, hpayload]
  cases reply with
  | ack objectType objectInstance propertyIdentifier arrayIndex valueOctets =>
    obtain ⟨parameters, hoctets, hvalue⟩ := propertyValue_written invokeId h.1 h.2.1 h.2.2.1 h.2.2.2
    refine ⟨0x30, _, hoctets, by decide, fun f hnetwork hpayload => ?_⟩
    have hpdu : f.pduType = some 3 := htype hnetwork hpayload
    exact ⟨by simp [Answer.ok, hpdu, Reply.ok],
      by simp [Answer.valueOctets, hpdu, hpayload, hvalue, Reply.valueOctets],
      by simp [Answer.error, hpdu, Reply.error?]⟩
  | simpleAck service =>
    refine ⟨0x20, [service], ?_, by decide, fun f hnetwork hpayload => ?_⟩
    · show Frames.simpleAck invokeId.toNat service.toNat = _
      unfold Frames.simpleAck
      rw [byte_ok (show PDU_SIMPLE_ACK <<< 4 < 256 by decide), byte_ok invokeId.toNat_lt,
        byte_ok service.toNat_lt]
      simp [PDU_SIMPLE_ACK]
    · have hpdu : f.pduType = some 2 := htype hnetwork hpayload
      exact ⟨by simp [Answer.ok, hpdu, Reply.ok],
        by simp [Answer.valueOctets, hpdu, Reply.valueOctets],
        by simp [Answer.error, hpdu, Reply.error?]⟩
  | error service errorClass errorCode =>
    obtain ⟨parameters, hoctets, herror⟩ := error_written invokeId service h.1 h.2
    refine ⟨0x50, _, hoctets, by decide, fun f hnetwork hpayload => ?_⟩
    have hpdu : f.pduType = some 5 := htype hnetwork hpayload
    exact ⟨by simp [Answer.ok, hpdu, Reply.ok],
      by simp [Answer.valueOctets, hpdu, Reply.valueOctets],
      by simp [Answer.error, hpdu, hpayload, herror, Reply.error?]⟩
  | reject reason =>
    refine ⟨0x60, [reason], rfl, by decide, fun f hnetwork hpayload => ?_⟩
    have hpdu : f.pduType = some 6 := htype hnetwork hpayload
    exact ⟨by simp [Answer.ok, hpdu, Reply.ok],
      by simp [Answer.valueOctets, hpdu, Reply.valueOctets],
      by simp [Answer.error, hpdu, Reply.error?]⟩
  | abort reason =>
    refine ⟨0x71, [reason], rfl, by decide, fun f hnetwork hpayload => ?_⟩
    have hpdu : f.pduType = some 7 := htype hnetwork hpayload
    exact ⟨by simp [Answer.ok, hpdu, Reply.ok],
      by simp [Answer.valueOctets, hpdu, Reply.valueOctets],
      by simp [Answer.error, hpdu, Reply.error?]⟩

/-- A reply is taken for an answer to its own invoke id and no other, and says what was replied. -/
theorem reply_decoded {reply : Reply} {invokeId : UInt8} {data : List UInt8} (h : reply.InRange)
    (hwraps : reply.Wraps invokeId data) :
    ∃ f, decode data = .ok f ∧ f.ok = true ∧ Answer.Says ⟨some f⟩ reply ∧
      ∀ n, answers n f = .ok (decide (invokeId.toNat = n)) := by
  obtain ⟨apdu, octets, link, dest, src, expectingReply, hopCount, happdu, hnpdu, hlink, hwrap⟩ :=
    hwraps
  obtain ⟨b0, rest, hshape, hanswer, hsays⟩ := reply_apdu h invokeId
  obtain rfl := Option.some.inj (happdu.symm.trans hshape)
  obtain ⟨octets', hoctets', hdecode⟩ :=
    frame_written (b0 :: invokeId :: rest) dest src expectingReply hopCount
  obtain rfl := Option.some.inj (hnpdu.symm.trans hoctets')
  obtain ⟨f, hread, -⟩ := hdecode link data hlink hwrap
  refine ⟨_, hread, rfl, hsays _ rfl rfl, fun n => ?_⟩
  have hpdu : (carrying (b0 :: invokeId :: rest) dest src expectingReply f).pduType =
    some (b0 >>> 4) := rfl
  have hid : (carrying (b0 :: invokeId :: rest) dest src expectingReply f).invokeId =
      .ok (some invokeId) := by
    rw [Frame.invokeId, hpdu]
    simp only [if_pos hanswer]
    rfl
  have hnetwork : (carrying (b0 :: invokeId :: rest) dest src expectingReply f).networkMessage =
    none := rfl
  rw [answers, if_pos hnetwork, hpdu]
  simp only [if_pos hanswer, hid, Except.map]
  simp

end BacnetGateway.Wiretest
