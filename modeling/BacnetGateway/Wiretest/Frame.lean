/-
  BacnetGateway.Wiretest.Frame — `Frame` of `wiretest/codec.py`: one received datagram, decoded
  down to the APDU or the network layer message.

  The frame log decodes the same datagrams (`Frames.Decoder`). Two decoders of one format were
  written, one in each language, with other tests at other places; where both take a datagram
  apart they say the same of it (`decoders_agree`, `requests_agree`).
-/

import BacnetGateway.Wiretest.Apdus

namespace BacnetGateway.Wiretest

open Frames Lib.Octets Lib.Lexing

/-! ## Decoding -/

/-- What is kept of a datagram, besides the octets and the source it was made from. -/
structure Frame where
  bvlcFunction : Option UInt8 := none
  bvllData : List UInt8 := []
  originatingMac : List UInt8 := []
  hasNpdu : Bool := false
  snet : Option Nat := none
  sadr : List UInt8 := []
  dnet : Option Nat := none
  dadr : List UInt8 := []
  expectingReply : Bool := false
  networkMessage : Option UInt8 := none
  payload : List UInt8 := []
  ok : Bool := false
  deriving DecidableEq

/-- A network, an address on it, and what follows. A slice of the address does not raise. -/
def readSpecifier (present : Bool) (octets : List UInt8) : Python
      (Option Nat × List UInt8 × List UInt8) :=
  if present then
    match octets with
    | hi :: lo :: length :: octets =>
      .ok (some (ofOctets [hi, lo]), octets.take length.toNat, octets.drop length.toNat)
    | _ => .error .structError
  else .ok (none, [], octets)

/-- A proprietary message has a vendor id behind its type. -/
def readNetworkMessage (present : Bool) (octets : List UInt8) : Python
      (Option UInt8 × List UInt8) :=
  if present then
    match octets with
    | [] => .error .indexError
    | type :: octets => .ok (some type, if 0x80 ≤ type then octets.drop 2 else octets)
  else .ok (none, octets)

/-- From the octet behind the version on. -/
def decodeNpduFrom (control : UInt8) (octets : List UInt8) (f : Frame) : Python Frame := do
  let (dnet, dadr, octets) ← readSpecifier (control &&& 0x20 != 0) octets
  let (snet, sadr, octets) ← readSpecifier (control &&& 0x08 != 0) octets
  let octets := if control &&& 0x20 != 0 then octets.drop 1 else octets
  let (networkMessage, payload) ← readNetworkMessage (control &&& 0x80 != 0) octets
  return { f with
    hasNpdu := true
    expectingReply := control &&& 0x04 != 0
    dnet := dnet
    dadr := dadr
    snet := snet
    sadr := sadr
    networkMessage := networkMessage
    payload := payload
    ok := true }

def decodeNpduOctets (octets : List UInt8) (f : Frame) : Python Frame :=
  match octets with
  | version :: control :: octets => if version = 0x01 then decodeNpduFrom control octets f
      else .ok f
  | _ => .ok f

/-- `_decode`. -/
def decode (data : List UInt8) : Python Frame :=
  match data with
  | b0 :: bvlcFunction :: _ :: _ :: bvllData =>
    if b0 ≠ 0x81 then .ok {}
    else
      let f : Frame := { bvlcFunction := some bvlcFunction, bvllData := bvllData }
      match bvlcFunction.toNat with
      | 0x04 => decodeNpduOctets (bvllData.drop 6) { f with originatingMac := bvllData.take 6 }
      | 0x09 => decodeNpduOctets bvllData f
      | 0x0A => decodeNpduOctets bvllData f
      | 0x0B => decodeNpduOctets bvllData f
      | _ => .ok { f with ok := true }
  | _ => .ok {}

def Frame.pduType (f : Frame) : Option UInt8 :=
  match f.networkMessage, f.payload with
  | none, b0 :: _ => some (b0 >>> 4)
  | _, _ => none

/-- The PDU types `Frame.invoke_id` takes for an answer: SimpleACK, ComplexACK, Error, Reject,
    Abort. -/
def answerTypes : List UInt8 := [2, 3, 5, 6, 7]

def Frame.invokeId (f : Frame) : Python (Option UInt8) :=
  match f.pduType with
  | none => .ok none
  | some type =>
    if type ∈ answerTypes then (octetAt f.payload 1).map some
    else if type = 0 then .ok f.payload[2]?
    else .ok none

def Frame.service (f : Frame) : Python (Option UInt8) :=
  match f.pduType with
  | none => .ok none
  | some type =>
    if type ∈ [2, 3, 5] then (octetAt f.payload 2).map some
    else if type = 0 then .ok f.payload[3]?
    else if type = 1 then .ok f.payload[1]?
    else .ok none

/-! ## The header -/

/-- What the frame log has when it comes to the payload. -/
structure Routed (f : Frame) (out : DecodedFrame) : Prop where
  fresh : Fresh out
  apdu : out.hasApdu = false ∧ out.segmented = false
  npdu : out.hasNpdu = true
  dest : f.dnet = if out.hasDest then some out.dnet else none
  src : f.snet = if out.hasSrc then some out.snet else none
  network : out.isNetworkMessage = f.networkMessage.isSome

section
variable {out : DecodedFrame} {bytes rest address : List UInt8} {net : Option Nat}

theorem parseHopCount_drop (bytes : List UInt8) (out : DecodedFrame) :
    parseHopCount bytes out = parsePayload (if out.hasDest then bytes.drop 1 else bytes) out := by
  unfold parseHopCount
  split
  · rename_i hdest
    cases bytes <;> simp [parsePayload]
  · rfl

/-- A source cut off in its address ends both decoders: one returns, the other goes on with
    nothing. -/
theorem parseSource_read (h : readSpecifier out.hasSrc bytes = .ok (net, address, rest))
    (offset : Nat) :
    ∃ snet sadr sadrLength, net = (if out.hasSrc then some snet else none) ∧
      parseSource offset bytes out =
        parseHopCount rest { out with snet := snet, sadr := sadr, sadrLength := sadrLength } := by
  unfold readSpecifier at h
  unfold parseSource
  split at h
  · rename_i hsrc
    split at h
    · rename_i hi lo slen bytes
      cases h
      simp only [if_pos hsrc]
      split
      · rename_i hcut
        refine ⟨word16 hi lo, out.sadr, out.sadrLength, by rw [word16_octets], ?_⟩
        rw [List.drop_eq_nil_of_le (by omega), parseHopCount_drop]
        split <;> rfl
      · exact ⟨word16 hi lo, _, _, by rw [word16_octets], rfl⟩
    · cases h
  · rename_i hsrc
    cases h
    rw [if_neg hsrc]
    exact ⟨out.snet, out.sadr, out.sadrLength, by rw [if_neg hsrc], rfl⟩

theorem parseDestination_read {snet : Option Nat} {sadr rest' : List UInt8}
    (h : readSpecifier out.hasDest bytes = .ok (net, address, rest))
    (hsrc : readSpecifier out.hasSrc rest = .ok (snet, sadr, rest')) (offset : Nat) :
    ∃ dnet dadr dadrLength offset', net = (if out.hasDest then some dnet else none) ∧
      parseDestination offset bytes out =
        parseSource offset' rest
          { out with dnet := dnet, dadr := dadr, dadrLength := dadrLength } := by
  unfold readSpecifier at h
  unfold parseDestination
  split at h
  · rename_i hdest
    split at h
    · rename_i hi lo dlen bytes
      cases h
      simp only [if_pos hdest]
      split
      · rename_i hcut
        refine ⟨word16 hi lo, out.dadr, out.dadrLength, offset, by rw [word16_octets], ?_⟩
        rw [List.drop_eq_nil_of_le (by omega)] at hsrc ⊢
        have hnone : out.hasSrc = false := by
          cases hsome : out.hasSrc with
          | false => rfl
          | true =>
            rw [hsome] at hsrc
            cases hsrc
        simp [parseSource, hnone, parseHopCount, parsePayload]
      · exact ⟨word16 hi lo, _, _, _, by rw [word16_octets], rfl⟩
    · cases h
  · rename_i hdest
    cases h
    rw [if_neg hdest]
    exact ⟨out.dnet, out.dadr, out.dadrLength, offset, by rw [if_neg hdest], rfl⟩

/-- The octets both decoders take for the payload, with the type of a network layer message. -/
def Payload (f : Frame) (octets : List UInt8) : Prop :=
  match f.networkMessage with
  | none => f.payload = octets
  | some type => octets.head? = some type

theorem npdu_read {control version : UInt8} {f f' : Frame}
    (h : decodeNpduFrom control bytes f = .ok f') (hfresh : Fresh out)
    (hapdu : out.hasApdu = false ∧ out.segmented = false) (offset : Nat) :
    ∃ octets out', Routed f' out' ∧ Payload f' octets ∧
      parseNpdu offset (version :: control :: bytes) out = parsePayload octets out' := by
  unfold decodeNpduFrom at h
  cases hdest : readSpecifier (control &&& 0x20 != 0) bytes with
  | error e =>
    rw [hdest] at h
    cases h
  | ok read =>
    obtain ⟨dnet, dadr, bytes'⟩ := read
    rw [hdest] at h
    cases hsrc : readSpecifier (control &&& 0x08 != 0) bytes' with
    | error e =>
      simp only [bind, Except.bind, hsrc] at h
      cases h
    | ok read =>
      obtain ⟨snet, sadr, bytes''⟩ := read
      simp only [bind, Except.bind, hsrc] at h
      generalize hoctets : (if control &&& 0x20 != 0 then bytes''.drop 1 else bytes'') = octets at h
      cases hnetwork : readNetworkMessage (control &&& 0x80 != 0) octets with
      | error e =>
        rw [hnetwork] at h
        cases h
      | ok read =>
        obtain ⟨networkMessage, payload⟩ := read
        rw [hnetwork] at h
        cases h
        let flags : DecodedFrame := { out with
          hasNpdu := true
          npduVersion := version
          npduControl := control
          hasDest := control &&& 0x20 != 0
          hasSrc := control &&& 0x08 != 0
          isNetworkMessage := control &&& 0x80 != 0 }
        obtain ⟨n, dadrAt, dadrLength, offset', hdnet, hdestination⟩ :=
          parseDestination_read (show readSpecifier flags.hasDest bytes = _ from
            hdest) hsrc (offset + 2)
        have hsrc' : readSpecifier
            { flags with dnet := n, dadr := dadrAt, dadrLength := dadrLength }.hasSrc bytes' = _ :=
          hsrc
        obtain ⟨m, sadrAt, sadrLength, hsnet, hsource⟩ := parseSource_read hsrc' offset'
        refine ⟨octets,
          { flags with
            dnet := n, dadr := dadrAt, dadrLength := dadrLength
            snet := m, sadr := sadrAt, sadrLength := sadrLength },
          ⟨hfresh, hapdu, rfl, hdnet, hsnet, ?_⟩, ?_, ?_⟩
        · unfold readNetworkMessage at hnetwork
          split at hnetwork
          · rename_i hpresent
            split at hnetwork
            · cases hnetwork
            · cases hnetwork
              exact hpresent
          · rename_i hpresent
            cases hnetwork
            exact Bool.not_eq_true _ ▸ hpresent
        · unfold readNetworkMessage at hnetwork
          split at hnetwork
          · split at hnetwork
            · cases hnetwork
            · cases hnetwork
              rfl
          · cases hnetwork
            rfl
        · show parseDestination (offset + 2) bytes flags = _
          rw [hdestination, hsource, parseHopCount_drop, ← hoctets]

end

/-! ## The PDU -/

section
variable {out : DecodedFrame} {bytes : List UInt8} {b0 : UInt8}

theorem service_invokeId (h : Fresh { out with hasInvokeId := false })
    (hhas : out.hasInvokeId = true) (withProperty : List UInt8) (i : UInt8) :
    (parseService withProperty bytes out).reports (.invokeId i) ↔ out.invokeId = i := by
  obtain ⟨-, hservice, -, hobject, hindex⟩ := h
  have hextends : (parseService withProperty bytes out).reports (.invokeId out.invokeId) :=
    parseService_extends (by exact hservice) (by exact hobject) (by exact hindex) withProperty
      (.invokeId out.invokeId) rfl ⟨hhas, rfl⟩
  constructor
  · intro hreports
    exact hextends.2.symm.trans hreports.2
  · intro hi
    exact hi ▸ hextends

theorem service_choice (h : Fresh { out with hasInvokeId := false }) (withProperty : List UInt8)
    (p s : UInt8) :
    (parseService withProperty bytes out).reports (.service p s) ↔
    out.pduType = p ∧ bytes.head? = some s := by
  obtain ⟨-, hservice, -, hobject, hindex⟩ := h
  cases bytes with
  | nil =>
    simp [parseService, DecodedFrame.reports, show out.hasServiceChoice = false from hservice]
  | cons choice bytes =>
    have hextends : (parseService withProperty (choice :: bytes) out).reports
        (.service out.pduType choice) := by
      simp only [parseService]
      split
      · exact parseObjectAndProperty_extends (by exact hobject) (by exact hindex)
          _ rfl ⟨rfl, rfl, rfl⟩
      · exact ⟨rfl, rfl, rfl⟩
    constructor
    · intro hreports
      exact ⟨hextends.2.1.symm.trans hreports.2.1,
        congrArg some (hextends.2.2.symm.trans hreports.2.2)⟩
    · intro hboth
      obtain ⟨hp, hs⟩ := hboth
      obtain rfl : choice = s := Option.some.inj hs
      exact hp ▸ hextends

/-- What the service and the property leave alone. -/
theorem parseService_keeps {α : Type} (field : DecodedFrame → α) (hservice : ∀ d choice,
      field { d with hasServiceChoice := true, serviceChoice := choice } = field d)
    (hproperty : ∀ d objectType objectInstance propertyId, field { d with
      hasObjectProperty := true, objectType := objectType, objectInstance :=
        objectInstance, propertyId := propertyId } = field d)
    (hindex : ∀ d arrayIndex, field { d with hasArrayIndex := true, arrayIndex := arrayIndex } =
      field d) (withProperty : List UInt8) :
    field (parseService withProperty bytes out) = field out := by
  have harray : ∀ bytes (out : DecodedFrame), field (parseArrayIndex bytes out) = field out := by
    intro bytes out
    simp only [parseArrayIndex]
    repeat' split
    all_goals first | rfl | exact hindex _ _
  have hparse : ∀ objValue bytes (out : DecodedFrame),
      field (parseProperty objValue bytes out) = field out := by
    intro objValue bytes out
    simp only [parseProperty]
    repeat' split
    all_goals first | rfl | exact (harray _ _).trans (hproperty _ _ _ _)
  have hobject : ∀ bytes (out : DecodedFrame), field (parseObjectAndProperty bytes out) =
      field out := by
    intro bytes out
    simp only [parseObjectAndProperty]
    repeat' split
    all_goals first | rfl | exact hparse _ _ _
  simp only [parseService]
  repeat' split
  all_goals first | rfl | exact (hobject _ _).trans (hservice _ _) | exact hservice _ _

theorem parseService_segmented (withProperty : List UInt8) :
    (parseService withProperty bytes out).segmented = out.segmented :=
  parseService_keeps (·.segmented) (fun _ _ => rfl) (fun _ _ _ _ => rfl)
    (fun _ _ => rfl) withProperty

theorem parseService_pduType (withProperty : List UInt8) :
    (parseService withProperty bytes out).pduType = out.pduType :=
  parseService_keeps (·.pduType) (fun _ _ => rfl) (fun _ _ _ _ => rfl) (fun _ _ => rfl) withProperty

theorem parseService_hasApdu (withProperty : List UInt8) :
    (parseService withProperty bytes out).hasApdu = out.hasApdu :=
  parseService_keeps (·.hasApdu) (fun _ _ => rfl) (fun _ _ _ _ => rfl) (fun _ _ => rfl) withProperty

/-- An answer of two octets: one decoder wants the third before it takes the invoke id, the other
    does not. -/
def CutAnswer (f : Frame) : Prop :=
  f.payload.length = 2 ∧ ∃ p ∈ ([2, 5, 6, 7] : List UInt8), f.pduType = some p

theorem pduType_values (p : UInt8) : p = 0 ∨ p = 1 ∨ p = 2 ∨ p = 3 ∨ p = 5 ∨ p = 6 ∨ p = 7 ∨
    (p ∉ answerTypes ∧ p ≠ 0 ∧ p ≠ 1 ∧ p.toNat ∉ [0, 1, 2, 3, 5, 6, 7]) := by
  by_cases h : p ∈ ([0, 1, 2, 3, 5, 6, 7] : List UInt8)
  · simp at h
    tauto
  · have hvalues : ∀ q ∈ ([0, 1, 2, 3, 5, 6, 7] : List UInt8), p.toNat ≠ q.toNat :=
      fun q hq heq => h (UInt8.toNat_inj.mp heq ▸ hq)
    simp [answerTypes] at h hvalues ⊢
    tauto

theorem shift_mask {p : UInt8} (hp : b0 >>> 4 = p) : (b0 >>> 4 &&& 0x0F : UInt8) = p :=
  (shiftRight_mask b0).trans hp

theorem parseApdu_other {p : UInt8} (hp : b0 >>> 4 = p) (h : p.toNat ∉ [0, 1, 2, 3, 5, 6, 7]) :
    parseApdu b0 bytes out = { out with hasApdu := true, pduType := p } := by
  simp only [parseApdu, shift_mask hp]
  split <;> simp_all

/-- The PDU type is read from the first octet of any APDU, wherever it is cut off. -/
theorem parseApdu_pduType (b0 : UInt8) (bytes : List UInt8) (out : DecodedFrame) :
    (parseApdu b0 bytes out).hasApdu = true ∧ (parseApdu b0 bytes out).pduType = b0 >>> 4 := by
  generalize hp : b0 >>> 4 = p
  rcases pduType_values p with rfl | rfl | rfl | rfl | rfl | rfl | rfl | ⟨-, -, -, hother⟩
  · simp only [parseApdu, shift_mask hp]
    rcases bytes with _ | ⟨b1, _ | ⟨invokeId, rest⟩⟩
    · exact ⟨rfl, rfl⟩
    · exact ⟨rfl, rfl⟩
    · exact ⟨parseService_hasApdu _, parseService_pduType _⟩
  · simp only [parseApdu, shift_mask hp]
    cases bytes <;> exact ⟨rfl, rfl⟩
  · simp only [parseApdu, shift_mask hp]
    rcases bytes with _ | ⟨invokeId, _ | ⟨choice, rest⟩⟩ <;> exact ⟨rfl, rfl⟩
  · simp only [parseApdu, shift_mask hp]
    cases bytes with
    | nil => exact ⟨rfl, rfl⟩
    | cons invokeId rest => exact ⟨parseService_hasApdu _, parseService_pduType _⟩
  · simp only [parseApdu, shift_mask hp]
    rcases bytes with _ | ⟨invokeId, _ | ⟨choice, rest⟩⟩ <;> exact ⟨rfl, rfl⟩
  · simp only [parseApdu, shift_mask hp]
    rcases bytes with _ | ⟨invokeId, _ | ⟨reason, rest⟩⟩ <;> exact ⟨rfl, rfl⟩
  · simp only [parseApdu, shift_mask hp]
    rcases bytes with _ | ⟨invokeId, _ | ⟨reason, rest⟩⟩ <;> exact ⟨rfl, rfl⟩
  · rw [parseApdu_other hp hother]
    exact ⟨rfl, rfl⟩

theorem apdu_invokeId {f : Frame} (hnetwork : f.networkMessage = none)
    (hpayload : f.payload = b0 :: bytes) (hfresh : Fresh out)
    (hwhole : ¬CutAnswer f) (i : UInt8) : (parseApdu b0 bytes out).reports (.invokeId i) ↔
      f.invokeId = .ok (some i) := by
  have htype : f.pduType = some (b0 >>> 4) := by simp [Frame.pduType, hnetwork, hpayload]
  have hno : ∀ type segmented,
      ¬ DecodedFrame.reports
        { out with hasApdu := true, pduType := type, segmented := segmented } (.invokeId i) := by
    intro type segmented hreports
    exact absurd (hfresh.1.symm.trans hreports.1) (by decide)
  simp only [CutAnswer, htype, hpayload] at hwhole
  simp only [Frame.invokeId, htype, hpayload]
  generalize hp : b0 >>> 4 = p at hwhole ⊢
  rcases pduType_values p with rfl | rfl | rfl | rfl | rfl | rfl | rfl | ⟨hanswer, hzero, -, hother⟩
  · simp only [parseApdu, shift_mask hp]
    rcases bytes with _ | ⟨b1, _ | ⟨invokeId, rest⟩⟩
    · simpa [parseConfirmedRequest, answerTypes] using hno 0 _
    · simpa [parseConfirmedRequest, answerTypes] using hno 0 _
    · show (parseService _ _ _).reports _ ↔ _
      rw [service_invokeId (by exact ⟨rfl, hfresh.2⟩) rfl]
      simp [answerTypes]
  · simp only [parseApdu, shift_mask hp]
    cases bytes with
    | nil => simpa [parseUnconfirmedRequest, answerTypes] using hno 1 out.segmented
    | cons choice rest =>
      simp [parseUnconfirmedRequest, answerTypes, DecodedFrame.reports, hfresh.1]
  · simp only [parseApdu, shift_mask hp]
    rcases bytes with _ | ⟨invokeId, _ | ⟨choice, rest⟩⟩
    · simpa [parseInvokeAndService, answerTypes, octetAt, Except.map] using hno 2 out.segmented
    · exact absurd ⟨rfl, 2, by decide, rfl⟩ hwhole
    · simp [parseInvokeAndService, answerTypes, octetAt, Except.map, DecodedFrame.reports]
  · simp only [parseApdu, shift_mask hp]
    cases bytes with
    | nil => simpa [parseComplexAck, answerTypes, octetAt, Except.map] using hno 3 _
    | cons invokeId rest =>
      show (parseService _ _ _).reports _ ↔ _
      rw [service_invokeId (by exact ⟨rfl, hfresh.2⟩) rfl]
      simp [answerTypes, octetAt, Except.map]
  · simp only [parseApdu, shift_mask hp]
    rcases bytes with _ | ⟨invokeId, _ | ⟨choice, rest⟩⟩
    · simpa [parseInvokeAndService, answerTypes, octetAt, Except.map] using hno 5 out.segmented
    · exact absurd ⟨rfl, 5, by decide, rfl⟩ hwhole
    · simp [parseInvokeAndService, answerTypes, octetAt, Except.map, DecodedFrame.reports]
  · simp only [parseApdu, shift_mask hp]
    rcases bytes with _ | ⟨invokeId, _ | ⟨reason, rest⟩⟩
    · simpa [parseInvokeAndReason, answerTypes, octetAt, Except.map] using hno 6 out.segmented
    · exact absurd ⟨rfl, 6, by decide, rfl⟩ hwhole
    · simp [parseInvokeAndReason, answerTypes, octetAt, Except.map, DecodedFrame.reports]
  · simp only [parseApdu, shift_mask hp]
    rcases bytes with _ | ⟨invokeId, _ | ⟨reason, rest⟩⟩
    · simpa [parseInvokeAndReason, answerTypes, octetAt, Except.map] using hno 7 out.segmented
    · exact absurd ⟨rfl, 7, by decide, rfl⟩ hwhole
    · simp [parseInvokeAndReason, answerTypes, octetAt, Except.map, DecodedFrame.reports]
  · rw [parseApdu_other hp hother, if_neg hanswer, if_neg hzero]
    simpa using hno p out.segmented

/-- The service of a segmented PDU is behind two more octets, for the frame log only. -/
theorem apdu_service {f : Frame} (hnetwork : f.networkMessage = none)
    (hpayload : f.payload = b0 :: bytes) (hfresh : Fresh out)
    (hwhole : (parseApdu b0 bytes out).segmented = false) (p s : UInt8) :
    (parseApdu b0 bytes out).reports (.service p s) ↔ f.pduType = some p ∧
    f.service = .ok (some s) := by
  have htype : f.pduType = some (b0 >>> 4) := by simp [Frame.pduType, hnetwork, hpayload]
  have hno : ∀ type segmented,
      ¬ DecodedFrame.reports
        { out with hasApdu := true, pduType := type, segmented := segmented } (.service p s) := by
    intro type segmented hreports
    exact absurd (hfresh.2.1.symm.trans hreports.1) (by decide)
  simp only [Frame.service, htype, hpayload, Option.some.injEq]
  generalize hp : b0 >>> 4 = type at *
  rcases pduType_values type with rfl | rfl | rfl | rfl | rfl | rfl | rfl |
    ⟨hanswer, hzero, hone, hother⟩
  · simp only [parseApdu, shift_mask hp] at hwhole ⊢
    rcases bytes with _ | ⟨b1, _ | ⟨invokeId, rest⟩⟩
    · simpa [parseConfirmedRequest] using hno 0 _
    · simpa [parseConfirmedRequest] using hno 0 _
    · have hsegmented : (parseService _ _ _).segmented = false := hwhole
      rw [parseService_segmented] at hsegmented
      have hsegmented : (b0 &&& 0x08 != 0) = false := hsegmented
      show (parseService _ _ _).reports _ ↔ _
      rw [service_choice (by exact ⟨rfl, hfresh.2⟩), hsegmented]
      cases rest <;> simp
  · simp only [parseApdu, shift_mask hp]
    cases bytes with
    | nil => simpa [parseUnconfirmedRequest] using hno 1 out.segmented
    | cons choice rest => simp [parseUnconfirmedRequest, DecodedFrame.reports]
  · simp only [parseApdu, shift_mask hp]
    rcases bytes with _ | ⟨invokeId, _ | ⟨choice, rest⟩⟩
    · simpa [parseInvokeAndService, octetAt, Except.map] using hno 2 out.segmented
    · simpa [parseInvokeAndService, octetAt, Except.map] using hno 2 out.segmented
    · simp [parseInvokeAndService, octetAt, Except.map, DecodedFrame.reports]
  · simp only [parseApdu, shift_mask hp] at hwhole ⊢
    cases bytes with
    | nil => simpa [parseComplexAck, octetAt, Except.map] using hno 3 _
    | cons invokeId rest =>
      have hsegmented : (parseService _ _ _).segmented = false := hwhole
      rw [parseService_segmented] at hsegmented
      have hsegmented : (b0 &&& 0x08 != 0) = false := hsegmented
      show (parseService _ _ _).reports _ ↔ _
      rw [service_choice (by exact ⟨rfl, hfresh.2⟩), hsegmented]
      cases rest <;> simp [octetAt, Except.map]
  · simp only [parseApdu, shift_mask hp]
    rcases bytes with _ | ⟨invokeId, _ | ⟨choice, rest⟩⟩
    · simpa [parseInvokeAndService, octetAt, Except.map] using hno 5 out.segmented
    · simpa [parseInvokeAndService, octetAt, Except.map] using hno 5 out.segmented
    · simp [parseInvokeAndService, octetAt, Except.map, DecodedFrame.reports]
  · simp only [parseApdu, shift_mask hp]
    rcases bytes with _ | ⟨invokeId, _ | ⟨reason, rest⟩⟩
    · simpa [parseInvokeAndReason] using hno 6 out.segmented
    · simpa [parseInvokeAndReason] using hno 6 out.segmented
    · simp [parseInvokeAndReason, DecodedFrame.reports, hfresh.2.1]
  · simp only [parseApdu, shift_mask hp]
    rcases bytes with _ | ⟨invokeId, _ | ⟨reason, rest⟩⟩
    · simpa [parseInvokeAndReason] using hno 7 out.segmented
    · simpa [parseInvokeAndReason] using hno 7 out.segmented
    · simp [parseInvokeAndReason, DecodedFrame.reports, hfresh.2.1]
  · have hanswer : type ∉ ([2, 3, 5] : List UInt8) :=
      fun h => hanswer (by simp [answerTypes] at h ⊢; tauto)
    rw [parseApdu_other hp hother, if_neg hanswer, if_neg hzero, if_neg hone]
    simpa using hno type out.segmented

end

/-! ## Both decoders -/

section
variable {data : List UInt8} {f : Frame}

theorem npduOctets_read {octets : List UInt8} {f' : Frame} (h : decodeNpduOctets octets f = .ok f')
    (hnone : f.hasNpdu = false)
    (hnpdu : f'.hasNpdu = true) {out : DecodedFrame} (hfresh : Fresh out)
    (hapdu : out.hasApdu = false ∧ out.segmented = false) (offset : Nat) :
    ∃ octets' out', Routed f' out' ∧ Payload f' octets' ∧
      parseNpdu offset octets out = parsePayload octets' out' := by
  have hno : f ≠ f' := by
    intro heq
    rw [← heq, hnone] at hnpdu
    cases hnpdu
  rcases octets with _ | ⟨version, _ | ⟨control, bytes⟩⟩
  · exact absurd (Except.ok.inj h) hno
  · exact absurd (Except.ok.inj h) hno
  · simp only [decodeNpduOctets] at h
    split at h
    · exact npdu_read h hfresh hapdu offset
    · exact absurd (Except.ok.inj h) hno

theorem decodeNpduOctets_function {octets : List UInt8} {f' : Frame}
    (h : decodeNpduOctets octets f = .ok f') : f'.bvlcFunction = f.bvlcFunction := by
  rcases octets with _ | ⟨version, _ | ⟨control, bytes⟩⟩
  · cases h
    rfl
  · cases h
    rfl
  · simp only [decodeNpduOctets] at h
    split at h
    · unfold decodeNpduFrom at h
      cases hdest : readSpecifier (control &&& 0x20 != 0) bytes with
      | error e => simp [hdest, bind, Except.bind] at h
      | ok read =>
        cases hsrc : readSpecifier (control &&& 0x08 != 0) read.2.2 with
        | error e => simp [hdest, hsrc, bind, Except.bind] at h
        | ok read' =>
          simp only [hdest, hsrc, bind, Except.bind] at h
          split at h
          · cases h
          · cases h
            rfl
    · cases h
      rfl

/-- Where an NPDU was read, the frame log has read the same header and goes on with the same
    octets. -/
theorem decode_routed (h : decode data = .ok f) (hnpdu : f.hasNpdu = true)
    (hfunction : f.bvlcFunction ≠ some 0x09) :
    ∃ octets out, Routed f out ∧ Payload f octets ∧
      parseBacnetFrame data = parsePayload octets out := by
  rcases data with _ | ⟨b0, _ | ⟨function, _ | ⟨b2, _ | ⟨b3, bvllData⟩⟩⟩⟩
  · cases h
    cases hnpdu
  · cases h
    cases hnpdu
  · cases h
    cases hnpdu
  · cases h
    cases hnpdu
  · simp only [decode, parseBacnetFrame] at h ⊢
    split at h
    · cases h
      cases hnpdu
    · rename_i htype
      rw [if_neg htype]
      have hfresh : Fresh { bacnetIp := true, bvlcFunction := function } :=
        ⟨rfl, rfl, rfl, rfl, rfl⟩
      split at h
      · rename_i hforwarded
        simp only [hforwarded]
        exact npduOctets_read h rfl hnpdu hfresh ⟨rfl, rfl⟩ 10
      · rename_i hdistribute
        have hkept := decodeNpduOctets_function h
        exact absurd
          (hkept.trans (congrArg some (UInt8.toNat_inj.mp hdistribute : function = 0x09))) hfunction
      · rename_i hunicast
        simp only [hunicast]
        exact npduOctets_read h rfl hnpdu hfresh ⟨rfl, rfl⟩ 4
      · rename_i hbroadcast
        simp only [hbroadcast]
        exact npduOctets_read h rfl hnpdu hfresh ⟨rfl, rfl⟩ 4
      · cases h
        cases hnpdu

theorem network_none {out : DecodedFrame} (hrouted : Routed f out) (h : f.networkMessage = none) :
    out.isNetworkMessage = false := by
  rw [hrouted.network, h]
  rfl

/-- There is an APDU for both decoders, or for neither. -/
theorem payload_pdu {octets : List UInt8} {out : DecodedFrame} (hrouted : Routed f out)
    (hpayload : Payload f octets) :
    (∃ b0 bytes, f.networkMessage = none ∧ f.payload = b0 :: bytes ∧
      parsePayload octets out = parseApdu b0 bytes out) ∨
      (f.pduType = none ∧ Fresh (parsePayload octets out) ∧
        (parsePayload octets out).hasApdu = false) := by
  unfold Payload at hpayload
  cases hmessage : f.networkMessage with
  | none =>
    rw [hmessage] at hpayload
    obtain rfl : f.payload = octets := hpayload
    cases hoctets : f.payload with
    | nil => exact .inr ⟨by simp [Frame.pduType, hmessage, hoctets], hrouted.fresh, hrouted.apdu.1⟩
    | cons b0 bytes =>
      refine .inl ⟨b0, bytes, rfl, rfl, ?_⟩
      rw [parsePayload, network_none hrouted hmessage]
      rfl
  | some t =>
    have hnetwork : out.isNetworkMessage = true := by
      rw [hrouted.network, hmessage]
      rfl
    refine .inr ⟨by simp [Frame.pduType, hmessage], ?_⟩
    cases octets with
    | nil => exact ⟨hrouted.fresh, hrouted.apdu.1⟩
    | cons b0 bytes =>
      rw [parsePayload, if_pos hnetwork]
      exact ⟨hrouted.fresh, hrouted.apdu.1⟩

/-- On every datagram whose NPDU the tests' decoder reads, the frame log has the same routing, the
    same network layer message, an APDU of the same type or none, and the same invoke id and
    service of it. Left out are the invoke id in an answer of two octets, and the service of a
    segmented PDU. -/
theorem decoders_agree (h : decode data = .ok f) (hnpdu : f.hasNpdu = true)
    (hfunction : f.bvlcFunction ≠ some 0x09) :
    ∃ d, decodeBacnetFrame data = .ok d ∧ d.hasNpdu = true ∧
      (∀ dnet, d.reports (.destination dnet) ↔ f.dnet = some dnet) ∧
      (∀ snet, d.reports (.source snet) ↔ f.snet = some snet) ∧
      (∀ type, d.reports (.networkMessage type) ↔ f.networkMessage = some type) ∧
      (∀ pduType, (d.hasApdu = true ∧ d.pduType = pduType) ↔ f.pduType = some pduType) ∧
      (¬CutAnswer f → ∀ invokeId, d.reports (.invokeId invokeId) ↔
        f.invokeId = .ok (some invokeId)) ∧
      (d.segmented = false → ∀ pduType service,
        d.reports (.service pduType service) ↔ f.pduType = some pduType ∧
        f.service = .ok (some service)) := by
  obtain ⟨octets, out, hrouted, hpayload, hparse⟩ := decode_routed h hnpdu hfunction
  have hheader := parsePayload_header octets out
  refine ⟨_, decodeBacnetFrame_eq data, ?_⟩
  rw [hparse]
  have hkeep {α : Type} (field : DecodedFrame → α)
      (hfield : ∀ d : DecodedFrame, field d.header = field d) :
      field (parsePayload octets out) = field out := by
    rw [← hfield, hheader, hfield]
  refine ⟨(hkeep (·.hasNpdu) fun _ => rfl).trans hrouted.npdu, fun dnet => ?_, fun snet => ?_,
    fun type => ?_, fun pduType => ?_, fun hwhole i => ?_, fun hwhole p s => ?_⟩
  · show (parsePayload octets out).hasDest = true ∧ (parsePayload octets out).dnet = dnet ↔ _
    rw [hkeep (·.hasDest) fun _ => rfl, hkeep (·.dnet) fun _ => rfl, hrouted.dest]
    cases out.hasDest <;> simp
  · show (parsePayload octets out).hasSrc = true ∧ (parsePayload octets out).snet = snet ↔ _
    rw [hkeep (·.hasSrc) fun _ => rfl, hkeep (·.snet) fun _ => rfl, hrouted.src]
    cases out.hasSrc <;> simp
  · show (parsePayload octets out).isNetworkMessage = true ∧
      (parsePayload octets out).networkMessageType = type ↔ _
    rw [hkeep (·.isNetworkMessage) fun _ => rfl, hrouted.network]
    unfold Payload at hpayload
    cases hmessage : f.networkMessage with
    | none => simp
    | some t =>
      rw [hmessage] at hpayload
      cases octets with
      | nil => cases hpayload
      | cons b0 bytes =>
        obtain rfl : b0 = t := Option.some.inj hpayload
        have hnetwork : out.isNetworkMessage = true := by rw [hrouted.network, hmessage]; rfl
        simp [parsePayload, hnetwork]
  · rcases payload_pdu hrouted hpayload with
      ⟨b0, bytes, hmessage, hoctets, happarse⟩ | ⟨htype, -, hapdu⟩
    · obtain ⟨hhas, htype⟩ := parseApdu_pduType b0 bytes out
      rw [happarse, hhas, htype,
        show f.pduType = some (b0 >>> 4) by simp [Frame.pduType, hmessage, hoctets]]
      simp
    · rw [hapdu, htype]
      simp
  · rcases payload_pdu hrouted hpayload with
      ⟨b0, bytes, hmessage, hoctets, happarse⟩ | ⟨htype, hfresh, -⟩
    · rw [happarse]
      exact apdu_invokeId hmessage hoctets hrouted.fresh hwhole i
    · simp [Frame.invokeId, htype, DecodedFrame.reports, hfresh.1]
  · rcases payload_pdu hrouted hpayload with
      ⟨b0, bytes, hmessage, hoctets, happarse⟩ | ⟨htype, hfresh, -⟩
    · rw [happarse] at hwhole ⊢
      exact apdu_service hmessage hoctets hrouted.fresh hwhole p s
    · simp [Frame.service, htype, DecodedFrame.reports, hfresh.2.1]

/-- An Error from a network behind a router, in a Forwarded-NPDU. -/
def forwardedError : List UInt8 :=
  [0x81, 0x04, 0, 0, 10, 0, 0, 2, 0xBA, 0xC0, 0x01, 0x08, 0x00, 0x64, 0x01, 0x05, 0x50, 0x07, 0x0F,
    0x91, 0x02, 0x91, 0x20]

/-- A Reject cut off behind its invoke id. -/
def cutReject : List UInt8 := [0x81, 0x0A, 0, 0, 0x01, 0x00, 0x60, 0x07]

/-- Its source and its invoke id are read alike; and of a Reject that is cut off, the type. -/
theorem decoders_agree_error :
    (∃ f d, decode forwardedError = .ok f ∧ decodeBacnetFrame forwardedError = .ok d ∧
      (d.reports (.source 100) ↔ f.snet = some 100) ∧
      (d.reports (.invokeId 7) ↔ f.invokeId = .ok (some 7))) ∧
    ∃ f d, decode cutReject = .ok f ∧ decodeBacnetFrame cutReject = .ok d ∧
      ((d.hasApdu = true ∧ d.pduType = 6) ↔ f.pduType = some 6) := by
  obtain ⟨d, hd, -, -, hsource, -, -, hinvokeId, -⟩ :=
    @decoders_agree forwardedError _ rfl rfl (by decide)
  obtain ⟨d', hd', -, -, -, -, hpdu, -⟩ := @decoders_agree cutReject _ rfl rfl (by decide)
  refine ⟨⟨_, d, rfl, hd, hsource 100, hinvokeId (fun hcut => absurd hcut.1 (by decide)) 7⟩, _, d',
    rfl, hd', hpdu 6⟩

theorem parseWriteProperty_fields {apdu rest rest' : List UInt8} {tag tag' : Tag} {raw : Nat}
    {r : WriteRequest}
    (hobject : readTag (apdu.drop 4) = .ok (tag, rest)) (hraw : unpackI tag.body = .ok raw)
    (hproperty : readTag rest = .ok (tag', rest'))
    (h : parseWritePropertyRequest apdu = .ok (some r)) :
    r.toReadRequest = ⟨raw >>> 22, raw &&& 0x3FFFFF, ofOctets tag'.body⟩ ∧
    ∃ position, readArrayIndex rest' = .ok (r.arrayIndex, position) := by
  have hcatch : ∀ p : Python (Option WriteRequest), catching p = .ok (some r) →
      p = .ok (some r) := by
    intro p hp
    rcases p with (_ | _ | _) | _
    · cases hp
    · cases hp
    · cases hp
    · exact hp
  have h := hcatch _ h
  simp only [hobject, hraw, hproperty, bind, Except.bind, pure, Except.pure] at h
  split at h
  · cases h
  split at h
  · cases h
  split at h
  · cases h
  split at h
  · cases h
  split at h
  · cases h
  rename_i hindex
  split at h
  · cases h
  split at h
  · cases h
  split at h
  · cases h
  cases h
  exact ⟨rfl, _, hindex⟩

/-- The object and property of a request, where the frame log names them. -/
theorem requestProperty_read {b0 : UInt8} {bytes : List UInt8} {out : DecodedFrame}
    (hfresh : Fresh out) (hwhole : (parseApdu b0 bytes out).segmented = false)
    (htype : (parseApdu b0 bytes out).pduType = 0) {objectType objectInstance propertyId : Nat}
    (h : (parseApdu b0 bytes out).reports (.objectProperty objectType objectInstance propertyId)) :
    ∃ tag rest raw tag' rest', readTag ((b0 :: bytes).drop 4) = .ok (tag, rest) ∧
      unpackI tag.body = .ok raw ∧ raw >>> 22 = objectType ∧
      raw &&& 0x3FFFFF = objectInstance ∧ readTag rest = .ok (tag', rest') ∧
      ofOctets tag'.body = propertyId ∧
      ∀ arrayIndex, (parseApdu b0 bytes out).reports (.arrayIndex arrayIndex) →
        ∃ body rest'', readTag rest' = .ok (⟨2, true, .value, body⟩, rest'') ∧
          ofOctets body = arrayIndex := by
  have hno : out.hasObjectProperty ≠ true := by
    rw [hfresh.2.2.2.1]
    decide
  generalize hp : b0 >>> 4 = p
  rcases pduType_values p with rfl | rfl | rfl | rfl | rfl | rfl | rfl | ⟨-, -, -, hother⟩
  · simp only [parseApdu, shift_mask hp] at hwhole h ⊢
    rcases bytes with _ | ⟨b1, _ | ⟨invokeId, rest⟩⟩
    · exact absurd h.1 hno
    · exact absurd h.1 hno
    · have hsegmented : (parseService _ _ _).segmented = false := hwhole
      rw [parseService_segmented] at hsegmented
      have hsegmented : (b0 &&& 0x08 != 0) = false := hsegmented
      simp only [parseConfirmedRequest] at h ⊢
      rw [hsegmented] at h ⊢
      cases rest with
      | nil => exact absurd h.1 hno
      | cons choice rest =>
        by_cases hchoice : choice ∈ ([12, 15] : List UInt8)
        · simp only [if_neg Bool.false_ne_true, List.drop_zero, parseService, if_pos hchoice] at h ⊢
          exact objectAndProperty_read (by exact hfresh.2.2.2.1) (by exact hfresh.2.2.2.2) h
        · simp only [if_neg Bool.false_ne_true, List.drop_zero, parseService, if_neg hchoice] at h
          exact absurd h.1 hno
  · simp only [parseApdu, shift_mask hp] at h
    cases bytes <;> exact absurd h.1 hno
  · simp only [parseApdu, shift_mask hp] at h
    rcases bytes with _ | ⟨invokeId, _ | ⟨choice, rest⟩⟩ <;> exact absurd h.1 hno
  · simp only [parseApdu, shift_mask hp] at htype
    cases bytes with
    | nil => cases htype
    | cons invokeId rest =>
      have htype : (parseService _ _ _).pduType = 0 := htype
      rw [parseService_pduType] at htype
      cases htype
  · simp only [parseApdu, shift_mask hp] at h
    rcases bytes with _ | ⟨invokeId, _ | ⟨choice, rest⟩⟩ <;> exact absurd h.1 hno
  · simp only [parseApdu, shift_mask hp] at h
    rcases bytes with _ | ⟨invokeId, _ | ⟨reason, rest⟩⟩ <;> exact absurd h.1 hno
  · simp only [parseApdu, shift_mask hp] at h
    rcases bytes with _ | ⟨invokeId, _ | ⟨reason, rest⟩⟩ <;> exact absurd h.1 hno
  · rw [parseApdu_other hp hother] at h
    exact absurd h.1 hno

/-- And of a request the same object, property and array index: what the log names is what the
    parsers of requests give, of every request that they take apart. -/
theorem requests_agree {d : DecodedFrame} (h : decode data = .ok f) (hnpdu : f.hasNpdu = true)
    (hfunction : f.bvlcFunction ≠ some 0x09)
    (hlog : decodeBacnetFrame data = .ok d) (htype : d.pduType = 0) (hwhole : d.segmented = false)
    {objectType objectInstance propertyId : Nat}
    (hreports : d.reports (.objectProperty objectType objectInstance propertyId)) :
    parseReadPropertyRequest f.payload = .ok (some ⟨objectType, objectInstance, propertyId⟩) ∧
      ∀ r, parseWritePropertyRequest f.payload = .ok (some r) →
        r.toReadRequest = ⟨objectType, objectInstance, propertyId⟩ ∧
          ∀ arrayIndex, d.reports (.arrayIndex arrayIndex) → r.arrayIndex = some arrayIndex := by
  obtain ⟨octets, out, hrouted, hpayload, hparse⟩ := decode_routed h hnpdu hfunction
  obtain rfl : parseBacnetFrame data = d :=
    Except.ok.inj ((decodeBacnetFrame_eq data).symm.trans hlog)
  rw [hparse] at htype hwhole hreports ⊢
  rcases payload_pdu hrouted hpayload with ⟨b0, bytes, -, hoctets, happarse⟩ | ⟨-, hfresh, -⟩
  · rw [happarse] at htype hwhole hreports ⊢
    obtain ⟨tag, rest, raw, tag', rest', hobject, hraw, hrawType, hrawInstance, hproperty,
        hid, harray⟩ :=
      requestProperty_read hrouted.fresh hwhole htype hreports
    rw [hoctets]
    subst hrawType hrawInstance hid
    refine ⟨?_, fun r hr => ?_⟩
    · simp only [parseReadPropertyRequest, hobject, hraw, hproperty, bind, Except.bind, pure,
        Except.pure, catching]
    · obtain ⟨hrequest, position, hindex⟩ := parseWriteProperty_fields hobject hraw hproperty hr
      refine ⟨hrequest, fun arrayIndex hreported => ?_⟩
      obtain ⟨body, rest'', hread, rfl⟩ := harray arrayIndex hreported
      simp only [readArrayIndex, hread, bind, Except.bind, pure, Except.pure] at hindex
      exact (congrArg Prod.fst (Except.ok.inj hindex)).symm
  · exact absurd (hfresh.2.2.2.1.symm.trans hreports.1) (by decide)

/-- A command of an array element, through a router. -/
def elementCommand : List UInt8 :=
  [0x81, 0x0A, 0, 0, 0x01, 0x24, 0x00, 0x64, 0x01, 0x05, 0xFF, 0x00, 0x05, 0x07, 0x0F, 0x0C, 0x00,
    0x80, 0x00, 0x03, 0x19, 0x55, 0x29, 0x02, 0x3E, 0x44, 0x42, 0xC8, 0x00, 0x00, 0x3F, 0x49, 0x08]

/-- Both parsers of requests give what the log names of it. -/
theorem requests_agree_write :
    ∃ f d, decode elementCommand = .ok f ∧ decodeBacnetFrame elementCommand = .ok d ∧
      parseReadPropertyRequest f.payload = .ok (some ⟨2, 3, 85⟩) ∧
      ∃ r, parseWritePropertyRequest f.payload = .ok (some r) ∧ r.toReadRequest = ⟨2, 3, 85⟩ ∧
        r.arrayIndex = some 2 := by
  obtain ⟨hread, hwrite⟩ :=
      @requests_agree elementCommand _ _ rfl rfl (by decide) (decodeBacnetFrame_eq _) rfl rfl 2 3 85
    ⟨rfl, rfl, rfl, rfl⟩
  obtain ⟨hrequest, hindex⟩ := hwrite _ rfl
  exact ⟨_, _, rfl, decodeBacnetFrame_eq _, hread, _, rfl, hrequest, hindex 2 ⟨rfl, rfl⟩⟩

end

/-! ## What the encoders write -/

theorem npduControl_expecting (networkMessage dnet snet : Option Nat) (expectingReply : Bool) :
    ((npduControl networkMessage dnet snet expectingReply).toUInt8 &&& 0x04 != 0) =
      expectingReply := by
  unfold npduControl
  cases networkMessage.isSome <;> cases dnet.isSome <;> cases snet.isSome
    <;> cases expectingReply <;> decide

theorem readSpecifier_written {address : Option Address} {octets : List UInt8}
    (h : Written address octets) (rest : List UInt8) :
    readSpecifier address.isSome (octets ++ rest) =
      .ok (address.map Address.net, (address.map Address.mac).getD [], rest) := by
  cases address with
  | none =>
    obtain rfl : octets = [] := h
    rfl
  | some a =>
    obtain ⟨hi, lo, hnet, rfl⟩ := h
    have hlength : a.mac.length.toUInt8.toNat = a.mac.length := by
      rw [Nat.toUInt8, UInt8.toNat_ofNat', Nat.mod_eq_of_lt (Nat.lt_succ_of_le a.mac_le)]
    rw [word16_octets] at hnet
    simp only [readSpecifier, Option.isSome_some, if_true, List.cons_append, hlength, hnet]
    simp

theorem hopCount_written (dest : Option Address) (hopCount : UInt8) :
    ∃ octets, (Frames.optional (dest.map Address.net) fun _ => do return [← byte hopCount.toNat]) =
      some octets ∧
      ∀ rest, (if dest.isSome then (octets ++ rest).drop 1 else octets ++ rest) = rest := by
  cases dest with
  | none => exact ⟨[], rfl, fun rest => rfl⟩
  | some a =>
    refine ⟨[hopCount], ?_, fun rest => rfl⟩
    show (do return [← byte hopCount.toNat]) = _
    rw [byte_ok hopCount.toNat_lt]
    simp

/-- What a frame decodes to that carries an APDU. -/
def carrying (payload : List UInt8) (dest src : Option Address) (expectingReply : Bool)
    (f : Frame) : Frame := { f with
  hasNpdu := true
  expectingReply := expectingReply
  dnet := dest.map Address.net
  dadr := (dest.map Address.mac).getD []
  snet := src.map Address.net
  sadr := (src.map Address.mac).getD []
  networkMessage := none
  payload := payload
  ok := true }

theorem npdu_written (payload : List UInt8) (dest src : Option Address) (expectingReply : Bool)
    (hopCount : UInt8) :
    ∃ octets,
      npdu payload none (dest.map Address.net) ((dest.map Address.mac).getD [])
        (src.map Address.net) ((src.map Address.mac).getD [])
        expectingReply hopCount.toNat = some octets ∧
      ∀ f, decodeNpduOctets octets f = .ok (carrying payload dest src expectingReply f) := by
  obtain ⟨destOctets, hdest, hdestWritten⟩ := specifier_written dest
  obtain ⟨srcOctets, hsrc, hsrcWritten⟩ := specifier_written src
  obtain ⟨hop, hhop, hdrop⟩ := hopCount_written dest hopCount
  obtain ⟨hbyte, hdestBit, hsrcBit, hmessageBit⟩ :=
    npduControl_bits none (dest.map Address.net) (src.map Address.net) expectingReply
  have hexpecting :=
    npduControl_expecting none (dest.map Address.net) (src.map Address.net) expectingReply
  rw [Option.isSome_map] at hdestBit hsrcBit
  generalize hcontrol : (npduControl none (dest.map Address.net) (src.map Address.net)
    expectingReply).toUInt8 = control at *
  refine ⟨0x01 :: control :: (destOctets ++ (srcOctets ++ (hop ++ payload))), ?_, fun f => ?_⟩
  · unfold npdu
    rw [byte_ok hbyte, hdest, hsrc, hhop, hcontrol]
    simp [Frames.optional, byte]
  · simp only [decodeNpduOctets, if_true, decodeNpduFrom, hdestBit, hsrcBit, hmessageBit,
      hexpecting, readSpecifier_written hdestWritten,
      readSpecifier_written hsrcWritten, hdrop, bind, Except.bind, readNetworkMessage]
    rfl

theorem bvll_some {function : Nat} (hfunction : function < 256) {body data : List UInt8}
    (h : bvll function body = some data) :
    ∃ hi lo, data = 0x81 :: function.toUInt8 :: hi :: lo :: body := by
  by_cases hlength : 4 + body.length < 2 ^ 16
  · obtain ⟨hi, lo, hdata⟩ := bvll_octets hfunction hlength
    exact ⟨hi, lo, Option.some.inj (h.symm.trans hdata)⟩
  · have hpack : packH (4 + body.length) = none := if_neg hlength
    unfold bvll at h
    rw [byte_ok hfunction, hpack] at h
    simp at h

/-- An APDU that is routed and wrapped in any way is decoded to itself. -/
theorem frame_written (payload : List UInt8) (dest src : Option Address) (expectingReply : Bool)
    (hopCount : UInt8) :
    ∃ octets,
      npdu payload none (dest.map Address.net) ((dest.map Address.mac).getD [])
        (src.map Address.net) ((src.map Address.mac).getD [])
        expectingReply hopCount.toNat = some octets ∧
      ∀ link data, Link.InRange link → link.wrap octets = some data →
        ∃ f, decode data = .ok (carrying payload dest src expectingReply f) ∧
          f.bvlcFunction = some link.function := by
  obtain ⟨octets, hoctets, hdecode⟩ := npdu_written payload dest src expectingReply hopCount
  refine ⟨octets, hoctets, fun link data hlink hdata => ?_⟩
  cases link with
  | unicast =>
    obtain ⟨hi, lo, rfl⟩ := bvll_some (show BVLC_ORIGINAL_UNICAST < 256 by decide) hdata
    exact ⟨_, hdecode { bvlcFunction := some 0x0A, bvllData := octets }, rfl⟩
  | broadcast =>
    obtain ⟨hi, lo, rfl⟩ := bvll_some (show BVLC_ORIGINAL_BROADCAST < 256 by decide) hdata
    exact ⟨_, hdecode { bvlcFunction := some 0x0B, bvllData := octets }, rfl⟩
  | forwarded originatingMac =>
    obtain ⟨hi, lo, rfl⟩ := bvll_some (show BVLC_FORWARDED_NPDU < 256 by decide) hdata
    have hmac : originatingMac.length = 6 := hlink
    have hdrop : (originatingMac ++ octets).drop 6 = octets := by
      rw [← hmac, List.drop_left]
    have htake : (originatingMac ++ octets).take 6 = originatingMac := by
      rw [← hmac, List.take_left]
    refine ⟨
      { bvlcFunction := some 0x04
        bvllData := originatingMac ++ octets
        originatingMac := originatingMac }, ?_, rfl⟩
    show decodeNpduOctets ((originatingMac ++ octets).drop 6)
      { bvlcFunction := some 0x04, bvllData := originatingMac ++ octets,
        originatingMac := (originatingMac ++ octets).take 6 } = _
    rw [hdrop, htake]
    exact hdecode _

end BacnetGateway.Wiretest
