/-
  BacnetGateway.Frames.Parser — the decoder as a parser of lists.

  What the decoder does from an offset on depends only on the bytes from there on. Each of
  its functions is a function here of those bytes, which takes them apart by patterns
  instead of testing lengths and reading at sums; offsets are left only where `dadr` and
  `sadr` point. The two agree (`decodeBacnetFrame_eq`): the decoder ends in `ok` on every
  frame, so no test before a read is missing and no sum wraps.
-/

import BacnetGateway.Frames.Decoder

namespace BacnetGateway.Frames

open Lib.Memory

/-! ## Tags -/

/-- The tag number, and how many more bytes it takes. -/
def parseTagNumber (tagNumber : UInt8) (bytes : List UInt8) : Option (UInt8 × Nat) :=
  if tagNumber = 0x0F then
    match bytes with
    | [] => none
    | tagNumber :: _ => some (tagNumber, 1)
  else some (tagNumber, 0)

def parseExtendedLength : List UInt8 → Option (Nat × Nat)
  | [] => none
  | lenByte :: bytes =>
    if lenByte < 254 then some (lenByte.toNat, 1)
    else if lenByte = 254 then
      match bytes with
      | b1 :: b0 :: _ => some (word16 b1 b0, 3)
      | _ => none
    else
      match bytes with
      | b3 :: b2 :: b1 :: b0 :: _ => some (word32 b3 b2 b1 b0, 5)
      | _ => none

/-- The length, and how many more bytes it takes. -/
def parseLength (contextSpecific : Bool) (lvt : UInt8) (bytes : List UInt8) : Option (Nat × Nat) :=
  if contextSpecific = true ∧ lvt = 6 then some (0, 0)
  else if contextSpecific = true ∧ lvt = 7 then some (0, 0)
  else if lvt ≤ 4 then some (lvt.toNat, 0)
  else if lvt = 5 then parseExtendedLength bytes
  else none

def parseTagHeader : List UInt8 → Option TagHeader
  | [] => none
  | b0 :: bytes =>
    let contextSpecific := b0 &&& 0x08 != 0
    let lvt := b0 &&& 0x07
    match parseTagNumber (b0 >>> 4 &&& 0x0F) bytes with
    | none => none
    | some (tagNumber, n) =>
      match parseLength contextSpecific lvt (bytes.drop n) with
      | none => none
      | some (length, m) => some {
          tagNumber := tagNumber
          contextSpecific := contextSpecific
          isOpeningTag := contextSpecific && lvt == 6
          isClosingTag := contextSpecific && lvt == 7
          length := length
          headerLength := 1 + n + m }

/-- The value of an unsigned of at most four octets. -/
def unsignedValue (octets : List UInt8) : Nat :=
  octets.foldl (fun v b => (v <<< 8) % 2 ^ 32 ||| b.toNat) 0

section
variable {frame bytes : List UInt8} {offset : Nat}

theorem decodeTagNumber_eq (hd : frame.drop offset = bytes) (h : offset < 2 ^ 31)
    (tagNumber : UInt8) :
    decodeTagNumber frame tagNumber offset =
      .ok ((parseTagNumber tagNumber bytes).map fun r => (r.1, offset + r.2)) := by
  unfold decodeTagNumber parseTagNumber
  split
  · simp only [length_le_here hd, byteAt_here hd]
    cases bytes with
    | nil => rfl
    | cons b rest => simp [add32_ok (show offset + 1 < 2 ^ 32 by omega)]
  · rfl

theorem decodeExtendedLength_eq (hd : frame.drop offset = bytes) (h : offset < 2 ^ 31) :
    decodeExtendedLength frame offset =
      .ok ((parseExtendedLength bytes).map fun r => (r.1, offset + r.2)) := by
  unfold decodeExtendedLength
  simp only [length_le_here hd, byteAt_here hd]
  cases bytes with
  | nil => rfl
  | cons lenByte rest =>
    have hrest : frame.drop (offset + 1) = rest := drop_add hd 1
    simp only [List.length_cons, Nat.succ_ne_zero, if_false, byteAt_cons_zero, ok_bind,
      parseExtendedLength, add32_ok (show offset + 1 < 2 ^ 32 by omega)]
    split
    · rfl
    · split
      · simp only [add32_ok (show offset + 1 + 2 < 2 ^ 32 by omega), ok_bind,
          length_lt_add hrest (show 0 < 2 by decide),
          add32_ok (show offset + 1 + 1 < 2 ^ 32 by omega), byteAt_here hrest, byteAt_drop hrest]
        rcases rest with _ | ⟨b1, _ | ⟨b0, rest⟩⟩
        · rfl
        · rfl
        · simp
      · simp only [add32_ok (show offset + 1 + 4 < 2 ^ 32 by omega), ok_bind,
          length_lt_add hrest (show 0 < 4 by decide),
          add32_ok (show offset + 1 + 1 < 2 ^ 32 by omega),
          add32_ok (show offset + 1 + 2 < 2 ^ 32 by omega),
          add32_ok (show offset + 1 + 3 < 2 ^ 32 by omega), byteAt_here hrest, byteAt_drop hrest]
        rcases rest with _ | ⟨b3, _ | ⟨b2, _ | ⟨b1, _ | ⟨b0, rest⟩⟩⟩⟩
        · rfl
        · rfl
        · rfl
        · rfl
        · simp

theorem decodeLength_eq (hd : frame.drop offset = bytes) (h : offset < 2 ^ 31)
    (contextSpecific : Bool) (lvt : UInt8) :
    decodeLength frame contextSpecific lvt offset
      = .ok ((parseLength contextSpecific lvt bytes).map fun r => (r.1, offset + r.2)) := by
  unfold decodeLength parseLength
  split
  · rfl
  · split
    · rfl
    · split
      · rfl
      · split
        · exact decodeExtendedLength_eq hd h
        · rfl

theorem parseTagNumber_le {tagNumber : UInt8} {r : UInt8 × Nat}
    (h : parseTagNumber tagNumber bytes = some r) :
    r.2 ≤ 1 ∧ r.2 ≤ bytes.length := by
  unfold parseTagNumber at h
  grind

theorem parseExtendedLength_le {r : Nat × Nat} (h : parseExtendedLength bytes = some r) :
    r.2 ≤ 5 ∧ r.2 ≤ bytes.length := by
  unfold parseExtendedLength at h
  grind

theorem parseLength_le {contextSpecific : Bool} {lvt : UInt8} {r : Nat × Nat}
    (h : parseLength contextSpecific lvt bytes = some r) :
    r.2 ≤ 5 ∧ r.2 ≤ bytes.length := by
  unfold parseLength at h
  grind [parseExtendedLength_le]

theorem parseTagHeader_le {tag : TagHeader} (h : parseTagHeader bytes = some tag) :
    tag.headerLength ≤ 7 ∧ tag.headerLength ≤ bytes.length := by
  cases bytes with
  | nil => cases h
  | cons b0 bytes =>
    simp only [parseTagHeader] at h
    split at h
    · cases h
    · next tagNumber n hn =>
      split at h
      · cases h
      · next length m hm =>
        cases h
        have hn := parseTagNumber_le hn
        have hm := parseLength_le hm
        rw [List.length_drop] at hm
        simp only [List.length_cons]
        omega

theorem decodeTagHeader_eq (hd : frame.drop offset = bytes) (h : offset < 2 ^ 30) :
    decodeTagHeader frame offset = .ok (parseTagHeader bytes) := by
  unfold decodeTagHeader
  simp only [length_le_here hd, byteAt_here hd]
  cases bytes with
  | nil => rfl
  | cons b0 rest =>
    have hrest : frame.drop (offset + 1) = rest := drop_add hd 1
    simp only [List.length_cons, Nat.succ_ne_zero, if_false, byteAt_cons_zero, ok_bind,
      parseTagHeader,
      add32_ok (show offset + 1 < 2 ^ 32 by omega), decodeTagNumber_eq hrest (by omega)]
    cases hn : parseTagNumber (b0 >>> 4 &&& 0x0F) rest with
    | none => rfl
    | some r =>
      have hle := parseTagNumber_le hn
      simp only [Option.map_some, decodeLength_eq (drop_add hrest r.2) (by omega), ok_bind]
      cases parseLength (b0 &&& 0x08 != 0) (b0 &&& 0x07) (rest.drop r.2) with
      | none => rfl
      | some l =>
        simp only [Option.map_some, pure_ok]
        congr 3
        omega

theorem readUnsigned_eq (hd : frame.drop offset = bytes) {length : Nat}
    (hlength : length ≤ bytes.length) (h : offset + length < 2 ^ 32) :
    readUnsigned frame offset length = .ok (unsignedValue (bytes.take length)) := by
  unfold readUnsigned unsignedValue
  induction length with
  | zero => rfl
  | succ length ih =>
    rw [List.range_succ, List.foldlM_append, ih (by omega) (by omega), ok_bind, List.take_add_one,
      List.foldl_append]
    have hbyte : byteAt bytes length = .ok bytes[length] := by
      simp [byteAt, List.getElem?_eq_getElem (show length < bytes.length by omega)]
    simp [add32_ok (show offset + length < 2 ^ 32 by omega), byteAt_drop hd, hbyte,
      List.getElem?_eq_getElem (show length < bytes.length by omega)]

end

/-! ## Object and property -/

def parseArrayIndex (bytes : List UInt8) (out : DecodedFrame) : DecodedFrame :=
  match parseTagHeader bytes with
  | none => out
  | some idxTag =>
    if idxTag.contextSpecific = true ∧ idxTag.tagNumber = 2 ∧ 0 < idxTag.length ∧
        idxTag.length ≤ 4 then
      let value := bytes.drop idxTag.headerLength
      if idxTag.length ≤ value.length then
        { out with hasArrayIndex := true, arrayIndex := unsignedValue (value.take idxTag.length) }
      else out
    else out

def parseProperty (objValue : Nat) (bytes : List UInt8) (out : DecodedFrame) : DecodedFrame :=
  match parseTagHeader bytes with
  | none => out
  | some propTag =>
    if propTag.contextSpecific = true ∧ propTag.tagNumber = 1 ∧ propTag.length ≠ 0 ∧
        propTag.length ≤ 4 then
      let value := bytes.drop propTag.headerLength
      if propTag.length ≤ value.length then
        parseArrayIndex (value.drop propTag.length) { out with
          hasObjectProperty := true
          objectType := objValue >>> 22 &&& 0x3FF
          objectInstance := objValue &&& 0x3FFFFF
          propertyId := unsignedValue (value.take propTag.length) }
      else out
    else out

def parseObjectAndProperty (bytes : List UInt8) (out : DecodedFrame) : DecodedFrame :=
  match parseTagHeader bytes with
  | none => out
  | some objTag =>
    if objTag.contextSpecific = true ∧ objTag.tagNumber = 0 ∧ objTag.length = 4 then
      match bytes.drop objTag.headerLength with
      | b3 :: b2 :: b1 :: b0 :: rest => parseProperty (word32 b3 b2 b1 b0) rest out
      | _ => out
    else out

section
variable {frame bytes : List UInt8} {offset : Nat}

theorem decodeArrayIndex_eq (hd : frame.drop offset = bytes) (h : offset < 2 ^ 29)
    (out : DecodedFrame) :
    decodeArrayIndex frame offset out = .ok (parseArrayIndex bytes out) := by
  unfold decodeArrayIndex parseArrayIndex
  rw [decodeTagHeader_eq hd (by omega), ok_bind]
  cases htag : parseTagHeader bytes with
  | none => rfl
  | some idxTag =>
    have hle := (parseTagHeader_le htag).1
    have hvalue := drop_add hd idxTag.headerLength
    dsimp only
    split
    · next hidx =>
      obtain ⟨-, -, hpos, hmax⟩ := hidx
      simp only [add32_ok (show offset + idxTag.headerLength < 2 ^ 32 by omega), ok_bind,
        add32_ok (show offset + idxTag.headerLength + idxTag.length < 2 ^ 32 by omega),
        add_le_length hvalue hpos]
      split
      · next hfits => rw [readUnsigned_eq hvalue hfits (by omega)]; rfl
      · rfl
    · rfl

theorem decodeProperty_eq (hd : frame.drop offset = bytes) (h : offset < 2 ^ 28) (objValue : Nat)
    (out : DecodedFrame) :
    decodeProperty frame offset objValue out = .ok (parseProperty objValue bytes out) := by
  unfold decodeProperty parseProperty
  rw [decodeTagHeader_eq hd (by omega), ok_bind]
  cases htag : parseTagHeader bytes with
  | none => rfl
  | some propTag =>
    have hle := (parseTagHeader_le htag).1
    have hvalue := drop_add hd propTag.headerLength
    dsimp only
    split
    · next hprop =>
      obtain ⟨-, -, hpos, hmax⟩ := hprop
      simp only [add32_ok (show offset + propTag.headerLength < 2 ^ 32 by omega), ok_bind,
        add32_ok (show offset + propTag.headerLength + propTag.length < 2 ^ 32 by omega),
        add_le_length hvalue (Nat.pos_of_ne_zero hpos)]
      split
      · next hfits =>
        rw [readUnsigned_eq hvalue hfits (by omega), ok_bind]
        exact decodeArrayIndex_eq (drop_add hvalue propTag.length) (by omega) _
      · rfl
    · rfl

theorem decodeObjectAndProperty_eq (hd : frame.drop offset = bytes) (h : offset < 2 ^ 27)
    (out : DecodedFrame) :
    decodeObjectAndProperty frame offset out = .ok (parseObjectAndProperty bytes out) := by
  unfold decodeObjectAndProperty parseObjectAndProperty
  rw [decodeTagHeader_eq hd (by omega), ok_bind]
  cases htag : parseTagHeader bytes with
  | none => rfl
  | some objTag =>
    have hle := (parseTagHeader_le htag).1
    have hvalue := drop_add hd objTag.headerLength
    dsimp only
    split
    · simp only [add32_ok (show offset + objTag.headerLength < 2 ^ 32 by omega), ok_bind,
        add32_ok (show offset + objTag.headerLength + 4 < 2 ^ 32 by omega),
        add_le_length hvalue (show 0 < 4 by decide),
        add32_ok (show offset + objTag.headerLength + 1 < 2 ^ 32 by omega),
        add32_ok (show offset + objTag.headerLength + 2 < 2 ^ 32 by omega),
        add32_ok (show offset + objTag.headerLength + 3 < 2 ^ 32 by omega), byteAt_here hvalue,
        byteAt_drop hvalue]
      generalize bytes.drop objTag.headerLength = value at hvalue
      have hnext := drop_add hvalue 4
      rcases value with _ | ⟨b3, _ | ⟨b2, _ | ⟨b1, _ | ⟨b0, rest⟩⟩⟩⟩
      · rfl
      · rfl
      · rfl
      · rfl
      · simpa using decodeProperty_eq hnext (by omega) (word32 b3 b2 b1 b0) out
    · rfl

end

/-! ## The APDU -/

/-- The service, and the property that is a parameter of those in `withProperty`. -/
def parseService (withProperty : List UInt8) (bytes : List UInt8)
    (out : DecodedFrame) : DecodedFrame :=
  match bytes with
  | [] => out
  | serviceChoice :: bytes =>
    let out := { out with hasServiceChoice := true, serviceChoice := serviceChoice }
    if serviceChoice ∈ withProperty then parseObjectAndProperty bytes out else out

def parseConfirmedRequest (b0 : UInt8) (bytes : List UInt8) (out : DecodedFrame) : DecodedFrame :=
  let segmented := b0 &&& 0x08 != 0
  let out := { out with segmented := segmented }
  match bytes with
  | _ :: invokeId :: bytes =>
    parseService [12, 15] (bytes.drop (if segmented then 2 else 0))
      { out with hasInvokeId := true, invokeId := invokeId }
  | _ => out

def parseUnconfirmedRequest (bytes : List UInt8) (out : DecodedFrame) : DecodedFrame :=
  match bytes with
  | [] => out
  | serviceChoice :: _ => { out with hasServiceChoice := true, serviceChoice := serviceChoice }

def parseComplexAck (b0 : UInt8) (bytes : List UInt8) (out : DecodedFrame) : DecodedFrame :=
  let segmented := b0 &&& 0x08 != 0
  let out := { out with segmented := segmented }
  match bytes with
  | [] => out
  | invokeId :: bytes =>
    parseService [12] (bytes.drop (if segmented then 2 else 0))
      { out with hasInvokeId := true, invokeId := invokeId }

def parseInvokeAndService (bytes : List UInt8) (out : DecodedFrame) : DecodedFrame :=
  match bytes with
  | invokeId :: serviceChoice :: _ =>
    { out with
      hasInvokeId := true, invokeId := invokeId
      hasServiceChoice := true, serviceChoice := serviceChoice }
  | _ => out

def parseInvokeAndReason (bytes : List UInt8) (out : DecodedFrame) : DecodedFrame :=
  match bytes with
  | invokeId :: reason :: _ =>
    { out with hasInvokeId := true, invokeId := invokeId, hasReason := true, reason := reason }
  | _ => out

def parseApdu (b0 : UInt8) (bytes : List UInt8) (out : DecodedFrame) : DecodedFrame :=
  let pduType := b0 >>> 4 &&& 0x0F
  let out := { out with hasApdu := true, pduType := pduType }
  match pduType.toNat with
  | 0 => parseConfirmedRequest b0 bytes out
  | 1 => parseUnconfirmedRequest bytes out
  | 2 => parseInvokeAndService bytes out
  | 3 => parseComplexAck b0 bytes out
  | 5 => parseInvokeAndService bytes out
  | 6 => parseInvokeAndReason bytes out
  | 7 => parseInvokeAndReason bytes out
  | _ => out

section
variable {frame bytes : List UInt8} {offset : Nat} {b0 : UInt8}

/-- The service is after the octets of the sequence number and the window, if segmented. -/
theorem serviceOffset_eq {k : Nat} (h : offset + k + 2 < 2 ^ 32) (segmented : Bool) :
    add32 offset (if segmented then k + 2 else k) =
      .ok (offset + k + if segmented then 2 else 0) := by
  cases segmented
  · exact add32_ok (by simp; omega)
  · exact add32_ok (by simp; omega)

/-- The end of a Confirmed-Request and of a ComplexACK: the service, and for the services
    in `withProperty` the property. -/
theorem decodeService_eq {withProperty : List UInt8} {P : UInt8 → Prop} [DecidablePred P]
    (hP : ∀ b, P b ↔ b ∈ withProperty)
    (hd : frame.drop offset = bytes) (h : offset < 2 ^ 26 + 8) (out : DecodedFrame) :
    (do
      if frame.length ≤ offset then return out
      let serviceChoice ← byteAt frame offset
      let out := { out with hasServiceChoice := true, serviceChoice := serviceChoice }
      if P serviceChoice then decodeObjectAndProperty frame (← add32 offset 1) out
      else return out) = Except.ok (parseService withProperty bytes out) := by
  simp only [length_le_here hd, byteAt_here hd]
  cases bytes with
  | nil => rfl
  | cons serviceChoice rest =>
    simp only [List.length_cons, Nat.succ_ne_zero, if_false, byteAt_cons_zero, ok_bind,
      parseService, ← hP]
    split
    · rw [add32_ok (by omega), ok_bind]
      exact decodeObjectAndProperty_eq (drop_add hd 1) (by omega) _
    · rfl

theorem decodeConfirmedRequest_eq (hd : frame.drop offset = b0 :: bytes) (h : offset < 2 ^ 26)
    (out : DecodedFrame) :
    decodeConfirmedRequest frame offset out = .ok (parseConfirmedRequest b0 bytes out) := by
  unfold decodeConfirmedRequest parseConfirmedRequest
  simp only [byteAt_here hd, byteAt_cons_zero, ok_bind,
    add32_ok (show offset + 2 < 2 ^ 32 by omega), length_le_add hd,
    byteAt_drop hd, serviceOffset_eq (show offset + 3 + 2 < 2 ^ 32 by omega)]
  rcases bytes with _ | ⟨b1, _ | ⟨invokeId, rest⟩⟩
  · rfl
  · rfl
  · have hrest : frame.drop (offset + 3) = rest := drop_add hd 3
    have hservices : ∀ b : UInt8, b = 12 ∨ b = 15 ↔ b ∈ [12, 15] := by simp
    simp only [List.length_cons, Nat.reduceLeDiff, if_false, byteAt_cons_succ,
      byteAt_cons_zero, ok_bind]
    refine decodeService_eq hservices (drop_add hrest (if b0 &&& 0x08 != 0 then 2 else 0)) ?_ _
    split <;> omega

theorem decodeUnconfirmedRequest_eq (hd : frame.drop offset = b0 :: bytes) (h : offset < 2 ^ 26)
    (out : DecodedFrame) :
    decodeUnconfirmedRequest frame offset out = .ok (parseUnconfirmedRequest bytes out) := by
  unfold decodeUnconfirmedRequest
  simp only [ok_bind, add32_ok (show offset + 1 < 2 ^ 32 by omega), length_le_add hd,
    byteAt_drop hd, byteAt_cons_succ]
  rcases bytes with _ | ⟨serviceChoice, rest⟩
  · rfl
  · simp [parseUnconfirmedRequest]

theorem decodeComplexAck_eq (hd : frame.drop offset = b0 :: bytes) (h : offset < 2 ^ 26)
    (out : DecodedFrame) :
    decodeComplexAck frame offset out = .ok (parseComplexAck b0 bytes out) := by
  unfold decodeComplexAck parseComplexAck
  simp only [byteAt_here hd, byteAt_cons_zero, ok_bind,
    add32_ok (show offset + 1 < 2 ^ 32 by omega), length_le_add hd,
    byteAt_drop hd, serviceOffset_eq (show offset + 2 + 2 < 2 ^ 32 by omega)]
  rcases bytes with _ | ⟨invokeId, rest⟩
  · rfl
  · have hrest : frame.drop (offset + 2) = rest := drop_add hd 2
    have hservices : ∀ b : UInt8, b = 12 ↔ b ∈ [12] := by simp
    simp only [List.length_cons, Nat.reduceLeDiff, if_false, byteAt_cons_succ,
      byteAt_cons_zero, ok_bind]
    refine decodeService_eq hservices (drop_add hrest (if b0 &&& 0x08 != 0 then 2 else 0)) ?_ _
    split <;> omega

theorem decodeInvokeAndService_eq (hd : frame.drop offset = b0 :: bytes) (h : offset < 2 ^ 26)
    (out : DecodedFrame) :
    decodeInvokeAndService frame offset out = .ok (parseInvokeAndService bytes out) := by
  unfold decodeInvokeAndService
  simp only [ok_bind, add32_ok (show offset + 1 < 2 ^ 32 by omega),
    add32_ok (show offset + 2 < 2 ^ 32 by omega),
    length_le_add hd, byteAt_drop hd, byteAt_cons_succ]
  rcases bytes with _ | ⟨invokeId, _ | ⟨serviceChoice, rest⟩⟩
  · rfl
  · rfl
  · simp [parseInvokeAndService]

theorem decodeInvokeAndReason_eq (hd : frame.drop offset = b0 :: bytes) (h : offset < 2 ^ 26)
    (out : DecodedFrame) :
    decodeInvokeAndReason frame offset out = .ok (parseInvokeAndReason bytes out) := by
  unfold decodeInvokeAndReason
  simp only [ok_bind, add32_ok (show offset + 1 < 2 ^ 32 by omega),
    add32_ok (show offset + 2 < 2 ^ 32 by omega),
    length_le_add hd, byteAt_drop hd, byteAt_cons_succ]
  rcases bytes with _ | ⟨invokeId, _ | ⟨reason, rest⟩⟩
  · rfl
  · rfl
  · simp [parseInvokeAndReason]

theorem decodeApdu_eq (hd : frame.drop offset = b0 :: bytes) (h : offset < 2 ^ 26)
    (out : DecodedFrame) :
    decodeApdu frame offset out = .ok (parseApdu b0 bytes out) := by
  unfold decodeApdu parseApdu
  simp only [byteAt_here hd, byteAt_cons_zero, ok_bind, decodeConfirmedRequest_eq hd h,
    decodeUnconfirmedRequest_eq hd h,
    decodeInvokeAndService_eq hd h, decodeComplexAck_eq hd h, decodeInvokeAndReason_eq hd h]
  generalize (b0 >>> 4 &&& 0x0F).toNat = pduType
  split
  case h_8 => simp [*]
  all_goals rfl

end

/-! ## The NPDU -/

def parsePayload (bytes : List UInt8) (out : DecodedFrame) : DecodedFrame :=
  match bytes with
  | [] => out
  | b0 :: bytes => if out.isNetworkMessage then { out with networkMessageType := b0 }
      else parseApdu b0 bytes out

def parseHopCount (bytes : List UInt8) (out : DecodedFrame) : DecodedFrame :=
  if out.hasDest then
    match bytes with
    | [] => out
    | _ :: bytes => parsePayload bytes out
  else parsePayload bytes out

/-- The bytes from `offset` on. -/
def parseSource (offset : Nat) (bytes : List UInt8) (out : DecodedFrame) : DecodedFrame :=
  if out.hasSrc then
    match bytes with
    | hi :: lo :: slen :: bytes =>
      let out := { out with snet := word16 hi lo }
      if bytes.length < slen.toNat then out
      else parseHopCount (bytes.drop slen.toNat)
        { out with sadrLength := slen, sadr := if 0 < slen then some (offset + 3) else none }
    | _ => out
  else parseHopCount bytes out

/-- The bytes from `offset` on. -/
def parseDestination (offset : Nat) (bytes : List UInt8) (out : DecodedFrame) : DecodedFrame :=
  if out.hasDest then
    match bytes with
    | hi :: lo :: dlen :: bytes =>
      let out := { out with dnet := word16 hi lo }
      if bytes.length < dlen.toNat then out
      else parseSource (offset + 3 + dlen.toNat) (bytes.drop dlen.toNat)
        { out with dadrLength := dlen, dadr := if 0 < dlen then some (offset + 3) else none }
    | _ => out
  else parseSource offset bytes out

/-- The bytes from `offset` on. -/
def parseNpdu (offset : Nat) (bytes : List UInt8) (out : DecodedFrame) : DecodedFrame :=
  match bytes with
  | version :: control :: bytes => parseDestination (offset + 2) bytes { out with
      hasNpdu := true
      npduVersion := version
      npduControl := control
      hasDest := control &&& 0x20 != 0
      hasSrc := control &&& 0x08 != 0
      isNetworkMessage := control &&& 0x80 != 0 }
  | _ => out

def parseBacnetFrame (frame : List UInt8) : DecodedFrame :=
  match frame with
  | b0 :: bvlcFunction :: _ :: _ :: bytes =>
    if b0 ≠ 0x81 then {}
    else
      let out : DecodedFrame := { bacnetIp := true, bvlcFunction := bvlcFunction }
      match bvlcFunction.toNat with
      | 0x0A => parseNpdu 4 bytes out
      | 0x0B => parseNpdu 4 bytes out
      | 0x04 => parseNpdu 10 (bytes.drop 6) out
      | _ => out
  | _ => {}

section
variable {frame bytes : List UInt8} {offset : Nat}

theorem decodePayload_eq (hd : frame.drop offset = bytes) (h : offset < 2 ^ 26)
    (out : DecodedFrame) :
    decodePayload frame offset out = .ok (parsePayload bytes out) := by
  unfold decodePayload parsePayload
  simp only [length_le_here hd, byteAt_here hd]
  cases bytes with
  | nil => rfl
  | cons b0 rest =>
    simp only [List.length_cons, Nat.succ_ne_zero, if_false, byteAt_cons_zero, ok_bind]
    split
    · rfl
    · exact decodeApdu_eq hd h out

theorem decodeHopCount_eq (hd : frame.drop offset = bytes) (h : offset < 2 ^ 25)
    (out : DecodedFrame) :
    decodeHopCount frame offset out = .ok (parseHopCount bytes out) := by
  unfold decodeHopCount parseHopCount
  split
  · simp only [length_le_here hd, add32_ok (show offset + 1 < 2 ^ 32 by omega), ok_bind]
    cases bytes with
    | nil => rfl
    | cons hopCount rest =>
      simp only [List.length_cons, Nat.succ_ne_zero, if_false]
      exact decodePayload_eq (drop_add hd 1) (by omega) out
  · exact decodePayload_eq hd (by omega) out

/-- The test on the octets of an address: the specifier before it has been read. -/
theorem length_lt_address {hi lo len : UInt8} {rest : List UInt8}
    (hd : frame.drop offset = hi :: lo :: len :: rest) :
    frame.length < offset + 3 + len.toNat ↔ rest.length < len.toNat := by
  have hlength := congrArg List.length hd
  simp only [List.length_drop, List.length_cons] at hlength
  omega

theorem decodeSource_eq (hd : frame.drop offset = bytes) (h : offset < 2 ^ 24)
    (out : DecodedFrame) :
    decodeSource frame offset out = .ok (parseSource offset bytes out) := by
  unfold decodeSource parseSource
  split
  · simp only [add32_ok (show offset + 3 < 2 ^ 32 by omega),
      add32_ok (show offset + 1 < 2 ^ 32 by omega),
      add32_ok (show offset + 2 < 2 ^ 32 by omega), ok_bind,
      length_lt_add hd (show 0 < 3 by decide), byteAt_here hd, byteAt_drop hd]
    rcases bytes with _ | ⟨hi, _ | ⟨lo, _ | ⟨slen, rest⟩⟩⟩
    · rfl
    · rfl
    · rfl
    · have hslen := slen.toNat_lt
      have hrest : frame.drop (offset + 3) = rest := drop_add hd 3
      simp only [List.length_cons, byteAt_cons_zero, byteAt_cons_succ, ok_bind,
        add32_ok (show offset + 3 + slen.toNat < 2 ^ 32 by omega), length_lt_address hd,
        decodeHopCount_eq (drop_add hrest slen.toNat)
          (show offset + 3 + slen.toNat < 2 ^ 25 by omega)]
      rw [if_neg (by omega)]
      split <;> rfl
  · exact decodeHopCount_eq hd (by omega) out

theorem decodeDestination_eq (hd : frame.drop offset = bytes) (h : offset < 2 ^ 23)
    (out : DecodedFrame) :
    decodeDestination frame offset out = .ok (parseDestination offset bytes out) := by
  unfold decodeDestination parseDestination
  split
  · simp only [add32_ok (show offset + 3 < 2 ^ 32 by omega),
      add32_ok (show offset + 1 < 2 ^ 32 by omega),
      add32_ok (show offset + 2 < 2 ^ 32 by omega), ok_bind,
      length_lt_add hd (show 0 < 3 by decide), byteAt_here hd, byteAt_drop hd]
    rcases bytes with _ | ⟨hi, _ | ⟨lo, _ | ⟨dlen, rest⟩⟩⟩
    · rfl
    · rfl
    · rfl
    · have hdlen := dlen.toNat_lt
      have hrest : frame.drop (offset + 3) = rest := drop_add hd 3
      simp only [List.length_cons, byteAt_cons_zero, byteAt_cons_succ, ok_bind,
        add32_ok (show offset + 3 + dlen.toNat < 2 ^ 32 by omega), length_lt_address hd,
        decodeSource_eq (drop_add hrest dlen.toNat)
          (show offset + 3 + dlen.toNat < 2 ^ 24 by omega)]
      rw [if_neg (by omega)]
      split <;> rfl
  · exact decodeSource_eq hd (by omega) out

theorem decodeNpdu_eq (hd : frame.drop offset = bytes) (h : offset < 2 ^ 22) (out : DecodedFrame) :
    decodeNpdu frame offset out = .ok (parseNpdu offset bytes out) := by
  unfold decodeNpdu
  simp only [add32_ok (show offset + 1 < 2 ^ 32 by omega),
    add32_ok (show offset + 2 < 2 ^ 32 by omega), ok_bind,
    length_lt_add hd (show 0 < 2 by decide), byteAt_here hd, byteAt_drop hd]
  rcases bytes with _ | ⟨version, _ | ⟨control, rest⟩⟩
  · rfl
  · rfl
  · have hrest : frame.drop (offset + 2) = rest := drop_add hd 2
    simp only [List.length_cons, byteAt_cons_zero, byteAt_cons_succ, ok_bind,
      decodeDestination_eq hrest (show offset + 2 < 2 ^ 23 by omega)]
    rw [if_neg (by omega)]
    rfl

end

/-- Whatever the frame, the decoder faults nowhere, and it is the parser. -/
theorem decodeBacnetFrame_eq (frame : List UInt8) :
    decodeBacnetFrame frame = .ok (parseBacnetFrame frame) := by
  unfold decodeBacnetFrame
  rcases frame with _ | ⟨b0, _ | ⟨bvlcFunction, _ | ⟨b2, _ | ⟨b3, rest⟩⟩⟩⟩
  · rfl
  · rfl
  · rfl
  · rfl
  · have hnpdu (out : DecodedFrame) : decodeNpdu (b0 :: bvlcFunction :: b2 :: b3 :: rest) 4 out =
        .ok (parseNpdu 4 rest out) :=
      decodeNpdu_eq rfl (by decide) out
    have hforwarded (out : DecodedFrame) :
        decodeNpdu (b0 :: bvlcFunction :: b2 :: b3 :: rest) 10 out =
          .ok (parseNpdu 10 (rest.drop 6) out) :=
      decodeNpdu_eq rfl (by decide) out
    simp only [List.length_cons, byteAt_cons_zero, byteAt_cons_succ, ok_bind, parseBacnetFrame,
      hnpdu, hforwarded]
    rw [if_neg (by omega)]
    split
    · rfl
    · generalize bvlcFunction.toNat = function
      split
      case h_4 => simp [*]
      all_goals rfl

/-! ## What the later stages leave alone -/

/-- What is known of a frame when its NPDU header has been read. -/
def DecodedFrame.header (d : DecodedFrame) : DecodedFrame where
  bacnetIp := d.bacnetIp
  bvlcFunction := d.bvlcFunction
  hasNpdu := d.hasNpdu
  npduVersion := d.npduVersion
  npduControl := d.npduControl
  hasDest := d.hasDest
  dnet := d.dnet
  dadr := d.dadr
  dadrLength := d.dadrLength
  hasSrc := d.hasSrc
  snet := d.snet
  sadr := d.sadr
  sadrLength := d.sadrLength
  isNetworkMessage := d.isNetworkMessage

/-- The header without the source. -/
def DecodedFrame.route (d : DecodedFrame) : DecodedFrame :=
  { d.header with snet := 0, sadr := none, sadrLength := 0 }

section
variable (bytes : List UInt8) (out : DecodedFrame)

@[simp] theorem parseArrayIndex_header : (parseArrayIndex bytes out).header = out.header := by
  simp only [parseArrayIndex]
  repeat' split
  all_goals rfl

@[simp] theorem parseProperty_header (objValue : Nat) :
    (parseProperty objValue bytes out).header = out.header := by
  simp only [parseProperty]
  repeat' split
  case h_2.isTrue.isTrue => exact parseArrayIndex_header _ _
  all_goals rfl

@[simp] theorem parseObjectAndProperty_header :
    (parseObjectAndProperty bytes out).header = out.header := by
  simp only [parseObjectAndProperty]
  repeat' split
  all_goals first | rfl | exact parseProperty_header _ _ _

@[simp] theorem parseService_header (withProperty : List UInt8) :
    (parseService withProperty bytes out).header = out.header := by
  simp only [parseService]
  repeat' split
  all_goals first | rfl | exact parseObjectAndProperty_header _ _

@[simp] theorem parseConfirmedRequest_header (b0 : UInt8) :
    (parseConfirmedRequest b0 bytes out).header = out.header := by
  simp only [parseConfirmedRequest]
  split
  · exact parseService_header _ _ _
  · rfl

@[simp] theorem parseComplexAck_header (b0 : UInt8) :
    (parseComplexAck b0 bytes out).header = out.header := by
  simp only [parseComplexAck]
  split
  · rfl
  · exact parseService_header _ _ _

@[simp] theorem parseApdu_header (b0 : UInt8) : (parseApdu b0 bytes out).header = out.header := by
  simp only [parseApdu]
  split
  case h_1 => exact parseConfirmedRequest_header _ _ _
  case h_4 => exact parseComplexAck_header _ _ _
  case h_8 => rfl
  all_goals
    simp only [parseUnconfirmedRequest, parseInvokeAndService, parseInvokeAndReason]
    split <;> rfl

@[simp] theorem parsePayload_header : (parsePayload bytes out).header = out.header := by
  unfold parsePayload
  repeat' split
  case h_2.isFalse => exact parseApdu_header _ _ _
  all_goals rfl

@[simp] theorem parseHopCount_header : (parseHopCount bytes out).header = out.header := by
  unfold parseHopCount
  repeat' split
  all_goals first | rfl | exact parsePayload_header _ _

theorem route_eq_of_header {d e : DecodedFrame} (h : d.header = e.header) : d.route = e.route := by
  unfold DecodedFrame.route
  rw [h]

theorem parseSource_route (offset : Nat) : (parseSource offset bytes out).route = out.route := by
  simp only [parseSource]
  repeat' split
  all_goals first | rfl | exact (route_eq_of_header (parseHopCount_header _ _)).trans rfl

end

end BacnetGateway.Frames
