/-
  BacnetGateway.Frames.Decoder — the decoder of the frame log (`DecodeTagHeader`,
  `DecodeObjectAndProperty` and `DecodeBacnetFrame` of `common/CASExampleHelper.cpp`).

  A frame is its list of bytes; `frameLength` is the length of the list. The code is
  translated access by access: a byte is read by `byteAt`, a sum of `uint32_t` taken by
  `add32`, and the tests before them stand where the source has them, so that a test left
  out would show as a fault. `DecodeBacnetFrame` is cut where the walk goes from one header
  to the next; what is cut off has the name of the header.

  `dadr` and `sadr` point into the frame: they are offsets, `none` for NULL.
-/

import BacnetGateway.Lib.Memory

namespace BacnetGateway.Frames

open Lib.Memory

/-- `(hi << 8) | lo`. -/
def word16 (hi lo : UInt8) : Nat := hi.toNat <<< 8 ||| lo.toNat

def word32 (b3 b2 b1 b0 : UInt8) : Nat :=
  b3.toNat <<< 24 ||| b2.toNat <<< 16 ||| b1.toNat <<< 8 ||| b0.toNat

/-! ## Tags -/

structure TagHeader where
  tagNumber : UInt8
  contextSpecific : Bool
  isOpeningTag : Bool
  isClosingTag : Bool
  /-- The length of the data of a primitive tag; 0 for opening and closing. -/
  length : Nat
  /-- How many bytes the header itself takes. -/
  headerLength : Nat
  deriving DecidableEq

/-- The tag number, extended or not, and where the header goes on. -/
def decodeTagNumber (frame : List UInt8) (tagNumber : UInt8) (pos : Nat) : Checked
      (Option (UInt8 × Nat)) := do
  if tagNumber = 0x0F then
    if frame.length ≤ pos then return none
    let tagNumber ← byteAt frame pos
    return some (tagNumber, ← add32 pos 1)
  else return some (tagNumber, pos)

/-- The length after an `lvt` of 5, and where the header ends. -/
def decodeExtendedLength (frame : List UInt8) (pos : Nat) : Checked (Option (Nat × Nat)) := do
  if frame.length ≤ pos then return none
  let lenByte ← byteAt frame pos
  let pos ← add32 pos 1
  if lenByte < 254 then return some (lenByte.toNat, pos)
  else if lenByte = 254 then
    if frame.length < (← add32 pos 2) then return none
    let length := word16 (← byteAt frame pos) (← byteAt frame (← add32 pos 1))
    return some (length, ← add32 pos 2)
  else
    if frame.length < (← add32 pos 4) then return none
    let length :=
        word32 (← byteAt frame pos) (← byteAt frame (← add32 pos 1))
        (← byteAt frame (← add32 pos 2))
      (← byteAt frame (← add32 pos 3))
    return some (length, ← add32 pos 4)

/-- The length an `lvt` stands for, and where the header ends. An `lvt` of 6 or 7 is valid
    only in a context-specific tag. -/
def decodeLength (frame : List UInt8) (contextSpecific : Bool) (lvt : UInt8) (pos : Nat) : Checked
      (Option (Nat × Nat)) :=
  if contextSpecific = true ∧ lvt = 6 then return some (0, pos)
  else if contextSpecific = true ∧ lvt = 7 then return some (0, pos)
  else if lvt ≤ 4 then return some (lvt.toNat, pos)
  else if lvt = 5 then decodeExtendedLength frame pos
  else return none

/-- `none` on truncation, or an encoding this decoder does not handle. -/
def decodeTagHeader (frame : List UInt8) (offset : Nat) : Checked (Option TagHeader) := do
  if frame.length ≤ offset then return none
  let b0 ← byteAt frame offset
  let contextSpecific := b0 &&& 0x08 != 0
  let lvt := b0 &&& 0x07
  match ← decodeTagNumber frame (b0 >>> 4 &&& 0x0F) (← add32 offset 1) with
  | none => return none
  | some (tagNumber, pos) =>
    match ← decodeLength frame contextSpecific lvt pos with
    | none => return none
    | some (length, pos) => return some {
        tagNumber := tagNumber
        contextSpecific := contextSpecific
        isOpeningTag := contextSpecific && lvt == 6
        isClosingTag := contextSpecific && lvt == 7
        length := length
        headerLength := pos - offset }

/-! ## Frames -/

structure DecodedFrame where
  /-- False: not even a recognizable BVLC header. -/
  bacnetIp : Bool := false
  bvlcFunction : UInt8 := 0
  /-- False for a BVLC control message. -/
  hasNpdu : Bool := false
  npduVersion : UInt8 := 0
  npduControl : UInt8 := 0
  hasDest : Bool := false
  dnet : Nat := 0
  dadr : Option Nat := none
  dadrLength : UInt8 := 0
  hasSrc : Bool := false
  snet : Nat := 0
  sadr : Option Nat := none
  sadrLength : UInt8 := 0
  isNetworkMessage : Bool := false
  networkMessageType : UInt8 := 0
  hasApdu : Bool := false
  pduType : UInt8 := 0xFF
  segmented : Bool := false
  hasInvokeId : Bool := false
  invokeId : UInt8 := 0
  hasServiceChoice : Bool := false
  serviceChoice : UInt8 := 0
  hasReason : Bool := false
  reason : UInt8 := 0
  hasObjectProperty : Bool := false
  objectType : Nat := 0
  objectInstance : Nat := 0
  propertyId : Nat := 0
  hasArrayIndex : Bool := false
  arrayIndex : Nat := 0
  deriving DecidableEq

/-- The loop that reads an unsigned value of `length` bytes. -/
def readUnsigned (frame : List UInt8) (pos length : Nat) : Checked Nat :=
  (List.range length).foldlM (fun v i => do
    let b ← byteAt frame (← add32 pos i)
    return (v <<< 8) % 2 ^ 32 ||| b.toNat) 0

/-- `DecodeObjectAndProperty`, the array index at `pos`. -/
def decodeArrayIndex (frame : List UInt8) (pos : Nat) (out : DecodedFrame) :
    Checked DecodedFrame := do
  match ← decodeTagHeader frame pos with
  | none => return out
  | some idxTag =>
    if idxTag.contextSpecific = true ∧ idxTag.tagNumber = 2 ∧ 0 < idxTag.length ∧
        idxTag.length ≤ 4 then
      let value ← add32 pos idxTag.headerLength
      if (← add32 value idxTag.length) ≤ frame.length then
        let v ← readUnsigned frame value idxTag.length
        return { out with hasArrayIndex := true, arrayIndex := v }
      else return out
    else return out

/-- `DecodeObjectAndProperty`, the property identifier at `pos`. -/
def decodeProperty (frame : List UInt8) (pos objValue : Nat)
    (out : DecodedFrame) : Checked DecodedFrame := do
  match ← decodeTagHeader frame pos with
  | none => return out
  | some propTag =>
    if propTag.contextSpecific = true ∧ propTag.tagNumber = 1 ∧ propTag.length ≠ 0 ∧
        propTag.length ≤ 4 then
      let pos ← add32 pos propTag.headerLength
      let next ← add32 pos propTag.length
      if next ≤ frame.length then
        let propValue ← readUnsigned frame pos propTag.length
        decodeArrayIndex frame next { out with
          hasObjectProperty := true
          objectType := objValue >>> 22 &&& 0x3FF
          objectInstance := objValue &&& 0x3FFFFF
          propertyId := propValue }
      else return out
    else return out

/-- The layout of ReadProperty-Request, ReadProperty-ACK and WriteProperty-Request. -/
def decodeObjectAndProperty (frame : List UInt8) (offset : Nat)
    (out : DecodedFrame) : Checked DecodedFrame := do
  match ← decodeTagHeader frame offset with
  | none => return out
  | some objTag =>
    if objTag.contextSpecific = true ∧ objTag.tagNumber = 0 ∧ objTag.length = 4 then
      let pos ← add32 offset objTag.headerLength
      let next ← add32 pos 4
      if next ≤ frame.length then
        let objValue :=
            word32 (← byteAt frame pos) (← byteAt frame (← add32 pos 1))
            (← byteAt frame (← add32 pos 2))
          (← byteAt frame (← add32 pos 3))
        decodeProperty frame next objValue out
      else return out
    else return out

/-- Confirmed-Request: sequence number and window size come before the service, if segmented. -/
def decodeConfirmedRequest (frame : List UInt8) (offset : Nat)
    (out : DecodedFrame) : Checked DecodedFrame := do
  let segmented := (← byteAt frame offset) &&& 0x08 != 0
  let out := { out with segmented := segmented }
  if frame.length ≤ (← add32 offset 2) then return out
  let out := { out with hasInvokeId := true, invokeId := ← byteAt frame (← add32 offset 2) }
  let serviceOffset ← add32 offset (if segmented then 5 else 3)
  if frame.length ≤ serviceOffset then return out
  let serviceChoice ← byteAt frame serviceOffset
  let out := { out with hasServiceChoice := true, serviceChoice := serviceChoice }
  if serviceChoice = 12 ∨
    serviceChoice = 15 then decodeObjectAndProperty frame (← add32 serviceOffset 1) out
  else return out

def decodeUnconfirmedRequest (frame : List UInt8) (offset : Nat)
    (out : DecodedFrame) : Checked DecodedFrame := do
  if frame.length ≤ (← add32 offset 1) then return out
  return { out with hasServiceChoice := true, serviceChoice := ← byteAt frame (← add32 offset 1) }

/-- ComplexACK. -/
def decodeComplexAck (frame : List UInt8) (offset : Nat)
    (out : DecodedFrame) : Checked DecodedFrame := do
  let segmented := (← byteAt frame offset) &&& 0x08 != 0
  let out := { out with segmented := segmented }
  if frame.length ≤ (← add32 offset 1) then return out
  let out := { out with hasInvokeId := true, invokeId := ← byteAt frame (← add32 offset 1) }
  let serviceOffset ← add32 offset (if segmented then 4 else 2)
  if frame.length ≤ serviceOffset then return out
  let serviceChoice ← byteAt frame serviceOffset
  let out := { out with hasServiceChoice := true, serviceChoice := serviceChoice }
  if serviceChoice = 12 then decodeObjectAndProperty frame (← add32 serviceOffset 1) out
  else return out

/-- SimpleACK, and Error. -/
def decodeInvokeAndService (frame : List UInt8) (offset : Nat)
    (out : DecodedFrame) : Checked DecodedFrame := do
  if frame.length ≤ (← add32 offset 2) then return out
  return { out with
    hasInvokeId := true
    invokeId := ← byteAt frame (← add32 offset 1)
    hasServiceChoice := true
    serviceChoice := ← byteAt frame (← add32 offset 2) }

/-- Reject, and Abort. -/
def decodeInvokeAndReason (frame : List UInt8) (offset : Nat)
    (out : DecodedFrame) : Checked DecodedFrame := do
  if frame.length ≤ (← add32 offset 2) then return out
  return { out with
    hasInvokeId := true
    invokeId := ← byteAt frame (← add32 offset 1)
    hasReason := true
    reason := ← byteAt frame (← add32 offset 2) }

def decodeApdu (frame : List UInt8) (offset : Nat) (out : DecodedFrame) : Checked DecodedFrame := do
  let pduType := (← byteAt frame offset) >>> 4 &&& 0x0F
  let out := { out with hasApdu := true, pduType := pduType }
  match pduType.toNat with
  | 0 => decodeConfirmedRequest frame offset out
  | 1 => decodeUnconfirmedRequest frame offset out
  | 2 => decodeInvokeAndService frame offset out
  | 3 => decodeComplexAck frame offset out
  | 5 => decodeInvokeAndService frame offset out
  | 6 => decodeInvokeAndReason frame offset out
  | 7 => decodeInvokeAndReason frame offset out
  | _ => return out

/-- What follows the NPDU header: the type of a network layer message, or the APDU. -/
def decodePayload (frame : List UInt8) (offset : Nat) (out : DecodedFrame) :
    Checked DecodedFrame := do
  if frame.length ≤ offset then return out
  if out.isNetworkMessage then return { out with networkMessageType := ← byteAt frame offset }
  decodeApdu frame offset out

/-- The hop count is there whenever DNET is, and comes after the source. -/
def decodeHopCount (frame : List UInt8) (offset : Nat)
    (out : DecodedFrame) : Checked DecodedFrame := do
  if out.hasDest then
    if frame.length ≤ offset then return out
    decodePayload frame (← add32 offset 1) out
  else decodePayload frame offset out

def decodeSource (frame : List UInt8) (offset : Nat) (out : DecodedFrame) :
    Checked DecodedFrame := do
  if out.hasSrc then
    if frame.length < (← add32 offset 3) then return out
    let out :=
      { out with snet := word16 (← byteAt frame offset) (← byteAt frame (← add32 offset 1)) }
    let slen ← byteAt frame (← add32 offset 2)
    let offset ← add32 offset 3
    let next ← add32 offset slen.toNat
    if frame.length < next then return out
    decodeHopCount frame next
      { out with sadrLength := slen, sadr := if 0 < slen then some offset else none }
  else decodeHopCount frame offset out

def decodeDestination (frame : List UInt8) (offset : Nat)
    (out : DecodedFrame) : Checked DecodedFrame := do
  if out.hasDest then
    if frame.length < (← add32 offset 3) then return out
    let out :=
      { out with dnet := word16 (← byteAt frame offset) (← byteAt frame (← add32 offset 1)) }
    let dlen ← byteAt frame (← add32 offset 2)
    let offset ← add32 offset 3
    let next ← add32 offset dlen.toNat
    if frame.length < next then return out
    decodeSource frame next
      { out with dadrLength := dlen, dadr := if 0 < dlen then some offset else none }
  else decodeSource frame offset out

def decodeNpdu (frame : List UInt8) (offset : Nat) (out : DecodedFrame) : Checked DecodedFrame := do
  if frame.length < (← add32 offset 2) then return out
  let control ← byteAt frame (← add32 offset 1)
  decodeDestination frame (← add32 offset 2) { out with
    hasNpdu := true
    npduVersion := ← byteAt frame offset
    npduControl := control
    hasDest := control &&& 0x20 != 0
    hasSrc := control &&& 0x08 != 0
    isNetworkMessage := control &&& 0x80 != 0 }

/-- A BVLC control message carries no NPDU. -/
def decodeBacnetFrame (frame : List UInt8) : Checked DecodedFrame := do
  if frame.length < 4 then return {}
  if (← byteAt frame 0) ≠ 0x81 then return {}
  let bvlcFunction ← byteAt frame 1
  let out : DecodedFrame := { bacnetIp := true, bvlcFunction := bvlcFunction }
  match bvlcFunction.toNat with
  | 0x0A => decodeNpdu frame 4 out
  | 0x0B => decodeNpdu frame 4 out
  | 0x04 => decodeNpdu frame 10 out
  | _ => return out

end BacnetGateway.Frames
