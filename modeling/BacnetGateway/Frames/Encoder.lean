/-
  BacnetGateway.Frames.Encoder — the encoders of `wiretest/codec.py`, with which the wire
  tests build the frames they send.

  `bytes` are lists of octets, and a function that can raise returns an `Option`: `bytes`
  refuses what is not an octet, `struct.pack` and `to_bytes` what does not fit. An argument
  that defaults to `None` is an `Option`.
-/

import BacnetGateway.Lib.Octets

namespace BacnetGateway.Frames

open Lib.Octets

def BVLC_TYPE : Nat := 0x81
def BVLC_FORWARDED_NPDU : Nat := 0x04
def BVLC_ORIGINAL_UNICAST : Nat := 0x0A
def BVLC_ORIGINAL_BROADCAST : Nat := 0x0B
def PDU_SIMPLE_ACK : Nat := 0x2
def SERVICE_READ_PROPERTY : Nat := 12
def SERVICE_WRITE_PROPERTY : Nat := 15
def SERVICE_WHO_IS : Nat := 8

/-! ## Python -/

/-- An element of `bytes([...])`. -/
def byte (n : Nat) : Option UInt8 := if n < 256 then some n.toUInt8 else none

/-- `struct.pack(">H", n)`. -/
def packH (n : Nat) : Option (List UInt8) := if n < 2 ^ 16 then some (toOctets 2 n) else none

/-- `struct.pack(">I", n)`. -/
def packI (n : Nat) : Option (List UInt8) := if n < 2 ^ 32 then some (toOctets 4 n) else none

/-- `value.to_bytes(length, "big")`. -/
def toBytes (value length : Nat) : Option (List UInt8) :=
  if value < 256 ^ length then some (toOctets length value) else none

/-- What is written only if the argument is not `None`. -/
def optional (argument : Option Nat) (octets : Nat → Option (List UInt8)) : Option (List UInt8) :=
  match argument with
  | none => some []
  | some n => octets n

/-! ## BVLC and NPDU -/

def bvll (function : Nat) (body : List UInt8) : Option (List UInt8) := do
  return [← byte BVLC_TYPE, ← byte function] ++ (← packH (4 + body.length)) ++ body

def bvlc (npduOctets : List UInt8) (broadcast : Bool) : Option (List UInt8) :=
  bvll (if broadcast then BVLC_ORIGINAL_BROADCAST else BVLC_ORIGINAL_UNICAST) npduOctets

def forwardedNpdu (originatingMac npduOctets : List UInt8) : Option (List UInt8) :=
  bvll BVLC_FORWARDED_NPDU (originatingMac ++ npduOctets)

/-- `struct.pack(">HB", net, len(address)) + address`. -/
def specifier (net : Option Nat) (address : List UInt8) : Option (List UInt8) :=
  optional net fun net => do return (← packH net) ++ [← byte address.length] ++ address

def npduControl (networkMessage dnet snet : Option Nat) (expectingReply : Bool) : Nat :=
  (if networkMessage.isSome then 0x80 else 0) ||| (if dnet.isSome then 0x20 else 0) |||
    (if snet.isSome then 0x08 else 0)
    ||| (if expectingReply then 0x04 else 0)

def npdu (payload : List UInt8) (networkMessage dnet : Option Nat) (dadr : List UInt8)
    (snet : Option Nat) (sadr : List UInt8)
    (expectingReply : Bool) (hopCount : Nat) : Option (List UInt8) := do
  let out := [← byte 0x01, ← byte (npduControl networkMessage dnet snet expectingReply)]
  let out := out ++ (← specifier dnet dadr)
  let out := out ++ (← specifier snet sadr)
  let out := out ++ (← optional dnet fun _ => do return [← byte hopCount])
  let out :=
    out ++ (← optional networkMessage fun networkMessage => do return [← byte networkMessage])
  return out ++ payload

/-! ## Tags -/

def objectId (objectType objectInstance : Nat) : Option (List UInt8) :=
  packI (objectType <<< 22 ||| objectInstance)

def unsignedOctets (value : Nat) : Option (List UInt8) :=
  match [1, 2, 3, 4].find? fun length => value < 1 <<< (8 * length) with
  | some length => toBytes value length
  | none => none

def contextUnsigned (tag value : Nat) : Option (List UInt8) := do
  let body ← unsignedOctets value
  return [← byte (tag <<< 4 ||| 0x08 ||| body.length)] ++ body

def contextObjectId (tag objectType objectInstance : Nat) : Option (List UInt8) := do
  return [← byte (tag <<< 4 ||| 0x08 ||| 4)] ++ (← objectId objectType objectInstance)

def opening (tag : Nat) : Option (List UInt8) := do return [← byte (tag <<< 4 ||| 0x0E)]

def closing (tag : Nat) : Option (List UInt8) := do return [← byte (tag <<< 4 ||| 0x0F)]

def applicationEnumerated (value : Nat) : Option (List UInt8) := do
  let body ← unsignedOctets value
  return [← byte (0x90 ||| body.length)] ++ body

/-! ## APDUs -/

def confirmedRequest (invokeId service : Nat) (parameters : List UInt8) : Option (List UInt8) := do
  return [← byte 0x00, ← byte 0x05, ← byte invokeId, ← byte service] ++ parameters

def readPropertyRequest (invokeId objectType objectInstance propertyIdentifier : Nat)
    (arrayIndex : Option Nat) :
    Option (List UInt8) := do
  let parameters :=
    (← contextObjectId 0 objectType objectInstance) ++ (← contextUnsigned 1 propertyIdentifier)
  let parameters := parameters ++ (← optional arrayIndex (contextUnsigned 2))
  confirmedRequest invokeId SERVICE_READ_PROPERTY parameters

def writePropertyRequest (invokeId objectType objectInstance propertyIdentifier : Nat)
    (valueOctets : List UInt8) (priority arrayIndex : Option Nat) : Option (List UInt8) := do
  let parameters :=
    (← contextObjectId 0 objectType objectInstance) ++ (← contextUnsigned 1 propertyIdentifier)
  let parameters := parameters ++ (← optional arrayIndex (contextUnsigned 2))
  let parameters := parameters ++ ((← opening 3) ++ valueOctets ++ (← closing 3))
  let parameters := parameters ++ (← optional priority (contextUnsigned 4))
  confirmedRequest invokeId SERVICE_WRITE_PROPERTY parameters

def readPropertyAck (invokeId objectType objectInstance propertyIdentifier : Nat)
    (valueOctets : List UInt8) :
    Option (List UInt8) := do
  return [← byte 0x30, ← byte invokeId, ← byte SERVICE_READ_PROPERTY] ++
    (← contextObjectId 0 objectType objectInstance)
    ++ (← contextUnsigned 1 propertyIdentifier) ++ (← opening 3) ++ valueOctets ++ (← closing 3)

def errorPdu (invokeId service errorClass errorCode : Nat) : Option (List UInt8) := do
  return [← byte 0x50, ← byte invokeId, ← byte service] ++ (← applicationEnumerated errorClass)
    ++ (← applicationEnumerated errorCode)

def simpleAck (invokeId service : Nat) : Option (List UInt8) := do
  return [← byte (PDU_SIMPLE_ACK <<< 4), ← byte invokeId, ← byte service]

/-- A `low` without a `high` is a `TypeError`. -/
def whoIs (low high : Option Nat) : Option (List UInt8) := do
  let out := [← byte 0x10, ← byte SERVICE_WHO_IS]
  return out ++ (← optional low fun low =>
    do return (← contextUnsigned 0 low) ++ (← contextUnsigned 1 (← high)))

end BacnetGateway.Frames
