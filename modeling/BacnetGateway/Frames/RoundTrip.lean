/-
  BacnetGateway.Frames.RoundTrip — the decoder undoes the encoders.

  Each encoder has one lemma: in the ranges it takes it does not raise, and the stage of the
  parser that reads what it writes gets back what was written and goes on behind it
  (`contextUnsigned_octets`, `specifier_source`, `apdu_octets`). They compose in the order of
  the frame, to `decode_encode`.
-/

import BacnetGateway.Frames.Encoder
import BacnetGateway.Frames.Truncation

namespace BacnetGateway.Frames

open Lib.Memory Lib.Octets

/-! ## Numbers -/

theorem byte_ok {n : Nat} (h : n < 256) : byte n = some n.toUInt8 := if_pos h

theorem word16_octets (hi lo : UInt8) : word16 hi lo = ofOctets [hi, lo] := by
  rw [word16, shiftLeft_or]
  simp [ofOctets]

theorem word32_octets (b3 b2 b1 b0 : UInt8) : word32 b3 b2 b1 b0 = ofOctets [b3, b2, b1, b0] := by
  have hshifts : word32 b3 b2 b1 b0 =
      ((b3.toNat <<< 8 ||| b2.toNat) <<< 8 ||| b1.toNat) <<< 8 ||| b0.toNat := by
    simp only [word32, Nat.shiftLeft_or_distrib, ← Nat.shiftLeft_add]
  rw [hshifts, shiftLeft_or, shiftLeft_or, shiftLeft_or]
  simp [ofOctets]

theorem unsignedValue_octets {octets : List UInt8} (h : octets.length ≤ 4) :
    unsignedValue octets = ofOctets octets := by
  induction octets using List.reverseRecOn with
  | nil => rfl
  | append_singleton octets b ih =>
    rw [List.length_append, List.length_singleton] at h
    have hlength : octets.length ≤ 3 := by omega
    have hlt : ofOctets octets < 256 ^ 3 :=
      Nat.lt_of_lt_of_le (ofOctets_lt octets) (Nat.pow_le_pow_right (by decide) hlength)
    unfold unsignedValue at ih ⊢
    rw [List.foldl_append, ih (by omega), ofOctets_concat]
    show (ofOctets octets <<< 8) % 2 ^ 32 ||| b.toNat = _
    rw [Nat.mod_eq_of_lt (by rw [Nat.shiftLeft_eq]; omega), shiftLeft_or]

theorem packH_octets {n : Nat} (h : n < 2 ^ 16) :
    ∃ hi lo, packH n = some [hi, lo] ∧ word16 hi lo = n :=
  ⟨_, _, if_pos h, (word16_octets _ _).trans (ofOctets_toOctets (show n < 256 ^ 2 from h))⟩

theorem packI_octets {n : Nat} (h : n < 2 ^ 32) :
    ∃ b3 b2 b1 b0, packI n = some [b3, b2, b1, b0] ∧ word32 b3 b2 b1 b0 = n :=
  ⟨_, _, _, _, if_pos h,
    (word32_octets _ _ _ _).trans (ofOctets_toOctets (show n < 256 ^ 4 from h))⟩

/-- As few octets as hold the value. -/
theorem unsignedOctets_octets {value : Nat} (h : value < 2 ^ 32) :
    ∃ octets, unsignedOctets value = some octets ∧ 1 ≤ octets.length ∧ octets.length ≤ 4 ∧
      unsignedValue octets = value := by
  unfold unsignedOctets
  cases hfind : [1, 2, 3, 4].find? fun length => value < 1 <<< (8 * length) with
  | none =>
    have hfour := List.find?_eq_none.mp hfind 4 (by decide)
    exact absurd h (by simpa using hfour)
  | some length =>
    have hmem : length = 1 ∨ length = 2 ∨ length = 3 ∨ length = 4 := by
      simpa using List.mem_of_find?_eq_some hfind
    have hvalue : value < 256 ^ length := by
      have hlt : value < 1 <<< (8 * length) := by simpa using List.find?_some hfind
      rwa [Nat.shiftLeft_eq, Nat.one_mul, Nat.pow_mul] at hlt
    have hlength := length_toOctets length value
    refine ⟨_, if_pos hvalue, by omega, by omega, ?_⟩
    rw [unsignedValue_octets (by omega), ofOctets_toOctets hvalue]

/-! ## Tags -/

theorem parseTagHeader_short {b0 : UInt8} (hnumber : b0 >>> 4 &&& 0x0F ≠ 0x0F)
    (hlvt : b0 &&& 0x07 ≤ 4) (rest : List UInt8) :
    parseTagHeader (b0 :: rest) = some {
      tagNumber := b0 >>> 4 &&& 0x0F
      contextSpecific := b0 &&& 0x08 != 0
      isOpeningTag := false
      isClosingTag := false
      length := (b0 &&& 0x07).toNat
      headerLength := 1 } := by
  have h6 : b0 &&& 0x07 ≠ 6 := by
    intro h
    rw [h] at hlvt
    exact absurd hlvt (by decide)
  have h7 : b0 &&& 0x07 ≠ 7 := by
    intro h
    rw [h] at hlvt
    exact absurd hlvt (by decide)
  simp [parseTagHeader, parseTagNumber, parseLength, hnumber, hlvt, h6, h7]

/-- The first octet of a context tag of up to four octets. -/
theorem contextTag_octet : ∀ tag < 15, ∀ length < 5,
    (tag <<< 4 ||| 0x08 ||| length) < 256 ∧
      ((tag <<< 4 ||| 0x08 ||| length).toUInt8 >>> 4 &&& 0x0F = tag.toUInt8 ∧ tag.toUInt8 ≠ 0x0F) ∧
      ((tag <<< 4 ||| 0x08 ||| length).toUInt8 &&& 0x08 != 0) = true ∧
      (tag <<< 4 ||| 0x08 ||| length).toUInt8 &&& 0x07 = length.toUInt8 ∧ length.toUInt8 ≤ 4 ∧
      length.toUInt8.toNat = length := by
  decide

/-- A context tag of up to four octets, and what the parser makes of its header. -/
theorem contextTag_header {tag length : Nat} (htag : tag < 15) (hlength : length < 5) :
    ∃ b0, byte (tag <<< 4 ||| 0x08 ||| length) = some b0 ∧ ∀ rest,
      parseTagHeader (b0 :: rest) = some {
      tagNumber := tag.toUInt8
      contextSpecific := true
      isOpeningTag := false
      isClosingTag := false
      length := length
      headerLength := 1 } := by
  obtain ⟨hbyte, ⟨hnumber, hshort⟩, hcontext, hlvt, hfour, hlength⟩ :=
    contextTag_octet tag htag length hlength
  refine ⟨_, byte_ok hbyte, fun rest => ?_⟩
  rw [parseTagHeader_short (hnumber ▸ hshort) (hlvt ▸ hfour), hnumber, hcontext, hlvt, hlength]

theorem contextUnsigned_octets {tag value : Nat} (htag : tag < 15) (h : value < 2 ^ 32) :
    ∃ b0 octets, contextUnsigned tag value = some (b0 :: octets) ∧ octets ≠ [] ∧ octets.length ≤ 4 ∧
      unsignedValue octets = value ∧ ∀ rest, parseTagHeader (b0 :: rest) = some {
        tagNumber := tag.toUInt8
        contextSpecific := true
        isOpeningTag := false
        isClosingTag := false
        length := octets.length
        headerLength := 1 } := by
  obtain ⟨octets, hoctets, hpos, hfour, hvalue⟩ := unsignedOctets_octets h
  obtain ⟨b0, hb0, hheader⟩ := contextTag_header htag (show octets.length < 5 by omega)
  refine ⟨b0, octets, ?_, List.ne_nil_of_length_pos hpos, hfour, hvalue, hheader⟩
  simp [contextUnsigned, hoctets, hb0]

/-! ## Object and property -/

theorem contextUnsigned_arrayIndex {value : Nat} (h : value < 2 ^ 32) :
    ∃ octets, contextUnsigned 2 value = some octets ∧ ∀ rest out,
      parseArrayIndex (octets ++ rest) out =
        { out with hasArrayIndex := true, arrayIndex := value } := by
  obtain ⟨b0, octets, hoctets, hne, hfour, hvalue, hheader⟩ :=
    contextUnsigned_octets (show 2 < 15 by decide) h
  refine ⟨_, hoctets, fun rest out => ?_⟩
  simp [parseArrayIndex, hheader, hne, hfour, hvalue]

theorem contextUnsigned_property {value : Nat} (h : value < 2 ^ 32) :
    ∃ octets, contextUnsigned 1 value = some octets ∧ ∀ objValue rest out,
      parseProperty objValue (octets ++ rest) out = parseArrayIndex rest { out with
        hasObjectProperty := true
        objectType := objValue >>> 22 &&& 0x3FF
        objectInstance := objValue &&& 0x3FFFFF
        propertyId := value } := by
  obtain ⟨b0, octets, hoctets, hne, hfour, hvalue, hheader⟩ :=
    contextUnsigned_octets (show 1 < 15 by decide) h
  refine ⟨_, hoctets, fun objValue rest out => ?_⟩
  simp [parseProperty, hheader, hne, hfour, hvalue]

/-- The ranges of the object type and the instance of an object identifier. -/
def ObjectInRange (objectType objectInstance : Nat) : Prop :=
  objectType < 1024 ∧ objectInstance ≤ 0x3FFFFF

theorem objectId_value {objectType objectInstance : Nat}
    (h : ObjectInRange objectType objectInstance) :
    objectType <<< 22 ||| objectInstance < 2 ^ 32 ∧
    (objectType <<< 22 ||| objectInstance) >>> 22 &&& 0x3FF = objectType ∧
      (objectType <<< 22 ||| objectInstance) &&& 0x3FFFFF = objectInstance := by
  obtain ⟨htype, hinstance⟩ := h
  rw [← Nat.shiftLeft_add_eq_or_of_lt (show objectInstance < 2 ^ 22 by omega), Nat.shiftLeft_eq,
    Nat.shiftRight_eq_div_pow, show 0x3FF = 2 ^ 10 - 1 from rfl,
    show 0x3FFFFF = 2 ^ 22 - 1 from rfl, Nat.and_two_pow_sub_one_eq_mod,
    Nat.and_two_pow_sub_one_eq_mod]
  omega

theorem contextObjectId_octets {objectType objectInstance : Nat}
    (h : ObjectInRange objectType objectInstance) :
    ∃ octets, contextObjectId 0 objectType objectInstance = some octets ∧ ∀ rest out,
      parseObjectAndProperty (octets ++ rest) out =
        parseProperty (objectType <<< 22 ||| objectInstance) rest out := by
  obtain ⟨b3, b2, b1, b0, hoctets, hvalue⟩ := packI_octets (objectId_value h).1
  obtain ⟨tag, htag, hheader⟩ := contextTag_header (show 0 < 15 by decide) (show 4 < 5 by decide)
  refine ⟨tag :: b3 :: b2 :: b1 :: b0 :: [], ?_, fun rest out => ?_⟩
  · unfold contextObjectId objectId
    rw [htag, hoctets]
    rfl
  · simp [parseObjectAndProperty, hheader, hvalue]

/-! ## APDUs -/

/-- An APDU of one of the builders, with the arguments it is built from. -/
inductive Apdu where
  | readPropertyRequest (invokeId : UInt8) (objectType objectInstance propertyIdentifier : Nat)
      (arrayIndex : Option Nat)
  | writePropertyRequest (invokeId : UInt8) (objectType objectInstance propertyIdentifier : Nat)
      (valueOctets : List UInt8)
      (priority arrayIndex : Option Nat)
  | readPropertyAck (invokeId : UInt8) (objectType objectInstance propertyIdentifier : Nat)
      (valueOctets : List UInt8)
  | errorPdu (invokeId service : UInt8) (errorClass errorCode : Nat)
  | simpleAck (invokeId service : UInt8)
  | whoIs (low high : Option Nat)

def Apdu.octets : Apdu → Option (List UInt8)
  | .readPropertyRequest invokeId objectType objectInstance propertyIdentifier arrayIndex =>
    Frames.readPropertyRequest invokeId.toNat objectType objectInstance
      propertyIdentifier arrayIndex
  | .writePropertyRequest invokeId objectType objectInstance propertyIdentifier valueOctets
      priority arrayIndex =>
    Frames.writePropertyRequest invokeId.toNat objectType objectInstance propertyIdentifier
      valueOctets priority arrayIndex
  | .readPropertyAck invokeId objectType objectInstance propertyIdentifier valueOctets =>
    Frames.readPropertyAck invokeId.toNat objectType objectInstance propertyIdentifier valueOctets
  | .errorPdu invokeId service errorClass errorCode =>
    Frames.errorPdu invokeId.toNat service.toNat errorClass errorCode
  | .simpleAck invokeId service => Frames.simpleAck invokeId.toNat service.toNat
  | .whoIs low high => Frames.whoIs low high

/-- The arguments are in the ranges of what they are encoded as. -/
def Apdu.InRange : Apdu → Prop
  | .readPropertyRequest _ objectType objectInstance propertyIdentifier arrayIndex =>
    ObjectInRange objectType objectInstance ∧ propertyIdentifier < 2 ^ 32 ∧
      ∀ i ∈ arrayIndex, i < 2 ^ 32
  | .writePropertyRequest _ objectType objectInstance propertyIdentifier _ priority arrayIndex =>
    ObjectInRange objectType objectInstance ∧ propertyIdentifier < 2 ^ 32 ∧
      (∀ i ∈ arrayIndex, i < 2 ^ 32) ∧
      ∀ n ∈ priority, n < 2 ^ 32
  | .readPropertyAck _ objectType objectInstance propertyIdentifier _ =>
    ObjectInRange objectType objectInstance ∧ propertyIdentifier < 2 ^ 32
  | .errorPdu _ _ errorClass errorCode => errorClass < 2 ^ 32 ∧ errorCode < 2 ^ 32
  | .simpleAck _ _ => True
  | .whoIs low high => (∀ n ∈ low, n < 2 ^ 32 ∧ high.isSome) ∧ ∀ n ∈ high, n < 2 ^ 32

def DecodedFrame.withService (out : DecodedFrame)
    (pduType invokeId serviceChoice : UInt8) : DecodedFrame := { out with
  hasApdu := true
  pduType := pduType
  segmented := false
  hasInvokeId := true
  invokeId := invokeId
  hasServiceChoice := true
  serviceChoice := serviceChoice }

def DecodedFrame.withProperty (out : DecodedFrame) (objectType objectInstance propertyId : Nat)
    (arrayIndex : Option Nat) :
    DecodedFrame := { out with
  hasObjectProperty := true
  objectType := objectType
  objectInstance := objectInstance
  propertyId := propertyId
  hasArrayIndex := arrayIndex.isSome
  arrayIndex := arrayIndex.getD 0 }

/-- What the decoder makes of it, on top of the header. -/
def Apdu.decoded (out : DecodedFrame) : Apdu → DecodedFrame
  | .readPropertyRequest invokeId objectType objectInstance propertyIdentifier arrayIndex =>
    (out.withService 0 invokeId 12).withProperty objectType objectInstance
      propertyIdentifier arrayIndex
  | .writePropertyRequest invokeId objectType objectInstance propertyIdentifier _ _ arrayIndex =>
    (out.withService 0 invokeId 15).withProperty objectType objectInstance
      propertyIdentifier arrayIndex
  | .readPropertyAck invokeId objectType objectInstance propertyIdentifier _ =>
    (out.withService 3 invokeId 12).withProperty objectType objectInstance propertyIdentifier none
  | .errorPdu invokeId service _ _ => out.withService 5 invokeId service
  | .simpleAck invokeId service => out.withService 2 invokeId service
  | .whoIs _ _ =>
    { out with hasApdu := true, pduType := 1, hasServiceChoice := true, serviceChoice := 8 }

/-- What follows the property where there is no array index: nothing, or an opening tag. -/
def NoIndex (rest : List UInt8) : Prop := rest = [] ∨ ∃ more, rest = 0x3E :: more

/-- Object, property and the array index, if there is one. -/
theorem property_octets {objectType objectInstance propertyIdentifier : Nat}
    {arrayIndex : Option Nat}
    (h : ObjectInRange objectType objectInstance) (hproperty : propertyIdentifier < 2 ^ 32)
    (hindex : ∀ i ∈ arrayIndex, i < 2 ^ 32) :
    ∃ object property index, contextObjectId 0 objectType objectInstance = some object ∧
      contextUnsigned 1 propertyIdentifier = some property ∧
      optional arrayIndex (contextUnsigned 2) = some index ∧
      ∀ rest (out : DecodedFrame) pduType invokeId serviceChoice, NoIndex rest →
        parseObjectAndProperty (object ++ (property ++ (index ++ rest)))
          (out.header.withService pduType invokeId serviceChoice)
          = (out.header.withService pduType invokeId serviceChoice).withProperty
            objectType objectInstance propertyIdentifier
              arrayIndex := by
  obtain ⟨object, hobject, hparseObject⟩ := contextObjectId_octets h
  obtain ⟨property, hproperty, hparseProperty⟩ := contextUnsigned_property hproperty
  obtain ⟨-, htype, hinstance⟩ := objectId_value h
  cases arrayIndex with
  | some i =>
    obtain ⟨index, hoctets, hparse⟩ := contextUnsigned_arrayIndex (hindex i rfl)
    refine ⟨object, property, index, hobject, hproperty, hoctets, fun rest out _ _ _ _ => ?_⟩
    rw [hparseObject, hparseProperty, htype, hinstance, hparse]
    rfl
  | none =>
    refine ⟨object, property, [], hobject, hproperty, rfl, fun rest out _ _ _ hrest => ?_⟩
    rw [hparseObject, hparseProperty, htype, hinstance, List.nil_append]
    rcases hrest with rfl | ⟨more, rfl⟩
    · rfl
    · rfl

theorem byte_toNat (b : UInt8) : byte b.toNat = some b := by
  rw [byte_ok b.toNat_lt]
  exact congrArg some UInt8.ofNat_toNat

theorem optional_ok {argument : Option Nat} {octets : Nat → Option (List UInt8)}
    (h : ∀ n ∈ argument, ∃ l, octets n = some l) :
    ∃ l, optional argument octets = some l := by
  cases argument with
  | none => exact ⟨[], rfl⟩
  | some n => exact h n rfl

theorem confirmedRequest_octets (invokeId : UInt8) {service : Nat} (hservice : service < 256)
    (parameters : List UInt8) :
    confirmedRequest invokeId.toNat service parameters =
      some (0x00 :: 0x05 :: invokeId :: service.toUInt8 :: parameters) := by
  unfold confirmedRequest
  rw [byte_toNat, byte_ok hservice]
  rfl

theorem parsePayload_apdu {out : DecodedFrame} (hnet : out.isNetworkMessage = false) (b0 : UInt8)
    (bytes : List UInt8) :
    parsePayload (b0 :: bytes) out.header = parseApdu b0 bytes out.header := by
  have hnet : out.header.isNetworkMessage = false := hnet
  simp [parsePayload, hnet]

theorem parseService_property {withProperty : List UInt8} {service : UInt8}
    (h : service ∈ withProperty) (bytes : List UInt8)
    (out : DecodedFrame) : parseService withProperty (service :: bytes) out
      = parseObjectAndProperty bytes
          { out with hasServiceChoice := true, serviceChoice := service } := by
  simp [parseService, h]

theorem opening_ok : opening 3 = some [0x3E] := rfl

theorem closing_ok : closing 3 = some [0x3F] := rfl

theorem contextUnsigned_ok {tag value : Nat} (htag : tag < 15) (h : value < 2 ^ 32) :
    ∃ octets, contextUnsigned tag value = some octets := by
  obtain ⟨b0, octets, hoctets, -⟩ := contextUnsigned_octets htag h
  exact ⟨_, hoctets⟩

theorem applicationEnumerated_ok {value : Nat} (h : value < 2 ^ 32) :
    ∃ octets, applicationEnumerated value = some octets := by
  obtain ⟨octets, hoctets, -, hfour, -⟩ := unsignedOctets_octets h
  have hbyte : ∀ length < 5, 0x90 ||| length < 256 := by decide
  refine ⟨[(0x90 ||| octets.length).toUInt8] ++ octets, ?_⟩
  unfold applicationEnumerated
  rw [hoctets]
  show (do return [← byte (0x90 ||| octets.length)] ++ octets) = _
  rw [byte_ok (hbyte _ (by omega))]
  rfl

/-- The APDU is built, and the parser makes `decoded` of it, on top of a header. -/
def Builds (built : Option (List UInt8)) (decoded : DecodedFrame → DecodedFrame) : Prop :=
  ∃ octets, built = some octets ∧
    ∀ out : DecodedFrame, out.isNetworkMessage = false →
      parsePayload octets out.header = decoded out.header

section
variable (invokeId : UInt8) {objectType objectInstance propertyIdentifier : Nat}
    (hrange : ObjectInRange objectType objectInstance)
  (hid : propertyIdentifier < 2 ^ 32)
include hrange hid

theorem readPropertyRequest_octets {arrayIndex : Option Nat}
    (hindexRange : ∀ i ∈ arrayIndex, i < 2 ^ 32) :
    Builds
      (readPropertyRequest invokeId.toNat objectType objectInstance propertyIdentifier arrayIndex)
      fun out =>
        (out.withService 0 invokeId 12).withProperty objectType objectInstance propertyIdentifier
          arrayIndex := by
  obtain ⟨object, property, index, hobject, hproperty, hindex, hparse⟩ :=
    property_octets hrange hid hindexRange
  refine ⟨0x00 :: 0x05 :: invokeId :: 12 :: (object ++ property ++ index), ?_, fun out hnet => ?_⟩
  · unfold readPropertyRequest
    rw [hobject, hproperty, hindex]
    exact confirmedRequest_octets invokeId (by decide) _
  · rw [parsePayload_apdu hnet]
    refine (parseService_property (show 12 ∈ [12, 15] by decide) _ _).trans ?_
    have hread := hparse [] out 0 invokeId 12 (.inl rfl)
    simp only [List.append_assoc, List.append_nil] at hread ⊢
    exact hread

theorem writePropertyRequest_octets {priority arrayIndex : Option Nat}
    (hindexRange : ∀ i ∈ arrayIndex, i < 2 ^ 32)
    (hpriorityRange : ∀ n ∈ priority, n < 2 ^ 32) (valueOctets : List UInt8) :
    Builds
      (writePropertyRequest invokeId.toNat objectType objectInstance propertyIdentifier valueOctets
        priority arrayIndex)
      fun out =>
        (out.withService 0 invokeId 15).withProperty objectType objectInstance propertyIdentifier
          arrayIndex := by
  obtain ⟨object, property, index, hobject, hproperty, hindex, hparse⟩ :=
    property_octets hrange hid hindexRange
  obtain ⟨last, hpriority⟩ :=
    optional_ok fun n hn => contextUnsigned_ok (show 4 < 15 by decide) (hpriorityRange n hn)
  refine ⟨0x00 :: 0x05 :: invokeId :: 15 ::
    (object ++ property ++ index ++ ([0x3E] ++ valueOctets ++ [0x3F]) ++ last), ?_,
    fun out hnet => ?_⟩
  · unfold writePropertyRequest
    rw [hobject, hproperty, hindex, hpriority, opening_ok, closing_ok]
    exact confirmedRequest_octets invokeId (by decide) _
  · rw [parsePayload_apdu hnet]
    refine (parseService_property (show 15 ∈ [12, 15] by decide) _ _).trans ?_
    have hread := hparse (0x3E :: (valueOctets ++ 0x3F :: last)) out 0 invokeId 15 (.inr ⟨_, rfl⟩)
    simp only [List.append_assoc, List.cons_append, List.nil_append] at hread ⊢
    exact hread

theorem readPropertyAck_octets (valueOctets : List UInt8) :
    Builds (readPropertyAck invokeId.toNat objectType objectInstance propertyIdentifier valueOctets)
      fun out =>
          (out.withService 3 invokeId 12).withProperty objectType objectInstance
          propertyIdentifier none := by
  obtain ⟨object, property, index, hobject, hproperty, hindex, hparse⟩ :=
    property_octets hrange hid (show ∀ i ∈ (none : Option Nat), i < 2 ^ 32 from
      fun _ h => nomatch h)
  obtain rfl : [] = index := Option.some.inj hindex
  refine ⟨0x30 :: invokeId :: 12 :: (object ++ property ++ [0x3E] ++ valueOctets ++ [0x3F]), ?_,
    fun out hnet => ?_⟩
  · unfold readPropertyAck
    rw [hobject, hproperty, opening_ok, closing_ok, byte_toNat]
    rfl
  · rw [parsePayload_apdu hnet]
    refine (parseService_property (show 12 ∈ [12] by decide) _ _).trans ?_
    have hread := hparse (0x3E :: (valueOctets ++ [0x3F])) out 3 invokeId 12 (.inr ⟨_, rfl⟩)
    simp only [List.append_assoc, List.cons_append, List.nil_append] at hread ⊢
    exact hread

end

theorem errorPdu_octets (invokeId service : UInt8) {errorClass errorCode : Nat}
    (hclass : errorClass < 2 ^ 32) (hcode : errorCode < 2 ^ 32) :
    Builds (errorPdu invokeId.toNat service.toNat errorClass errorCode) fun out =>
      out.withService 5 invokeId service := by
  obtain ⟨classOctets, hclass⟩ := applicationEnumerated_ok hclass
  obtain ⟨codeOctets, hcode⟩ := applicationEnumerated_ok hcode
  refine ⟨0x50 :: invokeId :: service :: (classOctets ++ codeOctets), ?_, fun out hnet => ?_⟩
  · unfold errorPdu
    rw [hclass, hcode, byte_toNat, byte_toNat]
    rfl
  · rw [parsePayload_apdu hnet]
    rfl

theorem simpleAck_octets (invokeId service : UInt8) :
    Builds (simpleAck invokeId.toNat service.toNat) fun out =>
      out.withService 2 invokeId service := by
  refine ⟨[0x20, invokeId, service], ?_, fun out hnet => ?_⟩
  · unfold simpleAck
    rw [byte_toNat, byte_toNat]
    rfl
  · rw [parsePayload_apdu hnet]
    rfl

theorem whoIs_octets {low high : Option Nat} (hlow : ∀ n ∈ low, n < 2 ^ 32 ∧ high.isSome)
    (hhigh : ∀ n ∈ high, n < 2 ^ 32) :
    Builds (whoIs low high) fun out =>
      { out with hasApdu := true, pduType := 1, hasServiceChoice := true, serviceChoice := 8 } := by
  have hlimits : ∃ limits,
      (optional low fun low =>
        do return (← contextUnsigned 0 low) ++ (← contextUnsigned 1 (← high))) = some limits := by
    refine optional_ok fun n hn => ?_
    obtain ⟨hn, hsome⟩ := hlow n hn
    obtain ⟨m, hm⟩ := Option.isSome_iff_exists.mp hsome
    obtain ⟨first, hfirst⟩ := contextUnsigned_ok (show 0 < 15 by decide) hn
    obtain ⟨second, hsecond⟩ := contextUnsigned_ok (show 1 < 15 by decide) (hhigh m hm)
    exact ⟨first ++ second, by simp [hm, hfirst, hsecond]⟩
  obtain ⟨limits, hlimits⟩ := hlimits
  refine ⟨0x10 :: 0x08 :: limits, ?_, fun out hnet => ?_⟩
  · unfold whoIs
    rw [hlimits]
    rfl
  · rw [parsePayload_apdu hnet]
    rfl

/-- An APDU in range is built, and the parser gets back what it was built from. -/
theorem apdu_octets {apdu : Apdu} (h : apdu.InRange) : Builds apdu.octets apdu.decoded := by
  cases apdu with
  | readPropertyRequest invokeId => exact readPropertyRequest_octets invokeId h.1 h.2.1 h.2.2
  | writePropertyRequest invokeId =>
    exact writePropertyRequest_octets invokeId h.1 h.2.1 h.2.2.1 h.2.2.2 _
  | readPropertyAck invokeId => exact readPropertyAck_octets invokeId h.1 h.2 _
  | errorPdu invokeId service => exact errorPdu_octets invokeId service h.1 h.2
  | simpleAck invokeId service => exact simpleAck_octets invokeId service
  | whoIs => exact whoIs_octets h.1 h.2

/-! ## Specifiers -/

/-- A network and an address on it, such as a specifier can hold. -/
structure Address where
  net : Nat
  mac : List UInt8
  net_lt : net < 2 ^ 16
  mac_le : mac.length ≤ 255

/-- The octets of a specifier, if there is one. -/
def Written (address : Option Address) (octets : List UInt8) : Prop :=
  match address with
  | none => octets = []
  | some a => ∃ hi lo, word16 hi lo = a.net ∧ octets = hi :: lo :: a.mac.length.toUInt8 :: a.mac

theorem specifier_written (address : Option Address) :
    ∃ octets,
      specifier (address.map Address.net) ((address.map Address.mac).getD []) = some octets ∧
      Written address octets := by
  cases address with
  | none => exact ⟨[], rfl, rfl⟩
  | some a =>
    obtain ⟨hi, lo, hnet, hvalue⟩ := packH_octets a.net_lt
    refine ⟨_, ?_, hi, lo, hvalue, rfl⟩
    show (do return (← packH a.net) ++ [← byte a.mac.length] ++ a.mac) = _
    rw [hnet, byte_ok (Nat.lt_succ_of_le a.mac_le)]
    rfl

def DecodedFrame.withDestination (out : DecodedFrame) (offset : Nat) : Option Address → DecodedFrame
  | none => out
  | some a => { out with
      dnet := a.net
      dadrLength := a.mac.length.toUInt8
      dadr := if 0 < a.mac.length.toUInt8 then some (offset + 3) else none }

def DecodedFrame.withSource (out : DecodedFrame) (offset : Nat) : Option Address → DecodedFrame
  | none => out
  | some a => { out with
      snet := a.net
      sadrLength := a.mac.length.toUInt8
      sadr := if 0 < a.mac.length.toUInt8 then some (offset + 3) else none }

theorem mac_length (a : Address) : a.mac.length % 256 = a.mac.length :=
  Nat.mod_eq_of_lt (Nat.lt_succ_of_le a.mac_le)

section
variable {address : Option Address} {octets : List UInt8} {out : DecodedFrame}

theorem parseSource_written (h : Written address octets) (hsrc : out.hasSrc = address.isSome)
    (offset : Nat) (rest : List UInt8) :
    parseSource offset (octets ++ rest) out =
      parseHopCount rest (out.withSource offset address) := by
  cases address with
  | none =>
    obtain rfl : octets = [] := h
    simp [parseSource, hsrc, DecodedFrame.withSource]
  | some a =>
    obtain ⟨hi, lo, hnet, rfl⟩ := h
    simp [parseSource, hsrc, hnet, mac_length, DecodedFrame.withSource]

theorem parseDestination_written (h : Written address octets) (hdest : out.hasDest = address.isSome)
    (offset : Nat) (rest : List UInt8) :
    parseDestination offset (octets ++ rest) out =
      parseSource (offset + octets.length) rest (out.withDestination offset address) := by
  cases address with
  | none =>
    obtain rfl : octets = [] := h
    simp [parseDestination, hdest, DecodedFrame.withDestination]
  | some a =>
    obtain ⟨hi, lo, hnet, rfl⟩ := h
    simp [parseDestination, hdest, hnet, mac_length, DecodedFrame.withDestination, Nat.add_assoc,
      Nat.add_comm 3]

end

/-! ## NPDUs -/

/-- What an NPDU carries: an APDU, or a network layer message of a type and what follows it. -/
inductive Message where
  | apdu (apdu : Apdu)
  | network (type : UInt8) (payload : List UInt8)

def Message.InRange : Message → Prop
  | .apdu a => a.InRange
  | .network type _ => type < 0x80

def Message.npdu (message : Message) (dest src : Option Address) (expectingReply : Bool)
    (hopCount : UInt8) : Option (List UInt8) :=
  let dadr := (dest.map Address.mac).getD []
  let sadr := (src.map Address.mac).getD []
  match message with
  | .apdu a => do
    Frames.npdu (← a.octets) none (dest.map Address.net) dadr (src.map Address.net)
      sadr expectingReply hopCount.toNat
  | .network type payload =>
    Frames.npdu payload (some type.toNat) (dest.map Address.net) dadr (src.map Address.net)
      sadr expectingReply hopCount.toNat

def Message.isNetwork : Message → Bool
  | .apdu _ => false
  | .network _ _ => true

def Message.decoded (out : DecodedFrame) : Message → DecodedFrame
  | .apdu a => a.decoded out
  | .network type _ => { out with networkMessageType := type }

theorem npduControl_bits (networkMessage dnet snet : Option Nat) (expectingReply : Bool) :
    let control := npduControl networkMessage dnet snet expectingReply
    control < 256 ∧ (control.toUInt8 &&& 0x20 != 0) = dnet.isSome ∧
      (control.toUInt8 &&& 0x08 != 0) = snet.isSome ∧
      (control.toUInt8 &&& 0x80 != 0) = networkMessage.isSome := by
  unfold npduControl
  cases networkMessage.isSome <;> cases dnet.isSome <;> cases snet.isSome
    <;> cases expectingReply <;> decide

/-- The octets of the hop count are there if those of the destination are. -/
theorem hopCount_octets (dest : Option Address) (hopCount : UInt8) :
    ∃ octets, (optional (dest.map Address.net) fun _ => do return [← byte hopCount.toNat]) =
      some octets ∧
      ∀ rest (out : DecodedFrame), out.hasDest = dest.isSome →
        parseHopCount (octets ++ rest) out = parsePayload rest out := by
  cases dest with
  | none => exact ⟨[], rfl, fun rest out h => by simp [parseHopCount, h]⟩
  | some a =>
    refine ⟨[hopCount], ?_, fun rest out h => by simp [parseHopCount, h]⟩
    show (do return [← byte hopCount.toNat]) = _
    rw [byte_toNat]
    rfl

/-- What follows the hop count: the type of a network layer message, and the payload. -/
theorem message_octets {message : Message} (h : message.InRange) (dest src : Option Address)
    (expectingReply : Bool) (hopCount : UInt8) :
    ∃ control destOctets srcOctets rest, message.npdu dest src expectingReply hopCount
        = some (0x01 :: control :: (destOctets ++ (srcOctets ++ rest))) ∧
      Written dest destOctets ∧ Written src srcOctets ∧
      (control &&& 0x20 != 0) = dest.isSome ∧ (control &&& 0x08 != 0) = src.isSome ∧
      (control &&& 0x80 != 0) = message.isNetwork ∧
      ∀ out : DecodedFrame, out.hasDest = dest.isSome → out.isNetworkMessage = message.isNetwork →
        out.header = out →
        parseHopCount rest out = message.decoded out := by
  obtain ⟨destOctets, hdest, hdestWritten⟩ := specifier_written dest
  obtain ⟨srcOctets, hsrc, hsrcWritten⟩ := specifier_written src
  obtain ⟨hop, hhop, hparseHop⟩ := hopCount_octets dest hopCount
  cases message with
  | apdu a =>
    obtain ⟨octets, hoctets, hparse⟩ := apdu_octets (show a.InRange from h)
    obtain ⟨hbyte, hdestBit, hsrcBit, hmessageBit⟩ :=
      npduControl_bits none (dest.map Address.net) (src.map Address.net) expectingReply
    refine ⟨_, destOctets, srcOctets, hop ++ octets, ?_, hdestWritten, hsrcWritten, ?_, ?_,
      hmessageBit, ?_⟩
    · show (do Frames.npdu (← a.octets) _ _ _ _ _ _ _) = _
      rw [hoctets]
      show Frames.npdu octets _ _ _ _ _ _ _ = _
      unfold npdu
      rw [byte_ok hbyte, hdest, hsrc, hhop]
      simp [optional, byte]
    · simpa using hdestBit
    · simpa using hsrcBit
    · intro out hdest hnet hheader
      rw [hparseHop _ _ hdest, ← hheader, hparse out hnet]
      rfl
  | network type payload =>
    obtain ⟨hbyte, hdestBit, hsrcBit, hmessageBit⟩ :=
      npduControl_bits (some type.toNat) (dest.map Address.net) (src.map Address.net) expectingReply
    refine ⟨_, destOctets, srcOctets, hop ++ type :: payload, ?_, hdestWritten, hsrcWritten, ?_, ?_,
      hmessageBit, ?_⟩
    · show Frames.npdu payload _ _ _ _ _ _ _ = _
      unfold npdu
      rw [byte_ok hbyte, hdest, hsrc, hhop]
      simp [optional, byte_toNat, byte_ok (show 1 < 256 by decide)]
    · simpa using hdestBit
    · simpa using hsrcBit
    · intro out hdest hnet hheader
      have hnet : out.isNetworkMessage = true := hnet
      rw [hparseHop _ _ hdest]
      simp [parsePayload, hnet, Message.decoded]

/-! ## Frames -/

/-- How an NPDU is wrapped. -/
inductive Link where
  | unicast
  | broadcast
  | forwarded (originatingMac : List UInt8)

def Link.InRange : Link → Prop
  | .forwarded originatingMac => originatingMac.length = 6
  | _ => True

def Link.wrap (npduOctets : List UInt8) : Link → Option (List UInt8)
  | .unicast => bvlc npduOctets false
  | .broadcast => bvlc npduOctets true
  | .forwarded originatingMac => forwardedNpdu originatingMac npduOctets

def Link.function : Link → UInt8
  | .unicast => 0x0A
  | .broadcast => 0x0B
  | .forwarded _ => 0x04

def Link.npduOffset : Link → Nat
  | .forwarded _ => 10
  | _ => 4

theorem bvll_octets {function : Nat} (hfunction : function < 256) {body : List UInt8}
    (h : 4 + body.length < 2 ^ 16) :
    ∃ hi lo, bvll function body = some (0x81 :: function.toUInt8 :: hi :: lo :: body) := by
  obtain ⟨hi, lo, hlength, -⟩ := packH_octets h
  refine ⟨hi, lo, ?_⟩
  unfold bvll
  rw [byte_ok hfunction, hlength]
  rfl

theorem link_octets {link : Link} (h : link.InRange) {octets : List UInt8}
    (hlength : link.npduOffset + octets.length ≤ 65535) :
    ∃ head, link.wrap octets = some (head ++ octets) ∧ head.length = link.npduOffset ∧
      parseBacnetFrame (head ++ octets) =
        parseNpdu link.npduOffset octets { bacnetIp := true, bvlcFunction := link.function } := by
  cases link with
  | unicast =>
    obtain ⟨hi, lo, hoctets⟩ :=
      bvll_octets (show BVLC_ORIGINAL_UNICAST < 256 by decide) (Nat.lt_succ_of_le hlength)
    exact ⟨[0x81, 0x0A, hi, lo], hoctets, rfl, rfl⟩
  | broadcast =>
    obtain ⟨hi, lo, hoctets⟩ :=
      bvll_octets (show BVLC_ORIGINAL_BROADCAST < 256 by decide) (Nat.lt_succ_of_le hlength)
    exact ⟨[0x81, 0x0B, hi, lo], hoctets, rfl, rfl⟩
  | forwarded originatingMac =>
    have hmac : originatingMac.length = 6 := h
    have hbody : 4 + (originatingMac ++ octets).length < 2 ^ 16 := by
      have hlength : 10 + octets.length ≤ 65535 := hlength
      rw [List.length_append, hmac]
      omega
    obtain ⟨hi, lo, hoctets⟩ := bvll_octets (show BVLC_FORWARDED_NPDU < 256 by decide) hbody
    refine ⟨0x81 :: 0x04 :: hi :: lo :: originatingMac, hoctets,
      by simp [hmac, Link.npduOffset], ?_⟩
    show parseNpdu 10 ((originatingMac ++ octets).drop 6) _ = _
    rw [List.drop_append_of_le_length (by omega), ← hmac, List.drop_length]
    rfl

/-! ## The round trip -/

def Apdu.pduType : Apdu → UInt8
  | .readPropertyRequest .. | .writePropertyRequest .. => 0
  | .readPropertyAck .. => 3
  | .errorPdu .. => 5
  | .simpleAck .. => 2
  | .whoIs .. => 1

def Apdu.facts : Apdu → List Fact
  | .readPropertyRequest invokeId objectType objectInstance propertyIdentifier arrayIndex =>
    [.invokeId invokeId, .service 0 12,
      .objectProperty objectType objectInstance propertyIdentifier]
      ++ (arrayIndex.map Fact.arrayIndex).toList
  | .writePropertyRequest invokeId objectType objectInstance propertyIdentifier _ _ arrayIndex =>
    [.invokeId invokeId, .service 0 15,
      .objectProperty objectType objectInstance propertyIdentifier]
      ++ (arrayIndex.map Fact.arrayIndex).toList
  | .readPropertyAck invokeId objectType objectInstance propertyIdentifier _ =>
    [.invokeId invokeId, .service 3 12,
      .objectProperty objectType objectInstance propertyIdentifier]
  | .errorPdu invokeId service _ _ => [.invokeId invokeId, .service 5 service]
  | .simpleAck invokeId service => [.invokeId invokeId, .service 2 service]
  | .whoIs _ _ => [.service 1 8]

/-- The PDU type; as it is before an APDU is read, if there is none. -/
def Message.pduType : Message → UInt8
  | .apdu a => a.pduType
  | .network _ _ => 0xFF

def Message.facts : Message → List Fact
  | .apdu a => a.facts
  | .network type _ => [.networkMessage type]

def routeFacts (dest src : Option Address) : List Fact :=
  (dest.map fun a => Fact.destination a.net).toList ++ (src.map fun a => Fact.source a.net).toList

/-- The octets `dadr` or `sadr` points at. -/
def addressOctets (frame : List UInt8) (address : Option Nat) (length : UInt8) : List UInt8 :=
  match address with
  | none => []
  | some address => (frame.drop address).take length.toNat

/-- The decoding of a frame says what the frame was built from, and nothing else. -/
structure Undone (frame : List UInt8) (link : Link) (message : Message) (dest src : Option Address)
    (d : DecodedFrame) : Prop where
  bvlc : d.bacnetIp = true ∧ d.bvlcFunction = link.function
  npdu : d.hasNpdu = true ∧ d.npduVersion = 1
  pdu : d.hasApdu = !message.isNetwork ∧ d.pduType = message.pduType ∧ d.segmented = false
  facts : ∀ fact, d.reports fact ↔ fact ∈ message.facts ++ routeFacts dest src
  dadr : d.dadrLength.toNat = ((dest.map Address.mac).getD []).length ∧
    addressOctets frame d.dadr d.dadrLength = (dest.map Address.mac).getD []
  sadr : d.sadrLength.toNat = ((src.map Address.mac).getD []).length ∧
    addressOctets frame d.sadr d.sadrLength = (src.map Address.mac).getD []

theorem withService_reports (out : DecodedFrame) (pduType invokeId serviceChoice : UInt8)
    (fact : Fact) :
    (out.header.withService pduType invokeId serviceChoice).reports fact
      ↔ fact ∈ [Fact.invokeId invokeId, .service pduType serviceChoice] ∨
        out.header.reports fact := by
  cases fact <;> simp [DecodedFrame.withService, DecodedFrame.reports, DecodedFrame.header]
    <;> grind

theorem withProperty_reports {out : DecodedFrame} (hproperty : out.hasObjectProperty = false)
    (hindex : out.hasArrayIndex = false)
    (objectType objectInstance propertyId : Nat) (arrayIndex : Option Nat) (fact : Fact) :
    (out.withProperty objectType objectInstance propertyId arrayIndex).reports fact ↔
      fact ∈ Fact.objectProperty objectType objectInstance propertyId ::
          (arrayIndex.map Fact.arrayIndex).toList ∨
        out.reports fact := by
  cases fact <;> cases arrayIndex
    <;> simp [DecodedFrame.withProperty, DecodedFrame.reports, hproperty, hindex] <;> grind

theorem apdu_reports (apdu : Apdu) (out : DecodedFrame) (fact : Fact) :
    (apdu.decoded out.header).reports fact ↔ fact ∈ apdu.facts ∨ out.header.reports fact := by
  cases apdu with
  | readPropertyRequest =>
    rw [Apdu.decoded, withProperty_reports rfl rfl, withService_reports, Apdu.facts]
    simp only [List.mem_append, List.mem_cons]
    grind
  | writePropertyRequest =>
    rw [Apdu.decoded, withProperty_reports rfl rfl, withService_reports, Apdu.facts]
    simp only [List.mem_append, List.mem_cons]
    grind
  | readPropertyAck =>
    rw [Apdu.decoded, withProperty_reports rfl rfl, withService_reports, Apdu.facts]
    simp only [List.mem_cons]
    grind
  | errorPdu => exact withService_reports _ _ _ _ _
  | simpleAck => exact withService_reports _ _ _ _ _
  | whoIs =>
    cases fact <;> simp [Apdu.decoded, Apdu.facts, DecodedFrame.reports, DecodedFrame.header]
    grind

theorem message_reports (message : Message) {out : DecodedFrame}
    (hnet : out.isNetworkMessage = message.isNetwork) (fact : Fact) :
    (message.decoded out.header).reports fact ↔ fact ∈ message.facts ∨
      match fact with
      | .destination dnet => out.hasDest ∧ out.dnet = dnet
      | .source snet => out.hasSrc ∧ out.snet = snet
      | _ => False := by
  cases message with
  | apdu a =>
    refine (apdu_reports a out fact).trans (or_congr_right ?_)
    have hnet : out.isNetworkMessage = false := hnet
    cases fact <;> simp [DecodedFrame.reports, DecodedFrame.header, hnet]
  | network type payload =>
    have hnet : out.isNetworkMessage = true := hnet
    cases fact <;> simp [Message.decoded, Message.facts, DecodedFrame.reports,
      DecodedFrame.header, hnet]
    grind

/-- What is in the header is as it was before the payload was read. -/
theorem message_header (message : Message) (out : DecodedFrame) :
    (message.decoded out).header = out.header := by
  rcases message with a | _
  · cases a <;> rfl
  · rfl

theorem message_keeps {α : Type} (field : DecodedFrame → α)
    (hfield : ∀ d : DecodedFrame, field d.header = field d) (message : Message)
    (out : DecodedFrame) : field (message.decoded out.header) = field out := by
  rw [← hfield, message_header, hfield, hfield]

theorem message_pdu (message : Message) (out : DecodedFrame) :
    (message.decoded out.header).hasApdu = (!message.isNetwork) ∧
    (message.decoded out.header).pduType = message.pduType ∧
      (message.decoded out.header).segmented = false := by
  rcases message with a | _
  · cases a <;> exact ⟨rfl, rfl, rfl⟩
  · exact ⟨rfl, rfl, rfl⟩

/-- A pointer behind the octets before a specifier and its first three points at its address. -/
theorem addressOctets_specifier (a : Address) (before rest : List UInt8) (hi lo : UInt8)
    {offset : Nat} (h : before.length = offset) :
    addressOctets (before ++ (hi :: lo :: a.mac.length.toUInt8 :: a.mac ++ rest))
      (if 0 < a.mac.length.toUInt8 then some (offset + 3) else none) a.mac.length.toUInt8 =
        a.mac := by
  subst h
  have hlength : a.mac.length.toUInt8.toNat = a.mac.length := mac_length a
  split
  · simp only [addressOctets, hlength]
    rw [List.drop_append, List.drop_of_length_le (by omega)]
    simp
  · next hzero =>
    have hzero : a.mac.length.toUInt8.toNat = 0 := by
      rw [UInt8.lt_iff_toNat_lt] at hzero
      exact Nat.eq_zero_of_not_pos hzero
    exact (List.eq_nil_of_length_eq_zero (hlength.symm.trans hzero)).symm

theorem dadr_written {address : Option Address} {octets before : List UInt8} {offset : Nat}
    (h : Written address octets)
    (hbefore : before.length = offset) (rest : List UInt8) (out : DecodedFrame)
    (hdadr : out.dadr = none) (hlength : out.dadrLength = 0) :
    (out.withDestination offset address).dadrLength.toNat =
      ((address.map Address.mac).getD []).length ∧
      addressOctets (before ++ (octets ++ rest)) (out.withDestination offset address).dadr
        (out.withDestination offset address).dadrLength = (address.map Address.mac).getD [] := by
  cases address with
  | none => simp [DecodedFrame.withDestination, hdadr, hlength, addressOctets]
  | some a =>
    obtain ⟨hi, lo, -, rfl⟩ := h
    exact ⟨mac_length a, addressOctets_specifier a before rest hi lo hbefore⟩

theorem sadr_written {address : Option Address} {octets before : List UInt8} {offset : Nat}
    (h : Written address octets)
    (hbefore : before.length = offset) (rest : List UInt8) (out : DecodedFrame)
    (hsadr : out.sadr = none) (hlength : out.sadrLength = 0) :
    (out.withSource offset address).sadrLength.toNat = ((address.map Address.mac).getD []).length ∧
      addressOctets (before ++ (octets ++ rest)) (out.withSource offset address).sadr
        (out.withSource offset address).sadrLength = (address.map Address.mac).getD [] := by
  cases address with
  | none => simp [DecodedFrame.withSource, hsadr, hlength, addressOctets]
  | some a =>
    obtain ⟨hi, lo, -, rfl⟩ := h
    exact ⟨mac_length a, addressOctets_specifier a before rest hi lo hbefore⟩

/-- What the decoder has when it has read the control octet of such a frame. -/
def flagged (link : Link) (message : Message) (control : UInt8)
    (dest src : Option Address) : DecodedFrame where
  bacnetIp := true
  bvlcFunction := link.function
  hasNpdu := true
  npduVersion := 0x01
  npduControl := control
  hasDest := dest.isSome
  hasSrc := src.isSome
  isNetworkMessage := message.isNetwork

/-- And when it has read the NPDU header. -/
def routed (link : Link) (message : Message) (control : UInt8) (dest src : Option Address)
    (destLength : Nat) : DecodedFrame :=
  ((flagged link message control dest src).withDestination (link.npduOffset + 2) dest).withSource
    (link.npduOffset + 2 + destLength) src

section
variable (link : Link) (message : Message) (control : UInt8) (dest src : Option Address)
    (destLength : Nat)

theorem routed_header :
    (routed link message control dest src destLength).header =
    routed link message control dest src destLength := by
  cases dest <;> cases src <;> rfl

theorem routed_flags : (routed link message control dest src destLength).hasDest = dest.isSome ∧
    (routed link message control dest src destLength).isNetworkMessage = message.isNetwork := by
  cases dest <;> cases src <;> exact ⟨rfl, rfl⟩

theorem routed_bvlc : (routed link message control dest src destLength).bacnetIp = true ∧
    (routed link message control dest src destLength).bvlcFunction = link.function := by
  cases dest <;> cases src <;> exact ⟨rfl, rfl⟩

theorem routed_npdu : (routed link message control dest src destLength).hasNpdu = true ∧
    (routed link message control dest src destLength).npduVersion = 1 := by
  cases dest <;> cases src <;> exact ⟨rfl, rfl⟩

theorem routed_dadr :
    (routed link message control dest src destLength).dadr =
      ((flagged link message control dest src).withDestination (link.npduOffset + 2) dest).dadr ∧
      (routed link message control dest src destLength).dadrLength =
        ((flagged link message control dest src).withDestination (link.npduOffset + 2)
          dest).dadrLength := by
  cases src <;> exact ⟨rfl, rfl⟩

theorem routed_facts (fact : Fact) :
    (match fact with
      | .destination dnet => (routed link message control dest src destLength).hasDest ∧
          (routed link message control dest src destLength).dnet = dnet
      | .source snet => (routed link message control dest src destLength).hasSrc ∧
          (routed link message control dest src destLength).snet = snet
      | _ => False) ↔ fact ∈ routeFacts dest src := by
  cases dest <;> cases src <;> cases fact <;>
    simp [routed, flagged, DecodedFrame.withDestination, DecodedFrame.withSource,
      routeFacts, eq_comm]

end

/-- The decoder undoes the encoders: of every APDU of the builders and every network layer
    message, routed and wrapped in any way, in the ranges of what they are encoded as and up
    to 65535 octets in all, it reports what the frame was built from, and nothing else. -/
theorem decode_encode (link : Link) (message : Message) (dest src : Option Address)
    (expectingReply : Bool) (hopCount : UInt8) (hlink : link.InRange) (hmessage : message.InRange) :
    ∃ octets, message.npdu dest src expectingReply hopCount = some octets ∧
      (link.npduOffset + octets.length ≤ 65535 →
        ∃ frame d, link.wrap octets = some frame ∧ decodeBacnetFrame frame = .ok d ∧
          Undone frame link message dest src d) := by
  obtain ⟨control, destOctets, srcOctets, rest, hoctets, hdest, hsrc, hdestBit, hsrcBit,
      hmessageBit, hrest⟩ :=
    message_octets hmessage dest src expectingReply hopCount
  refine ⟨_, hoctets, fun hlength => ?_⟩
  obtain ⟨head, hwrap, hhead, hparse⟩ := link_octets hlink hlength
  generalize hout : routed link message control dest src destOctets.length = out
  have hheader : out.header = out := hout ▸ routed_header _ _ _ _ _ _
  obtain ⟨hhasDest, hnet⟩ := hout ▸ routed_flags link message control dest src destOctets.length
  have hdecoded : parseBacnetFrame
      (head ++ 0x01 :: control :: (destOctets ++ (srcOctets ++ rest))) =
      message.decoded out.header := by
    rw [hparse]
    show parseDestination (link.npduOffset + 2) (destOctets ++ (srcOctets ++ rest)) _ = _
    rw [hdestBit, hsrcBit, hmessageBit, parseDestination_written hdest rfl,
      parseSource_written hsrc]
    · show parseHopCount rest (routed link message control dest src destOctets.length) = _
      rw [hout, hrest out hhasDest hnet hheader, hheader]
    · cases dest <;> rfl
  refine ⟨_, _, hwrap, decodeBacnetFrame_eq _, ?_⟩
  rw [hdecoded]
  have hkeep {α : Type} (field : DecodedFrame → α)
      (hfield : ∀ d : DecodedFrame, field d.header = field d) :
      field (message.decoded out.header) =
        field (routed link message control dest src destOctets.length) := by
    rw [hout, message_keeps field hfield]
  refine ⟨?_, ?_, message_pdu message out, fun fact => ?_, ?_, ?_⟩
  · rw [hkeep (·.bacnetIp) fun _ => rfl, hkeep (·.bvlcFunction) fun _ => rfl]
    exact routed_bvlc link message control dest src destOctets.length
  · rw [hkeep (·.hasNpdu) fun _ => rfl, hkeep (·.npduVersion) fun _ => rfl]
    exact routed_npdu link message control dest src destOctets.length
  · rw [message_reports message hnet, List.mem_append, ← hout]
    exact or_congr_right (routed_facts link message control dest src destOctets.length fact)
  · obtain ⟨hdadr, hlength⟩ := routed_dadr link message control dest src destOctets.length
    rw [hkeep (·.dadrLength) fun _ => rfl, hkeep (·.dadr) fun _ => rfl, hdadr, hlength]
    have hbefore : (head ++ [0x01, control]).length = link.npduOffset + 2 := by simp [hhead]
    simpa using dadr_written hdest hbefore (srcOctets ++ rest)
      (flagged link message control dest src) rfl rfl
  · rw [hkeep (·.sadrLength) fun _ => rfl, hkeep (·.sadr) fun _ => rfl]
    have hbefore : (head ++ 0x01 :: control :: destOctets).length =
        link.npduOffset + 2 + destOctets.length := by
      simp [hhead]
      omega
    have hsadr :=
        sadr_written hsrc hbefore rest
        ((flagged link message control dest src).withDestination (link.npduOffset + 2) dest)
      (by cases dest <;> rfl) (by cases dest <;> rfl)
    rw [List.append_assoc] at hsadr
    exact hsadr

/-- A WriteProperty with an array index, to an address behind a router and from another,
    forwarded by a BBMD. -/
theorem decode_encode_forwarded :
    ∃ octets frame d,
      (Message.apdu
        (.writePropertyRequest 7 2 3 85 [0x44, 0x3F, 0x80, 0x00, 0x00] (some 8) (some 300))).npdu
        (some ⟨100, [0x05], by decide, by decide⟩)
          (some ⟨65534, [0x0A, 0x00, 0x00, 0x01, 0xBA, 0xC0], by decide, by decide⟩) true 255
          = some octets ∧
      (Link.forwarded [0x0A, 0x00, 0x00, 0x02, 0xBA, 0xC0]).wrap octets = some frame ∧
      decodeBacnetFrame frame = .ok d ∧
      Undone frame (.forwarded [0x0A, 0x00, 0x00, 0x02, 0xBA, 0xC0])
        (.apdu (.writePropertyRequest 7 2 3 85 [0x44, 0x3F, 0x80, 0x00, 0x00] (some 8) (some 300)))
        (some ⟨100, [0x05], by decide, by decide⟩)
          (some ⟨65534, [0x0A, 0x00, 0x00, 0x01, 0xBA, 0xC0], by decide, by decide⟩) d := by
  obtain ⟨octets, hoctets, hdecode⟩ :=
      decode_encode (.forwarded [0x0A, 0x00, 0x00, 0x02, 0xBA, 0xC0])
    (.apdu (.writePropertyRequest 7 2 3 85 [0x44, 0x3F, 0x80, 0x00, 0x00] (some 8) (some 300)))
    (some ⟨100, [0x05], by decide, by decide⟩)
      (some ⟨65534, [0x0A, 0x00, 0x00, 0x01, 0xBA, 0xC0], by decide, by decide⟩) true 255
    rfl ⟨⟨by decide, by decide⟩, by decide, by simp, by simp⟩
  have hlength := congrArg (Option.map List.length) hoctets
  have hlength : octets.length = 39 := (Option.some.inj hlength).symm
  obtain ⟨frame, d, hframe⟩ := hdecode (by rw [hlength]; decide)
  exact ⟨octets, frame, d, hoctets, hframe⟩

end BacnetGateway.Frames
