/-
  BacnetGateway.Wiretest.Apdus — the parsers of `wiretest/codec.py` that take one APDU apart.

  - `writeProperty_written`, `readProperty_written`: a request is parsed back, whatever well-formed
    octets are its value and whichever of its options are there.
  - `propertyValue_written`: so is the value of an acknowledgement, of an array element too.
  - `readTag_header`: a tag that the frame log's decoder reads in full, `read_tag` reads so too.
  - `objectAndProperty_read`: what the frame log names of a request is what the parsers read.
-/

import BacnetGateway.Wiretest.Values

namespace BacnetGateway.Wiretest

open Frames Lib.Octets Lib.Lexing

/-! ## Python -/

/-- `data[index]`. -/
def octetAt (data : List UInt8) (index : Nat) : Python UInt8 :=
  match data[index]? with
  | none => .error .indexError
  | some b => .ok b

/-- `except (IndexError, struct.error): return None`. -/
def catching {α : Type} : Python (Option α) → Python (Option α)
  | .error .indexError => .ok none
  | .error .structError => .ok none
  | result => result

/-! ## Requests -/

structure ReadRequest where
  objectType : Nat
  objectInstance : Nat
  propertyIdentifier : Nat
  deriving DecidableEq

/-- `parse_read_property_request`. -/
def parseReadPropertyRequest (apdu : List UInt8) : Python (Option ReadRequest) :=
  catching do
    let (tag, position) ← readTag (apdu.drop 4)
    let raw ← unpackI tag.body
    let (tag, _) ← readTag position
    return some ⟨raw >>> 22, raw &&& 0x3FFFFF, ofOctets tag.body⟩

structure WriteRequest extends ReadRequest where
  arrayIndex : Option Nat
  valueOctets : List UInt8
  priority : Option Nat
  deriving DecidableEq

/-- The array index, if there is one. -/
def readArrayIndex (position : List UInt8) : Python (Option Nat × List UInt8) := do
  let (tag, after) ← readTag position
  if tag.number = 2 ∧ tag.kind = .value then return (some (ofOctets tag.body), after)
  return (none, position)

/-- The priority, if anything is left. -/
def readPriority (position : List UInt8) : Python (Option Nat) := do
  if position = [] then return none
  let (tag, _) ← readTag position
  return some (ofOctets tag.body)

/-- `parse_write_property_request`. -/
def parseWritePropertyRequest (apdu : List UInt8) : Python (Option WriteRequest) :=
  catching do
    if (← octetAt apdu 0) >>> 4 ≠ 0 then return none
    if (← octetAt apdu 3).toNat ≠ SERVICE_WRITE_PROPERTY then return none
    let (tag, position) ← readTag (apdu.drop 4)
    let raw ← unpackI tag.body
    let (tag, position) ← readTag position
    let propertyIdentifier := ofOctets tag.body
    let (arrayIndex, position) ← readArrayIndex position
    let (_, position) ← readTag position
    let (valueOctets, position) ← closingTag position
    let priority ← readPriority position
    return some ⟨⟨raw >>> 22, raw &&& 0x3FFFFF, propertyIdentifier⟩, arrayIndex,
      valueOctets, priority⟩

/-! ## Answers -/

def propertyValueFrom : Nat → List UInt8 → Python (Option (List UInt8))
  | 0, _ => .ok none
  | _ + 1, [] => .ok none
  | fuel + 1, octet :: data => do
    let (tag, position) ← readTag (octet :: data)
    if tag.isContext = true ∧ tag.number = 3 ∧ tag.kind = .opening then
      let (valueOctets, _) ← closingTag position
      return some valueOctets
    propertyValueFrom fuel position

/-- `read_property_value`. -/
def readPropertyValue (apdu : List UInt8) : Python (Option (List UInt8)) :=
  propertyValueFrom apdu.length (apdu.drop 3)

/-- `error_class_and_code`. -/
def errorClassAndCode (apdu : List UInt8) : Python (Option (Nat × Nat)) := do
  match ← applicationValues (apdu.drop 3) with
  | (_, errorClass) :: (_, errorCode) :: _ => return some (ofOctets errorClass, ofOctets errorCode)
  | _ => return none

/-! ## What the encoders write -/

theorem readPriority_written {priority : Option Nat} (h : ∀ n ∈ priority, n < 2 ^ 32) :
    ∃ octets, optional priority (contextUnsigned 4) = some octets ∧
      readPriority octets = .ok priority := by
  cases priority with
  | none => exact ⟨[], rfl, rfl⟩
  | some n =>
    obtain ⟨octets, body, hoctets, hvalue, hlexes⟩ :=
      contextUnsigned_lexes (show 4 < 15 by decide) (h n rfl)
    have hread := hlexes.2 []
    rw [List.append_nil] at hread
    refine ⟨octets, hoctets, ?_⟩
    simp [readPriority, hlexes.1, hread, hvalue, bind, Except.bind, pure, Except.pure]

/-- An opening tag is behind the index: it is not taken for one. -/
theorem readArrayIndex_written {arrayIndex : Option Nat} (h : ∀ n ∈ arrayIndex, n < 2 ^ 32)
    {start : List UInt8} {tag : Tag}
    (hstart : Lexes readTag start tag) (hkind : tag.kind = .opening) :
    ∃ octets, optional arrayIndex (contextUnsigned 2) = some octets ∧
      ∀ rest, readArrayIndex (octets ++ (start ++ rest)) = .ok (arrayIndex, start ++ rest) := by
  cases arrayIndex with
  | none =>
    refine ⟨[], rfl, fun rest => ?_⟩
    simp [readArrayIndex, hstart.2 rest, hkind, bind, Except.bind, pure, Except.pure]
  | some n =>
    obtain ⟨octets, body, hoctets, hvalue, hlexes⟩ :=
      contextUnsigned_lexes (show 2 < 15 by decide) (h n rfl)
    refine ⟨octets, hoctets, fun rest => ?_⟩
    simp [readArrayIndex, hlexes.2 (start ++ rest), hvalue, bind, Except.bind, pure, Except.pure]

/-- A request of a property, as it is parsed back. -/
theorem readProperty_written (invokeId : UInt8) {objectType objectInstance propertyIdentifier : Nat}
    {arrayIndex : Option Nat}
    (hobject : ObjectInRange objectType objectInstance) (hproperty : propertyIdentifier < 2 ^ 32)
    (hindex : ∀ n ∈ arrayIndex, n < 2 ^ 32) :
    ∃ apdu,
      readPropertyRequest invokeId.toNat objectType objectInstance propertyIdentifier arrayIndex =
        some apdu ∧
      parseReadPropertyRequest apdu =
        .ok (some ⟨objectType, objectInstance, propertyIdentifier⟩) := by
  obtain ⟨object, raw, hobject', hraw, hobjectLexes⟩ :=
    contextObjectId_lexes (show 0 < 15 by decide) hobject
  obtain ⟨property, body, hproperty', hvalue, hpropertyLexes⟩ :=
    contextUnsigned_lexes (show 1 < 15 by decide) hproperty
  obtain ⟨index, hindex'⟩ : ∃ index, optional arrayIndex (contextUnsigned 2) = some index := by
    cases arrayIndex with
    | none => exact ⟨_, rfl⟩
    | some n =>
      obtain ⟨octets, -, hoctets, -⟩ := contextUnsigned_lexes (show 2 < 15 by decide) (hindex n rfl)
      exact ⟨octets, hoctets⟩
  refine ⟨0x00 :: 0x05 :: invokeId :: 12 :: (object ++ (property ++ index)), ?_, ?_⟩
  · simp [readPropertyRequest, hobject', hproperty', hindex', confirmedRequest, byte_ok,
      invokeId.toNat_lt, SERVICE_READ_PROPERTY]
  · simp [parseReadPropertyRequest, hobjectLexes.2 (property ++ index), hpropertyLexes.2 index,
      hraw, hvalue, objectId_shift hobject,
      (objectId_value hobject).2.2, catching, bind, Except.bind, pure, Except.pure]

/-- A command of a property, as it is parsed back. -/
theorem writeProperty_written (invokeId : UInt8)
    {objectType objectInstance propertyIdentifier : Nat} {valueOctets : List UInt8}
    {priority arrayIndex : Option Nat} (hobject : ObjectInRange objectType objectInstance)
    (hproperty : propertyIdentifier < 2 ^ 32)
    (hindex : ∀ n ∈ arrayIndex, n < 2 ^ 32) (hpriority : ∀ n ∈ priority, n < 2 ^ 32)
    (hdata : Data valueOctets) :
    ∃ apdu,
      writePropertyRequest invokeId.toNat objectType objectInstance propertyIdentifier valueOctets
        priority arrayIndex = some apdu ∧
      parseWritePropertyRequest apdu =
        .ok (some ⟨⟨objectType, objectInstance, propertyIdentifier⟩, arrayIndex, valueOctets,
          priority⟩) := by
  obtain ⟨object, raw, hobject', hraw, hobjectLexes⟩ :=
    contextObjectId_lexes (show 0 < 15 by decide) hobject
  obtain ⟨property, body, hproperty', hvalue, hpropertyLexes⟩ :=
    contextUnsigned_lexes (show 1 < 15 by decide) hproperty
  obtain ⟨start, hstart, hstartLexes⟩ := opening_lexes (show 3 < 15 by decide)
  obtain ⟨stop, hstop, hstopLexes⟩ := closing_lexes (show 3 < 15 by decide)
  obtain ⟨index, hindex', hindexRead⟩ := readArrayIndex_written hindex hstartLexes rfl
  obtain ⟨last, hlast, hlastRead⟩ := readPriority_written hpriority
  have hclosing : closingTag (valueOctets ++ (stop ++ last)) = .ok (valueOctets, last) :=
    closingTag_data hdata hstopLexes rfl
  refine ⟨0x00 :: 0x05 :: invokeId :: 15 ::
    (object ++ (property ++ (index ++ (start ++ (valueOctets ++ (stop ++ last)))))), ?_, ?_⟩
  · simp [writePropertyRequest, hobject', hproperty', hindex', hstart, hstop, hlast,
      confirmedRequest, byte_ok, invokeId.toNat_lt, SERVICE_WRITE_PROPERTY]
  · simp [parseWritePropertyRequest, octetAt, SERVICE_WRITE_PROPERTY,
      hobjectLexes.2 (property ++ (index ++ (start ++ (valueOctets ++ (stop ++ last))))),
      hpropertyLexes.2 (index ++ (start ++ (valueOctets ++ (stop ++ last)))),
      hindexRead (valueOctets ++ (stop ++ last)),
      hstartLexes.2 (valueOctets ++ (stop ++ last)), hclosing, hlastRead, hraw, hvalue,
      objectId_shift hobject,
      (objectId_value hobject).2.2, catching, bind, Except.bind, pure, Except.pure]

/-- A command at priority 8 of the 16th element, with a REAL in a bracket of its own. -/
theorem writeProperty_written_bracketed :
    ∃ apdu, writePropertyRequest 7 2 3 87
      [0x1E, 0x44, 0x41, 0xAC, 0x00, 0x00, 0x1F] (some 8) (some 16) = some apdu ∧
      parseWritePropertyRequest apdu =
        .ok (some ⟨⟨2, 3, 87⟩, some 16, [0x1E, 0x44, 0x41, 0xAC, 0x00, 0x00, 0x1F], some 8⟩) := by
  have hreal : Lexes readTag [0x44, 0x41, 0xAC, 0x00, 0x00] ⟨4, false, .value,
    [0x41, 0xAC, 0x00, 0x00]⟩ := ⟨by decide, fun rest => rfl⟩
  have hopening : Lexes readTag [0x1E] ⟨1, true, .opening, []⟩ := ⟨by decide, fun rest => rfl⟩
  have hclosing : Lexes readTag [0x1F] ⟨1, true, .closing, []⟩ := ⟨by decide, fun rest => rfl⟩
  have hdata : Data [0x1E, 0x44, 0x41, 0xAC, 0x00, 0x00, 0x1F] :=
    .group hopening rfl (.token hreal rfl .nil) hclosing rfl .nil
  refine writeProperty_written 7 ⟨by decide, by decide⟩ (by decide)
    (fun n hn => ?_) (fun n hn => ?_) hdata
  · cases hn
    decide
  · cases hn
    decide

theorem propertyValueFrom_append {text rest : List UInt8} {tag : Tag} (h : Lexes readTag text tag)
    {fuel : Nat} :
    propertyValueFrom (fuel + 1) (text ++ rest) =
      if tag.isContext = true ∧ tag.number = 3 ∧
        tag.kind = .opening then (closingTag rest).map fun read => some read.1
      else propertyValueFrom fuel rest := by
  obtain ⟨octet, text, rfl⟩ := List.exists_cons_of_ne_nil h.1
  have hread := h.2 rest
  rw [List.cons_append] at hread
  simp only [List.cons_append, propertyValueFrom, hread, bind, Except.bind]
  split
  · cases closingTag rest <;> rfl
  · rfl

/-- The acknowledgement of a read, as a device gives it: of an array element with the index of
    it. `read_property_ack` writes those of whole properties (`elementAck_none`). -/
def elementAck (invokeId objectType objectInstance propertyIdentifier : Nat)
    (arrayIndex : Option Nat) (valueOctets : List UInt8) : Option (List UInt8) := do
  return [← byte 0x30, ← byte invokeId, ← byte SERVICE_READ_PROPERTY] ++
    (← contextObjectId 0 objectType objectInstance)
    ++ (← contextUnsigned 1 propertyIdentifier) ++
      (← Frames.optional arrayIndex (contextUnsigned 2)) ++ (← opening 3)
    ++ valueOctets ++ (← closing 3)

theorem elementAck_none (invokeId objectType objectInstance propertyIdentifier : Nat)
    (valueOctets : List UInt8) :
    elementAck invokeId objectType objectInstance propertyIdentifier none valueOctets =
      readPropertyAck invokeId objectType objectInstance propertyIdentifier valueOctets := by
  simp [elementAck, readPropertyAck, Frames.optional]

/-- The value of an acknowledgement: neither the index nor what is in front of it is taken for
    the bracket. -/
theorem propertyValue_written (invokeId : UInt8)
    {objectType objectInstance propertyIdentifier : Nat}
    {arrayIndex : Option Nat} {valueOctets : List UInt8}
    (hobject : ObjectInRange objectType objectInstance)
    (hproperty : propertyIdentifier < 2 ^ 32) (hindex : ∀ n ∈ arrayIndex, n < 2 ^ 32)
    (hdata : Data valueOctets) :
    ∃ parameters,
      elementAck invokeId.toNat objectType objectInstance propertyIdentifier
      arrayIndex valueOctets =
        some (0x30 :: invokeId :: 12 :: parameters) ∧
      readPropertyValue (0x30 :: invokeId :: 12 :: parameters) = .ok (some valueOctets) := by
  obtain ⟨object, raw, hobject', -, hobjectLexes⟩ :=
    contextObjectId_lexes (show 0 < 15 by decide) hobject
  obtain ⟨property, body, hproperty', -, hpropertyLexes⟩ :=
    contextUnsigned_lexes (show 1 < 15 by decide) hproperty
  obtain ⟨start, hstart, hstartLexes⟩ := opening_lexes (show 3 < 15 by decide)
  obtain ⟨stop, hstop, hstopLexes⟩ := closing_lexes (show 3 < 15 by decide)
  have hclosing : closingTag (valueOctets ++ (stop ++ [])) = .ok (valueOctets, []) :=
    closingTag_data hdata hstopLexes rfl
  have hvalue (fuel : Nat) : propertyValueFrom (fuel + 1) (start ++ (valueOctets ++ (stop ++ []))) =
      .ok (some valueOctets) := by
    rw [propertyValueFrom_append hstartLexes, if_pos (by simp), hclosing]
    rfl
  cases arrayIndex with
  | none =>
    refine ⟨object ++ (property ++ (start ++ (valueOctets ++ (stop ++ [])))), ?_, ?_⟩
    · simp [elementAck, Frames.optional, hobject', hproperty', hstart, hstop, byte_ok,
        invokeId.toNat_lt, SERVICE_READ_PROPERTY]
    · unfold readPropertyValue
      simp only [List.length_cons, List.drop_succ_cons, List.drop_zero]
      rw [propertyValueFrom_append hobjectLexes, if_neg (by simp),
        propertyValueFrom_append hpropertyLexes, if_neg (by simp), hvalue]
  | some n =>
    obtain ⟨index, indexBody, hindex', -, hindexLexes⟩ :=
      contextUnsigned_lexes (show 2 < 15 by decide) (hindex n rfl)
    refine ⟨object ++ (property ++ (index ++ (start ++ (valueOctets ++ (stop ++ []))))), ?_, ?_⟩
    · simp [elementAck, Frames.optional, hobject', hproperty', hindex', hstart, hstop, byte_ok,
        invokeId.toNat_lt, SERVICE_READ_PROPERTY]
    · obtain ⟨fuel, hfuel⟩ : ∃ fuel, (0x30 :: invokeId :: 12 ::
          (object ++ (property ++ (index ++ (start ++ (valueOctets ++ (stop ++ []))))))).length =
            fuel + 1 + 1 + 1 + 1 := by
        have hpos := List.length_pos_iff.mpr hobjectLexes.1
        refine ⟨object.length +
          (property ++ (index ++ (start ++ (valueOctets ++ (stop ++ []))))).length - 1, ?_⟩
        rw [List.length_cons, List.length_cons, List.length_cons, List.length_append]
        omega
      unfold readPropertyValue
      rw [hfuel, List.drop_succ_cons, List.drop_succ_cons, List.drop_succ_cons, List.drop_zero,
        propertyValueFrom_append hobjectLexes, if_neg (by simp),
        propertyValueFrom_append hpropertyLexes,
        if_neg (by simp), propertyValueFrom_append hindexLexes, if_neg (by simp), hvalue]

/-- The class and the code of an error. -/
theorem error_written (invokeId service : UInt8) {errorClass errorCode : Nat}
    (hclass : errorClass < 2 ^ 32) (hcode : errorCode < 2 ^ 32) :
    ∃ parameters, errorPdu invokeId.toNat service.toNat errorClass errorCode =
      some (0x50 :: invokeId :: service :: parameters) ∧
      errorClassAndCode (0x50 :: invokeId :: service :: parameters) =
        .ok (some (errorClass, errorCode)) := by
  obtain ⟨octets, body, hoctets, hvalue, hlexes⟩ := applicationEnumerated_lexes hclass
  obtain ⟨octets', body', hoctets', hvalue', hlexes'⟩ := applicationEnumerated_lexes hcode
  refine ⟨octets ++ (octets' ++ []), ?_, ?_⟩
  · simp [errorPdu, hoctets, hoctets', byte_ok, invokeId.toNat_lt, service.toNat_lt]
  · have htokens : tokens readTag (octets ++ (octets' ++ [])) =
        .ok [⟨9, false, .value, body⟩, ⟨9, false, .value, body'⟩] := by
      rw [tokens_append readTag_shrinks hlexes, tokens_append readTag_shrinks hlexes']
      rfl
    unfold errorClassAndCode applicationValues
    simp only [List.drop_succ_cons, List.drop_zero, htokens]
    simp [Except.map, isApplicationValue, bind, Except.bind, pure, Except.pure, hvalue, hvalue']

/-! ## The other decoder -/

theorem shiftRight_mask (b0 : UInt8) : (b0 >>> 4 &&& 0x0F : UInt8) = b0 >>> 4 := by
  apply UInt8.toNat_inj.mp
  have hlt := b0.toNat_lt
  have hsmall : (b0 >>> 4).toNat < 16 := by
    rw [UInt8.toNat_shiftRight, Nat.shiftRight_eq_div_pow]
    show b0.toNat / 16 < 16
    omega
  rw [UInt8.toNat_and, show (0x0F : UInt8).toNat = 2 ^ 4 - 1 from rfl,
    Nat.and_two_pow_sub_one_eq_mod, Nat.mod_eq_of_lt hsmall]

theorem readNumber_header {b0 tagNumber : UInt8} {bytes : List UInt8} {n : Nat}
    (h : parseTagNumber (b0 >>> 4 &&& 0x0F) bytes = some (tagNumber, n)) :
    readNumber (b0 >>> 4) bytes = .ok (tagNumber.toNat, bytes.drop n) := by
  rw [shiftRight_mask] at h
  unfold parseTagNumber at h
  unfold readNumber
  split at h
  · rename_i hlong
    rw [if_pos hlong]
    cases bytes with
    | nil => cases h
    | cons b bytes =>
      cases h
      rfl
  · rename_i hshort
    rw [if_neg hshort]
    cases h
    rfl

theorem readLength_header {b0 : UInt8} {bytes : List UInt8} {length m : Nat}
    (h : parseLength true (b0 &&& 0x07) bytes = some (length, m)) (hopening : b0 &&& 0x07 ≠ 6)
    (hclosing : b0 &&& 0x07 ≠ 7) :
    readLength (b0 &&& 0x07).toNat bytes = .ok (length, bytes.drop m) := by
  generalize b0 &&& 0x07 = lvt at h hopening hclosing
  unfold parseLength at h
  rw [if_neg (by simp [hopening]), if_neg (by simp [hclosing])] at h
  unfold readLength
  split at h
  · rename_i hfour
    have hle : lvt.toNat ≤ 4 := hfour
    cases h
    rw [if_neg (by omega)]
    rfl
  · split at h
    · rename_i hfive
      rw [hfive, if_pos (by rfl)]
      unfold parseExtendedLength at h
      cases bytes with
      | nil => cases h
      | cons lenByte bytes =>
        dsimp only at h ⊢
        split at h
        · rename_i hlt
          have hlt : lenByte.toNat < 254 := hlt
          have h254 : lenByte ≠ 254 := by
            intro heq
            rw [heq] at hlt
            exact absurd hlt (by decide)
          have h255 : lenByte ≠ 255 := by
            intro heq
            rw [heq] at hlt
            exact absurd hlt (by decide)
          cases h
          rw [if_neg h254, if_neg h255]
          rfl
        · rename_i hge
          split at h
          · rename_i h254
            rw [if_pos h254]
            split at h
            · cases h
              simp [word16_octets]
            · cases h
          · rename_i h254
            have h255 : lenByte = 255 := by
              have hlt := lenByte.toNat_lt
              have hge : ¬ lenByte.toNat < 254 := hge
              have hne : lenByte.toNat ≠ 254 := fun heq => h254 (UInt8.toNat_inj.mp heq)
              apply UInt8.toNat_inj.mp
              show lenByte.toNat = 255
              omega
            rw [if_neg h254, if_pos h255]
            split at h
            · cases h
              simp [word32_octets]
            · cases h
    · cases h

/-- A context value that the frame log reads in full. -/
theorem readTag_header {bytes : List UInt8} {tag : TagHeader} (h : parseTagHeader bytes = some tag)
    (hcontext : tag.contextSpecific = true) (hpos : 0 < tag.length) :
    readTag bytes =
      .ok (⟨tag.tagNumber.toNat, true, .value, (bytes.drop tag.headerLength).take tag.length⟩,
      (bytes.drop tag.headerLength).drop tag.length) := by
  cases bytes with
  | nil => cases h
  | cons b0 bytes =>
    simp only [parseTagHeader] at h
    cases hnumber : parseTagNumber (b0 >>> 4 &&& 0x0F) bytes with
    | none =>
      rw [hnumber] at h
      cases h
    | some read =>
      obtain ⟨tagNumber, n⟩ := read
      rw [hnumber] at h
      dsimp only at h
      cases hlength : parseLength (b0 &&& 0x08 != 0) (b0 &&& 0x07) (bytes.drop n) with
      | none =>
        rw [hlength] at h
        cases h
      | some read =>
        obtain ⟨length, m⟩ := read
        rw [hlength] at h
        cases h
        dsimp only at hcontext hpos ⊢
        rw [hcontext] at hlength
        have hopening : b0 &&& 0x07 ≠ 6 := by
          intro hsix
          rw [hsix, parseLength, if_pos ⟨rfl, rfl⟩] at hlength
          cases hlength
          omega
        have hclosing : b0 &&& 0x07 ≠ 7 := by
          intro hseven
          rw [hseven, parseLength, if_neg (by decide), if_pos ⟨rfl, rfl⟩] at hlength
          cases hlength
          omega
        have hsix : (b0 &&& 0x07).toNat ≠ 6 := fun heq => hopening (UInt8.toNat_inj.mp heq)
        have hseven : (b0 &&& 0x07).toNat ≠ 7 := fun heq => hclosing (UInt8.toNat_inj.mp heq)
        simp only [readTag, readNumber_header hnumber, readLength_header hlength hopening hclosing,
          hcontext, hsix, hseven]
        have hdrop : (b0 :: bytes).drop (1 + n + m) = (bytes.drop n).drop m := by
          rw [List.drop_drop, show 1 + n + m = n + m + 1 by omega, List.drop_succ_cons]
        rw [hdrop]
        simp

theorem parseArrayIndex_keeps (bytes : List UInt8) (out : DecodedFrame) :
    let d := parseArrayIndex bytes out
    d.hasObjectProperty = out.hasObjectProperty ∧ d.objectType = out.objectType ∧
      d.objectInstance = out.objectInstance ∧
      d.propertyId = out.propertyId := by
  simp only [parseArrayIndex]
  repeat' split
  all_goals exact ⟨rfl, rfl, rfl, rfl⟩

theorem arrayIndex_read {bytes : List UInt8} {out : DecodedFrame} {arrayIndex : Nat}
    (hout : out.hasArrayIndex = false)
    (h : (parseArrayIndex bytes out).reports (.arrayIndex arrayIndex)) :
    ∃ body rest, readTag bytes = .ok (⟨2, true, .value, body⟩, rest) ∧
      ofOctets body = arrayIndex := by
  obtain ⟨hhas, hvalue⟩ := h
  simp only [parseArrayIndex] at hhas hvalue
  cases htag : parseTagHeader bytes with
  | none =>
    rw [htag] at hhas
    exact absurd (hout.symm.trans hhas) (by decide)
  | some tag =>
    rw [htag] at hhas hvalue
    dsimp only at hhas hvalue
    split at hhas
    · rename_i hindex
      obtain ⟨hcontext, hnumber, hpos, hfour⟩ := hindex
      split at hhas
      · rename_i hfits
        rw [if_pos ⟨hcontext, hnumber, hpos, hfour⟩, if_pos hfits] at hvalue
        have hread := readTag_header htag hcontext hpos
        rw [hnumber] at hread
        refine ⟨_, _, hread, ?_⟩
        rw [← unsignedValue_octets (by rw [List.length_take]; omega)]
        exact hvalue
      · exact absurd (hout.symm.trans hhas) (by decide)
    · exact absurd (hout.symm.trans hhas) (by decide)

theorem property_read {objValue : Nat} {bytes : List UInt8} {out : DecodedFrame}
    {objectType objectInstance propertyId : Nat}
    (hout : out.hasObjectProperty = false) (hindex : out.hasArrayIndex = false)
    (h : (parseProperty objValue bytes out).reports
      (.objectProperty objectType objectInstance propertyId)) :
    ∃ body rest, readTag bytes = .ok (⟨1, true, .value, body⟩, rest) ∧
      objValue >>> 22 &&& 0x3FF = objectType ∧
      objValue &&& 0x3FFFFF = objectInstance ∧ ofOctets body = propertyId ∧
      ∀ arrayIndex, (parseProperty objValue bytes out).reports (.arrayIndex arrayIndex) →
        ∃ body rest', readTag rest = .ok (⟨2, true, .value, body⟩, rest') ∧
          ofOctets body = arrayIndex := by
  obtain ⟨hhas, htype, hinstance, hid⟩ := h
  simp only [parseProperty] at hhas htype hinstance hid ⊢
  cases htag : parseTagHeader bytes with
  | none =>
    rw [htag] at hhas
    exact absurd (hout.symm.trans hhas) (by decide)
  | some tag =>
    rw [htag] at hhas htype hinstance hid
    dsimp only at hhas htype hinstance hid ⊢
    split at hhas
    · rename_i hproperty
      obtain ⟨hcontext, hnumber, hne, hfour⟩ := hproperty
      split at hhas
      · rename_i hfits
        rw [if_pos ⟨hcontext, hnumber, hne, hfour⟩, if_pos hfits] at htype hinstance hid ⊢
        obtain ⟨-, htype', hinstance', hid'⟩ :=
            parseArrayIndex_keeps ((bytes.drop tag.headerLength).drop tag.length) { out with
          hasObjectProperty := true
          objectType := objValue >>> 22 &&& 0x3FF
          objectInstance := objValue &&& 0x3FFFFF
          propertyId := unsignedValue ((bytes.drop tag.headerLength).take tag.length) }
        have hread := readTag_header htag hcontext (Nat.pos_of_ne_zero hne)
        rw [hnumber] at hread
        refine ⟨_, _, hread, htype'.symm.trans htype, hinstance'.symm.trans hinstance, ?_,
          fun arrayIndex harray => ?_⟩
        · rw [← unsignedValue_octets (by rw [List.length_take]; omega)]
          exact hid'.symm.trans hid
        · exact arrayIndex_read (by exact hindex) harray
      · exact absurd (hout.symm.trans hhas) (by decide)
    · exact absurd (hout.symm.trans hhas) (by decide)

theorem word32_lt (b3 b2 b1 b0 : UInt8) : word32 b3 b2 b1 b0 < 2 ^ 32 := by
  have hlt := ofOctets_lt [b3, b2, b1, b0]
  rw [← word32_octets] at hlt
  exact Nat.lt_of_lt_of_le hlt (by simp)

/-- The object, the property and the array index that the frame log names are what the parsers
    of requests read. -/
theorem objectAndProperty_read {bytes : List UInt8} {out : DecodedFrame}
    {objectType objectInstance propertyId : Nat}
    (hout : out.hasObjectProperty = false) (hindex : out.hasArrayIndex = false)
    (h : (parseObjectAndProperty bytes out).reports
      (.objectProperty objectType objectInstance propertyId)) :
    ∃ tag rest raw tag' rest', readTag bytes = .ok (tag, rest) ∧ unpackI tag.body = .ok raw ∧
      raw >>> 22 = objectType ∧
      raw &&& 0x3FFFFF = objectInstance ∧ readTag rest = .ok (tag', rest') ∧
      ofOctets tag'.body = propertyId ∧
      ∀ arrayIndex, (parseObjectAndProperty bytes out).reports (.arrayIndex arrayIndex) →
        ∃ body rest'', readTag rest' = .ok (⟨2, true, .value, body⟩, rest'') ∧
          ofOctets body = arrayIndex := by
  have hsilent {objectType objectInstance propertyId : Nat} : ¬ out.reports
      (.objectProperty objectType objectInstance propertyId) :=
    fun hreports => absurd (hout.symm.trans hreports.1) (by decide)
  simp only [parseObjectAndProperty] at h ⊢
  cases htag : parseTagHeader bytes with
  | none =>
    rw [htag] at h
    exact absurd h hsilent
  | some tag =>
    rw [htag] at h
    dsimp only at h ⊢
    split at h
    · rename_i hobject
      obtain ⟨hcontext, hnumber, hfour⟩ := hobject
      rw [if_pos ⟨hcontext, hnumber, hfour⟩]
      have hread := readTag_header htag hcontext (by omega)
      generalize bytes.drop tag.headerLength = value at h hread ⊢
      rcases value with _ | ⟨b3, _ | ⟨b2, _ | ⟨b1, _ | ⟨b0, rest⟩⟩⟩⟩
      · exact absurd h hsilent
      · exact absurd h hsilent
      · exact absurd h hsilent
      · exact absurd h hsilent
      · dsimp only at h ⊢
        rw [hfour] at hread
        obtain ⟨body, rest', hproperty, htype, hinstance, hid, harray⟩ :=
          property_read hout hindex h
        refine ⟨_, _, word32 b3 b2 b1 b0, _, rest', hread, ?_, ?_, hinstance,
          hproperty, hid, harray⟩
        · simp [unpackI, word32_octets]
        · have hlt := word32_lt b3 b2 b1 b0
          have hsmall : word32 b3 b2 b1 b0 >>> 22 < 2 ^ 10 := by
            rw [Nat.shiftRight_eq_div_pow]
            omega
          rwa [show 0x3FF = 2 ^ 10 - 1 from rfl, Nat.and_two_pow_sub_one_eq_mod,
            Nat.mod_eq_of_lt hsmall] at htype
    · exact absurd h hsilent

end BacnetGateway.Wiretest
