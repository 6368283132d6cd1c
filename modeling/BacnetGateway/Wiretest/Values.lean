/-
  BacnetGateway.Wiretest.Values — the primitive values of `wiretest/codec.py`: the encoders of
  application values, `decode_application` and the lists of values.

  A float is the octets `struct` unpacks it from, a text the UTF-8 it is decoded from.

  - `decodedValues_ok`: what the octets hold is what their tags hold, each decoded by itself.
  - `primitive_writes`: each encoder writes one tag, which is decoded as the value it was given.
  - `values_written`: a sequence of values among other data is decoded as it was written.
-/

import BacnetGateway.Wiretest.Tags
import Mathlib.Algebra.Group.Int.Defs

namespace BacnetGateway.Wiretest

open Frames Lib.Octets Lib.Lexing

/-- `data[0]`. -/
def first : List UInt8 → Python UInt8
  | [] => .error .indexError
  | b :: _ => .ok b

/-- `int.from_bytes(body, "big", signed=True)`. -/
def signedOfOctets (body : List UInt8) : Int :=
  if 128 ≤ (body.headD 0).toNat then (ofOctets body : Int) - 256 ^ body.length else ofOctets body

/-- `xs[:stop]`. A negative `stop` counts from the end. -/
def sliceTo {α : Type} (xs : List α) (stop : Int) : List α :=
  if stop < 0 then xs.take (xs.length + stop).toNat else xs.take stop.toNat

/-! ## Values -/

def applicationUnsigned (value : Nat) : Option (List UInt8) := do
  let body ← unsignedOctets value
  return [← byte (0x20 ||| body.length)] ++ body

def applicationNull : Option (List UInt8) := do return [← byte 0x00]

def applicationBoolean (value : Bool) : Option (List UInt8) :=
  do return [← byte (if value then 0x11 else 0x10)]

/-- `packed` is what `struct.pack(">f", value)` makes of the value. -/
def applicationReal (packed : List UInt8) : Option (List UInt8) := do return [← byte 0x44] ++ packed

def applicationObjectId (objectType objectInstance : Nat) : Option (List UInt8) := do
  return [← byte 0xC4] ++ (← objectId objectType objectInstance)

/-- `encoded` is the text in UTF-8. -/
def applicationCharacterString (encoded : List UInt8) : Option (List UInt8) := do
  let body := [← byte 0x00] ++ encoded
  if body.length < 5 then return [← byte (0x70 ||| body.length)] ++ body
  return [← byte 0x75, ← byte body.length] ++ body

/-- The loop over the bits, `octets[index // 8] |= 0x80 >> (index % 8)`. -/
def setBits (octets : List UInt8) (bits : List Bool) : List UInt8 :=
  bits.zipIdx.foldl (fun octets b =>
    if b.1 then octets.modify (b.2 / 8) (· ||| (0x80 >>> (b.2 % 8)).toUInt8) else octets) octets

def contextOctetString (tag : Nat) (octets : List UInt8) : Option (List UInt8) := do
  if octets.length < 5 then return [← byte (tag <<< 4 ||| 0x08 ||| octets.length)] ++ octets
  return [← byte (tag <<< 4 ||| 0x08 ||| 5), ← byte octets.length] ++ octets

def applicationBitString (bits : List Bool) : Option (List UInt8) := do
  let octets := setBits (List.replicate ((bits.length + 7) / 8) 0) bits
  let body := [← byte (octets.length * 8 - bits.length)] ++ octets
  return [← byte (0x80 ||| body.length)] ++ body

inductive Value where
  | boolean (value : Bool)
  | unsigned (value : Nat)
  | signed (value : Int)
  | real (packed : List UInt8)
  | double (packed : List UInt8)
  | text (encoded : List UInt8)
  | bits (value : List Bool)
  | objectId (objectType objectInstance : Nat)
  | raw (octets : List UInt8)
  deriving DecidableEq

/-- The eight bits of an octet, bit 0 first. -/
def octetBits (octet : UInt8) : List Bool :=
  (List.range 8).map fun position => octet.toNat &&& (0x80 >>> position) != 0

/-- A BIT STRING's bits. -/
def bitStringOf (body : List UInt8) : Python (List Bool) :=
  match body with
  | [] => .error .indexError
  | unused :: octets =>
    let bits := octets.flatMap octetBits
    .ok (if unused ≠ 0 then sliceTo bits ((bits.length : Int) - unused.toNat) else bits)

/-- `decode_application` of a tag that was read: `none` for NULL, and for what is no application
    value. -/
def decodeTag (tag : Tag) : Python (Option Value) :=
  if tag.isContext = true ∨ tag.kind ≠ .value then .ok none
  else
    match tag.number with
    | 0 => .ok none
    | 1 => (first tag.body).map fun b => some (.boolean (b != 0))
    | 2 => .ok (some (.unsigned (ofOctets tag.body)))
    | 3 => .ok (some (.signed (signedOfOctets tag.body)))
    | 4 => if tag.body.length = 4 then .ok (some (.real tag.body)) else .error .structError
    | 5 => if tag.body.length = 8 then .ok (some (.double tag.body)) else .error .structError
    | 7 => .ok (some (.text (tag.body.drop 1)))
    | 8 => (bitStringOf tag.body).map fun bits => some (.bits bits)
    | 9 => .ok (some (.unsigned (ofOctets tag.body)))
    | 12 => (unpackI tag.body).map fun raw => some (.objectId (raw >>> 22) (raw &&& 0x3FFFFF))
    | _ => .ok (some (.raw tag.body))

/-- The first application value of the octets. -/
def decodeApplication (octets : List UInt8) : Python (Option Value) :=
  if octets = [] then .ok none
  else
    match readTag octets with
    | .error e => .error e
    | .ok (tag, _) => decodeTag tag

/-- One round of the loop of `decoded_values`: a value where the tag is an application value. -/
def readValue (octets : List UInt8) : Python (Option (Option Value) × List UInt8) :=
  match readTag octets with
  | .error e => .error e
  | .ok (tag, position) =>
    if tag.kind = .value ∧ tag.isContext = false then
      match decodeApplication (octets.take (octets.length - position.length)) with
      | .error e => .error e
      | .ok value => .ok (some value, position)
    else .ok (none, position)

/-- Every application value of the octets. -/
def decodedValues (octets : List UInt8) : Python (List (Option Value)) :=
  (tokens readValue octets).map fun values => values.filterMap id

def isApplicationValue (tag : Tag) : Bool := tag.kind = .value ∧ tag.isContext = false

/-- Every application value as its tag number and octets. -/
def applicationValues (octets : List UInt8) : Python (List (Nat × List UInt8)) :=
  (tokens readTag octets).map fun tags => (tags.filter isApplicationValue).map fun tag =>
    (tag.number, tag.body)

def isContextValue (tag : Tag) : Bool := tag.kind = .value ∧ tag.isContext = true

/-- Every context value as its tag number and octets. -/
def contextValues (octets : List UInt8) : Python (List (Nat × List UInt8)) :=
  (tokens readTag octets).map fun tags => (tags.filter isContextValue).map fun tag =>
    (tag.number, tag.body)

/-! ## The values of any octets -/

theorem decodeApplication_used {used : List UInt8} {tag : Tag} (h : readTag used = .ok (tag, [])) :
    decodeApplication used = decodeTag tag := by
  unfold decodeApplication
  rw [if_neg, h]
  intro hnil
  rw [hnil] at h
  cases h

/-- What one round of `decoded_values` makes of a tag. -/
def tagValue (tag : Tag) : Python (Option (Option Value)) :=
  if isApplicationValue tag then (decodeTag tag).map some else .ok none

/-- The value is decoded from the octets of its own tag. -/
theorem readValue_eq (data : List UInt8) :
    readValue data = readTag data >>= fun read => (tagValue read.1).map (·, read.2) := by
  unfold readValue
  cases htag : readTag data with
  | error e => rfl
  | ok read =>
    obtain ⟨tag, position⟩ := read
    obtain ⟨used, rfl, hused⟩ := readTag_used htag
    have hslice : (used ++ position).take ((used ++ position).length - position.length) = used := by
      simp
    show (if tag.kind = .value ∧ tag.isContext = false then _ else _) =
      (tagValue tag).map (·, position)
    rw [hslice, decodeApplication_used hused]
    by_cases hvalue : tag.kind = .value ∧ tag.isContext = false
    · rw [if_pos hvalue, tagValue,
        if_pos (show isApplicationValue tag = true by simp [isApplicationValue, hvalue])]
      cases decodeTag tag <;> rfl
    · rw [if_neg hvalue, tagValue,
        if_neg (show ¬ isApplicationValue tag = true by simpa [isApplicationValue] using hvalue)]
      rfl

theorem mapM_tagValue {tags : List Tag} {values : List (Option Value)} :
    (∃ read, tags.mapM tagValue = .ok read ∧ read.filterMap id = values) ↔
    (tags.filter isApplicationValue).mapM decodeTag = .ok values := by
  induction tags generalizing values with
  | nil => simp [pure, Except.pure]
  | cons tag tags ih =>
    by_cases hvalue : isApplicationValue tag = true
    · have htag : tagValue tag = (decodeTag tag).map some := if_pos hvalue
      rw [List.filter_cons_of_pos hvalue, mapM_cons_ok]
      constructor
      · intro ⟨read, hread, hvalues⟩
        obtain ⟨x, more, hx, hmore, rfl⟩ := mapM_cons_ok.mp hread
        rw [htag] at hx
        cases hdecode : decodeTag tag with
        | error e =>
          rw [hdecode] at hx
          cases hx
        | ok value =>
          rw [hdecode] at hx
          cases hx
          exact ⟨value, more.filterMap id, rfl, ih.mp ⟨more, hmore, rfl⟩, hvalues.symm⟩
      · intro ⟨value, more, hdecode, hmore, hvalues⟩
        obtain ⟨read, hread, hmore⟩ := ih.mpr hmore
        refine ⟨some value :: read,
          mapM_cons_ok.mpr ⟨some value, read, by rw [htag, hdecode]; rfl, hread, rfl⟩, ?_⟩
        rw [hvalues, ← hmore]
        rfl
    · have htag : tagValue tag = .ok none := if_neg hvalue
      rw [List.filter_cons_of_neg hvalue, ← ih]
      constructor
      · intro ⟨read, hread, hvalues⟩
        obtain ⟨x, more, hx, hmore, rfl⟩ := mapM_cons_ok.mp hread
        rw [htag] at hx
        cases hx
        exact ⟨more, hmore, hvalues⟩
      · intro ⟨read, hread, hvalues⟩
        exact ⟨none :: read, mapM_cons_ok.mpr ⟨none, read, htag, hread, rfl⟩, hvalues⟩

/-- On any octets: every tag can be read, and the application values among them decoded. -/
theorem decodedValues_ok {octets : List UInt8} {values : List (Option Value)} :
    decodedValues octets = .ok values ↔
      ∃ tags, tokens readTag octets = .ok tags ∧
        (tags.filter isApplicationValue).mapM decodeTag = .ok values := by
  have hmap : decodedValues octets = .ok values ↔ ∃ read, tokens readValue octets = .ok read ∧
      read.filterMap id = values := by
    unfold decodedValues
    cases tokens readValue octets <;> simp [Except.map]
  rw [hmap]
  constructor
  · intro ⟨read, hread, hvalues⟩
    obtain ⟨tags, htags, hmapM⟩ := (tokens_mapM readValue_eq).mp hread
    exact ⟨tags, htags, mapM_tagValue.mp ⟨read, hmapM, hvalues⟩⟩
  · intro ⟨tags, htags, hmapM⟩
    obtain ⟨read, hread, hvalues⟩ := mapM_tagValue.mpr hmapM
    exact ⟨read, (tokens_mapM readValue_eq).mpr ⟨tags, htags, hread⟩, hvalues⟩

/-! ## Bits -/

theorem octetBits_length (octet : UInt8) : (octetBits octet).length = 8 := by simp [octetBits]

theorem mask_testBit :
    ∀ p < 8, ∀ q < 8, ((0x80 >>> p : Nat).toUInt8.toNat &&& (0x80 >>> q) != 0) = decide
    (p = q) := by decide

theorem and_mask_or (m n mask : Nat) :
    ((m ||| n) &&& mask != 0) = ((m &&& mask != 0) || (n &&& mask != 0)) := by
  rw [Nat.and_or_distrib_right, Bool.eq_iff_iff, Bool.or_eq_true, bne_iff_ne, bne_iff_ne,
    bne_iff_ne, ne_eq, Nat.or_eq_zero_iff]
  tauto

/-- Setting one bit of an octet. -/
theorem octetBits_or (octet : UInt8) {p : Nat} (hp : p < 8) :
    octetBits (octet ||| (0x80 >>> p).toUInt8) = (octetBits octet).set p true := by
  apply List.ext_getElem
  · simp [octetBits_length]
  · intro q hq hq'
    rw [octetBits_length] at hq
    rw [List.getElem_set]
    simp only [octetBits, List.getElem_map, List.getElem_range, UInt8.toNat_or, and_mask_or,
      mask_testBit p hp q hq]
    by_cases hpq : p = q <;> simp [hpq]

theorem flatMap_modify (octets : List UInt8) {index : Nat} (h : index < octets.length * 8) :
    (octets.modify (index / 8) (· ||| (0x80 >>> (index % 8)).toUInt8)).flatMap octetBits =
      (octets.flatMap octetBits).set index true := by
  induction octets generalizing index with
  | nil => simp at h
  | cons octet octets ih =>
    rw [List.length_cons] at h
    by_cases hindex : index < 8
    · rw [Nat.div_eq_of_lt hindex, Nat.mod_eq_of_lt hindex, List.modify_zero_cons,
        List.flatMap_cons, List.flatMap_cons, octetBits_or octet hindex, List.set_append_left]
      rwa [octetBits_length]
    · have hdiv : index / 8 = (index - 8) / 8 + 1 := by omega
      have hmod : index % 8 = (index - 8) % 8 := by omega
      rw [hdiv, hmod, List.modify_succ_cons, List.flatMap_cons, List.flatMap_cons, ih (by omega),
        List.set_append_right]
      · rw [octetBits_length]
      · rw [octetBits_length]
        omega

theorem setBits_append (octets : List UInt8) (bits : List Bool) (b : Bool) :
    setBits octets (bits ++ [b]) =
      if b then (setBits octets bits).modify (bits.length / 8)
          (· ||| (0x80 >>> (bits.length % 8)).toUInt8) else setBits octets bits := by
  simp [setBits, List.zipIdx_append]

theorem setBits_length (octets : List UInt8) (bits : List Bool) :
    (setBits octets bits).length = octets.length := by
  induction bits using List.reverseRecOn with
  | nil => rfl
  | append_singleton bits b ih =>
    rw [setBits_append]
    split
    · rw [List.length_modify, ih]
    · exact ih

/-- After the loop the octets hold the bits, and nothing behind them. -/
theorem setBits_bits {count : Nat} {bits : List Bool} (h : bits.length ≤ count * 8) :
    (setBits (List.replicate count 0) bits).flatMap octetBits =
      bits ++ List.replicate (count * 8 - bits.length) false := by
  induction bits using List.reverseRecOn with
  | nil =>
    induction count with
    | zero => rfl
    | succ count ih =>
      have hzero : octetBits 0 = List.replicate 8 false := by decide
      have hrest := ih (by simp)
      simp only [setBits, List.zipIdx_nil, List.foldl_nil, List.length_nil, List.nil_append,
        Nat.sub_zero] at hrest ⊢
      rw [List.replicate_succ, List.flatMap_cons, hrest, hzero, List.replicate_append_replicate]
      congr 1
      omega
  | append_singleton bits b ih =>
    rw [List.length_append, List.length_singleton] at h
    obtain ⟨k, hk⟩ : ∃ k, count * 8 - bits.length = k + 1 := ⟨count * 8 - bits.length - 1, by omega⟩
    have hk' : count * 8 - (bits ++ [b]).length = k := by
      rw [List.length_append, List.length_singleton]
      omega
    have hbits := ih (by omega)
    rw [hk, List.replicate_succ] at hbits
    rw [hk', setBits_append]
    cases b with
    | false =>
      rw [if_neg Bool.false_ne_true, hbits]
      simp
    | true =>
      rw [if_pos rfl, flatMap_modify]
      · rw [hbits, List.set_append_right _ _ (Nat.le_refl _), Nat.sub_self]
        simp
      · rw [setBits_length, List.length_replicate]
        omega

/-- The bits a BIT STRING was written from. -/
theorem bitString_bits (bits : List Bool) :
    let octets := setBits (List.replicate ((bits.length + 7) / 8) 0) bits
    octets.length = (bits.length + 7) / 8 ∧ octets.length * 8 - bits.length < 256 ∧
      bitStringOf ((octets.length * 8 - bits.length).toUInt8 :: octets) = .ok bits := by
  intro octets
  have hlength : octets.length = (bits.length + 7) / 8 := by
    rw [setBits_length, List.length_replicate]
  have hflat : octets.flatMap octetBits =
    bits ++ List.replicate ((bits.length + 7) / 8 * 8 - bits.length) false :=
    setBits_bits (by omega)
  refine ⟨hlength, by omega, ?_⟩
  have hunused : (octets.length * 8 - bits.length).toUInt8.toNat =
      octets.length * 8 - bits.length := by
    rw [Nat.toUInt8, UInt8.toNat_ofNat', Nat.mod_eq_of_lt]
    omega
  unfold bitStringOf
  dsimp only
  rw [hflat]
  by_cases hzero : octets.length * 8 - bits.length = 0
  · have hfull : (bits.length + 7) / 8 * 8 - bits.length = 0 := by omega
    rw [hzero, hfull]
    simp
  · have hne : (octets.length * 8 - bits.length).toUInt8 ≠ 0 := by
      intro h
      rw [h] at hunused
      exact hzero hunused.symm
    have hstop : ((bits ++ List.replicate ((bits.length + 7) / 8 * 8 - bits.length)
        false).length : Int) -
        (octets.length * 8 - bits.length).toUInt8.toNat = bits.length := by
      rw [hunused, List.length_append, List.length_replicate]
      omega
    rw [if_pos hne, hstop, sliceTo, if_neg (by omega), Int.toNat_natCast, List.take_left]

/-! ## Values and their octets -/

/-- A value as one of the encoders is given it. -/
inductive Primitive where
  | null
  | boolean (value : Bool)
  | unsigned (value : Nat)
  | enumerated (value : Nat)
  | real (packed : List UInt8)
  | characterString (encoded : List UInt8)
  | bitString (bits : List Bool)
  | objectId (objectType objectInstance : Nat)

def Primitive.octets : Primitive → Option (List UInt8)
  | .null => applicationNull
  | .boolean value => applicationBoolean value
  | .unsigned value => applicationUnsigned value
  | .enumerated value => applicationEnumerated value
  | .real packed => applicationReal packed
  | .characterString encoded => applicationCharacterString encoded
  | .bitString bits => applicationBitString bits
  | .objectId objectType objectInstance => applicationObjectId objectType objectInstance

/-- What the encoder's one or two header octets can say. -/
def Primitive.InRange : Primitive → Prop
  | .null | .boolean _ => True
  | .unsigned value | .enumerated value => value < 2 ^ 32
  | .real packed => packed.length = 4
  | .characterString encoded => encoded.length ≤ 252
  | .bitString bits => bits.length ≤ 24
  | .objectId objectType objectInstance => ObjectInRange objectType objectInstance

def Primitive.value : Primitive → Option Value
  | .null => none
  | .boolean value => some (.boolean value)
  | .unsigned value | .enumerated value => some (.unsigned value)
  | .real packed => some (.real packed)
  | .characterString encoded => some (.text encoded)
  | .bitString bits => some (.bits bits)
  | .objectId objectType objectInstance => some (.objectId objectType objectInstance)

/-- The octets are one application tag, and the tag is decoded as the value. -/
def Writes (octets : Option (List UInt8)) (value : Option Value) : Prop :=
  ∃ text tag, octets = some text ∧ Lexes readTag text tag ∧ tag.isContext = false ∧
    tag.kind = .value ∧ decodeTag tag = .ok value

theorem writes_application {tag : Nat} {octets : Option (List UInt8)} {body : List UInt8}
    {value : Option Value} (htag : tag < 15) (hboolean : tag ≠ 1) (hbody : body.length < 5)
    (hoctets : ∀ b0, byte (tag <<< 4 ||| body.length) = some b0 → octets = some (b0 :: body))
    (hvalue : decodeTag ⟨tag, false, .value, body⟩ = .ok value) : Writes octets value := by
  obtain ⟨b0, hb0, hlexes⟩ := application_lexes htag hboolean hbody
  exact ⟨_, _, hoctets b0 hb0, hlexes, rfl, rfl, hvalue⟩

theorem applicationUnsigned_lexes {value : Nat} (h : value < 2 ^ 32) :
    ∃ octets body, applicationUnsigned value = some octets ∧ ofOctets body = value ∧
      Lexes readTag octets ⟨2, false, .value, body⟩ := by
  obtain ⟨body, hbody, -, hfour, hvalue⟩ := unsignedOctets_octets h
  obtain ⟨b0, hb0, hlexes⟩ :=
    application_lexes (show 2 < 15 by decide) (by decide) (show body.length < 5 by omega)
  have hb0 : byte (0x20 ||| body.length) = some b0 := hb0
  rw [unsignedValue_octets hfour] at hvalue
  exact ⟨b0 :: body, body, by simp [applicationUnsigned, hbody, hb0], hvalue, hlexes⟩

theorem applicationEnumerated_lexes {value : Nat} (h : value < 2 ^ 32) :
    ∃ octets body, applicationEnumerated value = some octets ∧ ofOctets body = value ∧
      Lexes readTag octets ⟨9, false, .value, body⟩ := by
  obtain ⟨body, hbody, -, hfour, hvalue⟩ := unsignedOctets_octets h
  obtain ⟨b0, hb0, hlexes⟩ :=
    application_lexes (show 9 < 15 by decide) (by decide) (show body.length < 5 by omega)
  have hb0 : byte (0x90 ||| body.length) = some b0 := hb0
  rw [unsignedValue_octets hfour] at hvalue
  exact ⟨b0 :: body, body, by simp [applicationEnumerated, hbody, hb0], hvalue, hlexes⟩

theorem applicationObjectId_lexes {objectType objectInstance : Nat}
    (h : ObjectInRange objectType objectInstance) :
    ∃ octets body, applicationObjectId objectType objectInstance = some octets ∧
      unpackI body = .ok (objectType <<< 22 ||| objectInstance) ∧
      Lexes readTag octets ⟨12, false, .value, body⟩ := by
  obtain ⟨body, hbody, hfour, hunpack⟩ := objectId_packed h
  obtain ⟨b0, hb0, hlexes⟩ :=
    application_lexes (show 12 < 15 by decide) (by decide) (show body.length < 5 by omega)
  rw [hfour] at hb0
  have hb0 : byte 0xC4 = some b0 := hb0
  exact ⟨b0 :: body, body, by simp [applicationObjectId, hb0, hbody], hunpack, hlexes⟩

theorem unsigned_writes {n : Nat} (h : n < 2 ^ 32) :
    Writes (applicationUnsigned n) (some (.unsigned n)) := by
  obtain ⟨octets, body, hoctets, hvalue, hlexes⟩ := applicationUnsigned_lexes h
  exact ⟨octets, _, hoctets, hlexes, rfl, rfl, by simp [decodeTag, hvalue]⟩

theorem enumerated_writes {n : Nat} (h : n < 2 ^ 32) :
    Writes (applicationEnumerated n) (some (.unsigned n)) := by
  obtain ⟨octets, body, hoctets, hvalue, hlexes⟩ := applicationEnumerated_lexes h
  exact ⟨octets, _, hoctets, hlexes, rfl, rfl, by simp [decodeTag, hvalue]⟩

theorem boolean_writes (b : Bool) : Writes (applicationBoolean b) (some (.boolean b)) := by
  cases b with
  | false => exact ⟨[0x10], ⟨1, false, .value, [0]⟩, rfl, ⟨by simp, fun rest => rfl⟩, rfl, rfl, rfl⟩
  | true => exact ⟨[0x11], ⟨1, false, .value, [1]⟩, rfl, ⟨by simp, fun rest => rfl⟩, rfl, rfl, rfl⟩

theorem real_writes {packed : List UInt8} (h : packed.length = 4) :
    Writes (applicationReal packed) (some (.real packed)) := by
  refine writes_application (show 4 < 15 by decide) (by decide) (show packed.length < 5 by omega)
    (fun b0 hb0 => ?_) ?_
  · rw [h] at hb0
    have hb0 : byte 0x44 = some b0 := hb0
    simp [applicationReal, hb0]
  · simp [decodeTag, h]

theorem objectId_writes {objectType objectInstance : Nat}
    (h : ObjectInRange objectType objectInstance) :
    Writes (applicationObjectId objectType objectInstance)
      (some (.objectId objectType objectInstance)) := by
  obtain ⟨octets, body, hoctets, hunpack, hlexes⟩ := applicationObjectId_lexes h
  refine ⟨octets, _, hoctets, hlexes, rfl, rfl, ?_⟩
  simp [decodeTag, hunpack, objectId_shift h, (objectId_value h).2.2, Except.map]

/-- The second octet of a header that says the length: a 254 or 255 would announce a longer one. -/
theorem lengthOctet {length : Nat} (h : length < 254) :
    byte length = some length.toUInt8 ∧ ∀ data, readLength 5 (length.toUInt8 :: data) =
      .ok (length, data) := by
  have htoNat : length.toUInt8.toNat = length := by
    rw [Nat.toUInt8, UInt8.toNat_ofNat', Nat.mod_eq_of_lt (by omega)]
  have h254 : length.toUInt8 ≠ 254 := by
    intro heq
    rw [heq] at htoNat
    have : (254 : UInt8).toNat = 254 := rfl
    omega
  have h255 : length.toUInt8 ≠ 255 := by
    intro heq
    rw [heq] at htoNat
    have : (255 : UInt8).toNat = 255 := rfl
    omega
  refine ⟨byte_ok (by omega), fun data => ?_⟩
  simp [readLength, h254, h255, htoNat]

theorem characterString_writes {encoded : List UInt8} (h : encoded.length ≤ 252) :
    Writes (applicationCharacterString encoded) (some (.text encoded)) := by
  by_cases hshort : encoded.length + 1 < 5
  · refine writes_application (show 7 < 15 by decide) (by decide)
        (show ((0 : UInt8) :: encoded).length < 5 by simpa using hshort)
      (fun b0 hb0 => ?_) rfl
    have hb0 : byte (0x70 ||| (encoded.length + 1)) = some b0 := hb0
    simp [applicationCharacterString, byte_ok, hshort, hb0]
  · obtain ⟨hlength, hread⟩ := lengthOctet (show encoded.length + 1 < 254 by omega)
    refine ⟨0x75 :: (encoded.length + 1).toUInt8 :: 0 :: encoded,
      ⟨7, false, .value, 0 :: encoded⟩, ?_, ⟨by simp, fun rest => ?_⟩, rfl, rfl, rfl⟩
    · simp [applicationCharacterString, byte_ok, hshort, hlength]
    · have hnumber : readNumber ((0x75 : UInt8) >>> 4)
          ((encoded.length + 1).toUInt8 :: (0 :: encoded ++ rest)) =
          .ok (7, (encoded.length + 1).toUInt8 :: (0 :: encoded ++ rest)) := rfl
      have hcontext : ((0x75 : UInt8) &&& 0x08 != 0) = false := by decide
      have hfive : ((0x75 : UInt8) &&& 0x07).toNat = 5 := by decide
      simp only [List.cons_append] at hnumber ⊢
      simp only [readTag, hnumber, hcontext, hfive, hread]
      simp

theorem bitString_writes {bits : List Bool} (h : bits.length ≤ 24) :
    Writes (applicationBitString bits) (some (.bits bits)) := by
  obtain ⟨hlength, hunused, hbits⟩ := bitString_bits bits
  generalize hoctets : setBits (List.replicate ((bits.length + 7) / 8) 0) bits = octets
    at hlength hunused hbits
  have hbody : ((octets.length * 8 - bits.length).toUInt8 :: octets).length < 5 := by
    rw [List.length_cons]
    omega
  refine writes_application (show 8 < 15 by decide) (by decide) hbody (fun b0 hb0 => ?_) ?_
  · rw [List.length_cons] at hb0
    have hb0 : byte (0x80 ||| (octets.length + 1)) = some b0 := hb0
    simp [applicationBitString, hoctets, byte_ok hunused, hb0]
  · unfold decodeTag
    simp [hbits, Except.map]

theorem primitive_writes {p : Primitive} (h : p.InRange) : Writes p.octets p.value := by
  cases p with
  | null => exact ⟨[0x00], ⟨0, false, .value, []⟩, rfl, ⟨by simp, fun rest => rfl⟩, rfl, rfl, rfl⟩
  | boolean value => exact boolean_writes value
  | unsigned value => exact unsigned_writes h
  | enumerated value => exact enumerated_writes h
  | real packed => exact real_writes h
  | characterString encoded => exact characterString_writes h
  | bitString bits => exact bitString_writes h
  | objectId objectType objectInstance => exact objectId_writes h

theorem contextOctetString_lexes {tag : Nat} {body : List UInt8} (htag : tag < 15)
    (h : body.length < 254) :
    ∃ octets, contextOctetString tag body = some octets ∧
      Lexes readTag octets ⟨tag, true, .value, body⟩ := by
  by_cases hshort : body.length < 5
  · obtain ⟨b0, hb0, hlexes⟩ := context_lexes htag hshort
    exact ⟨_, by simp [contextOctetString, hshort, hb0], hlexes⟩
  · obtain ⟨hbyte, hnumber, hone, hcontext, hfive⟩ :=
      tagOctet_facts tag htag 5 (by decide) 0x08 (by simp)
    obtain ⟨hlength, hread⟩ := lengthOctet h
    refine ⟨(tag <<< 4 ||| 0x08 ||| 5).toUInt8 :: body.length.toUInt8 :: body, ?_, by simp,
      fun rest => ?_⟩
    · simp [contextOctetString, hshort, byte_ok hbyte, hlength]
    · simp only [List.cons_append, readTag, readNumber, if_neg hone, hcontext, hfive,
        hread, hnumber]
      simp

/-! ## What is written -/

/-- A piece of a property's value: an application value, a context value or a bracket. -/
inductive Element where
  | value (p : Primitive)
  | contextUnsigned (tag value : Nat)
  | contextObjectId (tag objectType objectInstance : Nat)
  | contextOctetString (tag : Nat) (body : List UInt8)
  | opening (tag : Nat)
  | closing (tag : Nat)

def Element.octets : Element → Option (List UInt8)
  | .value p => p.octets
  | .contextUnsigned tag n => Frames.contextUnsigned tag n
  | .contextObjectId tag objectType objectInstance =>
    Frames.contextObjectId tag objectType objectInstance
  | .contextOctetString tag body => Wiretest.contextOctetString tag body
  | .opening tag => Frames.opening tag
  | .closing tag => Frames.closing tag

def Element.InRange : Element → Prop
  | .value p => p.InRange
  | .contextUnsigned tag n => tag < 15 ∧ n < 2 ^ 32
  | .contextObjectId tag objectType objectInstance => tag < 15 ∧
      ObjectInRange objectType objectInstance
  | .contextOctetString tag body => tag < 15 ∧ body.length < 254
  | .opening tag | .closing tag => tag < 15

def Element.applicationValue : Element → Option (Option Value)
  | .value p => some p.value
  | _ => none

def Element.contextValue : Element → Option (Nat × List UInt8)
  | .contextUnsigned tag n => (unsignedOctets n).map (tag, ·)
  | .contextObjectId tag objectType objectInstance =>
    (objectId objectType objectInstance).map (tag, ·)
  | .contextOctetString tag body => some (tag, body)
  | _ => none

/-- The elements one behind the other. -/
def writeElements (elements : List Element) : Option (List UInt8) :=
  (elements.mapM Element.octets).map List.flatten

def tagContext (tag : Tag) : Option (Nat × List UInt8) :=
  if isContextValue tag then some (tag.number, tag.body) else none

theorem element_lexes {e : Element} (h : e.InRange) :
    ∃ text tag, e.octets = some text ∧ Lexes readTag text tag ∧
      tagValue tag = .ok e.applicationValue ∧ tagContext tag = e.contextValue := by
  cases e with
  | value p =>
    obtain ⟨text, tag, hoctets, hlexes, hcontext, hkind, hdecode⟩ := primitive_writes h
    refine ⟨text, tag, hoctets, hlexes, ?_, ?_⟩
    · rw [tagValue, if_pos (by simp [isApplicationValue, hkind, hcontext]), hdecode]
      rfl
    · rw [tagContext, if_neg (by simp [isContextValue, hcontext])]
      rfl
  | contextUnsigned tag value =>
    obtain ⟨body, hbody, -, hfour, -⟩ := unsignedOctets_octets h.2
    obtain ⟨b0, hb0, hlexes⟩ := context_lexes h.1 (show body.length < 5 by omega)
    refine ⟨b0 :: body, _, by simp [Element.octets, contextUnsigned, hbody, hb0], hlexes, rfl, ?_⟩
    simp [Element.contextValue, hbody, tagContext, isContextValue]
  | contextObjectId tag objectType objectInstance =>
    obtain ⟨body, hbody, hfour, -⟩ := objectId_packed h.2
    obtain ⟨b0, hb0, hlexes⟩ := context_lexes h.1 (show body.length < 5 by omega)
    rw [hfour] at hb0
    refine ⟨b0 :: body, _, by simp [Element.octets, contextObjectId, hbody, hb0], hlexes, rfl, ?_⟩
    simp [Element.contextValue, hbody, tagContext, isContextValue]
  | contextOctetString tag body =>
    obtain ⟨octets, hoctets, hlexes⟩ := contextOctetString_lexes h.1 h.2
    exact ⟨octets, _, hoctets, hlexes, rfl, rfl⟩
  | opening tag =>
    obtain ⟨octets, hoctets, hlexes⟩ := opening_lexes h
    exact ⟨octets, _, hoctets, hlexes, rfl, rfl⟩
  | closing tag =>
    obtain ⟨octets, hoctets, hlexes⟩ := closing_lexes h
    exact ⟨octets, _, hoctets, hlexes, rfl, rfl⟩

theorem elements_tokens {elements : List Element} (h : ∀ e ∈ elements, e.InRange) :
    ∃ octets tags, writeElements elements = some octets ∧ tokens readTag octets = .ok tags ∧
      tags.mapM tagValue = .ok (elements.map Element.applicationValue) ∧
      tags.filterMap tagContext = elements.filterMap Element.contextValue := by
  induction elements with
  | nil => exact ⟨[], [], rfl, rfl, rfl, rfl⟩
  | cons e elements ih =>
    rw [List.forall_mem_cons] at h
    obtain ⟨text, tag, htext, hlexes, hvalue, hcontext⟩ := element_lexes h.1
    obtain ⟨octets, tags, hoctets, htags, hvalues, hcontexts⟩ := ih h.2
    obtain ⟨texts, htexts, rfl⟩ : ∃ texts, elements.mapM Element.octets = some texts ∧
        texts.flatten = octets := by
      simpa [writeElements] using hoctets
    refine ⟨text ++ texts.flatten, tag :: tags, by simp [writeElements, htext, htexts], ?_, ?_, ?_⟩
    · rw [tokens_append readTag_shrinks hlexes, htags]
      rfl
    · exact mapM_cons_ok.mpr ⟨_, _, hvalue, hvalues, rfl⟩
    · rw [List.filterMap_cons, List.filterMap_cons, hcontext, hcontexts]

theorem filterMap_tagContext (tags : List Tag) :
    tags.filterMap tagContext = (tags.filter isContextValue).map fun tag =>
      (tag.number, tag.body) := by
  induction tags with
  | nil => rfl
  | cons tag tags ih =>
    by_cases h : isContextValue tag = true
    · rw [List.filter_cons_of_pos h, List.filterMap_cons, tagContext, if_pos h, ih]
      rfl
    · rw [List.filter_cons_of_neg h, List.filterMap_cons, tagContext, if_neg h, ih]

/-- What is written element by element is read back: the application values in their order, and
    the context values in theirs. -/
theorem values_written {elements : List Element} (h : ∀ e ∈ elements, e.InRange) :
    ∃ octets, writeElements elements = some octets ∧
      decodedValues octets = .ok (elements.filterMap Element.applicationValue) ∧
      contextValues octets = .ok (elements.filterMap Element.contextValue) := by
  obtain ⟨octets, tags, hoctets, htags, hvalues, hcontexts⟩ := elements_tokens h
  refine ⟨octets, hoctets,
    decodedValues_ok.mpr ⟨tags, htags, mapM_tagValue.mp ⟨_, hvalues, ?_⟩⟩, ?_⟩
  · rw [List.filterMap_map]
    rfl
  · rw [contextValues, htags, ← hcontexts, filterMap_tagContext]
    rfl

/-- A Priority_Array entry that is empty, one that holds 21.5, and a list of one entry with a
    context value. -/
theorem values_written_priorities :
    ∃ octets, writeElements [.value .null, .value (.real [0x41, 0xAC, 0x00, 0x00]), .opening 1,
      .contextUnsigned 0 300, .closing 1] = some octets ∧
      decodedValues octets = .ok [none, some (.real [0x41, 0xAC, 0x00, 0x00])] ∧
      contextValues octets = .ok [(0, [0x01, 0x2C])] := by
  refine values_written fun e he => ?_
  simp only [List.mem_cons, List.not_mem_nil, or_false] at he
  rcases he with rfl | rfl | rfl | rfl | rfl
  · exact trivial
  · exact rfl
  · exact (by decide : 1 < 15)
  · exact ⟨by decide, by decide⟩
  · exact (by decide : 1 < 15)

end BacnetGateway.Wiretest
