/-
  BacnetGateway.Wiretest.Tags — `read_tag` of `wiretest/codec.py`, and the loops that walk over
  tags.

  A position in `data` is the list of the octets from it on. What Python raises is an
  `Except.error`, since two of the parsers catch an `IndexError` and a `struct.error` but no
  `ValueError`. A slice never raises.

  What an encoder of a tag writes is read as that tag, whatever is behind it
  (`contextUnsigned_lexes`), and the tag that closes one is found over every value that is well
  formed (`closingTag_data`).
-/

import BacnetGateway.Frames.RoundTrip
import BacnetGateway.Lib.Lexing

namespace BacnetGateway.Wiretest

open Frames Lib.Octets Lib.Lexing

/-! ## Python -/

inductive Raised where
  | indexError
  | structError
  | valueError
  deriving DecidableEq

abbrev Python := Except Raised

/-- `struct.unpack(">I", body)[0]`. -/
def unpackI (body : List UInt8) : Python Nat :=
  if body.length = 4 then .ok (ofOctets body) else .error .structError

/-! ## Tags -/

inductive Kind where
  | opening
  | closing
  | value
  deriving DecidableEq

structure Tag where
  number : Nat
  isContext : Bool
  kind : Kind
  body : List UInt8
  deriving DecidableEq

def readNumber (number : UInt8) (data : List UInt8) : Python (Nat × List UInt8) :=
  if number = 0x0F then
    match data with
    | [] => .error .indexError
    | number :: data => .ok (number.toNat, data)
  else .ok (number.toNat, data)

def readLength (lengthValue : Nat) (data : List UInt8) : Python (Nat × List UInt8) :=
  if lengthValue = 5 then
    match data with
    | [] => .error .indexError
    | lengthValue :: data =>
      if lengthValue = 254 then
        match data with
        | b1 :: b0 :: data => .ok (ofOctets [b1, b0], data)
        | _ => .error .structError
      else if lengthValue = 255 then
        match data with
        | b3 :: b2 :: b1 :: b0 :: data => .ok (ofOctets [b3, b2, b1, b0], data)
        | _ => .error .structError
      else .ok (lengthValue.toNat, data)
  else .ok (lengthValue, data)

/-- `read_tag`: the tag, and the octets from the next position on. -/
def readTag : List UInt8 → Python (Tag × List UInt8)
  | [] => .error .indexError
  | first :: data =>
    let isContext := first &&& 0x08 != 0
    let lengthValue := (first &&& 0x07).toNat
    match readNumber (first >>> 4) data with
    | .error e => .error e
    | .ok (number, data) =>
      if isContext = true ∧ lengthValue = 6 then .ok (⟨number, true, .opening, []⟩, data)
      else if isContext = true ∧ lengthValue = 7 then .ok (⟨number, true, .closing, []⟩, data)
      else
        match readLength lengthValue data with
        | .error e => .error e
        | .ok (lengthValue, data) =>
          if isContext = false ∧ number = 1 then
            -- An application BOOLEAN keeps its value in the length field.
            if lengthValue < 256 then .ok (⟨number, false, .value, [lengthValue.toUInt8]⟩, data)
              else .error .valueError
          else .ok (⟨number, isContext, .value, data.take lengthValue⟩, data.drop lengthValue)

def tagBracket (tag : Tag) : Bracket :=
  match tag.kind with
  | .opening => .opening
  | .closing => .closing
  | .value => .none

/-- The octets up to the tag that closes the one before them, and those behind it: the loop
    `while depth:` of `read_property_value` and `parse_write_property_request`. -/
def closingTag (start : List UInt8) : Python (List UInt8 × List UInt8) :=
  match matching readTag tagBracket .indexError start with
  | .error e => .error e
  | .ok (tagStart, position) => .ok (start.take (start.length - tagStart.length), position)

/-- Octets in which every opening tag is closed. -/
abbrev Data := Nested readTag tagBracket

/-! ## Reading a tag -/

theorem readNumber_le {number : UInt8} {data rest : List UInt8} {n : Nat}
    (h : readNumber number data = .ok (n, rest)) :
    rest.length ≤ data.length := by
  unfold readNumber at h
  grind

theorem readLength_le {lengthValue n : Nat} {data rest : List UInt8}
    (h : readLength lengthValue data = .ok (n, rest)) :
    rest.length ≤ data.length := by
  unfold readLength at h
  grind

theorem readTag_shrinks : Shrinks readTag := by
  intro data tag rest h
  cases data with
  | nil => cases h
  | cons b0 data =>
    simp only [readTag] at h
    cases hnumber : readNumber (b0 >>> 4) data with
    | error e =>
      rw [hnumber] at h
      cases h
    | ok read =>
      obtain ⟨number, more⟩ := read
      have hle := readNumber_le hnumber
      rw [hnumber] at h
      dsimp only at h
      split at h
      · cases h
        simp only [List.length_cons]
        omega
      · split at h
        · cases h
          simp only [List.length_cons]
          omega
        · cases hlength : readLength (b0 &&& 0x07).toNat more with
          | error e =>
            rw [hlength] at h
            cases h
          | ok read =>
            obtain ⟨length, last⟩ := read
            have hle' := readLength_le hlength
            rw [hlength] at h
            dsimp only at h
            split at h
            · split at h
              · cases h
                simp only [List.length_cons]
                omega
              · cases h
            · cases h
              simp only [List.length_drop, List.length_cons]
              omega

theorem readNumber_used {number : UInt8} {data rest : List UInt8} {n : Nat}
    (h : readNumber number data = .ok (n, rest)) :
    ∃ used, data = used ++ rest ∧ ∀ more, readNumber number (used ++ more) = .ok (n, more) := by
  unfold readNumber at h ⊢
  split at h
  · rename_i hlong
    split at h
    · cases h
    · rename_i octet data
      cases h
      exact ⟨[octet], rfl, fun more => by simp [hlong]⟩
  · rename_i hshort
    cases h
    exact ⟨[], rfl, fun more => by simp [hshort]⟩

theorem readLength_used {lengthValue n : Nat} {data rest : List UInt8}
    (h : readLength lengthValue data = .ok (n, rest)) :
    ∃ used, data = used ++ rest ∧ ∀ more, readLength lengthValue (used ++ more) =
      .ok (n, more) := by
  unfold readLength at h ⊢
  split at h
  · rename_i hlong
    cases data with
    | nil => cases h
    | cons octet data =>
      dsimp only at h
      split at h
      · rename_i h254
        split at h
        · rename_i b1 b0 data
          cases h
          exact ⟨[octet, b1, b0], rfl, fun more => by simp [hlong, h254]⟩
        · cases h
      · rename_i h254
        split at h
        · rename_i h255
          split at h
          · rename_i b3 b2 b1 b0 data
            cases h
            exact ⟨[octet, b3, b2, b1, b0], rfl, fun more => by simp [hlong, h255]⟩
          · cases h
        · rename_i h255
          cases h
          exact ⟨[octet], rfl, fun more => by simp [hlong, h254, h255]⟩
  · rename_i hshort
    cases h
    exact ⟨[], rfl, fun more => by simp [hshort]⟩

/-- The octets a tag was read from are that tag. -/
theorem readTag_used {data rest : List UInt8} {tag : Tag} (h : readTag data = .ok (tag, rest)) :
    ∃ used, data = used ++ rest ∧ readTag used = .ok (tag, []) := by
  cases data with
  | nil => cases h
  | cons b0 data =>
    simp only [readTag] at h
    cases hnumber : readNumber (b0 >>> 4) data with
    | error e =>
      rw [hnumber] at h
      cases h
    | ok read =>
      obtain ⟨number, more⟩ := read
      obtain ⟨used, rfl, hused⟩ := readNumber_used hnumber
      have hnil := hused []
      rw [List.append_nil] at hnil
      rw [hnumber] at h
      dsimp only at h
      split at h
      · rename_i hopening
        cases h
        exact ⟨b0 :: used, rfl, by simp [readTag, hnil, hopening]⟩
      · rename_i hopening
        split at h
        · rename_i hclosing
          cases h
          exact ⟨b0 :: used, rfl, by simp [readTag, hnil, hclosing]⟩
        · rename_i hclosing
          cases hlength : readLength (b0 &&& 0x07).toNat more with
          | error e =>
            rw [hlength] at h
            cases h
          | ok read =>
            obtain ⟨length, last⟩ := read
            obtain ⟨used', rfl, hused'⟩ := readLength_used hlength
            rw [hlength] at h
            dsimp only at h
            split at h
            · rename_i hboolean
              split at h
              · rename_i hlt
                cases h
                refine ⟨b0 :: (used ++ used'), by simp, ?_⟩
                have hnil' := hused' []
                rw [List.append_nil] at hnil'
                simp only [readTag, hused used', if_neg hopening, if_neg hclosing, hnil',
                  if_pos hboolean, if_pos hlt]
              · cases h
            · rename_i hboolean
              cases h
              refine ⟨b0 :: (used ++ (used' ++ last.take length)), by simp, ?_⟩
              simp only [readTag, hused (used' ++ last.take length), if_neg hopening,
                if_neg hclosing, hused' (last.take length), if_neg hboolean]
              simp [List.take_take]

/-- A first octet with the whole header in it. -/
theorem readTag_short {b0 : UInt8} (hnumber : b0 >>> 4 ≠ 0x0F) (hlength : (b0 &&& 0x07).toNat < 5)
    (hvalue : b0 &&& 0x08 != 0 ∨ (b0 >>> 4).toNat ≠ 1) (data : List UInt8) :
    readTag (b0 :: data) =
      .ok (⟨(b0 >>> 4).toNat, b0 &&& 0x08 != 0, .value, data.take (b0 &&& 0x07).toNat⟩,
        data.drop (b0 &&& 0x07).toNat) := by
  have hboolean : ¬ ((b0 &&& 0x08 != 0) = false ∧ (b0 >>> 4).toNat = 1) := by
    rintro ⟨hcontext, hone⟩
    rcases hvalue with h | h
    · rw [h] at hcontext
      cases hcontext
    · exact h hone
  simp only [readTag, readNumber, if_neg hnumber, readLength]
  rw [if_neg (by omega), if_neg (by omega), if_neg (by omega)]
  dsimp only
  rw [if_neg hboolean]

/-- The octets of a header, for every tag number and length that one octet holds. -/
theorem tagOctet_facts : ∀ tag < 15, ∀ length < 8, ∀ context ∈ [0, 0x08],
    (tag <<< 4 ||| context ||| length) < 256 ∧
      ((tag <<< 4 ||| context ||| length).toUInt8 >>> 4).toNat = tag ∧
      (tag <<< 4 ||| context ||| length).toUInt8 >>> 4 ≠ 0x0F ∧
      ((tag <<< 4 ||| context ||| length).toUInt8 &&& 0x08 != 0) = decide (context = 0x08) ∧
      ((tag <<< 4 ||| context ||| length).toUInt8 &&& 0x07).toNat = length := by
  decide

/-- A context tag of up to four octets. -/
theorem context_lexes {tag : Nat} {body : List UInt8} (htag : tag < 15) (hbody : body.length < 5) :
    ∃ b0, byte (tag <<< 4 ||| 0x08 ||| body.length) = some b0 ∧
      Lexes readTag (b0 :: body) ⟨tag, true, .value, body⟩ := by
  obtain ⟨hbyte, hnumber, hshort, hcontext, hlength⟩ :=
    tagOctet_facts tag htag body.length (by omega) 0x08 (by simp)
  refine ⟨_, byte_ok hbyte, by simp, fun rest => ?_⟩
  rw [List.cons_append, readTag_short hshort (by omega) (Or.inl (by rw [hcontext]; rfl)), hnumber,
    hcontext, hlength]
  simp

/-- An application tag of up to four octets, but for a BOOLEAN. -/
theorem application_lexes {tag : Nat} {body : List UInt8} (htag : tag < 15) (hboolean : tag ≠ 1)
    (hbody : body.length < 5) :
    ∃ b0, byte (tag <<< 4 ||| body.length) = some b0 ∧
      Lexes readTag (b0 :: body) ⟨tag, false, .value, body⟩ := by
  obtain ⟨hbyte, hnumber, hshort, hcontext, hlength⟩ :=
    tagOctet_facts tag htag body.length (by omega) 0 (by simp)
  simp only [Nat.or_zero] at hbyte hnumber hshort hcontext hlength
  refine ⟨_, byte_ok hbyte, by simp, fun rest => ?_⟩
  rw [List.cons_append, readTag_short hshort (by omega) (Or.inr (by omega)), hnumber,
    hcontext, hlength]
  simp

/-- An opening or a closing tag. -/
theorem bracketTag_lexes {tag lengthValue : Nat} {kind : Kind} (htag : tag < 15)
    (hkind : (lengthValue = 6 ∧ kind = .opening) ∨ (lengthValue = 7 ∧ kind = .closing)) :
    byte (tag <<< 4 ||| 0x08 ||| lengthValue) = some (tag <<< 4 ||| 0x08 ||| lengthValue).toUInt8 ∧
      Lexes readTag [(tag <<< 4 ||| 0x08 ||| lengthValue).toUInt8] ⟨tag, true, kind, []⟩ := by
  obtain ⟨hbyte, hnumber, hshort, hcontext, hlength⟩ :=
    tagOctet_facts tag htag lengthValue (by omega) 0x08 (by simp)
  refine ⟨byte_ok hbyte, List.cons_ne_nil _ _, fun rest => ?_⟩
  simp only [List.cons_append, List.nil_append, readTag, readNumber, if_neg hshort, hcontext,
    hlength, hnumber]
  rcases hkind with ⟨rfl, rfl⟩ | ⟨rfl, rfl⟩ <;> simp

theorem opening_lexes {tag : Nat} (htag : tag < 15) :
    ∃ octets, opening tag = some octets ∧ Lexes readTag octets ⟨tag, true, .opening, []⟩ := by
  obtain ⟨hbyte, hlexes⟩ := bracketTag_lexes htag (Or.inl ⟨rfl, rfl⟩)
  rw [Nat.or_assoc, show 0x08 ||| 6 = 0x0E from rfl] at hbyte hlexes
  exact ⟨_, by simp [opening, hbyte], hlexes⟩

theorem closing_lexes {tag : Nat} (htag : tag < 15) :
    ∃ octets, closing tag = some octets ∧ Lexes readTag octets ⟨tag, true, .closing, []⟩ := by
  obtain ⟨hbyte, hlexes⟩ := bracketTag_lexes htag (Or.inr ⟨rfl, rfl⟩)
  rw [Nat.or_assoc, show 0x08 ||| 7 = 0x0F from rfl] at hbyte hlexes
  exact ⟨_, by simp [closing, hbyte], hlexes⟩

/-! ## The encoders -/

theorem objectId_shift {objectType objectInstance : Nat}
    (h : ObjectInRange objectType objectInstance) :
    (objectType <<< 22 ||| objectInstance) >>> 22 = objectType := by
  obtain ⟨hlt, htype, -⟩ := objectId_value h
  have hsmall : (objectType <<< 22 ||| objectInstance) >>> 22 < 2 ^ 10 := by
    rw [Nat.shiftRight_eq_div_pow]
    omega
  rwa [show 0x3FF = 2 ^ 10 - 1 from rfl, Nat.and_two_pow_sub_one_eq_mod, Nat.mod_eq_of_lt hsmall]
    at htype

/-- The four octets of an object identifier, and what is unpacked from them. -/
theorem objectId_packed {objectType objectInstance : Nat}
    (h : ObjectInRange objectType objectInstance) :
    ∃ body, objectId objectType objectInstance = some body ∧ body.length = 4 ∧
      unpackI body = .ok (objectType <<< 22 ||| objectInstance) := by
  have hlt := (objectId_value h).1
  refine ⟨toOctets 4 (objectType <<< 22 ||| objectInstance), if_pos hlt, length_toOctets .., ?_⟩
  rw [unpackI, if_pos (length_toOctets ..), ofOctets_toOctets (show _ < 256 ^ 4 from hlt)]

theorem contextUnsigned_lexes {tag value : Nat} (htag : tag < 15) (h : value < 2 ^ 32) :
    ∃ octets body, contextUnsigned tag value = some octets ∧ ofOctets body = value ∧
      Lexes readTag octets ⟨tag, true, .value, body⟩ := by
  obtain ⟨body, hbody, -, hfour, hvalue⟩ := unsignedOctets_octets h
  obtain ⟨b0, hb0, hlexes⟩ := context_lexes htag (show body.length < 5 by omega)
  rw [unsignedValue_octets hfour] at hvalue
  exact ⟨b0 :: body, body, by simp [contextUnsigned, hbody, hb0], hvalue, hlexes⟩

theorem contextObjectId_lexes {tag objectType objectInstance : Nat} (htag : tag < 15)
    (h : ObjectInRange objectType objectInstance) :
    ∃ octets body, contextObjectId tag objectType objectInstance = some octets ∧
      unpackI body = .ok (objectType <<< 22 ||| objectInstance) ∧
      Lexes readTag octets ⟨tag, true, .value, body⟩ := by
  obtain ⟨body, hbody, hfour, hunpack⟩ := objectId_packed h
  obtain ⟨b0, hb0, hlexes⟩ := context_lexes htag (show body.length < 5 by omega)
  rw [hfour] at hb0
  exact ⟨b0 :: body, body, by simp [contextObjectId, hb0, hbody], hunpack, hlexes⟩

/-! ## Well-formed data -/

/-- The octets of a property's value, between an opening and a closing tag. -/
theorem closingTag_data {value last rest : List UInt8} {tag : Tag} (h : Data value)
    (hlast : Lexes readTag last tag)
    (hkind : tag.kind = .closing) : closingTag (value ++ (last ++ rest)) = .ok (value, rest) := by
  unfold closingTag
  rw [matching_nested readTag_shrinks h hlast (by rw [tagBracket, hkind])]
  simp

end BacnetGateway.Wiretest
