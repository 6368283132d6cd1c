/-
  BacnetGateway.Frames.Facts — what a decoded frame says, and what the log prints of it.

  A field of a `DecodedFrame` means something only under its flag, so what a frame says is a
  set of facts: those it reports (`reports`). The line the log prints of a frame is put
  together from pieces, and a piece that names something is the text of a fact, which
  depends on nothing else (`Fact.text`). The line is the text of the frame's pieces, as far
  as it fits in what the caller gave for it (`summarizeBacnetFrame_line`), and the facts
  among the pieces are facts the frame reports (`fact_of_pieces`). The 128 characters on the
  stack always hold what is printed in them (`body_fits`), so no name or number is cut off
  in front of DNET.
-/

import BacnetGateway.Frames.Summary
import BacnetGateway.Lib.Decimal

namespace BacnetGateway.Frames

open Lib.Memory

/-- What the decoder can report as present. A service and a reason go with the PDU type,
    which says what they are a choice of. -/
inductive Fact where
  | destination (dnet : Nat)
  | source (snet : Nat)
  | networkMessage (type : UInt8)
  | invokeId (invokeId : UInt8)
  | service (pduType serviceChoice : UInt8)
  | reason (pduType reason : UInt8)
  | objectProperty (objectType objectInstance propertyId : Nat)
  | arrayIndex (arrayIndex : Nat)

def DecodedFrame.reports (d : DecodedFrame) : Fact → Prop
  | .destination dnet => d.hasDest ∧ d.dnet = dnet
  | .source snet => d.hasSrc ∧ d.snet = snet
  | .networkMessage type => d.isNetworkMessage ∧ d.networkMessageType = type
  | .invokeId invokeId => d.hasInvokeId ∧ d.invokeId = invokeId
  | .service pduType serviceChoice => d.hasServiceChoice ∧ d.pduType = pduType ∧
      d.serviceChoice = serviceChoice
  | .reason pduType reason => d.hasReason ∧ d.pduType = pduType ∧ d.reason = reason
  | .objectProperty objectType objectInstance propertyId =>
    d.hasObjectProperty ∧ d.objectType = objectType ∧ d.objectInstance = objectInstance ∧
      d.propertyId = propertyId
  | .arrayIndex arrayIndex => d.hasArrayIndex ∧ d.arrayIndex = arrayIndex

/-! ## The pieces of a line -/

/-- A part of the line the log prints. -/
inductive Piece where
  | unknown
  | bvlcFunction (bvlcFunction : UInt8)
  | fact (fact : Fact)
  /-- The label of a PDU, where neither service nor reason is known. -/
  | pdu (pduType : UInt8)
  | dadr (octets : List UInt8)

/-- A fact is printed as it is of a frame that has nothing else. -/
def Fact.text : Fact → List Char
  | .destination dnet => (" DNET=" ++ toString dnet).toList
  | .networkMessage type => (networkMessageText { networkMessageType := type }).toList
  | .service pduType serviceChoice =>
    (pduText
      { pduType := pduType, hasServiceChoice := true, serviceChoice := serviceChoice }).toList
  | .reason pduType value =>
    (pduText { pduType := pduType, hasReason := true, reason := value }).toList
  | .objectProperty objectType objectInstance propertyId =>
    (objectPropertyText
      { objectType := objectType, objectInstance := objectInstance,
        propertyId := propertyId }).toList
  | .arrayIndex index => ("[" ++ toString index ++ "]").toList
  | .source _ | .invokeId _ => []

def Piece.text : Piece → List Char
  | .unknown => "?".toList
  | .bvlcFunction function => "BVLC function=0x".toList ++ hexText function
  | .fact named => named.text
  | .pdu pduType => (pduText { pduType := pduType }).toList
  | .dadr octets => " DADR=".toList ++ octets.flatMap hexText

theorem text_unknown : Piece.unknown.text = "?".toList := rfl

theorem text_bvlcFunction (function : UInt8) :
    (Piece.bvlcFunction function).text = "BVLC function=0x".toList ++ hexText function := rfl

theorem text_fact (named : Fact) : (Piece.fact named).text = named.text := rfl

theorem text_pdu (pduType : UInt8) :
    (Piece.pdu pduType).text = (pduText { pduType := pduType }).toList := rfl

theorem text_dadr (octets : List UInt8) :
    (Piece.dadr octets).text = " DADR=".toList ++ octets.flatMap hexText := rfl

def DecodedFrame.pduPiece (d : DecodedFrame) : Piece :=
  if d.pduType.toNat ∈ [0, 1, 2, 3, 5] ∧ d.hasServiceChoice then
    .fact (.service d.pduType d.serviceChoice)
  else if d.pduType.toNat ∈ [6, 7] ∧ d.hasReason then .fact (.reason d.pduType d.reason)
  else .pdu d.pduType

def DecodedFrame.propertyPieces (d : DecodedFrame) : List Piece :=
  if d.hasObjectProperty then
    .fact (.objectProperty d.objectType d.objectInstance d.propertyId) ::
      if d.hasArrayIndex then [.fact (.arrayIndex d.arrayIndex)] else []
  else []

def DecodedFrame.routePieces (frame : List UInt8) (d : DecodedFrame) : List Piece :=
  if d.hasDest then
    .fact (.destination d.dnet) ::
      match d.dadr with
      | some dadr =>
        if 0 < d.dadrLength then [.dadr ((frame.drop dadr).take d.dadrLength.toNat)] else []
      | none => []
  else []

def DecodedFrame.pieces (frame : List UInt8) (d : DecodedFrame) : List Piece :=
  if !d.bacnetIp then [.unknown]
  else if !d.hasNpdu then [.bvlcFunction d.bvlcFunction]
  else if d.isNetworkMessage then
    .fact (.networkMessage d.networkMessageType) :: d.routePieces frame
  else if !d.hasApdu then [.unknown]
  else d.pduPiece :: d.propertyPieces ++ d.routePieces frame

def textOf (pieces : List Piece) : List Char := pieces.flatMap Piece.text

/-- A fact among the pieces of a frame's line is one it reports. -/
theorem fact_of_pieces {frame : List UInt8} {d : DecodedFrame} {fact : Fact}
    (h : .fact fact ∈ d.pieces frame) : d.reports fact := by
  have hroute : .fact fact ∈ d.routePieces frame → d.reports fact := by
    intro h
    unfold DecodedFrame.routePieces at h
    split at h
    · next hdest =>
      rcases List.mem_cons.mp h with heq | h
      · cases heq
        exact ⟨hdest, rfl⟩
      · repeat' split at h
        all_goals simp at h
    · cases h
  have hproperty : .fact fact ∈ d.propertyPieces → d.reports fact := by
    intro h
    unfold DecodedFrame.propertyPieces at h
    split at h
    · next hobject =>
      rcases List.mem_cons.mp h with heq | h
      · cases heq
        exact ⟨hobject, rfl, rfl, rfl⟩
      · split at h
        · next hindex =>
          cases List.mem_singleton.mp h
          exact ⟨hindex, rfl⟩
        · cases h
    · cases h
  have hpdu : .fact fact = d.pduPiece → d.reports fact := by
    intro h
    unfold DecodedFrame.pduPiece at h
    split at h
    · next hservice =>
      cases h
      exact ⟨hservice.2, rfl, rfl⟩
    · split at h
      · next hreason =>
        cases h
        exact ⟨hreason.2, rfl, rfl⟩
      · cases h
  unfold DecodedFrame.pieces at h
  split at h
  · simp at h
  · split at h
    · simp at h
    · split at h
      · next hmessage =>
        rcases List.mem_cons.mp h with heq | h
        · cases heq
          exact ⟨hmessage, rfl⟩
        · exact hroute h
      · split at h
        · simp at h
        · rcases List.mem_append.mp h with h | h
          · rcases List.mem_cons.mp h with heq | h
            · exact hpdu heq
            · exact hproperty h
          · exact hroute h

/-! ## Their texts -/

/-- How many digits a number is printed in. -/
def digits (n : Nat) : Nat := (Nat.toDigits 10 n).length

theorem digits_le {n k : Nat} (hk : 0 < k) (h : n < 10 ^ k) : digits n ≤ k :=
  Lib.Decimal.length_toDigits_le hk h

theorem plain_number (n : Nat) : Plain (digits n) (toString n).toList := by
  rw [show (toString n).toList = Nat.toDigits 10 n by simp]
  refine ⟨fun hin => ?_, Nat.le_refl _⟩
  exact absurd (Lib.Decimal.toDigits_isDigit hin) (by decide)

/-- The label, and the longest name there is. -/
theorem choiceText_plain {label field : String} {value : UInt8}
    {name : UInt8 → Option String} {m n : Nat}
    (hlabel : Plain m label.toList) (hfield : Plain (n - 4) field.toList) (hn : 4 ≤ n)
    (hname : ∀ text, name value = some text → Plain n text.toList) (has : Bool) :
    Plain (m + 2 + n) (choiceText label field has value name).toList := by
  have hdigits : digits value.toNat ≤ 3 :=
    digits_le (by decide) (Nat.lt_trans value.toNat_lt (by decide))
  have hcolon : Plain 2 ": ".toList := by decide
  have hequals : Plain 1 "=".toList := by decide
  unfold choiceText
  split
  · exact hlabel.mono (by omega)
  · cases hvalue : name value with
    | some text =>
      simp only [String.toList_append]
      exact (hlabel.append hcolon).append (hname text hvalue)
    | none =>
      simp only [String.toList_append]
      exact ((((hlabel.append hcolon).append hfield).append hequals).append
        (plain_number value.toNat)).mono (by omega)

/-- The names in a table of services or reasons. -/
theorem tableName_plain {names : List String} {n : Nat}
    (h : ∀ text ∈ names, plainOctets n text = true) {value : UInt8}
    {text : String} (hname : names[value.toNat]? = some text) : Plain n text.toList :=
  plain_of_octets (h text (List.mem_of_getElem? hname))

/-- How a PDU is printed, by how long the name of its service is. -/
theorem pduText_plain (d : DecodedFrame) {n : Nat} (hn : 11 ≤ n)
    (hservice : ∀ text, confirmedServiceName d.serviceChoice = some text → Plain n text.toList) :
    Plain (max 47 (18 + n)) (pduText d).toList := by
  have hunconfirmed : ∀ text ∈ unconfirmedServiceNames, plainOctets 34 text = true := by
    decide +kernel
  have hreject : ∀ text ∈ rejectReasonNames, plainOctets 34 text = true := by decide +kernel
  have habort : ∀ text ∈ abortReasonNames, plainOctets 34 text = true := by decide +kernel
  have hfield : Plain (n - 4) "service".toList :=
    (show Plain 7 "service".toList by decide).mono (by omega)
  have confirmed {label : String} (hlabel : Plain 16 label.toList) (has : Bool) :
      Plain (max 47 (18 + n))
        (choiceText label "service" has d.serviceChoice confirmedServiceName).toList :=
    (choiceText_plain hlabel hfield (by omega) hservice has).mono (by omega)
  have other {label field : String} {value : UInt8}
      {name : UInt8 → Option String} (hlabel : Plain 11 label.toList)
      (hfield : Plain 30 field.toList)
      (hname : ∀ text, name value = some text → Plain 34 text.toList) (has : Bool) :
      Plain (max 47 (18 + n)) (choiceText label field has value name).toList :=
    (choiceText_plain hlabel hfield (by decide) hname has).mono (by omega)
  unfold pduText
  split
  · exact confirmed (by decide) _
  · exact other (by decide) (by decide) (fun _ h => tableName_plain hunconfirmed h) _
  · exact confirmed (by decide) _
  · exact confirmed (by decide) _
  · exact (show Plain 10 "SegmentACK".toList by decide).mono (by omega)
  · exact confirmed (by decide) _
  · exact other (by decide) (by decide) (fun _ h => tableName_plain hreject h) _
  · exact other (by decide) (by decide) (fun _ h => tableName_plain habort h) _
  · exact (show Plain 1 "?".toList by decide).mono (by omega)

theorem confirmedServiceName_plain {choice : UInt8} {text : String}
    (h : confirmedServiceName choice = some text) :
    Plain 32 text.toList := by
  have hnames : ∀ text ∈ confirmedServiceNames, plainOctets 32 text = true := by decide +kernel
  exact tableName_plain hnames h

/-- Both names and the instance, or the three numbers. -/
theorem objectProperty_plain (objectType objectInstance propertyId : Nat) :
    Plain
      (max (60 + digits objectInstance)
        (24 + digits objectType + digits objectInstance + digits propertyId))
      (Fact.objectProperty objectType objectInstance propertyId).text := by
  have htypes : ∀ row ∈ OBJECT_TYPE_NAMES, plainOctets 22 row.name = true := by decide +kernel
  have hproperties : ∀ row ∈ PROPERTY_NAMES, plainOctets 35 row.name = true := by decide +kernel
  have hspace : Plain 1 " ".toList := by decide
  simp only [Fact.text, objectPropertyText, Bool.false_eq_true, if_false]
  split
  · next typeName propName htype hprop =>
    have htype : Plain 22 typeName.toList :=
      plain_of_octets (htypes _ (objectTypeName_iff.mp htype))
    have hprop : Plain 35 propName.toList :=
      plain_of_octets (hproperties _ (propertyName_iff.mp hprop))
    simp only [String.toList_append]
    exact (((((hspace.append htype).append hspace).append (plain_number objectInstance)).append
      (show Plain 1 ".".toList by decide)).append hprop).mono (by omega)
  · simp only [String.toList_append]
    exact ((((((show Plain 13 " object-type=".toList by decide).append
        (plain_number objectType)).append hspace).append
      (plain_number objectInstance)).append (show Plain 10 ".property=".toList by decide)).append
        (plain_number propertyId)).mono (by omega)

theorem arrayIndex_plain (index : Nat) : Plain (2 + digits index) (Fact.arrayIndex index).text := by
  simp only [Fact.text, String.toList_append]
  exact (((show Plain 1 "[".toList by decide).append (plain_number index)).append
    (show Plain 1 "]".toList by decide)).mono (by omega)

theorem networkMessageText_clean (d : DecodedFrame) : NUL ∉ (networkMessageText d).toList := by
  unfold networkMessageText
  split
  · next name hname =>
    have hnames : Plain 40 name.toList := by
      unfold networkMessageName at hname
      split at hname <;> cases hname <;> decide
    simp only [String.toList_append]
    exact ((show Plain 23 "Network-Layer-Message: ".toList by decide).append hnames).clean
  · simp only [String.toList_append]
    exact ((show Plain 28 "Network-Layer-Message: type=".toList by decide).append
      (plain_number _)).clean

theorem hexText_clean (b : UInt8) : NUL ∉ hexText b := by
  have hdigit : ∀ n : Fin 16, NUL ≠ hexDigit n.val := by decide
  unfold hexText
  simp only [List.mem_cons, List.not_mem_nil, or_false, not_or]
  exact ⟨hdigit ⟨b.toNat / 16, by have := b.toNat_lt; omega⟩, hdigit ⟨b.toNat % 16, by omega⟩⟩

/-- No piece has a NUL in its text. -/
theorem piece_clean (piece : Piece) : NUL ∉ piece.text := by
  have hpdu (d : DecodedFrame) : NUL ∉ (pduText d).toList :=
    (pduText_plain d (show 11 ≤ 32 by decide) fun _ h => confirmedServiceName_plain h).clean
  cases piece with
  | unknown =>
    rw [text_unknown]
    decide
  | bvlcFunction function =>
    simp only [text_bvlcFunction, List.mem_append, not_or]
    exact ⟨by decide, hexText_clean function⟩
  | fact named =>
    rw [text_fact]
    cases named with
    | destination dnet =>
      simp only [Fact.text, String.toList_append]
      exact ((show Plain 6 " DNET=".toList by decide).append (plain_number dnet)).clean
    | source snet => exact List.not_mem_nil
    | networkMessage type => exact networkMessageText_clean _
    | invokeId invokeId => exact List.not_mem_nil
    | service pduType serviceChoice =>
      simp only [Fact.text]
      exact hpdu _
    | reason pduType value =>
      simp only [Fact.text]
      exact hpdu _
    | objectProperty objectType objectInstance propertyId => exact (objectProperty_plain ..).clean
    | arrayIndex index => exact (arrayIndex_plain index).clean
  | pdu pduType =>
    rw [text_pdu]
    exact hpdu _
  | dadr octets =>
    simp only [text_dadr, List.mem_append, List.mem_flatMap, not_or, not_exists, not_and]
    exact ⟨by decide, fun b _ => hexText_clean b⟩

theorem textOf_clean (pieces : List Piece) : NUL ∉ textOf pieces := by
  unfold textOf
  intro h
  obtain ⟨piece, -, hpiece⟩ := List.mem_flatMap.mp h
  exact piece_clean piece hpiece

theorem textOf_append (pieces more : List Piece) :
    textOf (pieces ++ more) = textOf pieces ++ textOf more :=
  List.flatMap_append

theorem textOf_singleton (piece : Piece) : textOf [piece] = piece.text := List.append_nil _

theorem textOf_concat (pieces : List Piece) (piece : Piece) :
    textOf (pieces ++ [piece]) = textOf pieces ++ piece.text := by
  rw [textOf_append, textOf_singleton]

theorem textOf_cons (piece : Piece) (pieces : List Piece) :
    textOf (piece :: pieces) = piece.text ++ textOf pieces := rfl

/-- A PDU is printed as its piece. -/
theorem pduText_piece (d : DecodedFrame) : (pduText d).toList = d.pduPiece.text := by
  unfold DecodedFrame.pduPiece
  split
  · next h =>
    obtain ⟨htype, hservice⟩ := h
    simp only [List.mem_cons, List.not_mem_nil, or_false] at htype
    simp only [text_fact, Fact.text, pduText]
    rcases htype with htype | htype | htype | htype | htype
    all_goals simp only [htype, hservice]
  · next hservice =>
    split
    · next h =>
      obtain ⟨htype, hreason⟩ := h
      simp only [List.mem_cons, List.not_mem_nil, or_false] at htype
      simp only [text_fact, Fact.text, pduText]
      rcases htype with htype | htype
      all_goals simp only [htype, hreason]
    · next hreason =>
      simp only [List.mem_cons, List.not_mem_nil, or_false, not_and, Bool.not_eq_true]
        at hservice hreason
      simp only [text_pdu, pduText]
      split
      all_goals next htype => simp_all [choiceText]

theorem objectPropertyText_pieces {d : DecodedFrame} (h : d.hasObjectProperty = true) :
    (objectPropertyText d).toList = textOf d.propertyPieces := by
  unfold DecodedFrame.propertyPieces
  rw [if_pos h, textOf_cons]
  cases hindex : d.hasArrayIndex with
  | false =>
    simp only [text_fact, Fact.text, textOf, objectPropertyText, hindex,
      Bool.false_eq_true, if_false, List.flatMap_nil, List.append_nil]
  | true =>
    simp only [text_fact, Fact.text, textOf, objectPropertyText, hindex, if_true,
      Bool.false_eq_true, if_false,
      List.flatMap_cons, List.flatMap_nil, List.append_nil, String.toList_append, List.append_assoc]

/-! ## The intermediate buffer is long enough -/

/-- Nothing of the object and the property has been read. -/
def Bare (d : DecodedFrame) : Prop := d.hasObjectProperty = false ∧ d.hasArrayIndex = false

/-- An object and a property are read behind two services only, and are as many bits as
    their fields have. -/
def Printable (d : DecodedFrame) : Prop :=
  d.hasObjectProperty = true →
    (d.serviceChoice = 12 ∨ d.serviceChoice = 15) ∧ d.objectType < 2 ^ 10 ∧
    d.objectInstance < 2 ^ 22 ∧
      d.propertyId < 2 ^ 32 ∧ (d.hasArrayIndex = true → d.arrayIndex < 2 ^ 32)

theorem Bare.printable {d : DecodedFrame} (h : Bare d) : Printable d := by
  intro hobject
  rw [h.1] at hobject
  cases hobject

theorem unsignedValue_lt (octets : List UInt8) : unsignedValue octets < 2 ^ 32 := by
  unfold unsignedValue
  rcases List.eq_nil_or_concat octets with rfl | ⟨init, b, rfl⟩
  · decide
  · rw [List.concat_eq_append, List.foldl_append]
    refine Nat.or_lt_two_pow (Nat.mod_lt _ (by decide)) ?_
    exact Nat.lt_trans b.toNat_lt (by decide)

section
variable {bytes : List UInt8} {out : DecodedFrame}

theorem parseArrayIndex_printable (h : Printable out) : Printable (parseArrayIndex bytes out) := by
  simp only [parseArrayIndex]
  repeat' split
  · exact h
  · intro hobject
    obtain ⟨hservice, htype, hinstance, hprop, -⟩ := h hobject
    exact ⟨hservice, htype, hinstance, hprop, fun _ => unsignedValue_lt _⟩
  · exact h
  · exact h

theorem parseProperty_printable (h : Bare out)
    (hservice : out.serviceChoice = 12 ∨ out.serviceChoice = 15) (objValue : Nat) :
    Printable (parseProperty objValue bytes out) := by
  simp only [parseProperty]
  repeat' split
  · exact h.printable
  · refine parseArrayIndex_printable fun _ =>
      ⟨hservice, ?_, ?_, unsignedValue_lt _, fun hindex => ?_⟩
    · exact Nat.lt_of_le_of_lt Nat.and_le_right (by decide)
    · exact Nat.lt_of_le_of_lt Nat.and_le_right (by decide)
    · exact absurd hindex (by rw [h.2]; decide)
  · exact h.printable
  · exact h.printable

theorem parseObjectAndProperty_printable (h : Bare out)
    (hservice : out.serviceChoice = 12 ∨ out.serviceChoice = 15) :
    Printable (parseObjectAndProperty bytes out) := by
  simp only [parseObjectAndProperty]
  repeat' split
  · exact h.printable
  · exact parseProperty_printable h hservice _
  · exact h.printable
  · exact h.printable

theorem parseService_printable (h : Bare out) {withProperty : List UInt8}
    (hwith : ∀ choice ∈ withProperty, choice = 12 ∨ choice = 15) :
    Printable (parseService withProperty bytes out) := by
  cases bytes with
  | nil => exact h.printable
  | cons serviceChoice bytes =>
    have hbare : Bare { out with hasServiceChoice := true, serviceChoice := serviceChoice } := h
    simp only [parseService]
    split
    · next hin => exact parseObjectAndProperty_printable hbare (hwith _ hin)
    · exact hbare.printable

theorem parseConfirmedRequest_printable (h : Bare out) (b0 : UInt8) :
    Printable (parseConfirmedRequest b0 bytes out) := by
  have hbare : Bare { out with segmented := b0 &&& 0x08 != 0 } := h
  unfold parseConfirmedRequest
  rcases bytes with _ | ⟨b1, _ | ⟨invokeId, rest⟩⟩
  · exact hbare.printable
  · exact hbare.printable
  · exact parseService_printable (by exact h) (by simp)

theorem parseComplexAck_printable (h : Bare out) (b0 : UInt8) :
    Printable (parseComplexAck b0 bytes out) := by
  have hbare : Bare { out with segmented := b0 &&& 0x08 != 0 } := h
  unfold parseComplexAck
  cases bytes with
  | nil => exact hbare.printable
  | cons invokeId rest => exact parseService_printable (by exact h) (by simp)

theorem parseUnconfirmedRequest_printable (h : Bare out) :
    Printable (parseUnconfirmedRequest bytes out) := by
  unfold parseUnconfirmedRequest
  cases bytes with
  | nil => exact h.printable
  | cons serviceChoice rest => exact Bare.printable (by exact h)

theorem parseInvokeAndService_printable (h : Bare out) :
    Printable (parseInvokeAndService bytes out) := by
  unfold parseInvokeAndService
  split
  · exact Bare.printable (by exact h)
  · exact h.printable

theorem parseInvokeAndReason_printable (h : Bare out) :
    Printable (parseInvokeAndReason bytes out) := by
  unfold parseInvokeAndReason
  split
  · exact Bare.printable (by exact h)
  · exact h.printable

theorem parseApdu_printable (h : Bare out) (b0 : UInt8) : Printable (parseApdu b0 bytes out) := by
  have hbare : Bare { out with hasApdu := true, pduType := b0 >>> 4 &&& 0x0F } := h
  simp only [parseApdu]
  split
  · exact parseConfirmedRequest_printable hbare b0
  · exact parseUnconfirmedRequest_printable hbare
  · exact parseInvokeAndService_printable hbare
  · exact parseComplexAck_printable hbare b0
  · exact parseInvokeAndService_printable hbare
  · exact parseInvokeAndReason_printable hbare
  · exact parseInvokeAndReason_printable hbare
  · exact hbare.printable

theorem parsePayload_printable (h : Bare out) : Printable (parsePayload bytes out) := by
  cases bytes with
  | nil => exact h.printable
  | cons b0 rest =>
    simp only [parsePayload]
    split
    · exact Bare.printable (by exact h)
    · exact parseApdu_printable h b0

theorem parseHopCount_printable (h : Bare out) : Printable (parseHopCount bytes out) := by
  unfold parseHopCount
  repeat' split
  · exact h.printable
  · exact parsePayload_printable h
  · exact parsePayload_printable h

theorem parseSource_printable (h : Bare out) (offset : Nat) :
    Printable (parseSource offset bytes out) := by
  simp only [parseSource]
  repeat' split
  · exact Bare.printable (by exact h)
  · exact parseHopCount_printable (by exact h)
  · exact parseHopCount_printable (by exact h)
  · exact h.printable
  · exact parseHopCount_printable h

theorem parseDestination_printable (h : Bare out) (offset : Nat) :
    Printable (parseDestination offset bytes out) := by
  simp only [parseDestination]
  repeat' split
  · exact Bare.printable (by exact h)
  · exact parseSource_printable (by exact h) _
  · exact parseSource_printable (by exact h) _
  · exact h.printable
  · exact parseSource_printable h _

theorem parseNpdu_printable (h : Bare out) (offset : Nat) :
    Printable (parseNpdu offset bytes out) := by
  unfold parseNpdu
  split
  · exact parseDestination_printable (by exact h) _
  · exact h.printable

end

theorem parseBacnetFrame_printable (frame : List UInt8) : Printable (parseBacnetFrame frame) := by
  have hempty : Bare {} := ⟨rfl, rfl⟩
  unfold parseBacnetFrame
  split
  · next b0 bvlcFunction b2 b3 rest =>
    have hbare : Bare { bacnetIp := true, bvlcFunction := bvlcFunction } := ⟨rfl, rfl⟩
    simp only
    split
    · exact hempty.printable
    · split
      · exact parseNpdu_printable hbare 4
      · exact parseNpdu_printable hbare 4
      · exact parseNpdu_printable hbare 10
      · exact hbare.printable
  · exact hempty.printable

/-- What is printed of an APDU is shorter than the buffer on the stack. -/
theorem body_fits {d : DecodedFrame} (h : Printable d) :
    (textOf (d.pduPiece :: d.propertyPieces)).length < 128 := by
  rw [textOf_cons, ← pduText_piece, List.length_append]
  by_cases hobject : d.hasObjectProperty = true
  · obtain ⟨hservice, htype, hinstance, hprop, hindex⟩ := h hobject
    have hname : ∀ text, confirmedServiceName d.serviceChoice = some text →
        Plain 13 text.toList := by
      rcases hservice with hservice | hservice <;> rw [hservice] <;> intro text htext
      · cases (show some "ReadProperty" = some text from htext)
        decide
      · cases (show some "WriteProperty" = some text from htext)
        decide
    have hpdu := (pduText_plain d (by decide) hname).short
    have hproperty := (objectProperty_plain d.objectType d.objectInstance d.propertyId).short
    have := digits_le (k := 4) (by decide) (show d.objectType < 10 ^ 4 by omega)
    have := digits_le (k := 7) (by decide) (show d.objectInstance < 10 ^ 7 by omega)
    have := digits_le (k := 10) (by decide) (show d.propertyId < 10 ^ 10 by omega)
    unfold DecodedFrame.propertyPieces
    rw [if_pos hobject, textOf_cons, text_fact, List.length_append]
    split
    · next hhas =>
      have harray := (arrayIndex_plain d.arrayIndex).short
      have :=
        digits_le (k := 10) (by decide) (show d.arrayIndex < 10 ^ 10 by have := hindex hhas; omega)
      rw [textOf_cons, text_fact, List.length_append]
      simp only [textOf, List.flatMap_nil, List.length_nil]
      omega
    · simp only [textOf, List.flatMap_nil, List.length_nil]
      omega
  · have hpdu :=
      (pduText_plain d (show 11 ≤ 32 by decide) fun _ h => confirmedServiceName_plain h).short
    unfold DecodedFrame.propertyPieces
    rw [if_neg hobject]
    simp only [textOf, List.flatMap_nil, List.length_nil]
    omega

/-! ## The line -/

section
variable {frame : List UInt8} {d : DecodedFrame} {n : Nat} {shown buf : List Char}

/-- The address is printed an octet at a time, as long as both its digits fit. -/
theorem appendHexFrom_holds (hn : 0 < n) {data todo : Nat} (hdata : data + todo ≤ frame.length)
    (h : Shows n shown buf) (hshown : NUL ∉ shown) :
    ∃ buf', appendHexFrom frame data todo buf (min (n - 1) shown.length) = .ok buf' ∧
      Holds n (shown ++ ((frame.drop data).take todo).flatMap hexText) buf' := by
  induction todo generalizing data buf shown with
  | zero =>
    refine ⟨buf, rfl, h.holds_append fun _ => ?_⟩
    rw [List.take_zero, List.flatMap_nil]
  | succ todo ih =>
    have hdrop : (frame.drop data).take (todo + 1) =
        frame[data] :: (frame.drop (data + 1)).take todo := by
      rw [List.drop_eq_getElem_cons (by omega), List.take_succ_cons]
    have hhex : (hexText frame[data]).length = 2 := rfl
    unfold appendHexFrom
    rw [h.terminated.length, hdrop, List.flatMap_cons]
    split
    · next hroom =>
      have hbyte : byteAt frame data = .ok frame[data] := by
        unfold byteAt
        rw [List.getElem?_eq_getElem]
      obtain ⟨buf', hwrite, hshows⟩ := snprintf_shows h hn hshown (hexText_clean frame[data])
      have hclean : NUL ∉ shown ++ hexText frame[data] := by
        rw [List.mem_append]
        exact fun hin => hin.elim hshown (hexText_clean _)
      have hrest : data + 1 + todo ≤ frame.length := by omega
      obtain ⟨out, hout, hholds⟩ := ih hrest hshows hclean
      have hused : min (n - 1) (shown ++ hexText frame[data]).length =
          min (n - 1) shown.length + 2 := by
        rw [List.length_append, hhex]
        omega
      rw [hused] at hout
      rw [hbyte, ok_bind, subSize_ok (by omega), ok_bind, hwrite, ok_bind]
      exact ⟨out, hout, List.append_assoc .. ▸ hholds⟩
    · refine ⟨buf, rfl, h.holds_append fun hfits => ?_⟩
      rw [List.length_append, hhex] at hfits
      omega

theorem appendRouteSuffix_holds (hn : 0 < n) (hd : DadrIn frame.length d) {pieces : List Piece}
    (h : Shows n (textOf pieces) buf) :
    ∃ buf', appendRouteSuffix frame d buf = .ok buf' ∧
      Holds n (textOf (pieces ++ d.routePieces frame)) buf' := by
  unfold appendRouteSuffix DecodedFrame.routePieces
  by_cases hdest : d.hasDest = true
  · obtain ⟨buf1, hdnet, hshows1⟩ :=
      appendText_shows h hn (textOf_clean _) (piece_clean (.fact (.destination d.dnet)))
    have hdnet : appendText buf (" DNET=" ++ toString d.dnet).toList = .ok buf1 := hdnet
    rw [← textOf_concat] at hshows1
    rw [if_neg (by simp [hdest]), if_pos hdest, hdnet, ok_bind]
    cases hdadr : d.dadr with
    | none => exact ⟨buf1, rfl, hshows1.holds⟩
    | some dadr =>
      by_cases hlength : 0 < d.dadrLength
      · have hlabel : NUL ∉ " DADR=".toList := by decide
        obtain ⟨buf2, hwrite, hshows2⟩ := appendText_shows hshows1 hn (textOf_clean _) hlabel
        have hclean2 : NUL ∉ textOf (pieces ++ [.fact (.destination d.dnet)]) ++
            " DADR=".toList := by
          rw [List.mem_append]
          exact fun hin => hin.elim (textOf_clean _) hlabel
        obtain ⟨buf3, hhex, hholds⟩ := appendHexFrom_holds hn (hd dadr hdadr) hshows2 hclean2
        simp only [if_pos hlength, hwrite, ok_bind]
        unfold appendHex
        rw [hshows2.strlen hn, ok_bind, hhex]
        refine ⟨buf3, rfl, ?_⟩
        rw [List.append_assoc, ← text_dadr, ← textOf_concat, List.append_assoc] at hholds
        exact hholds
      · simp only [if_neg hlength]
        exact ⟨buf1, rfl, hshows1.holds⟩
  · rw [if_pos (by simpa using hdest), if_neg hdest, List.append_nil]
    exact ⟨buf, rfl, h.holds⟩

/-- The object and the property are shown behind the PDU. -/
theorem appendObjectProperty_shows (hn : 0 < n) (d : DecodedFrame) {pieces : List Piece}
    (h : Shows n (textOf pieces) buf) :
    ∃ buf', appendObjectProperty d buf = .ok buf' ∧
      Shows n (textOf (pieces ++ d.propertyPieces)) buf' := by
  unfold appendObjectProperty
  by_cases hobject : d.hasObjectProperty = true
  · have htext := objectPropertyText_pieces hobject
    obtain ⟨buf', hwrite, hshows⟩ :=
      appendText_shows h hn (textOf_clean _) (textOf_clean d.propertyPieces)
    rw [if_pos hobject, htext, textOf_append]
    exact ⟨buf', hwrite, hshows⟩
  · unfold DecodedFrame.propertyPieces
    rw [if_neg hobject, if_neg hobject, List.append_nil]
    exact ⟨buf, rfl, h⟩

theorem printSummary_holds (hd : DadrIn frame.length d) (hprintable : Printable d)
    (body : Vector Char 128) (hn : 0 < n) {outSummary : List Char} (hout : outSummary.length = n) :
    ∃ out, printSummary frame d body outSummary = .ok out ∧
      Holds n (textOf (d.pieces frame)) out := by
  have hprint (piece : Piece) : ∃ out, printText outSummary piece.text = .ok out ∧
      Shows n (textOf [piece]) out := by
    rw [textOf_singleton]
    exact printText_shows hout hn (piece_clean piece)
  unfold printSummary DecodedFrame.pieces
  split
  · obtain ⟨out, hwrite, hshows⟩ := hprint .unknown
    exact ⟨out, hwrite, hshows.holds⟩
  · split
    · obtain ⟨out, hwrite, hshows⟩ := hprint (.bvlcFunction d.bvlcFunction)
      exact ⟨out, hwrite, hshows.holds⟩
    · split
      · obtain ⟨out, hwrite, hshows⟩ := hprint (.fact (.networkMessage d.networkMessageType))
        rw [show (networkMessageText d).toList =
          (Piece.fact (.networkMessage d.networkMessageType)).text from rfl, hwrite, ok_bind]
        exact appendRouteSuffix_holds hn hd hshows
      · split
        · obtain ⟨out, hwrite, hshows⟩ := hprint .unknown
          exact ⟨out, hwrite, hshows.holds⟩
        · obtain ⟨body0, hempty, hbody0⟩ := putChar_ok body.length_toList (by decide)
          obtain ⟨body1, hpdu, hbody1⟩ :=
            printText_shows hbody0.length (by decide) (piece_clean d.pduPiece)
          rw [← textOf_singleton] at hbody1
          obtain ⟨body2, hobject, hbody2⟩ := appendObjectProperty_shows (by decide) d hbody1
          have hread : readText body2 = .ok (textOf (d.pduPiece :: d.propertyPieces)) := by
            rw [hbody2.read]
            exact congrArg Except.ok
              (List.take_of_length_le (Nat.le_of_lt_succ (body_fits hprintable)))
          obtain ⟨out, hwrite, hshows⟩ :=
            printText_shows hout hn (textOf_clean (d.pduPiece :: d.propertyPieces))
          simp only [hempty, pduText_piece, hpdu, hobject, hread, hwrite, ok_bind]
          exact appendRouteSuffix_holds hn hd hshows

end

/-- The line printed of a frame is the text of its pieces, as far as it fits. -/
theorem summarizeBacnetFrame_line (frame : List UInt8) (body : Vector Char 128)
    (outSummary : List Char) (h : 1 ≤ outSummary.length) :
    ∃ out line, summarizeBacnetFrame frame body outSummary = .ok out ∧ readText out = .ok line ∧
      line <+: textOf ((parseBacnetFrame frame).pieces frame) ∧
      ((textOf ((parseBacnetFrame frame).pieces frame)).length < outSummary.length →
        line = textOf ((parseBacnetFrame frame).pieces frame)) := by
  obtain ⟨out0, hempty, hout0⟩ := putChar_ok rfl h
  obtain ⟨out, hprint, -, line, hread, hprefix, hfits⟩ :=
    printSummary_holds (dadr_in_frame frame) (parseBacnetFrame_printable frame) body h hout0.length
  refine ⟨out, line, ?_, hread, hprefix, hfits⟩
  unfold summarizeBacnetFrame
  rw [if_neg (by omega), hempty, ok_bind, decodeBacnetFrame_eq, ok_bind, hprint]

example : textOf ((parseBacnetFrame [0x81, 0x0A, 0x00, 0x08, 0x01, 0x00, 0x10, 0x08]).pieces []) =
    "Unconfirmed: Who-Is".toList := by decide +kernel

end BacnetGateway.Frames
