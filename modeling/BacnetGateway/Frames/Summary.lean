/-
  BacnetGateway.Frames.Summary — the line the frame log prints about a datagram
  (`AppendHex`, `AppendRouteSuffix` and `SummarizeBacnetFrame` of
  `common/CASExampleHelper.cpp`).

  It is built in two buffers: `body`, 128 characters on the stack, and the caller's
  `outSummary`, whose list is all the memory the caller gave and so as long as
  `outSummaryLength`. What either holds before it is written is arbitrary.

  Logging is memory safe (`summarizeBacnetFrame_safe`): the decoder reads within the frame
  (`decodeBacnetFrame_eq`), the destination address it points at lies in the frame
  (`dadr_in_frame`), and every write is told what is left of its buffer.
-/

import BacnetGateway.Frames.Names
import BacnetGateway.Frames.Parser

namespace BacnetGateway.Frames

open Lib.Memory

/-! ## Texts -/

def hexDigit (n : Nat) : Char := if n < 10 then Char.ofNat (48 + n) else Char.ofNat (55 + n)

/-- `%02X`. -/
def hexText (b : UInt8) : List Char := [hexDigit (b.toNat / 16), hexDigit (b.toNat % 16)]

def networkMessageText (d : DecodedFrame) : String :=
  match networkMessageName d.networkMessageType with
  | some name => "Network-Layer-Message: " ++ name
  | none => "Network-Layer-Message: type=" ++ toString d.networkMessageType.toNat

/-- A label, and the service or the reason by its name, or by its number. -/
def choiceText (label field : String) (has : Bool) (value : UInt8)
    (name : UInt8 → Option String) : String :=
  if !has then label
  else
    match name value with
    | some name => label ++ ": " ++ name
    | none => label ++ ": " ++ field ++ "=" ++ toString value.toNat

def pduText (d : DecodedFrame) : String :=
  match d.pduType.toNat with
  | 0 =>
    choiceText "ConfirmedRequest" "service" d.hasServiceChoice d.serviceChoice confirmedServiceName
  | 1 =>
    choiceText "Unconfirmed" "service" d.hasServiceChoice d.serviceChoice unconfirmedServiceName
  | 2 => choiceText "SimpleACK" "service" d.hasServiceChoice d.serviceChoice confirmedServiceName
  | 3 => choiceText "ComplexACK" "service" d.hasServiceChoice d.serviceChoice confirmedServiceName
  | 4 => "SegmentACK"
  | 5 => choiceText "Error" "service" d.hasServiceChoice d.serviceChoice confirmedServiceName
  | 6 => choiceText "Reject" "reason" d.hasReason d.reason rejectReasonName
  | 7 => choiceText "Abort" "reason" d.hasReason d.reason abortReasonName
  | _ => "?"

/-- Both names, or both numbers. -/
def objectPropertyText (d : DecodedFrame) : String :=
  let text :=
    match objectTypeName d.objectType, propertyName d.propertyId with
    | some typeName, some propName =>
      " " ++ typeName ++ " " ++ toString d.objectInstance ++ "." ++ propName
    | _, _ =>
      " object-type=" ++ toString d.objectType ++ " " ++ toString d.objectInstance ++
      ".property=" ++ toString d.propertyId
  if d.hasArrayIndex then text ++ "[" ++ toString d.arrayIndex ++ "]" else text

/-! ## Appending -/

/-- `AppendHex` from `data` on, `todo` bytes left and the string in the buffer `used` long. -/
def appendHexFrom (frame : List UInt8) (data : Nat) : Nat → List Char → Nat → Checked (List Char)
  | 0, buf, _ => return buf
  | todo + 1, buf, used => do
    if used + 2 < buf.length then
      let b ← byteAt frame data
      let size ← subSize buf.length used
      let (buf, written) ← snprintf buf used size (hexText b)
      appendHexFrom frame (data + 1) todo buf (used + written)
    else return buf

def appendHex (frame : List UInt8) (data : Nat) (length : UInt8) (buf : List Char) : Checked
      (List Char) := do
  appendHexFrom frame data length.toNat buf (← strlen buf)

/-- `" DNET=<n>[ DADR=<hex>]"`, or nothing if the frame carries no destination specifier. -/
def appendRouteSuffix (frame : List UInt8) (d : DecodedFrame) (buf : List Char) : Checked
      (List Char) := do
  if !d.hasDest then return buf
  let buf ← appendText buf (" DNET=" ++ toString d.dnet).toList
  match d.dadr with
  | some dadr =>
    if 0 < d.dadrLength then
      let buf ← appendText buf " DADR=".toList
      appendHex frame dadr d.dadrLength buf
    else return buf
  | none => return buf

def appendObjectProperty (d : DecodedFrame) (buf : List Char) : Checked (List Char) :=
  if d.hasObjectProperty then appendText buf (objectPropertyText d).toList else return buf

/-! ## The summary -/

/-- The summary of what has been decoded. -/
def printSummary (frame : List UInt8) (d : DecodedFrame) (body : Vector Char 128)
    (outSummary : List Char) :
    Checked (List Char) := do
  if !d.bacnetIp then printText outSummary "?".toList
  else if !d.hasNpdu then printText outSummary ("BVLC function=0x".toList ++ hexText d.bvlcFunction)
  else if d.isNetworkMessage then
    let outSummary ← printText outSummary (networkMessageText d).toList
    appendRouteSuffix frame d outSummary
  else if !d.hasApdu then printText outSummary "?".toList
  else
    let body ← putChar body.toList 0 NUL
    let body ← printText body (pduText d).toList
    let body ← appendObjectProperty d body
    let outSummary ← printText outSummary (← readText body)
    appendRouteSuffix frame d outSummary

def summarizeBacnetFrame (frame : List UInt8) (body : Vector Char 128)
    (outSummary : List Char) : Checked (List Char) := do
  if outSummary.length = 0 then return outSummary
  let outSummary ← putChar outSummary 0 NUL
  printSummary frame (← decodeBacnetFrame frame) body outSummary

/-! ## Safety -/

/-- The destination address is in the frame. -/
def DadrIn (length : Nat) (d : DecodedFrame) : Prop :=
  ∀ dadr, d.dadr = some dadr → dadr + d.dadrLength.toNat ≤ length

theorem DadrIn.of_route {length : Nat} {d e : DecodedFrame} (h : d.route = e.route)
    (hd : DadrIn length e) : DadrIn length d := by
  have hdadr : d.dadr = e.dadr := (congrArg DecodedFrame.dadr h : d.route.dadr = e.route.dadr)
  have hlength : d.dadrLength = e.dadrLength :=
    (congrArg DecodedFrame.dadrLength h : d.route.dadrLength = e.route.dadrLength)
  unfold DadrIn
  rw [hdadr, hlength]
  exact hd

theorem parseDestination_dadr {offset length : Nat} {bytes : List UInt8} {out : DecodedFrame}
    (h : length = offset + bytes.length)
    (hout : DadrIn length out) : DadrIn length (parseDestination offset bytes out) := by
  simp only [parseDestination]
  split
  · split
    · next hi lo dlen rest =>
      split
      · exact hout
      · next hfits =>
        refine .of_route (parseSource_route _ _ _) fun dadr hdadr => ?_
        simp only [List.length_cons] at h
        split at hdadr
        · obtain rfl := Option.some.inj hdadr
          show offset + 3 + dlen.toNat ≤ length
          omega
        · cases hdadr
    · exact hout
  · exact .of_route (parseSource_route _ _ _) hout

theorem parseNpdu_dadr {offset length : Nat} {bytes : List UInt8} {out : DecodedFrame}
    (h : bytes ≠ [] → length = offset + bytes.length)
    (hout : out.dadr = none) : DadrIn length (parseNpdu offset bytes out) := by
  have hnone : DadrIn length out := fun dadr hdadr => by rw [hout] at hdadr; cases hdadr
  unfold parseNpdu
  split
  · next version control rest =>
    refine parseDestination_dadr ?_ hnone
    rw [h (List.cons_ne_nil _ _)]
    simp only [List.length_cons]
    omega
  · exact hnone

/-- An address the decoder points at is in the frame it has decoded. -/
theorem dadr_in_frame (frame : List UInt8) : DadrIn frame.length (parseBacnetFrame frame) := by
  have hnone : DadrIn frame.length {} := fun _ h => by cases h
  unfold parseBacnetFrame
  split
  · next b0 bvlcFunction b2 b3 rest =>
    simp only
    split
    · exact hnone
    · split
      · exact parseNpdu_dadr (fun _ => by simp only [List.length_cons]; omega) rfl
      · exact parseNpdu_dadr (fun _ => by simp only [List.length_cons]; omega) rfl
      · refine parseNpdu_dadr (fun hne => ?_) rfl
        have : rest.drop 6 ≠ [] → 6 < rest.length := fun h => by simpa using h
        have := this hne
        simp only [List.length_cons, List.length_drop]
        omega
      · exact fun _ h => by cases h
  · exact hnone

section
variable {frame : List UInt8} {n : Nat} {buf : List Char}

theorem appendHexFrom_ok {data todo used : Nat} (hdata : data + todo ≤ frame.length)
    (hbuf : Terminated n buf) (hused : used < n) :
    ∃ buf', appendHexFrom frame data todo buf used = .ok buf' ∧ Terminated n buf' := by
  induction todo generalizing data buf used with
  | zero => exact ⟨buf, rfl, hbuf⟩
  | succ todo ih =>
    unfold appendHexFrom
    rw [hbuf.length]
    split
    · next hroom =>
      have hbyte : byteAt frame data = .ok frame[data] := by
        unfold byteAt
        rw [List.getElem?_eq_getElem]
      obtain ⟨buf', hwrite, hterminated⟩ := snprintf_ok hbuf.length hused (hexText frame[data])
      rw [hbyte, ok_bind, subSize_ok (Nat.le_of_lt hused), ok_bind, hwrite, ok_bind]
      exact ih (by omega) hterminated hroom
    · exact ⟨buf, rfl, hbuf⟩

theorem appendRouteSuffix_ok {d : DecodedFrame} (hd : DadrIn frame.length d)
    (hbuf : Terminated n buf) :
    ∃ buf', appendRouteSuffix frame d buf = .ok buf' ∧ Terminated n buf' := by
  unfold appendRouteSuffix
  split
  · exact ⟨buf, rfl, hbuf⟩
  · obtain ⟨buf1, hdnet, hbuf1⟩ := appendText_ok hbuf (" DNET=" ++ toString d.dnet).toList
    rw [hdnet, ok_bind]
    split
    · next dadr hdadr =>
      split
      · obtain ⟨buf2, hlabel, hbuf2⟩ := appendText_ok hbuf1 " DADR=".toList
        obtain ⟨used, hstrlen, hused⟩ := strlen_ok hbuf2
        rw [hlabel, ok_bind]
        unfold appendHex
        rw [hstrlen, ok_bind]
        exact appendHexFrom_ok (hd dadr hdadr) hbuf2 hused
      · exact ⟨buf1, rfl, hbuf1⟩
    · exact ⟨buf1, rfl, hbuf1⟩

theorem appendObjectProperty_ok (d : DecodedFrame) (hbuf : Terminated n buf) :
    ∃ buf', appendObjectProperty d buf = .ok buf' ∧ Terminated n buf' := by
  unfold appendObjectProperty
  split
  · exact appendText_ok hbuf _
  · exact ⟨buf, rfl, hbuf⟩

end

theorem printSummary_ok {frame : List UInt8} {d : DecodedFrame} (hd : DadrIn frame.length d)
    (body : Vector Char 128)
    {n : Nat} (hn : 0 < n) {outSummary : List Char} (hout : outSummary.length = n) :
    ∃ out, printSummary frame d body outSummary = .ok out ∧ Terminated n out := by
  have hprint (text : List Char) : ∃ out, printText outSummary text = .ok out ∧ Terminated n out :=
    printText_ok hout hn text
  unfold printSummary
  split
  · exact hprint _
  · split
    · exact hprint _
    · split
      · obtain ⟨out, hwrite, hout⟩ := hprint (networkMessageText d).toList
        rw [hwrite, ok_bind]
        exact appendRouteSuffix_ok hd hout
      · split
        · exact hprint _
        · obtain ⟨body0, hempty, hbody0⟩ := putChar_ok body.length_toList (by decide)
          obtain ⟨body1, hpdu, hbody1⟩ := printText_ok hbody0.length (by decide) (pduText d).toList
          obtain ⟨body2, hobject, hbody2⟩ := appendObjectProperty_ok d hbody1
          obtain ⟨text, hread⟩ := readText_ok hbody2
          obtain ⟨out, hwrite, hout⟩ := hprint text
          simp only [hempty, hpdu, hobject, hread, hwrite, ok_bind]
          exact appendRouteSuffix_ok hd hout

/-- Whatever the datagram, summarizing it ends with no fault: no byte past the frame is
    read, no sum or size wraps, neither buffer is written past its end; and what it leaves
    in the caller's memory ends in a NUL. -/
theorem summarizeBacnetFrame_safe (frame : List UInt8) (body : Vector Char 128)
    (outSummary : List Char) (h : 1 ≤ outSummary.length) :
    ∃ out, summarizeBacnetFrame frame body outSummary = .ok out ∧ out.length = outSummary.length ∧
      NUL ∈ out := by
  obtain ⟨out0, hempty, hout0⟩ := putChar_ok rfl h
  obtain ⟨out, hprint, hout⟩ := printSummary_ok (dadr_in_frame frame) body h hout0.length
  refine ⟨out, ?_, hout.length, hout.nul⟩
  unfold summarizeBacnetFrame
  rw [if_neg (by omega), hempty, ok_bind, decodeBacnetFrame_eq, ok_bind, hprint]

/-- A tag that claims 2^32 - 1 octets, and one character for the summary. -/
theorem summarizeBacnetFrame_safe_one :
    ∃ out, summarizeBacnetFrame
        [0x81, 0x0A, 0x00, 0x18, 0x01, 0x04, 0x00, 0x05, 0x01, 0x0C, 0x0C, 0x00, 0x80, 0x00, 0x03,
          0x1D, 0xFF, 0xFF, 0xFF, 0xFF, 0xFF]
        (Vector.replicate 128 'x') ['x'] = .ok out ∧ out.length = 1 ∧ NUL ∈ out :=
  summarizeBacnetFrame_safe _ _ _ (by decide)

end BacnetGateway.Frames
