/-
  BacnetGateway.Simulation.Control — the test's back door to the simulated bus
  (`simulation/SimulationControl.cpp`): one command a datagram, one reply.

  A command is text that `sscanf` takes apart; `Fields` is what it assigned. A `%u` is what
  `strtoul` makes of it, kept to 32 bits: a sign is allowed, and a number too large for 64 bits
  is the largest. `CommandLine` is what the tests send (`SimulatedBus` of `tests/gw_setup.py`),
  and its text.

  Whatever arrives, the bus changes in no way but one event of its back door, and only when
  the reply is `ok` (`service_effect`). What the tests mean is what happens: a command line
  has the effect and the reply of the call it stands for (`service_commandLine`).
-/

import BacnetGateway.Lib.Decimal
import BacnetGateway.Simulation.Bus
import Mathlib.Data.List.TakeWhile

namespace BacnetGateway.Simulation

open Seam Lib.Decimal

/-! ## `sscanf` -/

/-- `%15s`, with `width` for 15: the word, and what follows it. -/
def scanWord (width : Nat) (text : List Char) : Option (List Char × List Char) :=
  let text := text.dropWhile isSpace
  let word := (text.takeWhile (! isSpace ·)).take width
  if word = [] then none else some (word, text.drop word.length)

/-- `strtoul` of the digits, and the conversion to `unsigned`. -/
def toUnsignedInt (negative : Bool) (n : Nat) : Nat :=
  (if 2 ^ 64 ≤ n then 2 ^ 64 - 1 else if negative then (2 ^ 64 - n) % 2 ^ 64 else n) % 2 ^ 32

/-- `%u`. -/
def scanUnsigned (text : List Char) : Option (Nat × List Char) :=
  let (negative, text) := scanSign (text.dropWhile isSpace)
  let digits := text.takeWhile Char.isDigit
  if digits = [] then none
    else some (toUnsignedInt negative (Nat.ofDigitChars 10 digits 0), text.dropWhile Char.isDigit)

/-- How many fields `sscanf` assigned, and their values; what it did not assign is as it was
    initialised. -/
structure Fields where
  fieldCount : Nat
  verb : List Char
  unitId : Nat
  tableText : List Char
  address : Nat
  value : Nat

/-- `sscanf(command, "%15s %u %15s %u %u", ...)`. It returns EOF where nothing was there to be
    assigned; that is no more than 0 here. -/
def scanCommand (command : List Char) : Fields :=
  match scanWord 15 command with
  | none => ⟨0, [], 0, [], 0, 0⟩
  | some (verb, rest) =>
    match scanUnsigned rest with
    | none => ⟨1, verb, 0, [], 0, 0⟩
    | some (unitId, rest) =>
      match scanWord 15 rest with
      | none => ⟨2, verb, unitId, [], 0, 0⟩
      | some (tableText, rest) =>
        match scanUnsigned rest with
        | none => ⟨3, verb, unitId, tableText, 0, 0⟩
        | some (address, rest) =>
          match scanUnsigned rest with
          | none => ⟨4, verb, unitId, tableText, address, 0⟩
          | some (value, _) => ⟨5, verb, unitId, tableText, address, value⟩

/-! ## Commands -/

def parseTable (text : List Char) : Option Table :=
  if text = "input".toList then some .inputRegister
  else if text = "holding".toList then some .holdingRegister
  else if text = "coil".toList then some .coil
  else none

def getPoint (unitId : Nat) (table : Table) (address : Nat) (s : Sim) : Option Word :=
  (findPoint unitId address).map fun i => (s.slaves i).point table

/-- `snprintf` into a buffer of `replyLength`. -/
def replyText (replyLength : Nat) (text : List Char) : List Char := text.take (replyLength - 1)

/-- The reply, before it is written into its buffer, and the bus. -/
def runCommand (command : List Char) (s : Sim) : List Char × Sim :=
  let f := scanCommand command
  if f.fieldCount < 2 ∨ 255 < f.unitId ∨ 65535 < f.address ∨
    65535 < f.value then ("error out of range or malformed".toList, s)
  else if f.verb = "offline".toList ∨ f.verb = "online".toList then
    if (findSlave f.unitId).isNone then
      ("error unknown unit ".toList ++ Nat.toDigits 10 f.unitId, s)
    else ("ok".toList, setSlaveOnline f.unitId (f.verb = "online".toList) s)
  else
    match parseTable f.tableText with
    | none => ("error unknown command".toList, s)
    | some table =>
      if f.fieldCount = 5 ∧ f.verb = "set".toList then
        if (findPoint f.unitId f.address).isNone then ("error no such point".toList, s)
        else ("ok".toList, setPoint f.unitId table f.address (BitVec.ofNat 16 f.value) s)
      else if f.fieldCount = 4 ∧ f.verb = "get".toList then
        match getPoint f.unitId table f.address s with
        | none => ("error no such point".toList, s)
        | some pointValue => ("value ".toList ++ Nat.toDigits 10 pointValue.toNat, s)
      else ("error unknown command".toList, s)

/-- `SimulationControl::Service` on a datagram: at most 127 characters are received, and the
    command ends at the first NUL. An empty datagram gets no reply. -/
def controlService (datagram : List Char) (s : Sim) : Option (List Char) × Sim :=
  let received := datagram.take 127
  if received = [] then (none, s)
  else
    let (reply, s) := runCommand (received.takeWhile (· ≠ Char.ofNat 0)) s
    (some (replyText 64 reply), s)

/-! ## Whatever arrives -/

/-- The event of the back door that a command is, if it is one that changes the bus. -/
def commandEvent (command : List Char) : Option FieldEvent :=
  let f := scanCommand command
  if f.fieldCount < 2 ∨ 255 < f.unitId ∨ 65535 < f.address ∨ 65535 < f.value then none
  else if f.verb = "offline".toList ∨ f.verb = "online".toList then
    if (findSlave f.unitId).isNone then none
      else some (.setSlaveOnline f.unitId (f.verb = "online".toList))
  else
    match parseTable f.tableText with
    | none => none
    | some table =>
      if f.fieldCount = 5 ∧ f.verb = "set".toList ∧ (findPoint f.unitId f.address).isSome then
        some (.setPoint f.unitId table f.address (BitVec.ofNat 16 f.value))
      else none

/-- What an event does, or nothing. -/
def applyEvent (e : Option FieldEvent) (s : Sim) : Sim := e.elim s (fieldEvent · s)

/-- A unit or a point that the bus has. -/
def Known : FieldEvent → Prop
  | .setSlaveOnline unitId _ => (findSlave unitId).isSome
  | .setPoint unitId _ address _ => (findPoint unitId address).isSome

theorem runCommand_event (command : List Char) (s : Sim) :
    (runCommand command s).2 = applyEvent (commandEvent command) s ∧
      (∀ e ∈ commandEvent command, Known e ∧ (runCommand command s).1 = "ok".toList) := by
  unfold runCommand commandEvent applyEvent
  simp only
  split
  · simp
  · split
    · split
      · simp
      · rename_i hunit
        simp only [Option.isNone_iff_eq_none] at hunit
        refine ⟨rfl, fun e he => ?_⟩
        obtain rfl := Option.some.inj he
        exact ⟨Option.isSome_iff_ne_none.mpr hunit, rfl⟩
    · split
      · simp
      · rename_i table htable
        by_cases hset : (scanCommand command).fieldCount = 5 ∧
          (scanCommand command).verb = "set".toList
        · rw [if_pos hset]
          split
          · rename_i hpoint
            have hnot : ¬ ((scanCommand command).fieldCount = 5 ∧
              (scanCommand command).verb = "set".toList ∧
                (findPoint (scanCommand command).unitId (scanCommand command).address).isSome) := by
              intro h
              simp [Option.isNone_iff_eq_none.mp hpoint] at h
            rw [if_neg hnot]
            simp
          · rename_i hpoint
            simp only [Option.isNone_iff_eq_none] at hpoint
            have hknown := Option.isSome_iff_ne_none.mpr hpoint
            rw [if_pos ⟨hset.1, hset.2, hknown⟩]
            refine ⟨rfl, fun e he => ?_⟩
            obtain rfl := Option.some.inj he
            exact ⟨hknown, rfl⟩
        · have hnot : ¬ ((scanCommand command).fieldCount = 5 ∧
            (scanCommand command).verb = "set".toList ∧
              (findPoint (scanCommand command).unitId (scanCommand command).address).isSome) := by
            intro h
            exact hset ⟨h.1, h.2.1⟩
          rw [if_neg hset, if_neg hnot]
          split
          · split <;> simp
          · simp

/-- Every reply fits its buffer. -/
theorem runCommand_length (command : List Char) (s : Sim) :
    (runCommand command s).1.length ≤ 63 := by
  have hmalformed : "error out of range or malformed".toList.length ≤ 63 := by decide
  have hunit : "error unknown unit ".toList.length = 19 := by decide
  have hok : "ok".toList.length ≤ 63 := by decide
  have hcommand : "error unknown command".toList.length ≤ 63 := by decide
  have hpoint : "error no such point".toList.length ≤ 63 := by decide
  have hvalue : "value ".toList.length = 6 := by decide
  unfold runCommand
  simp only
  split
  · exact hmalformed
  · rename_i hrange
    split
    · split
      · have hdigits :=
          length_toDigits_le (n := (scanCommand command).unitId) (show 0 < 3 by decide) (by omega)
        simp only [List.length_append]
        omega
      · exact hok
    · split
      · exact hcommand
      · split
        · split
          · exact hpoint
          · exact hok
        · split
          · split
            · exact hpoint
            · rename_i pointValue _
              have hvalue : pointValue.toNat < 10 ^ 5 := by
                have := pointValue.isLt
                omega
              have hdigits := length_toDigits_le (show 0 < 5 by decide) hvalue
              simp only [List.length_append]
              omega
          · exact hcommand

theorem controlService_eq {datagram : List Char} (hne : datagram ≠ []) (s : Sim) :
    controlService datagram s =
      (some (runCommand ((datagram.take 127).takeWhile (· ≠ Char.ofNat 0)) s).1,
      (runCommand ((datagram.take 127).takeWhile (· ≠ Char.ofNat 0)) s).2) := by
  have hreceived : datagram.take 127 ≠ [] := by
    cases datagram with
    | nil => exact absurd rfl hne
    | cons c rest => simp
  unfold controlService replyText
  simp only [hreceived, if_false]
  rw [List.take_of_length_le (runCommand_length _ s)]

/-- Whatever datagram arrives, what it does to the bus is one event of the back door, on a
    unit or a point that exists and answered with `ok`, or nothing. Every datagram that is not
    empty gets a reply, and every reply is whole. -/
theorem service_effect (datagram : List Char) (s : Sim) :
    ∃ e : Option FieldEvent, (controlService datagram s).2 = applyEvent e s ∧
      (∀ event ∈ e, Known event ∧ (controlService datagram s).1 = some "ok".toList) ∧
      ((controlService datagram s).1 = none ↔ datagram = []) ∧
      ∀ reply ∈ (controlService datagram s).1, reply.length ≤ 63 ∧
        (controlService datagram s).1 =
          some (runCommand ((datagram.take 127).takeWhile (· ≠ Char.ofNat 0)) s).1 := by
  by_cases hempty : datagram = []
  · subst hempty
    exact ⟨none, rfl, (fun _ h => nomatch h), ⟨fun _ => rfl, fun _ => rfl⟩, fun _ h => nomatch h⟩
  · rw [controlService_eq hempty]
    obtain ⟨heffect, hevents⟩ :=
      runCommand_event ((datagram.take 127).takeWhile (· ≠ Char.ofNat 0)) s
    refine ⟨_, heffect, fun event he => ?_, ?_, fun reply hreply => ?_⟩
    · obtain ⟨hknown, hok⟩ := hevents event he
      exact ⟨hknown, congrArg some hok⟩
    · simp [hempty]
    · obtain rfl := Option.some.inj hreply
      exact ⟨runCommand_length _ s, rfl⟩

/-! ## What the tests send -/

inductive CommandLine where
  | offline (unit : Nat)
  | online (unit : Nat)
  | set (unit : Nat) (table : Table) (value address : Nat)
  | get (unit : Nat) (table : Table) (address : Nat)
  deriving DecidableEq

/-- `INPUT_REGISTER`, `HOLDING_REGISTER`, `COIL`. -/
def tableWord : Table → List Char
  | .inputRegister => "input".toList
  | .holdingRegister => "holding".toList
  | .coil => "coil".toList

def spaced (n : Nat) : List Char := ' ' :: Nat.toDigits 10 n

def CommandLine.text : CommandLine → List Char
  | .offline unit => "offline".toList ++ spaced unit
  | .online unit => "online".toList ++ spaced unit
  | .set unit table value address =>
    "set".toList ++ (spaced unit ++ ' ' :: (tableWord table ++ (spaced address ++ spaced value)))
  | .get unit table address =>
    "get".toList ++ (spaced unit ++ ' ' :: (tableWord table ++ spaced address))

/-- Every number is one `%u` has room for. -/
def CommandLine.Representable : CommandLine → Prop
  | .offline unit => unit < 2 ^ 32
  | .online unit => unit < 2 ^ 32
  | .set unit _ value address => unit < 2 ^ 32 ∧ value < 2 ^ 32 ∧ address < 2 ^ 32
  | .get unit _ address => unit < 2 ^ 32 ∧ address < 2 ^ 32

/-- The call of `SimulatedForeignBus` that the line stands for: the reply, and the bus after it,
    or `none` for what the call refuses. -/
def CommandLine.call (s : Sim) : CommandLine → Option (List Char × Sim)
  | .offline unit => if (findSlave unit).isSome then some ("ok".toList, setSlaveOnline unit false s)
      else none
  | .online unit => if (findSlave unit).isSome then some ("ok".toList, setSlaveOnline unit true s)
      else none
  | .set unit table value address =>
    if (findPoint unit address).isSome ∧
      value < 2 ^ 16 then some ("ok".toList, setPoint unit table address (BitVec.ofNat 16 value) s)
    else none
  | .get unit table address => (getPoint unit table address s).map fun word =>
    ("value ".toList ++ Nat.toDigits 10 word.toNat, s)

/-- A word of letters. -/
structure Word15 (word : List Char) : Prop where
  ne_nil : word ≠ []
  short : word.length ≤ 15
  letters : word.all (! isSpace ·) = true

theorem Word15.not_space {word : List Char} (h : Word15 word) {c : Char} (hc : c ∈ word) :
    isSpace c = false := by
  have hletter := List.all_eq_true.mp h.letters c hc
  simpa using hletter

/-- The text ends, or goes on with a blank. -/
def Ends (text : List Char) : Prop := ∀ c ∈ text.head?, isSpace c = true

theorem scanWord_append {word rest : List Char} (h : Word15 word) (hrest : Ends rest) :
    scanWord 15 (word ++ rest) = some (word, rest) := by
  obtain ⟨c, word, rfl⟩ := List.exists_cons_of_ne_nil h.ne_nil
  have hc : isSpace c = false := h.not_space (by simp)
  have hspan : ((c :: word) ++ rest).takeWhile (! isSpace ·) = c :: word := by
    rw [List.takeWhile_append_of_pos (by
      intro d hd
      simp [h.not_space hd])]
    cases rest with
    | nil => simp
    | cons d rest => simp [hrest d rfl]
  unfold scanWord
  rw [List.cons_append, List.dropWhile_cons_of_neg (by simp [hc]), ← List.cons_append]
  dsimp only
  rw [hspan, List.take_of_length_le h.short]
  simp

theorem scanWord_blank {word rest : List Char} (h : Word15 word) (hrest : Ends rest) :
    scanWord 15 (' ' :: (word ++ rest)) = some (word, rest) := by
  have hskip : scanWord 15 (' ' :: (word ++ rest)) = scanWord 15 (word ++ rest) := by
    unfold scanWord
    rw [List.dropWhile_cons_of_pos (by decide)]
  rw [hskip, scanWord_append h hrest]

theorem scanUnsigned_spaced {n : Nat} (hn : n < 2 ^ 32) {rest : List Char} (hrest : NoDigit rest) :
    scanUnsigned (spaced n ++ rest) = some (n, rest) := by
  obtain ⟨d, digits, hdigits, hd⟩ := toDigits_cons n
  obtain ⟨htake, hdrop⟩ := digits_append n hrest
  have hskip : (spaced n ++ rest).dropWhile isSpace = Nat.toDigits 10 n ++ rest := by
    unfold spaced
    rw [hdigits, List.cons_append, List.dropWhile_cons_of_pos (by decide), List.cons_append,
      List.dropWhile_cons_of_neg (by simp [isSpace_of_isDigit hd])]
  have hsign : scanSign (Nat.toDigits 10 n ++ rest) = (false, Nat.toDigits 10 n ++ rest) := by
    rw [hdigits, List.cons_append, scanSign_digit hd]
  have hvalue : toUnsignedInt false n = n := by
    unfold toUnsignedInt
    rw [if_neg (by omega)]
    simp only [Bool.false_eq_true, if_false]
    omega
  unfold scanUnsigned
  rw [hskip, hsign]
  simp only [htake, hdrop, Nat.ofDigitChars_ten_toDigits, hvalue, Nat.toDigits_ne_nil, if_false]

/-! ## What they mean -/

theorem verb_word {word : List Char}
    (h : word ∈ ["offline".toList, "online".toList, "set".toList, "get".toList]) : Word15 word := by
  simp only [List.mem_cons, List.not_mem_nil, or_false] at h
  rcases h with rfl | rfl | rfl | rfl <;> exact ⟨by decide, by decide, by decide⟩

theorem tableWord_word (table : Table) : Word15 (tableWord table) := by
  cases table <;> exact ⟨by decide, by decide, by decide⟩

theorem parseTable_tableWord (table : Table) : parseTable (tableWord table) = some table := by
  cases table <;> decide

theorem ends_spaced (n : Nat) (rest : List Char) : Ends (spaced n ++ rest) := by
  intro c hc
  obtain rfl := Option.some.inj hc
  decide

theorem noDigit_spaced (n : Nat) : NoDigit (spaced n) := noDigit_cons (by decide)

/-- A verb and a unit. -/
theorem scan_unit {verb : List Char} (hverb : Word15 verb) {unit : Nat} (hunit : unit < 2 ^ 32) :
    scanCommand (verb ++ spaced unit) = ⟨2, verb, unit, [], 0, 0⟩ := by
  have hnumber := scanUnsigned_spaced hunit noDigit_nil
  have hends := ends_spaced unit []
  rw [List.append_nil] at hnumber hends
  unfold scanCommand
  rw [scanWord_append hverb hends]
  simp only [hnumber]
  rfl

/-- A verb, a unit, a table and an address, and what follows. -/
theorem scan_point {verb : List Char} (hverb : Word15 verb) {unit address : Nat}
    (hunit : unit < 2 ^ 32) (haddress : address < 2 ^ 32)
    (table : Table) {rest : List Char} (hrest : NoDigit rest) :
    scanCommand (verb ++ (spaced unit ++ ' ' :: (tableWord table ++ (spaced address ++ rest)))) =
      match scanUnsigned rest with
      | none => ⟨4, verb, unit, tableWord table, address, 0⟩
      | some (value, _) => ⟨5, verb, unit, tableWord table, address, value⟩ := by
  unfold scanCommand
  rw [scanWord_append hverb (ends_spaced unit _)]
  simp only [scanUnsigned_spaced hunit (noDigit_cons (show ' '.isDigit = false by decide)),
    scanWord_blank (tableWord_word table) (ends_spaced address rest),
    scanUnsigned_spaced haddress hrest]

theorem scan_set {unit value address : Nat} (hunit : unit < 2 ^ 32) (hvalue : value < 2 ^ 32)
    (haddress : address < 2 ^ 32) (table : Table) :
    scanCommand (CommandLine.set unit table value address).text =
      ⟨5, "set".toList, unit, tableWord table, address, value⟩ := by
  have hnumber := scanUnsigned_spaced hvalue noDigit_nil
  rw [List.append_nil] at hnumber
  have hword : Word15 "set".toList := verb_word (by simp)
  unfold CommandLine.text
  rw [scan_point hword hunit haddress table (noDigit_spaced value), hnumber]

/-- At most so long, and without a NUL. -/
structure Plain (text : List Char) (length : Nat) : Prop where
  short : text.length ≤ length
  noNul : Char.ofNat 0 ∉ text

theorem Plain.append {text text' : List Char} {m n : Nat} (h : Plain text m) (h' : Plain text' n) :
    Plain (text ++ text') (m + n) where
  short := by
    have := h.short
    have := h'.short
    rw [List.length_append]
    omega
  noNul := by
    rw [List.mem_append]
    exact not_or.mpr ⟨h.noNul, h'.noNul⟩

theorem Plain.blank {text : List Char} {n : Nat} (h : Plain text n) :
    Plain (' ' :: text) (n + 1) where
  short := Nat.succ_le_succ h.short
  noNul := by
    rw [List.mem_cons]
    exact not_or.mpr ⟨by decide, h.noNul⟩

/-- The line goes through the datagram as it is. -/
theorem Plain.received {text : List Char} {n : Nat} (h : Plain text n) (hn : n ≤ 127) :
    (text.take 127).takeWhile (· ≠ Char.ofNat 0) = text := by
  rw [List.take_of_length_le (Nat.le_trans h.short hn)]
  refine List.takeWhile_eq_self_iff.mpr fun c hc => decide_eq_true ?_
  rintro rfl
  exact h.noNul hc

theorem spaced_plain {n : Nat} (hn : n < 2 ^ 32) : Plain (spaced n) 11 := by
  refine Plain.blank (n := 10) ⟨length_toDigits_le (by decide) (by omega), fun h => ?_⟩
  exact absurd (toDigits_isDigit h) (by decide)

theorem tableWord_plain (table : Table) : Plain (tableWord table) 7 := by
  cases table <;> exact ⟨by decide, by decide⟩

theorem commandLine_received {c : CommandLine} (h : c.Representable) :
    (c.text.take 127).takeWhile (· ≠ Char.ofNat 0) = c.text := by
  cases c with
  | offline unit =>
    have hverb : Plain "offline".toList 7 := ⟨by decide, by decide⟩
    exact (hverb.append (spaced_plain h)).received (by decide)
  | online unit =>
    have hverb : Plain "online".toList 6 := ⟨by decide, by decide⟩
    exact (hverb.append (spaced_plain h)).received (by decide)
  | set unit table value address =>
    obtain ⟨hunit, hvalue, haddress⟩ := h
    have hverb : Plain "set".toList 3 := ⟨by decide, by decide⟩
    have hnumbers := (spaced_plain haddress).append (spaced_plain hvalue)
    exact (hverb.append
      ((spaced_plain hunit).append ((tableWord_plain table).append hnumbers).blank)).received
      (by decide)
  | get unit table address =>
    obtain ⟨hunit, haddress⟩ := h
    have hverb : Plain "get".toList 3 := ⟨by decide, by decide⟩
    exact (hverb.append
      ((spaced_plain hunit).append
        ((tableWord_plain table).append (spaced_plain haddress)).blank)).received (by decide)

/-- A unit or an address that the bus has is small. -/
theorem findSlave_le {unit : Nat} (h : (findSlave unit).isSome) : unit ≤ 3 := by
  obtain ⟨i, hi⟩ := Option.isSome_iff_exists.mp h
  rw [findSlave_eq_some hi]
  unfold slaveUnitId
  omega

theorem findPoint_le {unit address : Nat} (h : (findPoint unit address).isSome) :
    unit ≤ 3 ∧ address = 0 := by
  unfold findPoint at h
  split at h
  · exact ⟨findSlave_le h, by assumption⟩
  · cases h

/-- The reply refuses. -/
def Refusal (reply : List Char) : Prop := "error ".toList <+: reply

instance (reply : List Char) : Decidable (Refusal reply) :=
  inferInstanceAs (Decidable ("error ".toList <+: reply))

/-- The command did what the call does; where the call refuses, it did nothing. -/
structure Meets (call : Option (List Char × Sim)) (s : Sim) (result : List Char × Sim) : Prop where
  done : ∀ r ∈ call, result = r
  refused : call = none → result.2 = s ∧ Refusal result.1

theorem Meets.of_done {call : Option (List Char × Sim)} {s : Sim} {result : List Char × Sim}
    (h : call = some result) : Meets call s result where
  done := fun r hr => Option.some.inj (h.symm.trans hr)
  refused := fun hnone => absurd (h.symm.trans hnone) (by simp)

theorem Meets.of_refused {call : Option (List Char × Sim)} {s : Sim} {reply : List Char}
    (h : call = none) (hreply : Refusal reply) :
    Meets call s (reply, s) where
  done := fun r hr => absurd (h.symm.trans hr) (by simp)
  refused := fun _ => ⟨rfl, hreply⟩

theorem refusal_malformed : Refusal "error out of range or malformed".toList := by decide

theorem refusal_noPoint : Refusal "error no such point".toList := by decide

theorem refusal_noUnit (unit : Nat) :
    Refusal ("error unknown unit ".toList ++ Nat.toDigits 10 unit) :=
  ⟨"unknown unit ".toList ++ Nat.toDigits 10 unit, rfl⟩

/-- A switch of the unit's cable. -/
theorem runCommand_switch {unit : Nat} (hunit : unit < 2 ^ 32) {verb : List Char}
    (hverb : verb = "offline".toList ∨ verb = "online".toList) (s : Sim) :
    Meets
      (if (findSlave unit).isSome then
        some ("ok".toList, setSlaveOnline unit (verb = "online".toList) s) else none) s
      (runCommand (verb ++ spaced unit) s) := by
  have hword : Word15 verb := by
    rcases hverb with rfl | rfl
    · exact verb_word (by simp)
    · exact verb_word (by simp)
  unfold runCommand
  rw [scan_unit hword hunit]
  simp only
  by_cases hsome : (findSlave unit).isSome = true
  · have hle := findSlave_le hsome
    rw [if_pos hsome, if_neg (by omega), if_pos hverb,
      if_neg (by simp [Option.isSome_iff_ne_none.mp hsome])]
    exact Meets.of_done rfl
  · rw [if_neg hsome]
    by_cases hrange : unit ≤ 255
    · rw [if_neg (by omega), if_pos hverb, if_pos (by simpa using hsome)]
      exact Meets.of_refused rfl (refusal_noUnit unit)
    · rw [if_pos (by omega)]
      exact Meets.of_refused rfl refusal_malformed

/-- A value set at a point. -/
theorem runCommand_set {unit value address : Nat} (hunit : unit < 2 ^ 32) (hvalue : value < 2 ^ 32)
    (haddress : address < 2 ^ 32) (table : Table) (s : Sim) :
    Meets ((CommandLine.set unit table value address).call s) s
      (runCommand (CommandLine.set unit table value address).text s) := by
  have hscan := scan_set hunit hvalue haddress table
  have hverb : ¬ ("set".toList = "offline".toList ∨ "set".toList = "online".toList) := by decide
  unfold runCommand CommandLine.call
  rw [hscan]
  simp only [hverb, if_false, parseTable_tableWord, true_and, if_true]
  by_cases h : (findPoint unit address).isSome = true ∧ value < 2 ^ 16
  · obtain ⟨hle, rfl⟩ := findPoint_le h.1
    rw [if_pos h, if_neg (by omega), if_neg (by simp [Option.isSome_iff_ne_none.mp h.1])]
    exact Meets.of_done rfl
  · rw [if_neg h]
    by_cases hrange : 255 < unit ∨ 65535 < address ∨ 65535 < value
    · rw [if_pos (by omega)]
      exact Meets.of_refused rfl refusal_malformed
    · have hnone : (findPoint unit address).isNone = true := by
        rw [Option.isNone_iff_eq_none]
        by_contra hne
        exact h ⟨Option.isSome_iff_ne_none.mpr hne, by omega⟩
      rw [if_neg (by omega), if_pos hnone]
      exact Meets.of_refused rfl refusal_noPoint

/-- It is an event of the back door. -/
theorem commandEvent_set {unit value address : Nat} (hvalue : value < 2 ^ 16)
    (hpoint : (findPoint unit address).isSome = true) (table : Table) :
    commandEvent (CommandLine.set unit table value address).text =
      some (.setPoint unit table address (BitVec.ofNat 16 value)) := by
  obtain ⟨hle, rfl⟩ := findPoint_le hpoint
  have hverb : ¬ ("set".toList = "offline".toList ∨ "set".toList = "online".toList) := by decide
  unfold commandEvent
  rw [scan_set (by omega) (by omega) (by omega)]
  simp only [hverb, if_false, parseTable_tableWord, hpoint, and_self, if_true]
  rw [if_neg (by omega)]

theorem getPoint_isSome {unit address : Nat} {table : Table} {s : Sim} {word : Word}
    (h : getPoint unit table address s = some word) :
    (findPoint unit address).isSome = true := by
  unfold getPoint at h
  cases hpoint : findPoint unit address with
  | none => simp [hpoint] at h
  | some i => rfl

/-- A point's value. -/
theorem runCommand_get {unit address : Nat} (hunit : unit < 2 ^ 32) (haddress : address < 2 ^ 32)
    (table : Table) (s : Sim) :
    Meets ((CommandLine.get unit table address).call s) s
      (runCommand (CommandLine.get unit table address).text s) := by
  have hword : Word15 "get".toList := verb_word (by simp)
  have hscan := scan_point hword hunit haddress table noDigit_nil
  have hnumber : scanUnsigned [] = none := rfl
  simp only [hnumber, List.append_nil] at hscan
  have hverb : ¬ ("get".toList = "offline".toList ∨ "get".toList = "online".toList) := by decide
  have hset : ¬ ((4 : Nat) = 5 ∧ "get".toList = "set".toList) := by decide
  unfold runCommand CommandLine.text CommandLine.call
  rw [hscan]
  simp only [hverb, if_false, parseTable_tableWord, hset, true_and, if_true]
  cases hword : getPoint unit table address s with
  | some word =>
    obtain ⟨hle, rfl⟩ := findPoint_le (getPoint_isSome hword)
    rw [if_neg (by omega)]
    exact Meets.of_done rfl
  | none =>
    by_cases hrange : 255 < unit ∨ 65535 < address
    · rw [if_pos (by omega)]
      exact Meets.of_refused rfl refusal_malformed
    · rw [if_neg (by omega)]
      exact Meets.of_refused rfl refusal_noPoint

theorem runCommand_line (c : CommandLine) (h : c.Representable) (s : Sim) :
    Meets (c.call s) s (runCommand c.text s) := by
  cases c with
  | offline unit => exact runCommand_switch h (Or.inl rfl) s
  | online unit => exact runCommand_switch h (Or.inr rfl) s
  | set unit table value address => exact runCommand_set h.1 h.2.1 h.2.2 table s
  | get unit table address => exact runCommand_get h.1 h.2 table s

theorem text_ne_nil (c : CommandLine) : c.text ≠ [] := by
  cases c <;> exact List.cons_ne_nil _ _

theorem controlService_line {c : CommandLine} (h : c.Representable) (s : Sim) :
    controlService c.text s = (some (runCommand c.text s).1, (runCommand c.text s).2) := by
  rw [controlService_eq (text_ne_nil c), commandLine_received h]

/-- What the tests send does what they mean: a command line whose numbers `%u` has room for has
    the effect, and gets the reply, of the call it stands for; where the call refuses, the bus
    stays as it was and the reply is an error. -/
theorem service_commandLine (c : CommandLine) (h : c.Representable) (s : Sim) :
    (∀ reply s', c.call s = some (reply, s') → controlService c.text s = (some reply, s')) ∧
      (c.call s = none → ∃ reply, controlService c.text s = (some reply, s) ∧ Refusal reply) := by
  have hmeets := runCommand_line c h s
  rw [controlService_line h s]
  constructor
  · intro reply s' hcall
    rw [hmeets.done _ hcall]
  · intro hnone
    obtain ⟨hsame, hrefusal⟩ := hmeets.refused hnone
    exact ⟨_, by rw [hsame], hrefusal⟩

/-- The air handler's setpoint, set to 42. -/
theorem service_commandLine_setpoint :
    (CommandLine.set 2 .holdingRegister 42 0).Representable ∧
      controlService (CommandLine.set 2 .holdingRegister 42 0).text initialSim =
        (some "ok".toList, setPoint 2 .holdingRegister 0 (BitVec.ofNat 16 42) initialSim) := by
  have hfits : (CommandLine.set 2 .holdingRegister 42 0).Representable :=
    ⟨by decide, by decide, by decide⟩
  exact ⟨hfits, (service_commandLine _ hfits initialSim).1 _ _ rfl⟩

end BacnetGateway.Simulation
