/-
  BacnetGateway.Program.Arguments — the command line (`ParseModeArg` of `main.cpp`, `--port`
  and `--deviceID` of `common/CASExampleHelper.cpp`), and what `main` makes of it before it
  starts anything.

  Arguments are character lists. The loops run over `argv[1]` and up, here `args`. A `long`
  has 64 bits; where it has 32 nothing changes, since no number this long is accepted.

  - `parseWholeNumber_iff`: a token is a number only as a whole.
  - `configure_iff`: what a command line has to be for the gateway to start, and with
    what port, mode and device instance it then runs.
-/

import BacnetGateway.Gateway.Callbacks
import BacnetGateway.Lib.Decimal
import Mathlib.Data.List.Infix
import Mathlib.Data.List.TakeWhile

namespace BacnetGateway.Program

open Gateway Lib.Decimal

abbrev Text := List Char

/-! ## Numbers -/

def LONG_MAX : Nat := 2 ^ 63 - 1

/-- `strtol(text, &end, 10)`: the value, the text at `end`, and whether it set `errno`. -/
def strtol (text : Text) : Int × Text × Bool :=
  let (negative, number) := scanSign (text.dropWhile isSpace)
  let digits := number.takeWhile Char.isDigit
  if digits = [] then (0, text, false)
  else
    let value : Int := Nat.ofDigitChars 10 digits 0
    let value := if negative then -value else value
    if (LONG_MAX : Int) < value then (LONG_MAX, number.dropWhile Char.isDigit, true)
    else if value < -(LONG_MAX : Int) - 1 then (-(LONG_MAX : Int) - 1,
      number.dropWhile Char.isDigit, true)
    else (value, number.dropWhile Char.isDigit, false)

def parseWholeNumber (text : Text) : Option Nat :=
  if text = [] then none
  else
    let (value, rest, errno) := strtol text
    if errno = true ∨ rest = text ∨ rest ≠ [] ∨ value < 0 then none else some value.toNat

/-- The token is a number: blanks, a sign, and digits to its end. Only 0 may have a minus. -/
structure IsNumber (text : Text) (n : Nat) : Prop where
  shape : ∃ blanks sign digits, text = blanks ++ (sign ++ digits) ∧
    (∀ c ∈ blanks, isSpace c = true) ∧ sign ∈ [[], ['+'], ['-']] ∧
    digits ≠ [] ∧ (∀ c ∈ digits, c.isDigit = true) ∧ Nat.ofDigitChars 10 digits 0 = n ∧
    (sign = ['-'] → n = 0)
  fits : n ≤ LONG_MAX

/-- What `strtol` makes of a text that is a sign and digits after blanks. -/
theorem strtol_number {blanks sign digits : Text} (hblanks : ∀ c ∈ blanks, isSpace c = true)
    (hsign : sign ∈ [[], ['+'], ['-']])
    (hne : digits ≠ []) (hdigits : ∀ c ∈ digits, c.isDigit = true)
    (hfits : Nat.ofDigitChars 10 digits 0 ≤ LONG_MAX) :
    strtol (blanks ++ (sign ++ digits)) =
      ((if sign = ['-'] then -(Nat.ofDigitChars 10 digits 0 : Int)
        else Nat.ofDigitChars 10 digits 0), [], false) := by
  obtain ⟨d, digits, rfl⟩ := List.exists_cons_of_ne_nil hne
  have hd : d.isDigit = true := hdigits d (by simp)
  obtain ⟨htake, hdrop⟩ := span_append hdigits noDigit_nil
  rw [List.append_nil] at htake hdrop
  have hskip : (blanks ++ (sign ++ d :: digits)).dropWhile isSpace = sign ++ d :: digits := by
    rw [List.dropWhile_append_of_pos hblanks]
    simp only [List.mem_cons, List.not_mem_nil, or_false] at hsign
    rcases hsign with rfl | rfl | rfl
    · rw [List.nil_append, List.dropWhile_cons_of_neg (by simp [isSpace_of_isDigit hd])]
    · rfl
    · rfl
  have hscan : scanSign (sign ++ d :: digits) = (decide (sign = ['-']), d :: digits) := by
    simp only [List.mem_cons, List.not_mem_nil, or_false] at hsign
    rcases hsign with rfl | rfl | rfl
    · exact scanSign_digit hd digits
    · rfl
    · rfl
  unfold strtol
  rw [hskip, hscan]
  dsimp only
  rw [htake, hdrop, if_neg hne]
  by_cases hminus : sign = ['-']
  · simp only [hminus, decide_true, if_true]
    rw [if_neg (by omega), if_neg (by omega)]
  · simp only [hminus, decide_false, Bool.false_eq_true, if_false]
    rw [if_neg (by omega), if_neg (by omega)]

/-- A sign and digits after blanks, or nothing that `strtol` could convert. -/
theorem strtol_cases (text : Text) :
    (strtol text = (0, text, false)) ∨ (strtol text).2.2 = true ∨
      ∃ blanks sign digits rest, text = blanks ++ (sign ++ (digits ++ rest)) ∧
        (∀ c ∈ blanks, isSpace c = true) ∧
        sign ∈ [[], ['+'], ['-']] ∧ digits ≠ [] ∧ (∀ c ∈ digits, c.isDigit = true) ∧
        strtol text =
          ((if sign = ['-'] then -(Nat.ofDigitChars 10 digits 0 : Int)
            else Nat.ofDigitChars 10 digits 0), rest, false) ∧
        (sign ≠ ['-'] → Nat.ofDigitChars 10 digits 0 ≤ LONG_MAX) := by
  obtain ⟨sign, hsplit, hsign, hminus⟩ := scanSign_append (text.dropWhile isSpace)
  have hblanks : ∀ c ∈ text.takeWhile isSpace, isSpace c = true :=
    fun c hc => List.mem_takeWhile_imp hc
  have hdigits : ∀ c ∈ (scanSign (text.dropWhile isSpace)).2.takeWhile Char.isDigit,
      c.isDigit = true :=
    fun c hc => List.mem_takeWhile_imp hc
  have htext : text =
      text.takeWhile isSpace ++
      (sign ++ ((scanSign (text.dropWhile isSpace)).2.takeWhile Char.isDigit ++
      (scanSign (text.dropWhile isSpace)).2.dropWhile Char.isDigit)) := by
    rw [List.takeWhile_append_dropWhile, ← hsplit, List.takeWhile_append_dropWhile]
  unfold strtol
  dsimp only
  by_cases hne : (scanSign (text.dropWhile isSpace)).2.takeWhile Char.isDigit = []
  · left
    rw [if_pos hne]
  · right
    rw [if_neg hne]
    simp only [hminus]
    set digits := (scanSign (text.dropWhile isSpace)).2.takeWhile Char.isDigit
    generalize hvalue : (if sign = ['-'] then -(Nat.ofDigitChars 10 digits 0 : Int)
      else Nat.ofDigitChars 10 digits 0) = value
    by_cases hlarge : (LONG_MAX : Int) < value
    · rw [if_pos hlarge]
      exact Or.inl rfl
    · rw [if_neg hlarge]
      by_cases hsmall : value < -(LONG_MAX : Int) - 1
      · rw [if_pos hsmall]
        exact Or.inl rfl
      · rw [if_neg hsmall]
        right
        refine ⟨_, sign, _, _, htext, hblanks, hsign, hne, hdigits, by rw [hvalue], fun hplus => ?_⟩
        rw [if_neg hplus] at hvalue
        omega

/-- A token is a whole number exactly when all of it is one: blanks in front and a plus are let
    through, and nothing behind it, no other minus and nothing that a `long` cannot hold. -/
theorem parseWholeNumber_iff (text : Text) (n : Nat) :
    parseWholeNumber text = some n ↔ IsNumber text n := by
  constructor
  · intro h
    unfold parseWholeNumber at h
    split at h
    · cases h
    · rename_i hnonempty
      rcases strtol_cases text with hnothing | hrange | ⟨blanks, sign, digits, rest, htext, hblanks,
        hsign, hne, hdigits, hvalue, hfits⟩
      · simp [hnothing] at h
      · simp [hrange] at h
      · rw [hvalue] at h
        generalize hsigned : (if sign = ['-'] then -(Nat.ofDigitChars 10 digits 0 : Int)
          else Nat.ofDigitChars 10 digits 0) = value at h
        dsimp only at h
        by_cases hrest : rest = []
        · by_cases hneg : value < 0
          · simp [hneg] at h
          · have hvalue' : value.toNat = n := by simpa [hrest, hneg, Ne.symm hnonempty] using h
            rw [hrest, List.append_nil] at htext
            by_cases hminus : sign = ['-']
            · rw [if_pos hminus] at hsigned
              have hzero : Nat.ofDigitChars 10 digits 0 = 0 := by omega
              have hn : n = 0 := by omega
              exact ⟨⟨blanks, sign, digits, htext, hblanks, hsign, hne, hdigits,
                hzero.trans hn.symm, fun _ => hn⟩, by omega⟩
            · rw [if_neg hminus] at hsigned
              have hn : Nat.ofDigitChars 10 digits 0 = n := by omega
              exact ⟨⟨blanks, sign, digits, htext, hblanks, hsign, hne, hdigits, hn,
                fun h => absurd h hminus⟩, hn ▸ hfits hminus⟩
        · simp [hrest] at h
  · rintro ⟨⟨blanks, sign, digits, rfl, hblanks, hsign, hne, hdigits, rfl, hminus⟩, hfits⟩
    have hnonempty : blanks ++ (sign ++ digits) ≠ [] := by simp [hne]
    unfold parseWholeNumber
    rw [if_neg hnonempty, strtol_number hblanks hsign hne hdigits hfits]
    dsimp only
    by_cases hsigned : sign = ['-']
    · have hzero := hminus hsigned
      simp [hsigned, hzero]
    · simp [hsigned, hnonempty]

/-! ## Options -/

def modeOption : Text := "--mode".toList
def portOption : Text := "--port".toList
def deviceIdOption : Text := "--deviceID".toList

/-- The loop of `ParsePortArg` and `ParseDeviceIdArg`: the first value after `name` that is
    accepted. -/
def findValue {α : Type} (name : Text) (accept : Text → Option α) : List Text → Option α
  | arg :: value :: rest =>
    if arg = name then
      match accept value with
      | some x => some x
      | none => findValue name accept (value :: rest)
    else findValue name accept (value :: rest)
  | _ => none

def acceptPort (text : Text) : Option Nat :=
  (parseWholeNumber text).filter fun p => 0 < p ∧ p ≤ 65535

def parsePortArg (args : List Text) (defaultPort : Nat) : Nat :=
  (findValue portOption acceptPort args).getD defaultPort

/-- 4194303 is the wildcard. -/
def acceptDeviceId (text : Text) : Option Nat :=
  (parseWholeNumber text).filter fun id => id < 4194303

def parseDeviceIdArg (args : List Text) (defaultDeviceId : Nat) : Nat :=
  (findValue deviceIdOption acceptDeviceId args).getD defaultDeviceId

def readMode (text : Text) : Option GatewayMode :=
  if text = "eo".toList then some .embeddedObjects
  else if text = "vn".toList then some .virtualNetwork
  else none

/-- `ParseModeArg`, with `g_mode` as `mode`: `none` for its error. -/
def parseModeArg (mode : GatewayMode) : List Text → Option GatewayMode
  | [] => some mode
  | arg :: rest =>
    if arg ≠ modeOption then parseModeArg mode rest
    else
      match readMode (rest.headD []) with
      | some mode => parseModeArg mode rest
      | none => none

def helpArgs : List Text := ["--help".toList, "-h".toList, "/?".toList, "--version".toList]

/-- `HandleHelpAndVersionArgs`, less the texts it prints. -/
def handleHelpAndVersionArgs (args : List Text) : Bool := args.any (helpArgs.contains ·)

/-! ## Start-up -/

inductive StartUp where
  /-- `main` has shown its help or version, and returns 0. -/
  | shown
  /-- `main` returns 1. -/
  | refused
  | configured (settings : Settings) (port : Nat)

/-- `main`, up to where it opens its socket. -/
def configure (args : List Text) : StartUp :=
  if handleHelpAndVersionArgs args then .shown
  else
    match parseModeArg .embeddedObjects args with
    | none => .refused
    | some mode =>
      let port := parsePortArg args 47808
      let deviceInstance := parseDeviceIdArg args 389019
      if h : mode = .virtualNetwork →
        findVirtualDevice mode deviceInstance = none then .configured ⟨mode, deviceInstance, h⟩ port
      else .refused

/-! ## What is chosen -/

theorem infix_pair {name value arg : Text} {rest : List Text} :
    [name, value] <:+: arg :: rest ↔ (name = arg ∧ rest.head? = some value) ∨
    [name, value] <:+: rest := by
  rw [List.infix_cons_iff, List.cons_prefix_cons]
  cases rest with
  | nil => simp
  | cons b rest => simp [List.cons_prefix_cons, eq_comm]

/-- Nothing that follows `name` is accepted. -/
theorem findValue_none_iff {α : Type} {name : Text} {accept : Text → Option α} {args : List Text} :
    findValue name accept args = none ↔ ∀ value, [name, value] <:+: args → accept value = none := by
  induction args with
  | nil => simp [findValue]
  | cons arg rest ih =>
    cases rest with
    | nil => simp [findValue, infix_pair]
    | cons value rest =>
      unfold findValue
      by_cases hname : arg = name
      · subst hname
        cases haccept : accept value with
        | some x =>
          simp only [if_true]
          constructor
          · intro h
            cases h
          · intro h
            have hnone := h value (infix_pair.mpr (Or.inl ⟨rfl, rfl⟩))
            rw [haccept] at hnone
            cases hnone
        | none =>
          simp only [if_true]
          rw [ih]
          constructor
          · intro h value' hinfix
            rcases infix_pair.mp hinfix with ⟨-, heq⟩ | hlater
            · obtain rfl := Option.some.inj heq
              exact haccept
            · exact h value' hlater
          · intro h value' hinfix
            exact h value' (infix_pair.mpr (Or.inr hinfix))
      · rw [if_neg hname, ih]
        constructor
        · intro h value' hinfix
          rcases infix_pair.mp hinfix with ⟨heq, -⟩ | hlater
          · exact absurd heq.symm hname
          · exact h value' hlater
        · intro h value' hinfix
          exact h value' (infix_pair.mpr (Or.inr hinfix))

theorem head_before {name value : Text} {rest before after : List Text}
    (h : value :: rest = before ++ name :: after) :
    (before ++ [name]).head? = some value := by
  cases before with
  | nil => simp at h; simp [h.1]
  | cons b before => simp at h; simp [h.1]

/-- The first value after `name` that is accepted. -/
theorem findValue_some_iff {α : Type} {name : Text} {accept : Text → Option α}
    {args : List Text} {x : α} :
    findValue name accept args = some x ↔
      ∃ before value after, args = before ++ name :: value :: after ∧ accept value = some x ∧
        ∀ value', [name, value'] <:+: before ++ [name] → accept value' = none := by
  induction args with
  | nil => simp [findValue]
  | cons arg rest ih =>
    cases rest with
    | nil =>
      simp only [findValue]
      constructor
      · intro h
        cases h
      · rintro ⟨before, value, after, heq, -⟩
        have hlength := congrArg List.length heq
        simp at hlength
        omega
    | cons value rest =>
      have hskip : (arg = name → accept value = none) →
          findValue name accept (arg :: value :: rest) = findValue name accept (value :: rest) := by
        intro h
        rw [findValue]
        by_cases hname : arg = name
        · rw [if_pos hname, h hname]
        · rw [if_neg hname]
      constructor
      · intro h
        by_cases hfirst : arg = name ∧ accept value ≠ none
        · obtain ⟨rfl, haccept⟩ := hfirst
          obtain ⟨y, hy⟩ := Option.ne_none_iff_exists'.mp haccept
          rw [findValue, if_pos rfl, hy] at h
          refine ⟨[], value, rest, rfl, hy.trans h, fun value' hinfix => ?_⟩
          have hlength := hinfix.length_le
          simp at hlength
        · have hnone : arg = name → accept value = none := by
            intro hname
            by_contra hsome
            exact hfirst ⟨hname, hsome⟩
          rw [hskip hnone] at h
          obtain ⟨before, v, after, heq, haccept, hearlier⟩ := ih.mp h
          refine ⟨arg :: before, v, after, by rw [heq, List.cons_append], haccept,
            fun value' hinfix => ?_⟩
          rw [List.cons_append] at hinfix
          rcases infix_pair.mp hinfix with ⟨hname, hhead⟩ | hlater
          · rw [head_before heq] at hhead
            obtain rfl := Option.some.inj hhead
            exact hnone hname.symm
          · exact hearlier value' hlater
      · rintro ⟨before, v, after, heq, haccept, hearlier⟩
        cases before with
        | nil =>
          rw [List.nil_append, List.cons_eq_cons, List.cons_eq_cons] at heq
          obtain ⟨rfl, rfl, rfl⟩ := heq
          rw [findValue, if_pos rfl, haccept]
        | cons b before =>
          rw [List.cons_append, List.cons_eq_cons] at heq
          obtain ⟨rfl, heq⟩ := heq
          rw [hskip]
          · exact ih.mpr ⟨before, v, after, heq, haccept, fun value' hinfix =>
              hearlier value' (infix_pair.mpr (Or.inr hinfix))⟩
          · intro hname
            exact hearlier value (infix_pair.mpr (Or.inl ⟨hname.symm, head_before heq⟩))

/-- The first number after `name` that is `ok`, or the default. -/
def Chosen (name : Text) (ok : Nat → Prop) (default : Nat) (args : List Text) (x : Nat) : Prop :=
  (∃ before value after, args = before ++ name :: value :: after ∧ IsNumber value x ∧ ok x ∧
      ∀ value', [name, value'] <:+: before ++ [name] → ∀ y, IsNumber value' y → ¬ ok y) ∨
    (∀ value, [name, value] <:+: args → ∀ y, IsNumber value y → ¬ ok y) ∧ x = default

theorem filter_none_iff {ok : Nat → Prop} [DecidablePred ok] (value : Text) :
    (parseWholeNumber value).filter (fun y => ok y) = none ↔ ∀ y, IsNumber value y → ¬ ok y := by
  rw [Option.filter_eq_none_iff]
  constructor
  · intro h y hnumber hok
    exact h y ((parseWholeNumber_iff value y).mpr hnumber) (decide_eq_true hok)
  · intro h y hnumber hok
    exact h y ((parseWholeNumber_iff value y).mp hnumber) (of_decide_eq_true hok)

theorem findValue_chosen {ok : Nat → Prop} [DecidablePred ok] (name : Text) (default : Nat)
    (args : List Text) (x : Nat) :
    (findValue name (fun value => (parseWholeNumber value).filter fun y => ok y) args).getD
      default = x ↔ Chosen name ok default args x := by
  unfold Chosen
  cases hfind : findValue name (fun value => (parseWholeNumber value).filter fun y =>
      ok y) args with
  | none =>
    have hnone := findValue_none_iff.mp hfind
    simp only [filter_none_iff] at hnone
    constructor
    · intro h
      exact Or.inr ⟨hnone, h.symm⟩
    · rintro (⟨before, value, after, rfl, hnumber, hok, -⟩ | ⟨-, heq⟩)
      · exact absurd hok (hnone value ⟨before, after, by simp⟩ x hnumber)
      · exact heq.symm
  | some y =>
    obtain ⟨before, value, after, heq, haccept, hearlier⟩ := findValue_some_iff.mp hfind
    simp only [filter_none_iff] at hearlier
    obtain ⟨hparse, hok⟩ := Option.filter_eq_some_iff.mp haccept
    have hnumber := (parseWholeNumber_iff value y).mp hparse
    constructor
    · rintro rfl
      exact Or.inl ⟨before, value, after, heq, hnumber, of_decide_eq_true hok, hearlier⟩
    · rintro (⟨before', value', after', heq', hnumber', hok', hearlier'⟩ | ⟨hnone, -⟩)
      · have hfind' : findValue name (fun value => (parseWholeNumber value).filter fun y =>
            ok y) args = some x := by
          refine findValue_some_iff.mpr ⟨before', value', after', heq', ?_,
            fun v hv => (filter_none_iff v).mpr (hearlier' v hv)⟩
          exact Option.filter_eq_some_iff.mpr ⟨(parseWholeNumber_iff value' x).mpr hnumber',
            decide_eq_true hok'⟩
        exact Option.some.inj (hfind.symm.trans hfind')
      · exact absurd (of_decide_eq_true hok) (hnone value ⟨before, after, by simp [heq]⟩ y hnumber)

theorem forall_split {arg x : Text} {rest : List Text} {P : List Text → Prop} :
    (∀ before after, arg :: rest = before ++ x :: after → P after) ↔
      (arg = x → P rest) ∧ ∀ before after, rest = before ++ x :: after → P after := by
  constructor
  · intro h
    constructor
    · rintro rfl
      exact h [] rest rfl
    · intro before after heq
      exact h (arg :: before) after (by rw [heq, List.cons_append])
  · rintro ⟨hfirst, hlater⟩ before after heq
    cases before with
    | nil =>
      rw [List.nil_append, List.cons_eq_cons] at heq
      exact heq.2 ▸ hfirst heq.1
    | cons b before =>
      rw [List.cons_append, List.cons_eq_cons] at heq
      exact hlater before after heq.2

theorem exists_split {arg x : Text} {rest : List Text} {P : Text → List Text → Prop} :
    (∃ before value after, arg :: rest = before ++ x :: value :: after ∧ P value after) ↔
      (arg = x ∧ ∃ value after, rest = value :: after ∧ P value after) ∨
        ∃ before value after, rest = before ++ x :: value :: after ∧ P value after := by
  constructor
  · rintro ⟨before, value, after, heq, h⟩
    cases before with
    | nil =>
      rw [List.nil_append, List.cons_eq_cons] at heq
      exact Or.inl ⟨heq.1, value, after, heq.2, h⟩
    | cons b before =>
      rw [List.cons_append, List.cons_eq_cons] at heq
      exact Or.inr ⟨before, value, after, heq.2, h⟩
  · rintro (⟨rfl, value, after, rfl, h⟩ | ⟨before, value, after, rfl, h⟩)
    · exact ⟨[], value, after, rfl, h⟩
    · exact ⟨arg :: before, value, after, rfl, h⟩

/-- Every `--mode` is followed by `eo` or `vn`, and the last one is it. -/
def ModeChosen (default : GatewayMode) (args : List Text) (mode : GatewayMode) : Prop :=
  (∀ before after, args = before ++ modeOption :: after →
    (readMode (after.headD [])).isSome = true) ∧
    ((∃ before value after, args = before ++ modeOption :: value :: after ∧
      readMode value = some mode ∧ modeOption ∉ after) ∨
      modeOption ∉ args ∧ mode = default)

theorem parseModeArg_iff (default : GatewayMode) (args : List Text) (mode : GatewayMode) :
    parseModeArg default args = some mode ↔ ModeChosen default args mode := by
  unfold ModeChosen
  induction args generalizing default with
  | nil =>
    constructor
    · intro h
      refine ⟨fun before after heq => ?_, Or.inr ⟨List.not_mem_nil, (Option.some.inj h).symm⟩⟩
      simp at heq
    · rintro ⟨-, ⟨before, value, after, heq, -⟩ | ⟨-, rfl⟩⟩
      · simp at heq
      · rfl
  | cons arg rest ih =>
    rw [forall_split, exists_split]
    by_cases harg : arg = modeOption
    · subst harg
      rw [parseModeArg, if_neg (by simp)]
      cases hmode : readMode (rest.headD []) with
      | none => simp
      | some m =>
        dsimp only
        rw [ih]
        obtain ⟨value, after, rfl⟩ : ∃ value after, rest = value :: after := by
          cases rest with
          | nil => cases hmode
          | cons value after => exact ⟨value, after, rfl⟩
        rw [List.headD_cons] at hmode
        have hvalue : modeOption ≠ value := by
          rintro rfl
          exact absurd hmode (by decide +revert)
        constructor
        · rintro ⟨hvalid, hlater | ⟨hnot, rfl⟩⟩
          · exact ⟨⟨fun _ => rfl, hvalid⟩, Or.inl (Or.inr hlater)⟩
          · exact ⟨⟨fun _ => rfl, hvalid⟩, Or.inl (Or.inl
              ⟨rfl, value, after, rfl, hmode, fun h => hnot (List.mem_cons_of_mem _ h)⟩)⟩
        · rintro ⟨⟨-, hvalid⟩, (⟨-, value', after', heq, hmode', hnot⟩ | hlater) | ⟨hnot, -⟩⟩
          · obtain ⟨rfl, rfl⟩ := List.cons_eq_cons.mp heq
            refine ⟨hvalid, Or.inr ⟨?_, Option.some.inj (hmode'.symm.trans hmode)⟩⟩
            simp [hvalue, hnot]
          · exact ⟨hvalid, Or.inl hlater⟩
          · exact absurd (List.mem_cons_self ..) hnot
    · rw [parseModeArg, if_pos harg, ih]
      simp [harg, Ne.symm harg]

theorem chosen_ok {name : Text} {ok : Nat → Prop} {default x : Nat} {args : List Text}
    (h : Chosen name ok default args x) (hdefault : ok default) : ok x := by
  rcases h with ⟨-, -, -, -, -, hok, -⟩ | ⟨-, rfl⟩
  · exact hok
  · exact hdefault

theorem help_iff (args : List Text) : handleHelpAndVersionArgs args = false ↔
      ∀ arg ∈ args, arg ∉ helpArgs := by
  simp [handleHelpAndVersionArgs]

/-- What `main` runs with. -/
theorem configure_eq_iff (args : List Text) (settings : Settings) (port : Nat) :
    configure args = .configured settings port ↔
      handleHelpAndVersionArgs args = false ∧ parseModeArg .embeddedObjects args =
        some settings.mode ∧
        parsePortArg args 47808 = port ∧ parseDeviceIdArg args 389019 =
          settings.deviceInstance := by
  unfold configure
  cases hhelp : handleHelpAndVersionArgs args with
  | true => simp
  | false =>
    cases hmode : parseModeArg .embeddedObjects args with
    | none => simp
    | some mode =>
      by_cases haccepted : mode = .virtualNetwork →
        findVirtualDevice mode (parseDeviceIdArg args 389019) = none
      · dsimp only
        rw [if_neg Bool.false_ne_true, dif_pos haccepted]
        obtain ⟨mode', deviceInstance, accepted⟩ := settings
        simp only [StartUp.configured.injEq, Settings.mk.injEq, Option.some.injEq, true_and]
        constructor
        · rintro ⟨⟨rfl, rfl⟩, rfl⟩
          exact ⟨rfl, rfl, rfl⟩
        · rintro ⟨rfl, rfl, rfl⟩
          exact ⟨⟨rfl, rfl⟩, rfl⟩
      · dsimp only
        rw [if_neg Bool.false_ne_true, dif_neg haccepted]
        constructor
        · intro h
          cases h
        · rintro ⟨-, hsame, -, hdevice⟩
          obtain rfl := Option.some.inj hsame
          rw [hdevice] at haccepted
          exact absurd settings.accepted haccepted

/-- The gateway starts exactly when no argument asks for help or the version, every `--mode` is
    followed by `eo` or `vn`, and with `vn` the device instance is not a virtual device's. Its
    mode is the last one given, its port and its device instance are the first numbers given
    that are valid, whatever else is on the command line; and then the port is 1 to 65535 and
    the device instance 0 to 4194302. -/
theorem configure_iff (args : List Text) (settings : Settings) (port : Nat) :
    (configure args = .configured settings port ↔
      (∀ arg ∈ args, arg ∉ helpArgs) ∧ ModeChosen .embeddedObjects args settings.mode ∧
        Chosen portOption (fun p => 0 < p ∧ p ≤ 65535) 47808 args port ∧
        Chosen deviceIdOption (· < 4194303) 389019 args settings.deviceInstance) ∧
      (configure args = .configured settings port → (0 < port ∧ port ≤ 65535) ∧
        settings.deviceInstance < 4194303) := by
  have hiff : configure args = .configured settings port ↔
      (∀ arg ∈ args, arg ∉ helpArgs) ∧ ModeChosen .embeddedObjects args settings.mode ∧
        Chosen portOption (fun p => 0 < p ∧ p ≤ 65535) 47808 args port ∧
        Chosen deviceIdOption (· < 4194303) 389019 args settings.deviceInstance := by
    rw [configure_eq_iff, help_iff, parseModeArg_iff, ← findValue_chosen, ← findValue_chosen]
    rfl
  refine ⟨hiff, fun h => ?_⟩
  obtain ⟨-, -, hport, hdevice⟩ := hiff.mp h
  have hport := @chosen_ok portOption (fun p => 0 < p ∧ p ≤ 65535) 47808 port args hport (by decide)
  exact ⟨hport,
    @chosen_ok deviceIdOption (· < 4194303) 389019 settings.deviceInstance args hdevice (by decide)⟩

end BacnetGateway.Program
