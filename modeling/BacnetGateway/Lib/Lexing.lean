/-
  BacnetGateway.Lib.Lexing — reading tokens off the front of a list, and finding the bracket that
  closes one.

  `lex` reads one token and gives what is behind it, or fails. `tokens` reads to the end of the
  list; `matching` counts brackets until the one that closes the innermost open one. Both take
  their fuel from the length of the list, which is enough for a `lex` that always takes something
  (`Shrinks`). What is written token by token is read back (`tokens_append`), and a text whose
  brackets are nested is passed over by `matching` as a whole (`matching_nested`).
-/

import Mathlib.Data.List.Basic

namespace BacnetGateway.Lib.Lexing

variable {α τ ε β : Type}

def Shrinks (lex : List α → Except ε (τ × List α)) : Prop :=
  ∀ data token rest, lex data = .ok (token, rest) → rest.length < data.length

/-- The text is one token, whatever is behind it. -/
def Lexes (lex : List α → Except ε (τ × List α)) (text : List α) (token : τ) : Prop :=
  text ≠ [] ∧ ∀ rest, lex (text ++ rest) = .ok (token, rest)

/-! ## To the end -/

def tokensFrom (lex : List α → Except ε (τ × List α)) : Nat → List α → Except ε (List τ)
  | 0, _ => .ok []
  | _ + 1, [] => .ok []
  | fuel + 1, a :: data =>
    match lex (a :: data) with
    | .error e => .error e
    | .ok (token, rest) => (tokensFrom lex fuel rest).map (token :: ·)

def tokens (lex : List α → Except ε (τ × List α)) (data : List α) : Except ε (List τ) :=
  tokensFrom lex data.length data

variable {lex : List α → Except ε (τ × List α)}

theorem tokensFrom_fuel (hshrinks : Shrinks lex) {fuel : Nat} {data : List α}
    (h : data.length ≤ fuel) :
    tokensFrom lex fuel data = tokens lex data := by
  unfold tokens
  generalize hn : data.length = n at h
  induction n using Nat.strongRecOn generalizing fuel data with
  | ind n ih =>
    cases data with
    | nil =>
      subst hn
      cases fuel <;> rfl
    | cons a data =>
      obtain ⟨fuel, rfl⟩ : ∃ k, fuel = k + 1 := ⟨fuel - 1, by simp at hn; omega⟩
      obtain ⟨n, rfl⟩ : ∃ k, n = k + 1 := ⟨n - 1, by simp at hn; omega⟩
      simp only [tokensFrom]
      cases hlex : lex (a :: data) with
      | error e => rfl
      | ok read =>
        obtain ⟨token, rest⟩ := read
        have hlt := hshrinks _ _ _ hlex
        simp only [List.length_cons] at hlt hn
        have hleft := @ih rest.length (by omega) fuel rest rfl (by omega)
        have hright := @ih rest.length (by omega) n rest rfl (by omega)
        dsimp only
        rw [hleft, hright]

theorem tokens_append (hshrinks : Shrinks lex) {text : List α} {token : τ}
    (h : Lexes lex text token) (rest : List α) :
    tokens lex (text ++ rest) = (tokens lex rest).map (token :: ·) := by
  obtain ⟨hne, hlex⟩ := h
  obtain ⟨a, text, rfl⟩ := List.exists_cons_of_ne_nil hne
  have hread := hlex rest
  show tokensFrom lex ((text ++ rest).length + 1) (a :: (text ++ rest)) = _
  rw [List.cons_append] at hread
  simp only [tokensFrom, hread]
  rw [tokensFrom_fuel hshrinks (by simp)]

theorem tokensFrom_cons_ok {fuel : Nat} {a : α} {data : List α} {ts : List τ} :
    tokensFrom lex (fuel + 1) (a :: data) = .ok ts ↔
      ∃ t rest more, lex (a :: data) = .ok (t, rest) ∧ tokensFrom lex fuel rest = .ok more ∧
        ts = t :: more := by
  simp only [tokensFrom]
  cases lex (a :: data) with
  | error e => simp
  | ok read =>
    obtain ⟨t, rest⟩ := read
    cases hmore : tokensFrom lex fuel rest with
    | error e => simp [Except.map, hmore]
    | ok more => simp [Except.map, hmore, eq_comm]

theorem mapM_cons_ok {f : τ → Except ε β} {t : τ} {ts : List τ} {xs : List β} :
    (t :: ts).mapM f = .ok xs ↔ ∃ x more, f t = .ok x ∧ ts.mapM f = .ok more ∧ xs = x :: more := by
  rw [List.mapM_cons]
  cases f t with
  | error e => simp [bind, Except.bind]
  | ok x =>
    cases ts.mapM f with
    | error e => simp [bind, Except.bind]
    | ok more => simp [bind, Except.bind, pure, Except.pure, eq_comm]

theorem tokensFrom_mapM {lex' : List α → Except ε (β × List α)} {f : τ → Except ε β}
    (h : ∀ data, lex' data = lex data >>= fun read => (f read.1).map (·, read.2)) {fuel : Nat}
    {data : List α} {xs : List β} :
    tokensFrom lex' fuel data = .ok xs ↔ ∃ ts, tokensFrom lex fuel data = .ok ts ∧
      ts.mapM f = .ok xs := by
  have hok : ∀ data x rest, lex' data = .ok (x, rest) ↔
      ∃ t, lex data = .ok (t, rest) ∧ f t = .ok x := by
    intro data x rest
    rw [h]
    cases lex data with
    | error e => simp [bind, Except.bind]
    | ok read =>
      obtain ⟨t, rest'⟩ := read
      cases hf : f t <;> simp [bind, Except.bind, Except.map, hf, and_comm]
  induction fuel generalizing data xs with
  | zero => simp [tokensFrom, pure, Except.pure]
  | succ fuel ih =>
    cases data with
    | nil => simp [tokensFrom, pure, Except.pure]
    | cons a data =>
      rw [tokensFrom_cons_ok]
      constructor
      · intro ⟨x, rest, more, hread, hmore, hxs⟩
        obtain ⟨t, hlex, hf⟩ := (hok ..).mp hread
        obtain ⟨ts, hts, hmap⟩ := ih.mp hmore
        exact ⟨t :: ts, tokensFrom_cons_ok.mpr ⟨t, rest, ts, hlex, hts, rfl⟩,
          mapM_cons_ok.mpr ⟨x, more, hf, hmap, hxs⟩⟩
      · intro ⟨ts, hts, hmap⟩
        obtain ⟨t, rest, more, hlex, hmore, rfl⟩ := tokensFrom_cons_ok.mp hts
        obtain ⟨x, tail, hf, htail, hxs⟩ := mapM_cons_ok.mp hmap
        exact ⟨x, rest, tail, (hok ..).mpr ⟨t, hlex, hf⟩, ih.mpr ⟨more, hmore, htail⟩, hxs⟩

/-- Tokens with a meaning each: reading the meanings is reading the tokens and then their
    meanings, as long as none of it fails. -/
theorem tokens_mapM {lex' : List α → Except ε (β × List α)} {f : τ → Except ε β}
    (h : ∀ data, lex' data = lex data >>= fun read => (f read.1).map (·, read.2)) {data : List α}
    {xs : List β} :
    tokens lex' data = .ok xs ↔ ∃ ts, tokens lex data = .ok ts ∧ ts.mapM f = .ok xs :=
      tokensFrom_mapM h

/-! ## Brackets -/

inductive Bracket where
  | opening
  | closing
  | none
  deriving DecidableEq

section
variable (lex) (bracket : τ → Bracket) (past : ε)

/-- From inside `depth + 1` brackets: the text from the closing bracket on, and what is behind
    it. `past` is the failure of reading past the end. -/
def matchingFrom : Nat → Nat → List α → Except ε (List α × List α)
  | 0, _, _ => .error past
  | fuel + 1, depth, data =>
    match lex data with
    | .error e => .error e
    | .ok (token, rest) =>
      match bracket token with
      | .opening => matchingFrom fuel (depth + 1) rest
      | .none => matchingFrom fuel depth rest
      | .closing =>
        match depth with
        | 0 => .ok (data, rest)
        | depth + 1 => matchingFrom fuel depth rest

def matching (data : List α) : Except ε (List α × List α) :=
  matchingFrom lex bracket past (data.length + 1) 0 data

/-- Every bracket in the text is opened before it is closed, and closed. -/
inductive Nested : List α → Prop
  | nil : Nested []
  | token {text more : List α} {token : τ} (htext : Lexes lex text token)
      (hbracket : bracket token = .none) (hmore : Nested more) :
      Nested (text ++ more)
  | group {first inside last more : List α} {token token' : τ} (hfirst : Lexes lex first token)
      (hopening : bracket token = .opening)
      (hinside : Nested inside) (hlast : Lexes lex last token')
        (hclosing : bracket token' = .closing) (hmore : Nested more) :
      Nested (first ++ (inside ++ (last ++ more)))

end

variable {bracket : τ → Bracket} {past : ε}

theorem Lexes.length_pos {text : List α} {token : τ} (h : Lexes lex text token) : 0 < text.length :=
  List.length_pos_of_ne_nil h.1

theorem matchingFrom_fuel (hshrinks : Shrinks lex) {fuel fuel' depth : Nat} {data : List α}
    (h : data.length < fuel) (h' : data.length < fuel') :
    matchingFrom lex bracket past fuel depth data =
      matchingFrom lex bracket past fuel' depth data := by
  induction fuel generalizing fuel' depth data with
  | zero => omega
  | succ fuel ih =>
    obtain ⟨fuel', rfl⟩ : ∃ k, fuel' = k + 1 := ⟨fuel' - 1, by omega⟩
    simp only [matchingFrom]
    cases hlex : lex data with
    | error e => rfl
    | ok read =>
      obtain ⟨token, rest⟩ := read
      have hlt := hshrinks _ _ _ hlex
      dsimp only
      cases bracket token with
      | opening => exact ih (by omega) (by omega)
      | none => exact ih (by omega) (by omega)
      | closing =>
        cases depth with
        | zero => rfl
        | succ depth => exact ih (by omega) (by omega)

theorem matchingFrom_append (hshrinks : Shrinks lex) {text rest : List α} {token : τ}
    (h : Lexes lex text token) {fuel depth : Nat} (hfuel : (text ++ rest).length < fuel) :
    matchingFrom lex bracket past fuel depth (text ++ rest) =
      match bracket token with
      | .opening => matchingFrom lex bracket past fuel (depth + 1) rest
      | .none => matchingFrom lex bracket past fuel depth rest
      | .closing =>
        match depth with
        | 0 => .ok (text ++ rest, rest)
        | depth + 1 => matchingFrom lex bracket past fuel depth rest := by
  obtain ⟨fuel, rfl⟩ : ∃ k, fuel = k + 1 := ⟨fuel - 1, by omega⟩
  have hpos := h.length_pos
  rw [List.length_append] at hfuel
  rw [matchingFrom, h.2 rest]
  dsimp only
  cases bracket token with
  | opening => exact matchingFrom_fuel hshrinks (by omega) (by omega)
  | none => exact matchingFrom_fuel hshrinks (by omega) (by omega)
  | closing =>
    cases depth with
    | zero => rfl
    | succ depth => exact matchingFrom_fuel hshrinks (by omega) (by omega)

/-- Nested text is passed over, at any depth. -/
theorem matchingFrom_nested (hshrinks : Shrinks lex) {text : List α} (h : Nested lex bracket text)
    {fuel depth : Nat} {rest : List α} (hfuel : (text ++ rest).length < fuel) :
    matchingFrom lex bracket past fuel depth (text ++ rest) =
      matchingFrom lex bracket past fuel depth rest := by
  induction h generalizing fuel depth rest with
  | nil => rfl
  | token htext hbracket _ ih =>
    rw [List.append_assoc] at hfuel ⊢
    rw [matchingFrom_append hshrinks htext hfuel, hbracket]
    exact ih (by simp at hfuel ⊢; omega)
  | group hfirst hopening _ hlast hclosing _ ihinside ihmore =>
    simp only [List.append_assoc] at hfuel ⊢
    rw [matchingFrom_append hshrinks hfirst hfuel, hopening]
    dsimp only
    rw [ihinside (by simp at hfuel ⊢; omega),
      matchingFrom_append hshrinks hlast (by simp at hfuel ⊢; omega), hclosing]
    exact ihmore (by simp at hfuel ⊢; omega)

/-- The bracket that closes a nested text is found. -/
theorem matching_nested (hshrinks : Shrinks lex) {text last rest : List α} {token : τ}
    (h : Nested lex bracket text)
    (hlast : Lexes lex last token) (hclosing : bracket token = .closing) :
    matching lex bracket past (text ++ (last ++ rest)) = .ok (last ++ rest, rest) := by
  unfold matching
  have hfuel : (last ++ rest).length < (text ++ (last ++ rest)).length + 1 := by
    simp only [List.length_append]
    omega
  rw [matchingFrom_nested hshrinks h (Nat.lt_succ_self _),
    matchingFrom_append hshrinks hlast hfuel, hclosing]

end BacnetGateway.Lib.Lexing
