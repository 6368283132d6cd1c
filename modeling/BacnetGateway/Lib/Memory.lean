/-
  BacnetGateway.Lib.Memory — C code that reads an array of bytes and builds strings in
  arrays of characters, with every access checked.

  A `Checked` computation stops with a fault where C goes on: at a read past the end of an
  array, a write past the end of a buffer, a 32-bit sum or a size difference that wraps. A
  computation that ends in `ok` has done none of these.

  Bytes are read at an offset (`byteAt`); what such code computes depends only on the bytes
  from there on, so facts about it are stated of `bytes.drop offset` (`byteAt_drop`,
  `length_lt_add`). A buffer is a list of characters of its full size; a string in it ends
  at the first NUL (`strlen`), and `snprintf` writes at most what it is told, NUL included.
  `appendText` keeps a buffer terminated (`appendText_ok`), and shows the text behind what
  the buffer showed, as far as it fits (`appendText_shows`).
-/

import Mathlib.Algebra.Group.Nat.Defs
import Mathlib.Data.List.Basic

namespace BacnetGateway.Lib.Memory

inductive Fault where
  | read
  | write
  | wrap
  deriving DecidableEq

abbrev Checked := Except Fault

variable {α β : Type}

@[simp] theorem ok_bind (a : α) (f : α → Checked β) : (Except.ok a >>= f : Checked β) = f a := rfl

@[simp] theorem pure_ok (a : α) : (pure a : Checked α) = .ok a := rfl

/-! ## Arrays of bytes -/

/-- `bytes[i]`. -/
def byteAt (bytes : List UInt8) (i : Nat) : Checked UInt8 :=
  match bytes[i]? with
  | some b => .ok b
  | none => .error .read

/-- `a + b` of `uint32_t`. -/
def add32 (a b : Nat) : Checked Nat := if a + b < 2 ^ 32 then .ok (a + b) else .error .wrap

theorem add32_ok {a b : Nat} (h : a + b < 2 ^ 32) : add32 a b = .ok (a + b) := if_pos h

section
variable {bytes rest : List UInt8} {offset : Nat}

theorem byteAt_drop (h : bytes.drop offset = rest) (k : Nat) :
    byteAt bytes (offset + k) = byteAt rest k := by
  unfold byteAt
  rw [← h, List.getElem?_drop]

theorem byteAt_here (h : bytes.drop offset = rest) :
    byteAt bytes offset = byteAt rest 0 := byteAt_drop h 0

@[simp] theorem byteAt_cons_zero (b : UInt8) (bytes : List UInt8) : byteAt (b :: bytes) 0 = .ok b :=
  rfl

@[simp] theorem byteAt_cons_succ (b : UInt8) (bytes : List UInt8) (i : Nat) :
    byteAt (b :: bytes) (i + 1) = byteAt bytes i := rfl

theorem length_le_add (h : bytes.drop offset = rest) (k : Nat) :
    bytes.length ≤ offset + k ↔ rest.length ≤ k := by
  rw [← h, List.length_drop]
  omega

theorem length_le_here (h : bytes.drop offset = rest) :
    bytes.length ≤ offset ↔ rest.length = 0 := by
  rw [← h, List.length_drop]
  omega

theorem length_lt_add (h : bytes.drop offset = rest) {k : Nat} (hk : 0 < k) :
    bytes.length < offset + k ↔ rest.length < k := by
  rw [← h, List.length_drop]
  omega

theorem add_le_length (h : bytes.drop offset = rest) {k : Nat} (hk : 0 < k) :
    offset + k ≤ bytes.length ↔ k ≤ rest.length := by
  rw [← h, List.length_drop]
  omega

theorem drop_add (h : bytes.drop offset = rest) (k : Nat) :
    bytes.drop (offset + k) = rest.drop k := by
  rw [← h, List.drop_drop]

end

/-! ## Buffers of characters -/

def NUL : Char := Char.ofNat 0

/-- The length of the string in the buffer. -/
def strlen (buf : List Char) : Checked Nat :=
  if NUL ∈ buf then .ok (buf.idxOf NUL) else .error .read

/-- `a - b` of `size_t`. -/
def subSize (a b : Nat) : Checked Nat := if b ≤ a then .ok (a - b) else .error .wrap

/-- `buf[i] = c`. -/
def putChar (buf : List Char) (i : Nat) (c : Char) : Checked (List Char) :=
  if i < buf.length then .ok (buf.set i c) else .error .write

/-- `snprintf(buf + used, size, ...)` of a text: the buffer after it, and the value returned. -/
def snprintf (buf : List Char) (used size : Nat) (text : List Char) : Checked (List Char × Nat) :=
  if size = 0 then .ok (buf, text.length)
  else
    let written := text.take (size - 1) ++ [NUL]
    if used + written.length ≤ buf.length then
      .ok (buf.take used ++ written ++ buf.drop (used + written.length), text.length)
    else .error .write

/-- The buffer holds a string, and has size `n`. -/
structure Terminated (n : Nat) (buf : List Char) : Prop where
  length : buf.length = n
  nul : NUL ∈ buf

/-- The string in the buffer, as `%s` prints it. -/
def readText (buf : List Char) : Checked (List Char) := do
  return buf.take (← strlen buf)

theorem readText_ok {n : Nat} {buf : List Char} (h : Terminated n buf) :
    ∃ text, readText buf = .ok text :=
  ⟨_, show readText buf = .ok (buf.take (buf.idxOf NUL)) by
    unfold readText strlen; rw [if_pos h.nul]; rfl⟩

/-- The empty string. -/
theorem putChar_ok {n : Nat} {buf : List Char} (hbuf : buf.length = n) (hn : 0 < n) :
    ∃ buf', putChar buf 0 NUL = .ok buf' ∧ Terminated n buf' := by
  subst hbuf
  exact ⟨_, if_pos hn, List.length_set, List.mem_set hn NUL⟩

theorem strlen_ok {n : Nat} {buf : List Char} (h : Terminated n buf) :
    ∃ used, strlen buf = .ok used ∧ used < n :=
  ⟨_, if_pos h.nul, h.length ▸ List.idxOf_lt_length_of_mem h.nul⟩

theorem subSize_ok {a b : Nat} (h : b ≤ a) : subSize a b = .ok (a - b) := if_pos h

/-- A write told no more than what is left of the buffer stays in it and ends in a NUL. -/
theorem snprintf_ok {n used : Nat} {buf : List Char} (hbuf : buf.length = n) (hused : used < n)
    (text : List Char) :
    ∃ buf', snprintf buf used (n - used) text = .ok (buf', text.length) ∧ Terminated n buf' := by
  subst hbuf
  have hfits : used + (text.take (buf.length - used - 1) ++ [NUL]).length ≤ buf.length := by
    rw [List.length_append, List.length_take, List.length_singleton]
    omega
  refine ⟨_, (if_neg (by omega)).trans (if_pos hfits), ?_, by simp⟩
  rw [List.length_append, List.length_append, List.length_take, List.length_drop]
  omega

/-- `snprintf` at the end of the string in the buffer, told what is left of it. -/
def appendText (buf : List Char) (text : List Char) : Checked (List Char) := do
  let used ← strlen buf
  let size ← subSize buf.length used
  return (← snprintf buf used size text).1

theorem appendText_ok {n : Nat} {buf : List Char} (h : Terminated n buf) (text : List Char) :
    ∃ buf', appendText buf text = .ok buf' ∧ Terminated n buf' := by
  obtain ⟨used, hstrlen, hused⟩ := strlen_ok h
  obtain ⟨buf', hwrite, hterminated⟩ := snprintf_ok h.length hused text
  refine ⟨buf', ?_, hterminated⟩
  unfold appendText
  rw [hstrlen, ok_bind, h.length, subSize_ok (Nat.le_of_lt hused), ok_bind, hwrite]
  rfl

/-- `snprintf(buf, sizeof(buf), ...)`. -/
def printText (buf : List Char) (text : List Char) : Checked (List Char) := do
  return (← snprintf buf 0 buf.length text).1

theorem printText_ok {n : Nat} {buf : List Char} (hbuf : buf.length = n) (hn : 0 < n)
    (text : List Char) :
    ∃ buf', printText buf text = .ok buf' ∧ Terminated n buf' := by
  obtain ⟨buf', hwrite, hterminated⟩ := snprintf_ok hbuf hn text
  refine ⟨buf', ?_, hterminated⟩
  unfold printText
  rw [hbuf, show snprintf buf 0 n text = _ from hwrite]
  rfl

/-! ## Texts that a buffer can show -/

/-- At most `length` characters, and no NUL. -/
structure Plain (length : Nat) (text : List Char) : Prop where
  clean : NUL ∉ text
  short : text.length ≤ length

instance decidablePlain (length : Nat) (text : List Char) : Decidable (Plain length text) :=
  decidable_of_iff (NUL ∉ text ∧ text.length ≤ length) ⟨fun h => ⟨h.1, h.2⟩,
    fun h => ⟨h.clean, h.short⟩⟩

theorem Plain.mono {m n : Nat} {text : List Char} (h : Plain m text) (hle : m ≤ n) : Plain n text :=
  ⟨h.clean, Nat.le_trans h.short hle⟩

theorem Plain.append {m n : Nat} {text more : List Char} (h : Plain m text) (hmore : Plain n more) :
    Plain (m + n) (text ++ more) := by
  constructor
  · rw [List.mem_append]
    exact fun hin => hin.elim h.clean hmore.clean
  · rw [List.length_append]
    exact Nat.add_le_add h.short hmore.short

/-- A string is plain if its octets are, and they are quick to look through. -/
def plainOctets (length : Nat) (text : String) : Bool :=
  text.toByteArray.data.toList.all (· != 0) && decide (text.toByteArray.data.toList.length ≤ length)

theorem plain_of_octets {length : Nat} {text : String} (h : plainOctets length text = true) :
    Plain length text.toList := by
  have hbytes : text.toByteArray.data.toList = text.toList.flatMap String.utf8EncodeChar := by
    rw [← String.utf8Encode_toList]
    simp [List.utf8Encode]
  obtain ⟨hclean, hlength⟩ := Bool.and_eq_true_iff.mp h
  rw [hbytes] at hclean hlength
  constructor
  · intro hin
    have hzero : (0 : UInt8) ∈ text.toList.flatMap String.utf8EncodeChar :=
      List.mem_flatMap.mpr ⟨NUL, hin, by decide⟩
    exact absurd (List.all_eq_true.mp hclean 0 hzero) (by decide)
  · refine Nat.le_trans ?_ (of_decide_eq_true hlength)
    generalize text.toList = chars
    induction chars with
    | nil => exact Nat.le_refl _
    | cons c chars ih =>
      have := c.utf8Size_pos
      rw [List.flatMap_cons, List.length_append, String.length_utf8EncodeChar, List.length_cons]
      omega

/-! ## What a buffer shows -/

/-- The buffer holds a string: as much of the text as fits in its size `n`. -/
structure Shows (n : Nat) (text buf : List Char) : Prop where
  terminated : Terminated n buf
  read : readText buf = .ok (text.take (n - 1))

section
variable {n used : Nat} {text shown buf : List Char}

theorem Shows.strlen (h : Shows n text buf) (hn : 0 < n) :
    strlen buf = .ok (min (n - 1) text.length) := by
  obtain ⟨used, hstrlen, hused⟩ := strlen_ok h.terminated
  have hread := h.read
  unfold readText at hread
  rw [hstrlen, ok_bind] at hread
  have htaken : buf.take used = text.take (n - 1) := Except.ok.inj hread
  have hlength := congrArg List.length htaken
  rw [List.length_take, List.length_take, h.terminated.length] at hlength
  rw [hstrlen, show used = min (n - 1) text.length by omega]

/-- A string that fits in what is left of the buffer is read back up to the NUL behind it. -/
theorem readText_snprintf {rest : List Char} (hshown : NUL ∉ shown) (htext : NUL ∉ text) :
    readText (shown ++ (text ++ [NUL]) ++ rest) = .ok (shown ++ text) := by
  have hnone : NUL ∉ shown ++ text := by
    rw [List.mem_append]
    exact fun h => h.elim hshown htext
  unfold readText Memory.strlen
  rw [← List.append_assoc, List.append_assoc, if_pos (by simp), ok_bind,
    List.idxOf_append_of_notMem hnone]
  exact congrArg Except.ok (List.take_left' (by simp))

/-- What is appended to what the buffer shows is shown behind it, as far as it fits. -/
theorem snprintf_shows (h : Shows n shown buf) (hn : 0 < n) (hshown : NUL ∉ shown)
    (htext : NUL ∉ text) :
    ∃ buf', snprintf buf (min (n - 1) shown.length) (n - min (n - 1) shown.length) text =
      .ok (buf', text.length) ∧
      Shows n (shown ++ text) buf' := by
  have hused : min (n - 1) shown.length < n := by omega
  have hlength := h.terminated.length
  have htake : buf.take (min (n - 1) shown.length) = shown.take (n - 1) := by
    have hread := h.read
    unfold readText at hread
    rw [h.strlen hn, ok_bind] at hread
    exact Except.ok.inj hread
  have hroom : n - min (n - 1) shown.length - 1 = n - 1 - shown.length := by omega
  obtain ⟨buf', hwrite, hterminated⟩ := snprintf_ok hlength hused text
  refine ⟨buf', hwrite, hterminated, ?_⟩
  have hfits : min (n - 1) shown.length +
      (text.take (n - min (n - 1) shown.length - 1) ++ [NUL]).length ≤ buf.length := by
    rw [List.length_append, List.length_take, List.length_singleton]
    omega
  unfold snprintf at hwrite
  rw [if_neg (by omega), if_pos hfits, htake, hroom] at hwrite
  rw [← (Prod.mk.inj (Except.ok.inj hwrite)).1, readText_snprintf, List.take_append]
  · exact fun hin => hshown (List.mem_of_mem_take hin)
  · exact fun hin => htext (List.mem_of_mem_take hin)

theorem appendText_shows (h : Shows n shown buf) (hn : 0 < n) (hshown : NUL ∉ shown)
    (htext : NUL ∉ text) :
    ∃ buf', appendText buf text = .ok buf' ∧ Shows n (shown ++ text) buf' := by
  obtain ⟨buf', hwrite, hshows⟩ := snprintf_shows h hn hshown htext
  refine ⟨buf', ?_, hshows⟩
  unfold appendText
  rw [h.strlen hn, ok_bind, h.terminated.length, subSize_ok (by omega), ok_bind, hwrite]
  rfl

theorem printText_shows (hbuf : buf.length = n) (hn : 0 < n) (htext : NUL ∉ text) :
    ∃ buf', printText buf text = .ok buf' ∧ Shows n text buf' := by
  subst hbuf
  have hfits : 0 + (text.take (buf.length - 1) ++ [NUL]).length ≤ buf.length := by
    rw [List.length_append, List.length_take, List.length_singleton]
    omega
  obtain ⟨buf', hwrite, hterminated⟩ := printText_ok rfl hn text
  refine ⟨buf', hwrite, hterminated, ?_⟩
  unfold printText snprintf at hwrite
  rw [if_neg (by omega), if_pos hfits] at hwrite
  rw [← Except.ok.inj hwrite, List.take_zero, readText_snprintf (by simp) fun hin =>
    htext (List.mem_of_mem_take hin)]
  rfl

/-- The string in the buffer is the text, or where that does not fit, a part of it from its
    beginning. -/
def Holds (n : Nat) (text buf : List Char) : Prop :=
  Terminated n buf ∧ ∃ shown, readText buf = .ok shown ∧ shown <+: text ∧
    (text.length < n → shown = text)

theorem Shows.holds_append (h : Shows n shown buf)
    (hfull : shown.length + text.length < n → text = []) :
    Holds n (shown ++ text) buf := by
  refine ⟨h.terminated, _, h.read, (List.take_prefix ..).trans (List.prefix_append ..),
    fun hfits => ?_⟩
  rw [List.length_append] at hfits
  rw [hfull hfits, List.append_nil]
  exact List.take_of_length_le (by omega)

theorem Shows.holds (h : Shows n shown buf) : Holds n shown buf := by
  rw [← List.append_nil shown]
  exact h.holds_append fun _ => rfl

end

end BacnetGateway.Lib.Memory
