/-
  BacnetGateway.Simulation.Steps — what the operations of the simulated bus do.

  `resolve` answers one transaction from the state of its slave (`Transaction.answer`) and,
  if it is a write, does it (`SimulatedSlave.effect`). `service` does that once to each
  entry of the map: `service_entry` says what becomes of an entry, and `service_no_entry`
  that none comes.
-/

import BacnetGateway.Simulation.Bus

namespace BacnetGateway.Simulation

open Seam

/-! ## The map -/

section
variable {β : Type}

theorem getElem?_insert_ite (m : Std.TreeMap Nat β) (k a : Nat) (v : β) :
    (m.insert k v)[a]? = if k = a then some v else m[a]? := by
  rw [Std.TreeMap.getElem?_insert]
  simp only [compare_eq_iff_eq]

theorem getElem?_erase_ite (m : Std.TreeMap Nat β) (k a : Nat) :
    (m.erase k)[a]? = if k = a then none else m[a]? := by
  rw [Std.TreeMap.getElem?_erase]
  simp only [compare_eq_iff_eq]

theorem nodup_keys_toList (m : Std.TreeMap Nat β) : (m.toList.map Prod.fst).Nodup := by
  refine List.pairwise_map.mpr (Std.TreeMap.distinct_keys_toList.imp fun h heq => h ?_)
  rw [heq]
  exact compare_eq_iff_eq.mpr rfl

end

/-! ## One transaction -/

/-- A pending transaction of slave `i` after its turn in the loop. -/
def Transaction.answer (now : Nat) (i : Fin 3) (slave : SimulatedSlave)
    (t : Transaction) : Transaction :=
  if slave.online = true ∧ latencyMilliseconds i ≤ now - t.startedAt then
    if t.isWrite then { t with outcome := .done }
      else { t with value := slave.point t.table, outcome := .done }
  else if RESPONSE_TIMEOUT_MILLISECONDS ≤ now - t.startedAt then { t with outcome := .timeout }
  else t

/-- Slave `i` after a pending transaction's turn. -/
def SimulatedSlave.effect (now : Nat) (i : Fin 3) (t : Transaction)
    (slave : SimulatedSlave) : SimulatedSlave :=
  if slave.online = true ∧ latencyMilliseconds i ≤ now - t.startedAt ∧
    t.isWrite = true then slave.assign t.table t.value
  else slave

variable (now : Nat) {id : Nat} {t : Transaction} {i : Fin 3} {s : Sim}

theorem resolve_entry (hp : t.outcome = .pending) (hi : findSlave t.unitId = some i)
    (hs : s.transactions[id]? = some t) (id' : Nat) :
    (resolve now s (id, t)).transactions[id']? =
      if id = id' then some (t.answer now i (s.slaves i)) else s.transactions[id']? := by
  have hsame : s.transactions[id']? = if id = id' then some t else s.transactions[id']? := by
    split
    · rename_i h
      rw [← h, hs]
    · rfl
  unfold resolve Transaction.answer
  simp only [hp, hi, ne_eq, not_true, if_false]
  by_cases h1 : (s.slaves i).online = true ∧ latencyMilliseconds i ≤ now - t.startedAt
  · rw [if_pos h1, if_pos h1]
    cases t.isWrite <;> exact getElem?_insert_ite ..
  · rw [if_neg h1, if_neg h1]
    by_cases h2 : RESPONSE_TIMEOUT_MILLISECONDS ≤ now - t.startedAt
    · rw [if_pos h2, if_pos h2]
      exact getElem?_insert_ite ..
    · rw [if_neg h2, if_neg h2]
      exact hsame

theorem resolve_slaves (s : Sim) (id : Nat) (hp : t.outcome = .pending)
    (hi : findSlave t.unitId = some i) :
    (resolve now s (id, t)).slaves = Function.update s.slaves i ((s.slaves i).effect now i t) := by
  unfold resolve SimulatedSlave.effect
  simp only [hp, hi, ne_eq, not_true, if_false]
  by_cases h1 : (s.slaves i).online = true ∧ latencyMilliseconds i ≤ now - t.startedAt
  · rw [if_pos h1]
    cases hw : t.isWrite with
    | true => simp [h1]
    | false => simp
  · have h2 : ¬ ((s.slaves i).online = true ∧ latencyMilliseconds i ≤ now - t.startedAt ∧
        t.isWrite = true) :=
      fun h => h1 ⟨h.1, h.2.1⟩
    rw [if_neg h1, if_neg h2, Function.update_eq_self]
    split <;> rfl

theorem resolve_frame (s : Sim) (entry : Nat × Transaction) :
    (resolve now s entry).nextTransactionId = s.nextTransactionId ∧
      (resolve now s entry).nowMilliseconds = s.nowMilliseconds ∧
      (resolve now s entry).lastDriftAt = s.lastDriftAt := by
  unfold resolve
  dsimp only
  repeat' split
  all_goals exact ⟨rfl, rfl, rfl⟩

/-- A transaction's turn touches no other. -/
theorem resolve_other (s : Sim) {e : Nat × Transaction} (h : e.1 ≠ id) :
    (resolve now s e).transactions[id]? = s.transactions[id]? := by
  unfold resolve
  dsimp only
  repeat' split
  all_goals first | rfl | (rw [getElem?_insert_ite, if_neg h])

/-- What was asked stays; a verdict comes only after the least latency, and none is left
    out after the timeout. -/
structure Answered (now : Nat) (t t' : Transaction) : Prop where
  unitId : t'.unitId = t.unitId
  table : t'.table = t.table
  address : t'.address = t.address
  isWrite : t'.isWrite = t.isWrite
  startedAt : t'.startedAt = t.startedAt
  value : t.isWrite = true → t'.value = t.value
  pending : t'.outcome = .pending → now < t.startedAt + RESPONSE_TIMEOUT_MILLISECONDS
  verdict : t'.outcome ≠ .pending → t.startedAt + 20 ≤ now

theorem answer_answered (i : Fin 3) (slave : SimulatedSlave) (hp : t.outcome = .pending) :
    Answered now t (t.answer now i slave) := by
  have hlat := latency_pos i
  unfold Transaction.answer
  by_cases h1 : slave.online = true ∧ latencyMilliseconds i ≤ now - t.startedAt
  · rw [if_pos h1]
    by_cases hw : t.isWrite = true
    · rw [if_pos hw]
      exact ⟨rfl, rfl, rfl, rfl, rfl, fun _ => rfl, fun h => (by cases h), fun _ => (by omega)⟩
    · rw [if_neg hw]
      exact ⟨rfl, rfl, rfl, rfl, rfl, fun h => absurd h hw, fun h => (by cases h),
        fun _ => (by omega)⟩
  · rw [if_neg h1]
    by_cases h2 : RESPONSE_TIMEOUT_MILLISECONDS ≤ now - t.startedAt
    · rw [if_pos h2]
      unfold RESPONSE_TIMEOUT_MILLISECONDS at h2
      exact ⟨rfl, rfl, rfl, rfl, rfl, fun _ => rfl, fun h => (by cases h), fun _ => (by omega)⟩
    · rw [if_neg h2]
      exact ⟨rfl, rfl, rfl, rfl, rfl, fun _ => rfl, fun _ => by omega, fun h => absurd hp h⟩

/-! ## The loop -/

/-- Each of these is a pending entry of a slave. -/
def Entries (s : Sim) (l : List (Nat × Transaction)) : Prop :=
  ∀ e ∈ l, s.transactions[e.1]? = some e.2 ∧ e.2.outcome = .pending ∧
    ∃ i, findSlave e.2.unitId = some i

theorem entries_tail {e : Nat × Transaction} {l : List (Nat × Transaction)} (h : Entries s (e :: l))
    (hnd : ((e :: l).map Prod.fst).Nodup) : Entries (resolve now s e) l := by
  obtain ⟨hs, hp, i, hi⟩ := h e (List.mem_cons_self ..)
  intro e' he'
  obtain ⟨hs', hp', hi'⟩ := h e' (List.mem_cons_of_mem _ he')
  have hne : e.1 ≠ e'.1 := by
    intro heq
    rw [List.map_cons, List.nodup_cons] at hnd
    exact hnd.1 (heq ▸ List.mem_map_of_mem he')
  refine ⟨?_, hp', hi'⟩
  rw [show e = (e.1, e.2) from rfl, resolve_entry now hp hi hs, if_neg hne, hs']

theorem foldl_resolve_other {l : List (Nat × Transaction)} (h : id ∉ l.map Prod.fst) (s : Sim) :
    (l.foldl (resolve now) s).transactions[id]? = s.transactions[id]? := by
  induction l generalizing s with
  | nil => rfl
  | cons e l ih =>
    rw [List.map_cons, List.mem_cons, not_or] at h
    rw [List.foldl_cons, ih h.2, resolve_other now s (Ne.symm h.1)]

/-- The loop answers each of the entries once, from some state of its slave. -/
theorem foldl_resolve_entry {l : List (Nat × Transaction)} (h : Entries s l)
    (hnd : (l.map Prod.fst).Nodup) (ht : (id, t) ∈ l) : ∃ i slave, findSlave t.unitId = some i ∧
      (l.foldl (resolve now) s).transactions[id]? = some (t.answer now i slave) := by
  induction l generalizing s with
  | nil => cases ht
  | cons e l ih =>
    obtain ⟨hs, hp, i, hi⟩ := h e (List.mem_cons_self ..)
    rcases List.mem_cons.mp ht with rfl | ht
    · refine ⟨i, s.slaves i, hi, ?_⟩
      rw [List.foldl_cons, foldl_resolve_other now (List.nodup_cons.mp hnd).1,
        resolve_entry now hp hi hs, if_pos rfl]
    · exact ih (entries_tail now h hnd) (List.nodup_cons.mp hnd).2 ht

theorem foldl_resolve_frame (l : List (Nat × Transaction)) (s : Sim) :
    (l.foldl (resolve now) s).nextTransactionId = s.nextTransactionId ∧
      (l.foldl (resolve now) s).nowMilliseconds = s.nowMilliseconds ∧
      (l.foldl (resolve now) s).lastDriftAt = s.lastDriftAt := by
  induction l generalizing s with
  | nil => exact ⟨rfl, rfl, rfl⟩
  | cons e l ih =>
    obtain ⟨h1, h2, h3⟩ := ih (resolve now s e)
    obtain ⟨g1, g2, g3⟩ := resolve_frame now s e
    exact ⟨h1.trans g1, h2.trans g2, h3.trans g3⟩

/-- Every entry is pending, and of a slave. -/
def AllPending (s : Sim) : Prop :=
  ∀ (id : Nat) (t : Transaction), s.transactions[id]? = some t →
    t.outcome = .pending ∧ ∃ i, findSlave t.unitId = some i

theorem entries_toList (h : AllPending s) :
    Entries (advance now s) (advance now s).transactions.toList := by
  rintro ⟨id, t⟩ he
  have hs : s.transactions[id]? = some t := Std.TreeMap.mem_toList_iff_getElem?_eq_some.mp he
  exact ⟨hs, h id t hs⟩

theorem service_entry (h : AllPending s) (hs : s.transactions[id]? = some t) :
    ∃ i slave, findSlave t.unitId = some i ∧ (service now s).transactions[id]? =
      some (t.answer now i slave) :=
  foldl_resolve_entry now (entries_toList now h) (nodup_keys_toList _)
    (Std.TreeMap.mem_toList_iff_getElem?_eq_some.mpr hs)

theorem service_no_entry (hs : s.transactions[id]? = none) :
    (service now s).transactions[id]? = none := by
  refine (foldl_resolve_other now (fun hid => ?_) _).trans hs
  obtain ⟨⟨id', t⟩, hmem, rfl⟩ := List.mem_map.mp hid
  have := Std.TreeMap.mem_toList_iff_getElem?_eq_some.mp hmem
  rw [show (advance now s).transactions = s.transactions from rfl] at this
  rw [hs] at this
  cases this

theorem service_frame (s : Sim) :
    (service now s).nextTransactionId = s.nextTransactionId ∧
    (service now s).nowMilliseconds = now := by
  obtain ⟨h1, h2, -⟩ := foldl_resolve_frame now (advance now s).transactions.toList (advance now s)
  exact ⟨h1, h2⟩

end BacnetGateway.Simulation
