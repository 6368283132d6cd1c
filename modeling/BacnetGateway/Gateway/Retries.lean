/-
  BacnetGateway.Gateway.Retries — how soon a failed write is tried again, over every
  driver.

  A write fails in two ways: `StartWrite` returns 0, or the transaction is reported
  Timeout. After a timeout `retryAt` keeps the output quiet for a poll period, whatever
  commands, polls and declarations come in between (`move_backs`). A refused `StartWrite`
  sets nothing: the next pass that finds the write due tries again. So the writes of an
  output come a poll period after its timeouts, and a poll period after all its failures if
  and only if no call of `ServiceWriteThrough` finds a write due within a poll period of a
  refused one (`retries_spaced_iff`); a port that cannot be opened has every pass hammer it
  (`refused_write_hammers`).
-/

import BacnetGateway.Gateway.Confirmed

namespace BacnetGateway.Gateway

open Seam

variable {σ ε : Type} (D : Driver σ ε) (settings : Settings)

/-! ## Failures -/

/-- When `StartWrite` of the output returned 0. -/
def refusals (i : SlaveIndex) (k : Output) (log : List Act) : List Nat :=
  log.filterMap fun
    | .startWrite j l now _ _ 0 => if j = i ∧ l = k then some now else none
    | _ => none

/-- When a write of the output was reported Timeout. -/
def timeouts (i : SlaveIndex) (k : Output) (log : List Act) : List Nat :=
  log.filterMap fun
    | .checkWrite j l now _ .timeout => if j = i ∧ l = k then some now else none
    | _ => none

/-- A write of the output is started at least a poll period after every failure before it. -/
def Spaced (failures : List Act → List Nat) (i : SlaveIndex) (k : Output) : Act → List Act → Prop
  | .startWrite j l now _ _ _, older => j = i → l = k →
      ∀ t ∈ failures older, t + pollPeriodMilliseconds i ≤ now
  | _, _ => True

instance decidableSpaced (failures : List Act → List Nat) (i : SlaveIndex) (k : Output) :
    ∀ a older, Decidable (Spaced failures i k a older)
  | .startWrite .., _ => inferInstanceAs (Decidable (_ → _ → ∀ t ∈ _, _))
  | .startRead .., _ | .checkRead .., _ | .checkWrite .., _ | .setServiceEnabled .., _ | .sendIAm _,
      _ => .isTrue trivial

/-- `StartWrite` of the output returned 0 less than a poll period ago. -/
def RefusedWithin (i : SlaveIndex) (k : Output) (now : Nat) (log : List Act) : Prop :=
  ∃ t ∈ refusals i k log, now < t + pollPeriodMilliseconds i

variable {i : SlaveIndex} {k : Output} {log : List Act}

theorem mem_refusals {t : Nat} : t ∈ refusals i k log ↔
      ∃ value word, .startWrite i k t value word 0 ∈ log := by
  unfold refusals
  rw [List.mem_filterMap]
  constructor
  · rintro ⟨act, hact, ht⟩
    split at ht
    · split at ht
      · rename_i h
        obtain ⟨rfl, rfl⟩ := h
        cases ht
        exact ⟨_, _, hact⟩
      · cases ht
    · cases ht
  · rintro ⟨value, word, hmem⟩
    exact ⟨_, hmem, if_pos ⟨rfl, rfl⟩⟩

theorem mem_timeouts {t : Nat} : t ∈ timeouts i k log ↔
      ∃ id, .checkWrite i k t id .timeout ∈ log := by
  unfold timeouts
  rw [List.mem_filterMap]
  constructor
  · rintro ⟨act, hact, ht⟩
    split at ht
    · split at ht
      · rename_i h
        obtain ⟨rfl, rfl⟩ := h
        cases ht
        exact ⟨_, hact⟩
      · cases ht
    · cases ht
  · rintro ⟨id, hmem⟩
    exact ⟨_, hmem, if_pos ⟨rfl, rfl⟩⟩

theorem refusals_own {t : Nat} : t ∈ refusals i k (own i log) ↔ t ∈ refusals i k log := by
  simp [mem_refusals, own]

theorem timeouts_own {t : Nat} : t ∈ timeouts i k (own i log) ↔ t ∈ timeouts i k log := by
  simp [mem_timeouts, own]

/-- Only the slave's own calls count. -/
theorem spaced_own {failures : List Act → List Nat}
    (hfailures : ∀ log t, t ∈ failures (own i log) ↔ t ∈ failures log) :
    Lib.Each (Spaced failures i k) (own i log) ↔ Lib.Each (Spaced failures i k) log := by
  induction log with
  | nil => exact Iff.rfl
  | cons act log ih =>
    rw [own_cons]
    by_cases hi : act.slave = i
    · rw [if_pos hi]
      refine and_congr ?_ ih
      cases act with
      | startWrite j l now value word id => simp only [Spaced, hfailures]
      | _ => exact Iff.rfl
    · rw [if_neg hi, ih]
      refine (and_iff_right ?_).symm
      cases act with
      | startWrite j l now value word id => exact fun hj => absurd hj hi
      | _ => trivial

/-! ## The clock in the log -/

def Act.time : Act → Option Nat
  | .startRead _ now _ | .startWrite _ _ now _ _ _ | .checkRead _ now _ _ _ | .checkWrite _ _ now
      _ _ => some now
  | .setServiceEnabled .. | .sendIAm _ => none

def Call.time : Call → Nat
  | .service now | .poll _ now | .writeThrough _ _ now => now

/-- `b` was not made after `a`. -/
def NotAfter (a b : Act) : Prop := ∀ t ∈ a.time, ∀ t' ∈ b.time, t' ≤ t

theorem polls_time {a : Act} {now : Nat} (h : a.polls i now) : ∀ t ∈ a.time, t = now := by
  cases a <;> simp_all [Act.polls, Act.time]

theorem writesThrough_time {a : Act} {now : Nat} (h : a.writesThrough i k now) :
    ∀ t ∈ a.time, t = now := by
  cases a <;> simp_all [Act.writesThrough, Act.time]

theorem exec_times (c : Call) (s : Sys σ) :
    ∃ acts, (exec D settings s c).log = acts ++ s.log ∧ ∀ a ∈ acts, ∀ t ∈ a.time, t = c.time := by
  cases c with
  | service now => exact ⟨[], rfl, by simp⟩
  | poll i now => exact (poll_log D settings i now s).imp fun _ h =>
    ⟨h.1, fun a ha => polls_time (h.2 a ha)⟩
  | writeThrough i k now => exact (writeThrough_log D i k now s).imp fun _ h =>
    ⟨h.1, fun a ha => writesThrough_time (h.2 a ha)⟩

/-- The call `m` is not made after the call `m'`. -/
def Micro.NotAfter (m m' : Micro ε) : Prop := ∀ c c', m = .call c → m' = .call c' → c.time ≤ c'.time

theorem passCalls_time {now : Nat} {c : Call} (h : c ∈ passCalls now) : c.time = now := by
  rcases List.mem_cons.mp h with rfl | h
  · rfl
  · obtain ⟨j, -, h⟩ := List.mem_flatMap.mp h
    simp only [slaveCalls, List.mem_cons, List.not_mem_nil, or_false] at h
    rcases h with rfl | rfl | rfl <;> rfl

theorem micro_time {e : Event ε} {c : Call} (h : .call c ∈ e.micro) : e = .pass c.time := by
  cases e with
  | set call => simp [Event.micro] at h
  | outside e => simp [Event.micro] at h
  | pass now =>
    obtain ⟨c', hc', heq⟩ := List.mem_map.mp h
    cases heq
    rw [passCalls_time hc']

theorem micro_ordered {evs : List (Event ε)} (h : Nondecreasing evs) :
    (micro evs).Pairwise Micro.NotAfter := by
  unfold Nondecreasing passTimes at h
  rw [List.pairwise_filterMap] at h
  refine List.pairwise_flatMap.mpr ⟨fun e _ => ?_,
    h.imp fun {e e'} hle m hm m' hm' c c' hc hc' => ?_⟩
  · refine List.pairwise_iff_getElem.mpr fun a b ha hb _ c c' hc hc' => ?_
    have hsame :=
      (micro_time (hc ▸ List.getElem_mem ha)).symm.trans (micro_time (hc' ▸ List.getElem_mem hb))
    exact Nat.le_of_eq (Event.pass.inj hsame)
  · subst hc hc'
    rw [micro_time hm, micro_time hm'] at hle
    exact hle _ rfl _ rfl

/-- In the log of a run whose clock never runs backwards no call is made after a later one. -/
theorem microRun_dated {ms : List (Micro ε)} (h : ms.Pairwise Micro.NotAfter) (bus : σ) :
    let log := (microRun D settings (start bus) ms).log
    log.Pairwise NotAfter ∧ ∀ a ∈ log, ∀ t ∈ a.time, ∃ c, .call c ∈ ms ∧ t = c.time := by
  induction ms using List.reverseRecOn with
  | nil => exact ⟨.nil, by simp [microRun, start]⟩
  | append_singleton ms m ih =>
    obtain ⟨hms, -, hlast⟩ := List.pairwise_append.mp h
    obtain ⟨ih1, ih2⟩ := ih hms
    have earlier : ∀ a ∈ (microRun D settings (start bus) ms).log, ∀ t ∈ a.time, ∃ c,
        .call c ∈ ms ++ [m] ∧ t = c.time :=
      fun a ha t ht => (ih2 a ha t ht).imp fun _ hc => ⟨List.mem_append_left _ hc.1, hc.2⟩
    rw [microRun_concat]
    cases m with
    | set call => exact ⟨ih1, earlier⟩
    | outside e => exact ⟨ih1, earlier⟩
    | call c =>
      obtain ⟨acts, hlog, hacts⟩ := exec_times D settings c (microRun D settings (start bus) ms)
      rw [microStep, hlog]
      refine ⟨List.pairwise_append.mpr ⟨?_, ih1, fun a ha b hb t ht t' ht' => ?_⟩,
        fun a ha t ht => ?_⟩
      · refine List.Pairwise.imp_of_mem (R := fun _ _ => True)
          (fun {a b} ha hb _ t ht t' ht' => ?_) (List.pairwise_of_forall fun _ _ => trivial)
        exact Nat.le_of_eq ((hacts b hb t' ht').trans (hacts a ha t ht).symm)
      · obtain ⟨c', hc', rfl⟩ := ih2 b hb t' ht'
        rw [hacts a ha t ht]
        exact hlast _ hc' _ (List.mem_singleton_self _) c' c rfl rfl
      · rcases List.mem_append.mp ha with ha | ha
        · exact ⟨c, by simp, hacts a ha t ht⟩
        · exact earlier a ha t ht

/-! ## A timeout is not followed by a write for a poll period -/

structure Backs (i : SlaveIndex) (k : Output) (a : One) : Prop where
  retry : ∀ t ∈ timeouts i k a.log, t + pollPeriodMilliseconds i ≤ (a.slave.link k).retryAt
  each : Lib.Each (Spaced (timeouts i k) i k) a.log

variable {a b : One}

theorem Backs.enter (h : Backs i k a) {slave : GatewayedSlave} {act : Act}
    (hretry : (slave.link k).retryAt = (a.slave.link k).retryAt)
    (htimeouts : timeouts i k (act :: a.log) = timeouts i k a.log)
    (hact : Spaced (timeouts i k) i k act a.log) : Backs i k ⟨slave, act :: a.log⟩ where
  retry := fun t ht => by
    rw [htimeouts] at ht
    exact hretry ▸ h.retry t ht
  each := ⟨hact, h.each⟩

theorem Backs.stack (h : Backs i k a) {calls : List Act}
    (hcalls : ∀ act ∈ calls, act.onBus = false) :
    Backs i k ⟨a.slave, calls ++ a.log⟩ where
  retry := fun t ht => by
    obtain ⟨id, ht⟩ := mem_timeouts.mp ht
    rcases List.mem_append.mp ht with ht | ht
    · cases hcalls _ ht
    · exact h.retry t (mem_timeouts.mpr ⟨id, ht⟩)
  each := by
    refine Lib.each_append.mpr ⟨Lib.each_of_forall fun act hact older => ?_, h.each⟩
    have := hcalls act hact
    cases act <;> trivial

theorem move_backs {mode : GatewayMode} (hm : Move mode i a b) (hdated : b.log.Pairwise NotAfter)
    (h : Backs i k a) :
    Backs i k b := by
  cases hm with
  | startRead now id _ _ => exact h.enter (by cases k <;> rfl) rfl trivial
  | pollPending now v _ => exact h.enter rfl rfl trivial
  | pollDone now v _ =>
    have hcheck : Backs i k ⟨pollAnswered a.slave v,
        .checkRead i now a.slave.pollTransactionId .done v :: a.log⟩ :=
      h.enter (by cases k <;> rfl) rfl trivial
    exact hcheck.stack doneCalls_offBus
  | pollTimeout now v _ =>
    have hretry : ((afterTimeout a.slave).link k).retryAt = (a.slave.link k).retryAt := by
      unfold afterTimeout
      split <;> cases k <;> rfl
    have hcheck : Backs i k ⟨afterTimeout a.slave,
        .checkRead i now a.slave.pollTransactionId .timeout v :: a.log⟩ :=
      h.enter hretry rfl trivial
    exact hcheck.stack timeoutCalls_offBus
  | writePending l now _ => exact h.enter rfl rfl trivial
  | writeDone l now _ =>
    refine h.enter ?_ rfl trivial
    by_cases hl : l = k
    · subst hl
      rw [setLink_link]
      rfl
    · rw [setLink_link_ne _ _ (Ne.symm hl)]
  | writeTimeout l now _ =>
    by_cases hl : l = k
    · subst hl
      refine ⟨fun t ht => ?_, trivial, h.each⟩
      rw [setLink_link]
      show t + _ ≤ now + _
      obtain ⟨id, ht⟩ := mem_timeouts.mp ht
      rcases List.mem_cons.mp ht with ht | ht
      · cases ht
        exact Nat.le_refl _
      · exact Nat.add_le_add_right ((List.pairwise_cons.mp hdated).1 _ ht now rfl t rfl) _
    · refine h.enter ?_ ?_ trivial
      · rw [setLink_link_ne _ _ (Ne.symm hl)]
      · exact List.filterMap_cons_none (if_neg fun hlk => hl hlk.2)
  | startWrite l now id _ hdue =>
    refine h.enter ?_ rfl ?_
    · by_cases hl : l = k
      · subst hl
        rw [setLink_link]
        rfl
      · rw [setLink_link_ne _ _ (Ne.symm hl)]
    · rintro - rfl t ht
      exact (h.retry t ht).trans hdue.2.1
  | command c _ =>
    refine ⟨fun t ht => ?_, h.each⟩
    rw [setCommand_link]
    exact h.retry t ht

theorem move_log {mode : GatewayMode} (hm : Move mode i a b) : a.log <:+ b.log := by
  cases hm with
  | pollDone | pollTimeout => exact (List.suffix_cons ..).trans (List.suffix_append ..)
  | command => exact List.suffix_refl _
  | _ => exact List.suffix_cons ..

theorem micro_backs {ms : List (Micro ε)} (h : ms.Pairwise Micro.NotAfter) (bus : σ)
    (i : SlaveIndex) (k : Output) :
    Backs i k ((microRun D settings (start bus) ms).one i) := by
  refine micro_invariant (P := fun a => a.log.Pairwise NotAfter → Backs i k a) D settings
    (fun _ => ⟨by simp [timeouts], trivial⟩)
    (fun a b hm ha hb => move_backs hm hb (ha (hb.sublist (move_log hm).sublist))) bus ms ?_
  exact (microRun_dated D settings h bus).1.filter _

/-! ## A refused write may be -/

/-- The write in flight is the last one started. -/
theorem lastStart_split {value : ℚ} {id : Nat} (h : lastStart k log = some (value, id)) :
    ∃ newer j t word older, log = newer ++ .startWrite j k t value word id :: older ∧
      ∀ j t u w id', .startWrite j k t u w id' ∉ newer := by
  induction log with
  | nil => cases h
  | cons act log ih =>
    have later (hrest : lastStart k log = some (value, id))
        (hact : ∀ j t u w id', act ≠ .startWrite j k t u w id') :
        ∃ newer j t word older, act :: log = newer ++ .startWrite j k t value word id :: older ∧
          ∀ j t u w id', .startWrite j k t u w id' ∉ newer := by
      obtain ⟨newer, j, t, word, older, rfl, hnewer⟩ := ih hrest
      refine ⟨act :: newer, j, t, word, older, rfl, fun j t u w id' hmem => ?_⟩
      rcases List.mem_cons.mp hmem with heq | hmem
      · exact hact j t u w id' heq.symm
      · exact hnewer j t u w id' hmem
    cases act with
    | startWrite j l t value' word id' =>
      by_cases hl : l = k
      · subst hl
        rw [lastStart, if_pos rfl] at h
        cases h
        exact ⟨[], j, t, word, log, rfl, by simp⟩
      · rw [lastStart, if_neg hl] at h
        exact later h fun j' t' u w id'' heq => hl (by cases heq; rfl)
    | _ => exact later h fun _ _ _ _ _ => by simp

/-- While a write is in flight no refused one is recent: it was itself started a poll
    period after them. -/
theorem flight_spaced {ms : List (Micro ε)} (h : ms.Pairwise Micro.NotAfter) (bus : σ) {now : Nat}
    (hnow : ∀ c, .call c ∈ ms → c.time ≤ now)
    (hspaced : Lib.Each (Spaced (refusals i k) i k) (microRun D settings (start bus) ms).log)
    (hid : (((microRun D settings (start bus) ms).slaves i).link k).transactionId ≠ 0) :
    ¬ RefusedWithin i k now (microRun D settings (start bus) ms).log := by
  rintro ⟨t, ht, hrecent⟩
  have hflight := (micro_remembers D settings bus ms i k).flight hid
  obtain ⟨newer, j, t', word, older, hsplit, hnewer⟩ := lastStart_split hflight
  have hstarted : .startWrite j k t' _ word _ ∈ own i (microRun D settings (start bus) ms).log :=
    hsplit ▸ List.mem_append_right _ (List.mem_cons_self ..)
  have hj : j = i := mem_own hstarted
  have hmade : t' ≤ now := by
    obtain ⟨c, hc, rfl⟩ :=
      (microRun_dated D settings h bus).2 _ (List.mem_filter.mp hstarted).1 _ rfl
    exact hnow c hc
  -- The refused write was started before the one in flight.
  have hbefore : t ∈ refusals i k older := by
    obtain ⟨u, w, hmem⟩ := mem_refusals.mp (refusals_own.mpr ht)
    change _ ∈ ((microRun D settings (start bus) ms).one i).log at hmem
    rw [hsplit] at hmem
    rcases List.mem_append.mp hmem with hmem | hmem
    · exact absurd hmem (hnewer i t u w 0)
    · rcases List.mem_cons.mp hmem with heq | hmem
      · simp only [Act.startWrite.injEq] at heq
        exact absurd heq.2.2.2.2.2.symm hid
      · exact mem_refusals.mpr ⟨u, w, hmem⟩
  have hown := (spaced_own fun _ _ => refusals_own).mpr hspaced
  have hlaw : Spaced (refusals i k) i k _ older := Lib.each_iff.mp hown _ older ⟨newer, hsplit.symm⟩
  exact absurd (hlaw hj rfl t hbefore) (by omega)

/-- No call of `ServiceWriteThrough` finds a write to start within a poll period of a
    refused one. -/
def NoneDueWhileRefused (bus : σ) (ms : List (Micro ε)) : Prop :=
  ∀ pre i k now, pre ++ [.call (.writeThrough i k now)] <+: ms →
    RefusedWithin i k now (microRun D settings (start bus) pre).log →
      Quiet ((microRun D settings (start bus) pre).slaves i) k now

variable {D settings}

theorem call_refusals {c : Call} {s : Sys σ}
    (hcond : ∀ now, c = .writeThrough i k now → RefusedWithin i k now s.log →
      ((s.slaves i).link k).transactionId = 0 ∧ Quiet (s.slaves i) k now)
    (h : Lib.Each (Spaced (refusals i k) i k) s.log) :
    Lib.Each (Spaced (refusals i k) i k) (exec D settings s c).log := by
  have other {acts : List Act} (hacts : ∀ a ∈ acts, ∀ t u w id, a ≠ .startWrite i k t u w id) :
      Lib.Each (Spaced (refusals i k) i k) (acts ++ s.log) := by
    refine Lib.each_append.mpr ⟨Lib.each_of_forall fun a ha older => ?_, h⟩
    cases a with
    | startWrite j l now value word id =>
      rintro rfl rfl
      exact absurd rfl (hacts _ ha now value word id)
    | _ => trivial
  cases c with
  | service now => exact h
  | poll j now =>
    obtain ⟨acts, hlog, hacts⟩ := poll_log D settings j now s
    rw [exec, hlog]
    refine other fun a ha t u w id heq => ?_
    exact absurd (hacts a ha) (by simp [heq, Act.polls])
  | writeThrough j l now =>
    rw [exec]
    by_cases hjl : j = i ∧ l = k
    · obtain ⟨rfl, rfl⟩ := hjl
      obtain ⟨checks, hchecks, ⟨value, word, id, hlog⟩ | ⟨hlog, -⟩⟩ :=
        writeThrough_starts D j l now s
      · have hrest : Lib.Each (Spaced (refusals j l) j l) (checks ++ s.log) :=
            other fun a ha t u w id' heq => by
          obtain ⟨id'', o, rfl⟩ := hchecks a ha
          cases heq
        rw [hlog]
        refine ⟨fun _ _ t ht => ?_, hrest⟩
        by_contra hrecent
        have hrefused : t ∈ refusals j l s.log := by
          obtain ⟨u, w, hmem⟩ := mem_refusals.mp ht
          rcases List.mem_append.mp hmem with hmem | hmem
          · obtain ⟨id', o, heq⟩ := hchecks _ hmem
            cases heq
          · exact mem_refusals.mpr ⟨u, w, hmem⟩
        obtain ⟨hid, hquiet⟩ := hcond now rfl ⟨t, hrefused, by omega⟩
        -- Nothing was due, so nothing was started.
        rw [serviceWriteThrough_free D hid, writeWinningValue_skip D (hquiet hid)] at hlog
        have := congrArg List.length hlog
        simp at this
        omega
      · rw [hlog]
        refine other fun a ha t u w id heq => ?_
        obtain ⟨id', o, rfl⟩ := hchecks a ha
        cases heq
    · obtain ⟨acts, hlog, hacts⟩ := writeThrough_log D j l now s
      rw [hlog]
      refine other fun a ha t u w id heq => ?_
      have := hacts a ha
      rw [heq] at this
      exact hjl ⟨this.1.symm, this.2.1.symm⟩

theorem microRun_refusals {bus : σ} {ms : List (Micro ε)} (h : ms.Pairwise Micro.NotAfter)
    (hcond : NoneDueWhileRefused D settings bus ms) (i : SlaveIndex) (k : Output) :
    Lib.Each (Spaced (refusals i k) i k) (microRun D settings (start bus) ms).log := by
  induction ms using List.reverseRecOn with
  | nil => trivial
  | append_singleton ms m ih =>
    obtain ⟨hms, -, hlast⟩ := List.pairwise_append.mp h
    have hspaced :=
      ih hms fun pre i k now hpre => hcond pre i k now (hpre.trans (List.prefix_append ..))
    rw [microRun_concat]
    cases m with
    | set call => exact hspaced
    | outside e => exact hspaced
    | call c =>
      refine call_refusals (fun now hc hrefused => ?_) hspaced
      subst hc
      refine ⟨?_, hcond ms i k now (List.prefix_refl _) hrefused⟩
      by_contra hid
      exact flight_spaced D settings hms bus (fun c hc =>
        hlast _ hc _ (List.mem_singleton_self _) c _ rfl rfl) hspaced hid hrefused

/-! ## The main result -/

variable (D settings)

/-- In every run, over every driver, whose clock never runs backwards: the writes of every
    output come at least a poll period after each Timeout of it before them; and they come
    at least a poll period after each failed write of it if and only if no call of
    `ServiceWriteThrough` finds a write to start within a poll period of one that
    `StartWrite` refused. -/
theorem retries_spaced_iff (bus : σ) (evs : List (Event ε)) (h : Nondecreasing evs) :
    let log := (run D settings (start bus) evs).log
    (∀ i k now value word id older, .startWrite i k now value word id :: older <:+ log →
      ∀ t ∈ timeouts i k older, t + pollPeriodMilliseconds i ≤ now) ∧
    ((∀ i k now value word id older, .startWrite i k now value word id :: older <:+ log →
      ∀ t, t ∈ refusals i k older ∨ t ∈ timeouts i k older → t + pollPeriodMilliseconds i ≤ now) ↔
    NoneDueWhileRefused D settings bus (micro evs)) := by
  intro log
  have hrun : log = (microRun D settings (start bus) (micro evs)).log :=
    congrArg Sys.log (run_micro D settings (start bus) evs)
  have htimeouts : ∀ i k now value word id older,
    .startWrite i k now value word id :: older <:+ log →
      ∀ t ∈ timeouts i k older, t + pollPeriodMilliseconds i ≤ now := by
    intro i k now value word id older hstart t ht
    rw [hrun] at hstart
    have hown := (micro_backs D settings (micro_ordered h) bus i k).each
    have hlaw : Spaced (timeouts i k) i k _ older :=
      Lib.each_iff.mp ((spaced_own fun _ _ => timeouts_own).mp hown) _ older hstart
    exact hlaw rfl rfl t ht
  refine ⟨htimeouts, ?_, ?_⟩
  · intro hspaced pre i k now hpre hrefused hid hdue
    obtain ⟨t, ht, hrecent⟩ := hrefused
    have hlog := microRun_log D settings (start bus) hpre
    rw [microRun_concat, microStep, exec, serviceWriteThrough_free D hid,
      writeWinningValue_start D hdue rfl, ← hrun] at hlog
    exact absurd (hspaced i k now _ _ _ _ hlog t (Or.inl ht)) (by omega)
  · intro hcond i k now value word id older hstart t ht
    rcases ht with ht | ht
    · rw [hrun] at hstart
      have hlaw : Spaced (refusals i k) i k _ older :=
        Lib.each_iff.mp (microRun_refusals (micro_ordered h) hcond i k) _ older hstart
      exact hlaw rfl rfl t ht
    · exact htimeouts i k now value word id older hstart t ht

/-- 70.0 is commanded over a confirmed 65.0 and times out in the pass at 3. -/
def retriedAfterTimeout : List (Event Unit) :=
  [.pass 0, .pass 1, .set (.real boilerSetpoint (.finite 70) 8), .pass 2, .pass 3, .pass 100,
    .pass 503, .pass 504]

/-- When writes of the output were started. -/
def startTimes (i : SlaveIndex) (k : Output) (log : List Act) : List Nat :=
  log.filterMap fun
    | .startWrite j l now _ _ _ => if j = i ∧ l = k then some now else none
    | _ => none

/-- A driver that refuses nothing meets the condition: the write that timed out at 3 is not
    tried again at 100 but at 503. A closed port meets it while the passes are far enough
    apart. -/
theorem retries_spaced_boiler :
    let late := (run lateAnswer embeddedObjects (start lateStart) retriedAfterTimeout).log
    let closed := (run closedPort embeddedObjects (start ()) [.pass 0, .pass 900]).log
    (startTimes 0 .setpoint late = [503, 2, 0] ∧ timeouts 0 .setpoint late = [504, 3] ∧
      ∀ i k now value word id older, .startWrite i k now value word id :: older <:+ late →
        ∀ t, t ∈ refusals i k older ∨ t ∈ timeouts i k older → t + pollPeriodMilliseconds i ≤ now) ∧
    startTimes 0 .setpoint closed = [900, 0] ∧ refusals 0 .setpoint closed = [900, 0] ∧
      NoneDueWhileRefused closedPort embeddedObjects () (micro [.pass 0, .pass 900]) := by
  intro late closed
  have hcond : NoneDueWhileRefused lateAnswer embeddedObjects lateStart
      (micro retriedAfterTimeout) := by
    intro pre i k now hpre hrefused
    obtain ⟨t, ht, -⟩ := hrefused
    have hnone : ∀ i k, refusals i k late = [] := by
      intro i k
      revert i
      cases k <;> decide +kernel
    obtain ⟨value, word, hmem⟩ := mem_refusals.mp ht
    have hlog := microRun_log lateAnswer embeddedObjects (start lateStart)
      ((List.prefix_append ..).trans hpre)
    rw [← run_micro] at hlog
    have hrefused := mem_refusals.mpr ⟨value, word, hlog.subset hmem⟩
    rw [hnone i k] at hrefused
    cases hrefused
  have hspaced : ∀ i k,
      Lib.Each (Spaced (fun log => refusals i k log ++ timeouts i k log) i k) closed := by
    intro i k
    revert i
    cases k <;> decide +kernel
  refine ⟨⟨by decide +kernel, by decide +kernel, ?_⟩, by decide +kernel, by decide +kernel, ?_⟩
  · exact (retries_spaced_iff lateAnswer embeddedObjects lateStart retriedAfterTimeout
      (by decide)).2.mpr hcond
  · refine (retries_spaced_iff closedPort embeddedObjects () [.pass 0, .pass 900]
      (by decide)).2.mp ?_
    intro i k now value word id older hstart t ht
    have hlaw : Spaced (fun log => refusals i k log ++ timeouts i k log) i k _ older :=
      Lib.each_iff.mp (hspaced i k) _ older hstart
    exact hlaw rfl rfl t (List.mem_append.mpr ht)

/-- As built, a port that cannot be opened has every pass try again. -/
theorem refused_write_hammers :
    ¬ ∀ (σ ε : Type) (D : Driver σ ε) (settings : Settings) (bus : σ) (evs : List (Event ε)),
      Nondecreasing evs →
      ∀ i k now value word id older,
        .startWrite i k now value word id :: older <:+ (run D settings (start bus) evs).log →
        ∀ t, t ∈ refusals i k older ∨ t ∈ timeouts i k older →
          t + pollPeriodMilliseconds i ≤ now := by
  intro h
  have hruns := h Unit Unit closedPort embeddedObjects () [.pass 0, .pass 1] (by decide)
  have heach : Lib.Each (Spaced (refusals 0 .setpoint) 0 .setpoint)
      (run closedPort embeddedObjects (start ()) [.pass 0, .pass 1]).log := by
    refine Lib.each_iff.mpr fun a older ha => ?_
    cases a with
    | startWrite i k now value word id =>
      rintro rfl rfl t ht
      exact hruns 0 .setpoint now value word id older ha t (Or.inl ht)
    | _ => trivial
  revert heach
  decide +kernel

end BacnetGateway.Gateway
