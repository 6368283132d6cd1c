/-
  BacnetGateway.Lines.Reading — the cached reading is genuine and never stale but healthy.

  `LastAnswer` names the most recent pass in which a poll of a slave was answered. The
  cache holds what the input register held then (`run_cached`): nothing but an answered
  poll writes it. While the slave is believed online its poll is in one of the phases of
  `Freshness`, each of which ends at a known time after that pass: the poll is due, in
  flight, has timed out once and is due again, or is in flight again. The second timeout
  ends the belief.
-/

import BacnetGateway.Lines.History

namespace BacnetGateway.Lines

open Seam Gateway Simulation

variable {settings : Settings} {i : SlaveIndex} {delta answeredAt t now : Nat}
    {device : SimulatedSlave}
  {evs : List (Event FieldEvent)}

/-! ## The phases -/

/-- How far the poll has come at `t`, since it was last answered at `answeredAt`. -/
inductive Freshness (i : SlaveIndex) (delta answeredAt t : Nat) (slave : GatewayedSlave) :
    Option Flight → Prop where
  | offline {f : Option Flight} (honline : slave.online = false) : Freshness i delta
      answeredAt t slave f
  | rest (hfailed : slave.consecutiveFailedPolls = 0)
      (hnext : slave.nextPollAt ≤ answeredAt + pollPeriodMilliseconds i)
      (hlate : t ≤ answeredAt ∨ t < slave.nextPollAt) : Freshness i delta answeredAt t slave none
  | asked {f : Flight} (hfailed : slave.consecutiveFailedPolls = 0)
      (hnext : slave.nextPollAt ≤ f.startedAt + pollPeriodMilliseconds i)
      (hstarted : f.startedAt ≤ answeredAt + pollPeriodMilliseconds i + delta)
      (hlate : t < f.startedAt + RESPONSE_TIMEOUT_MILLISECONDS) : Freshness i delta answeredAt t
        slave (some f)
  | doubt (hfailed : slave.consecutiveFailedPolls = 1)
      (hnext : slave.nextPollAt ≤ answeredAt + 2 * pollPeriodMilliseconds i + delta)
      (hlate : t < slave.nextPollAt ∨
        t ≤ answeredAt + pollPeriodMilliseconds i + RESPONSE_TIMEOUT_MILLISECONDS + 2 * delta) :
      Freshness i delta answeredAt t slave none
  | askedAgain {f : Flight} (hfailed : slave.consecutiveFailedPolls = 1)
      (hstarted : f.startedAt ≤ answeredAt + 2 * pollPeriodMilliseconds i + 3 * delta)
      (hlate : t < f.startedAt + RESPONSE_TIMEOUT_MILLISECONDS) : Freshness i delta answeredAt t
        slave (some f)

theorem pollPeriod_ge (i : SlaveIndex) : 500 ≤ pollPeriodMilliseconds i := by
  revert i
  decide

/-- While the slave is believed online, its last answer is not old. -/
theorem age_bound {slave : GatewayedSlave} {f : Option Flight}
    (h : Freshness i delta answeredAt t slave f) (honline : slave.online = true) :
    t ≤ answeredAt + (2 * pollPeriodMilliseconds i + 300 + 4 * delta) := by
  have htimeout : RESPONSE_TIMEOUT_MILLISECONDS = 300 := rfl
  cases h with
  | offline hoff =>
    rw [honline] at hoff
    cases hoff
  | rest hfailed hnext hlate => omega
  | asked hfailed hnext hstarted hlate => omega
  | doubt hfailed hnext hlate => omega
  | askedAgain hfailed hstarted hlate => omega

/-- A timed-out poll. -/
theorem freshness_timedOut {slave : GatewayedSlave} {f : Flight}
    (h : Freshness i delta answeredAt t slave (some f))
    (hnow : now ≤ t + delta) : Freshness i delta answeredAt now (afterTimeout slave) none := by
  have hcount := afterTimeout_failed slave
  have honline := afterTimeout_online slave
  have hnextPollAt : (afterTimeout slave).nextPollAt = slave.nextPollAt := by
    unfold afterTimeout
    split <;> rfl
  cases h with
  | offline hoff =>
    refine .offline ?_
    rw [honline, hoff]
    rfl
  | asked hfailed hnext hstarted hlate =>
    rw [hfailed] at hcount
    refine .doubt hcount ?_ (Or.inr ?_)
    · omega
    · omega
  | askedAgain hfailed hstarted hlate =>
    refine .offline ?_
    rw [honline, hfailed, show decide (countFailure 1 < OFFLINE_AFTER_FAILED_POLLS) =
      false by decide, Bool.and_false]

/-- One turn of the poll: either it is answered now, or the phases go on. -/
theorem freshness_step {slave slave' : GatewayedSlave} {f f' : Option Flight}
    {completed : Option Attempt} (h : PollTurn i now device slave f completed slave' f')
    (hpending : ∀ g, f = some g → g.outcome = .pending)
    (hnow : now ≤ t + delta) (hna : completed ≠ some .answered)
    (hfresh : Freshness i delta answeredAt t slave f) :
    Freshness i delta answeredAt now slave' f' := by
  have hperiod := pollPeriod_ge i
  have htimeout : RESPONSE_TIMEOUT_MILLISECONDS = 300 := rfl
  cases h with
  | idle hdue =>
    cases hfresh with
    | offline hoff => exact .offline hoff
    | rest hfailed hnext hlate => exact .rest hfailed hnext (Or.inr hdue)
    | doubt hfailed hnext hlate => exact .doubt hfailed hnext (Or.inl hdue)
  | start hdue =>
    cases hfresh with
    | offline hoff => exact .offline hoff
    | rest hfailed hnext hlate =>
      refine .asked hfailed (Nat.le_refl _) ?_ ?_
      · show now ≤ _
        omega
      · show now < now + _
        omega
    | doubt hfailed hnext hlate =>
      refine .askedAgain hfailed ?_ ?_
      · show now ≤ _
        omega
      · show now < now + _
        omega
  | @pending g ha he =>
    have hwait : now < g.startedAt + RESPONSE_TIMEOUT_MILLISECONDS := by
      by_contra hnot
      exact he ⟨hpending g rfl, by omega⟩
    cases hfresh with
    | offline hoff => exact .offline hoff
    | asked hfailed hnext hstarted hlate => exact .asked hfailed hnext hstarted hwait
    | askedAgain hfailed hstarted hlate => exact .askedAgain hfailed hstarted hwait
  | answered ha => exact absurd rfl hna
  | expired ha he => exact freshness_timedOut hfresh hnow

/-! ## Runs -/

/-- The pass at `t` after `pre` is the most recent in which a poll of slave `i` was answered. -/
structure LastAnswer (settings : Settings) (i : SlaveIndex) (evs pre : List (Event FieldEvent))
    (t : Nat) : Prop where
  earlier : pre ++ [.pass t] <+: evs
  answered : Completes settings i pre t .answered
  since : ∃ later, polls settings i evs = later ++ polls settings i (pre ++ [.pass t]) ∧
    .answered ∉ later

/-- The input register of slave `i` after a run. -/
def inputRegister (settings : Settings) (i : SlaveIndex) (evs : List (Event FieldEvent)) : Word :=
  ((run simulatedForeignBus settings (start initialSim) evs).bus.slaves i).inputRegister

/-- What the cache of a line holds, and how old it is. -/
inductive Cached (settings : Settings) (i : SlaveIndex) (delta : Nat)
    (evs : List (Event FieldEvent)) (l : Line) : Prop where
  | unstarted (hnone : passTimes evs = []) (hnever : polls settings i evs = [])
      (htemperature : l.slave.measuredTemperature = 0)
      (hfailed : l.slave.consecutiveFailedPolls = 0) (hnext : l.slave.nextPollAt = 0)
        (hwire : l.wire .measuredTemperature = none)
  | unanswered {first : Nat} (hfirst : first ∈ (passTimes evs).head?)
      (hnever : .answered ∉ polls settings i evs)
      (htemperature : l.slave.measuredTemperature = 0)
      (hfresh : Freshness i delta first l.nowMilliseconds l.slave (l.wire .measuredTemperature))
  | answered {pre : List (Event FieldEvent)} {t : Nat} (hlast : LastAnswer settings i evs pre t)
      (htemperature : l.slave.measuredTemperature =
        Lib.binary64.round (decodeTemperature (inputRegister settings i (pre ++ [.pass t]))))
      (hfresh : Freshness i delta t l.nowMilliseconds l.slave (l.wire .measuredTemperature))

theorem Freshness.congr {slave slave' : GatewayedSlave} {f : Option Flight}
    (h : Freshness i delta answeredAt t slave f) (honline : slave'.online = slave.online)
    (hfailed : slave'.consecutiveFailedPolls = slave.consecutiveFailedPolls)
    (hnext : slave'.nextPollAt = slave.nextPollAt) : Freshness i delta answeredAt t slave' f := by
  cases h with
  | offline hoff => exact .offline (honline.trans hoff)
  | rest hf hn hlate => exact .rest (hfailed.trans hf) (hnext ▸ hn) (hnext ▸ hlate)
  | asked hf hn hstarted hlate => exact .asked (hfailed.trans hf) (hnext ▸ hn) hstarted hlate
  | doubt hf hn hlate => exact .doubt (hfailed.trans hf) (hnext ▸ hn) (hnext ▸ hlate)
  | askedAgain hf hstarted hlate => exact .askedAgain (hfailed.trans hf) hstarted hlate

/-- Only an answered poll writes the cache. -/
theorem temperature_kept {slave slave' : GatewayedSlave} {f f' : Option Flight}
    {completed : Option Attempt}
    (h : PollTurn i now device slave f completed slave' f') (hna : completed ≠ some .answered) :
    slave'.measuredTemperature = slave.measuredTemperature := by
  cases h with
  | answered ha => exact absurd rfl hna
  | expired ha he =>
    unfold afterTimeout
    split <;> rfl
  | _ => rfl

theorem no_answer_append {r : Option Attempt} {older : List Attempt} (hna : r ≠ some .answered)
    (hnot : .answered ∉ older) :
    .answered ∉ r.toList ++ older := by
  intro hmem
  rcases List.mem_append.mp hmem with hr | hl
  · exact hna (Option.mem_toList.mp hr)
  · exact hnot hl

/-- The history goes on without an answer. -/
theorem LastAnswer.extend {pre : List (Event FieldEvent)} {e : Event FieldEvent}
    (h : LastAnswer settings i evs pre t) {r : Option Attempt} (hna : r ≠ some .answered)
    (hpolls : polls settings i (evs ++ [e]) = r.toList ++ polls settings i evs) :
    LastAnswer settings i (evs ++ [e]) pre t := by
  obtain ⟨later, hlater, hnot⟩ := h.since
  refine ⟨h.earlier.trans (List.prefix_append ..), h.answered, r.toList ++ later, ?_,
    no_answer_append hna hnot⟩
  rw [hpolls, hlater, List.append_assoc]

/-- Between passes neither the cache nor its age changes. -/
theorem Cached.quiet {e : Event FieldEvent} {l l' : Line} (h : Cached settings i delta evs l)
    (hquiet : passTimes [e] = [])
    (hclock : l'.nowMilliseconds = l.nowMilliseconds) (hwire : l'.wire = l.wire)
    (honline : l'.slave.online = l.slave.online)
    (hfailed : l'.slave.consecutiveFailedPolls = l.slave.consecutiveFailedPolls)
    (hnext : l'.slave.nextPollAt = l.slave.nextPollAt)
    (htemperature : l'.slave.measuredTemperature = l.slave.measuredTemperature) :
    Cached settings i delta (evs ++ [e]) l' := by
  have hpolls : polls settings i (evs ++ [e]) = polls settings i evs := polls_quiet hquiet
  have htimes : passTimes (evs ++ [e]) = passTimes evs := by
    rw [passTimes_concat, hquiet, List.append_nil]
  cases h with
  | unstarted hnone hnever ht hf hn hw =>
    exact .unstarted (htimes.trans hnone) (hpolls.trans hnever) (htemperature.trans ht)
        (hfailed.trans hf) (hnext.trans hn)
      (hwire ▸ hw)
  | unanswered hfirst hnever ht hfresh =>
    refine .unanswered (htimes ▸ hfirst) (hpolls ▸ hnever) (htemperature.trans ht) ?_
    rw [hclock, hwire]
    exact hfresh.congr honline hfailed hnext
  | answered hlast ht hfresh =>
    refine .answered (hlast.extend (r := none) (by decide) hpolls) (htemperature.trans ht) ?_
    rw [hclock, hwire]
    exact hfresh.congr honline hfailed hnext

theorem command_health (l : Line) (c : Option Command) :
    (l.command i c).slave.consecutiveFailedPolls = l.slave.consecutiveFailedPolls ∧
      (l.command i c).slave.measuredTemperature = l.slave.measuredTemperature := by
  unfold Line.command
  cases c with
  | none => exact ⟨rfl, rfl⟩
  | some c =>
    dsimp only
    split
    · exact ⟨setCommand_failed .., setCommand_temperature ..⟩
    · exact ⟨rfl, rfl⟩

theorem answered_turn {slave slave' : GatewayedSlave} {f f' : Option Flight}
    (h : PollTurn i now device slave f (some .answered) slave' f') :
    slave' = pollAnswered slave device.inputRegister ∧ f' = none := by
  cases h with
  | answered ha => exact ⟨rfl, rfl⟩

theorem LastAnswer.passed {pre : List (Event FieldEvent)} (h : LastAnswer settings i evs pre t) :
    passTimes evs ≠ [] := by
  intro hnone
  have hprefix : passTimes (pre ++ [.pass t]) <+: passTimes evs :=
    List.IsPrefix.filterMap _ h.earlier
  rw [hnone, List.prefix_nil, passTimes_concat] at hprefix
  exact List.append_ne_nil_of_right_ne_nil _ (List.cons_ne_nil t []) hprefix

/-- A pass without an answer keeps what is cached, and the phases go on. -/
theorem Cached.unanswered_pass {l l' : Line} (h : Cached settings i delta evs l)
    {r : Option Attempt} (hna : r ≠ some .answered)
    (hpolls : polls settings i (evs ++ [.pass now]) = r.toList ++ polls settings i evs)
    (htemperature : l'.slave.measuredTemperature = l.slave.measuredTemperature)
    (hgap : passTimes evs ≠ [] → now ≤ l.nowMilliseconds + delta)
    (hstep : ∀ {since t : Nat}, now ≤ t + delta →
      Freshness i delta since t l.slave (l.wire .measuredTemperature) →
      Freshness i delta since l'.nowMilliseconds l'.slave (l'.wire .measuredTemperature)) :
    Cached settings i delta (evs ++ [.pass now]) l' := by
  cases h with
  | unstarted hnone hnil ht hfailed hnext hwire =>
    have hfirst : now ∈ (passTimes (evs ++ [.pass now])).head? := by
      rw [passTimes_concat, hnone]
      rfl
    refine .unanswered hfirst ?_ (htemperature.trans ht) (hstep (t := now) (Nat.le_add_right ..) ?_)
    · rw [hpolls, hnil]
      exact no_answer_append hna List.not_mem_nil
    · rw [hwire]
      exact .rest hfailed (by omega) (Or.inl (Nat.le_refl _))
  | @unanswered first hfirst hnever ht hfresh =>
    have hpassed : passTimes evs ≠ [] := by
      intro hnone
      rw [hnone] at hfirst
      cases hfirst
    have hfirst' : first ∈ (passTimes (evs ++ [.pass now])).head? := by
      rw [passTimes_concat, List.head?_append_of_ne_nil _ hpassed]
      exact hfirst
    exact .unanswered hfirst' (hpolls ▸ no_answer_append hna hnever) (htemperature.trans ht)
      (hstep (hgap hpassed) hfresh)
  | answered hlast ht hfresh =>
    exact .answered (hlast.extend hna hpolls) (htemperature.trans ht)
      (hstep (hgap hlast.passed) hfresh)

/-- One pass: an answer starts a new age, and otherwise the phases go on. -/
theorem pass_cached (h : Nondecreasing (evs ++ [.pass now]))
    (hgaps : Gaps delta (evs ++ [.pass now]))
    (hc : Cached settings i delta evs ((Line.start i).run settings i evs)) :
    Cached settings i delta (evs ++ [.pass now])
      ((Line.start i).run settings i (evs ++ [.pass now])) := by
  have hbefore := nondecreasing_earlier h (List.prefix_append ..)
  obtain ⟨completed, hturn, hpolls⟩ := polls_pass settings i h
  have hregister : inputRegister settings i (evs ++ [.pass now]) =
      (((Line.start i).run settings i evs).advance now).device.inputRegister := by
    rw [← (pass_sensor settings i now ((Line.start i).run settings i evs)).2]
    exact congrArg (fun l : Line => l.device.inputRegister)
      ((run_view settings h i).trans (Line.run_concat ..))
  have hline : (Line.start i).run settings i (evs ++ [.pass now]) =
      ((Line.start i).run settings i evs).pass settings i now :=
    Line.run_concat ..
  rw [hline] at hturn ⊢
  have hrest := pass_only settings i now ((Line.start i).run settings i evs)
  by_cases hna : completed = some .answered
  · subst hna
    obtain ⟨hslave, hfree⟩ := answered_turn hturn
    refine .answered ⟨List.prefix_refl _, hpolls, [], rfl, List.not_mem_nil⟩ ?_ ?_
    · rw [hregister]
      exact hrest.temperature.trans (congrArg GatewayedSlave.measuredTemperature hslave)
    · have hdated : ((Line.start i).run settings i evs).Dated i := run_dated hbefore
      have hle : ((Line.start i).run settings i evs).nowMilliseconds ≤ now := line_clock_le h
      have hnext : (((Line.start i).run settings i evs).polled settings i now).nextPollAt ≤
          now + pollPeriodMilliseconds i := by
        rw [hslave]
        exact hdated.nextPollAt.trans (Nat.add_le_add_right hle _)
      rw [hfree, pass_time]
      refine .rest (hrest.failed.trans ?_) (hrest.nextPollAt.trans_le hnext)
        (Or.inl (Nat.le_refl _))
      exact congrArg GatewayedSlave.consecutiveFailedPolls hslave
  · refine hc.unanswered_pass hna hpolls (hrest.temperature.trans (temperature_kept hturn hna))
      (line_clock_gap hbefore hgaps) fun hnow hfresh => ?_
    rw [pass_time]
    exact (freshness_step hturn (run_waiting evs .measuredTemperature) hnow hna hfresh).congr
        hrest.online hrest.failed
      hrest.nextPollAt

theorem run_cached (h : Nondecreasing evs) (hgaps : Gaps delta evs) :
    Cached settings i delta evs ((Line.start i).run settings i evs) := by
  induction evs using List.reverseRecOn with
  | nil => exact .unstarted rfl rfl rfl rfl rfl rfl
  | append_singleton evs e ih =>
    have hc := ih (nondecreasing_earlier h (List.prefix_append ..)) (gaps_earlier hgaps)
    cases e with
    | pass now => exact pass_cached h hgaps hc
    | set call =>
      rw [Line.run_concat]
      obtain ⟨hclock, honline, hnext, -⟩ :=
        command_slave (i := i) ((Line.start i).run settings i evs) (commandOf settings call)
      obtain ⟨hfailed, htemperature⟩ :=
        command_health (i := i) ((Line.start i).run settings i evs) (commandOf settings call)
      have hwire :=
        (command_wire (i := i) ((Line.start i).run settings i evs) (commandOf settings call)).1
      exact hc.quiet rfl hclock hwire honline hfailed hnext htemperature
    | outside e =>
      rw [Line.run_concat]
      exact hc.quiet rfl rfl rfl rfl rfl rfl rfl

/-- No answer comes after the most recent one. -/
theorem lastAnswer_latest {pre pre' : List (Event FieldEvent)} {t t' : Nat}
    (h : LastAnswer settings i evs pre t)
    (h' : LastAnswer settings i evs pre' t') : ¬ pre ++ [.pass t] <+: pre' := by
  intro hearlier
  obtain ⟨later, hlater, hnot⟩ := h.since
  obtain ⟨between, hbetween⟩ := polls_suffix settings i hearlier
  obtain ⟨newer, hnewer⟩ := polls_suffix settings i h'.earlier
  rw [h'.answered, ← hbetween, hlater, ← List.cons_append, ← List.append_assoc] at hnewer
  have hsame := List.append_cancel_right hnewer
  rw [← hsame] at hnot
  exact hnot (List.mem_append_right _ (List.mem_cons_self ..))

/-- There is one most recent answer. -/
theorem lastAnswer_unique {pre pre' : List (Event FieldEvent)} {t t' : Nat}
    (h : LastAnswer settings i evs pre t)
    (h' : LastAnswer settings i evs pre' t') : pre = pre' ∧ t = t' := by
  have hsame : pre ++ [.pass t] = pre' ++ [.pass t'] := by
    rcases List.prefix_or_prefix_of_prefix h.earlier h'.earlier with hp | hp
    · rcases List.prefix_concat_iff.mp hp with heq | hshort
      · exact heq
      · exact absurd hshort (lastAnswer_latest h h')
    · rcases List.prefix_concat_iff.mp hp with heq | hshort
      · exact heq.symm
      · exact absurd hshort (lastAnswer_latest h' h)
  obtain ⟨hpre, ht⟩ := List.append_singleton_inj.mp hsame
  cases ht
  exact ⟨hpre, rfl⟩

/-! ## The reading -/

/-- What a client reads of slave `i` after a run, when it is served `value` since `since`. -/
structure ReadsAs (settings : Settings) (i : SlaveIndex) (delta : Nat)
    (evs : List (Event FieldEvent)) (value : ℚ) (since : Nat) : Prop where
  /-- Present_Value of its Analog Input. -/
  presentValue : ∀ p, Names settings p i .measuredTemperature →
    p.propertyIdentifier = PROPERTY_IDENTIFIER_PRESENT_VALUE →
    getPropertyReal settings (run simulatedForeignBus settings (start initialSim) evs).slaves p =
      some value
  /-- No-fault is not served for an old value. -/
  fresh : ∀ p kind, Names settings p i kind →
    getPropertyEnumerated settings (run simulatedForeignBus settings (start initialSim) evs).slaves
      (reliabilityOf p) =
        some RELIABILITY_NO_FAULT_DETECTED →
      ∀ now ∈ (passTimes evs).getLast?,
        now ≤ since + (2 * pollPeriodMilliseconds i + 300 + 4 * delta)

theorem readsAs_of_cached {value : ℚ} {since : Nat} (h : Nondecreasing evs)
    (htemperature : ((Line.start i).run settings i evs).slave.measuredTemperature = value)
    (hfresh : Freshness i delta since ((Line.start i).run settings i evs).nowMilliseconds
      ((Line.start i).run settings i evs).slave
        (((Line.start i).run settings i evs).wire .measuredTemperature)) :
    ReadsAs settings i delta evs (Lib.binary32.round value) since where
  presentValue := by
    intro p hn hproperty
    have hfind := (findMappedPoint_iff settings p i .measuredTemperature).mpr hn
    rw [← run_view settings h] at htemperature
    unfold getPropertyReal
    rw [hfind]
    dsimp only
    rw [if_pos ⟨rfl, hproperty⟩]
    exact congrArg (some ∘ Lib.binary32.round) htemperature
  fresh := by
    intro p kind hn hread now hnow
    rw [line_clock h, hnow, ← run_view settings h] at hfresh
    exact age_bound hfresh ((reliability_answer settings _ hn).2.mp hread)

/-- On the simulated bus, with passes at most `delta` apart: the Present_Value served for a
    slave's Analog Input is what its input register held in the most recent pass in which
    a poll of it was answered, as a signed number of tenths, or 0 if none was; and it is
    served with no-fault only up to `2 P + 300 + 4 delta` after that pass (after the first
    pass, if none was). A REAL holds the tenth as nearly as a `double` and then a `float` do. -/
theorem reading_genuine_and_fresh (settings : Settings) (i : SlaveIndex) (delta : Nat)
    (evs : List (Event FieldEvent)) (h : Nondecreasing evs) (hgaps : Gaps delta evs) :
    (.answered ∉ polls settings i evs → ∀ first ∈ (passTimes evs).head?,
      ReadsAs settings i delta evs 0 first) ∧
      (.answered ∈ polls settings i evs → ∃ pre t, LastAnswer settings i evs pre t) ∧
      ∀ pre t, LastAnswer settings i evs pre t →
        let degrees : ℚ := ((inputRegister settings i (pre ++ [.pass t])).toInt : ℚ) / 10
        ReadsAs settings i delta evs (Lib.binary32.round (Lib.binary64.round degrees)) t ∧
          |Lib.binary32.round (Lib.binary64.round degrees) - degrees| ≤ 1 / 4096 := by
  have hc : Cached settings i delta evs ((Line.start i).run settings i evs) := run_cached h hgaps
  cases hc with
  | unstarted hnone hnever htemperature hfailed hnext hwire =>
    refine ⟨fun _ first hfirst => ?_, fun hmem => ?_, fun pre t hlast => absurd hnone hlast.passed⟩
    · rw [hnone] at hfirst
      cases hfirst
    · rw [hnever] at hmem
      cases hmem
  | @unanswered first hfirst hnever htemperature hfresh =>
    refine ⟨fun _ first' hfirst' => ?_, fun hmem => absurd hmem hnever,
      fun pre t hlast => absurd ?_ hnever⟩
    · rw [Option.mem_unique hfirst' hfirst, ← Lib.round_zero Lib.binary32]
      exact readsAs_of_cached h htemperature hfresh
    · refine (polls_suffix settings i hlast.earlier).subset ?_
      rw [hlast.answered]
      exact List.mem_cons_self ..
  | @answered pre t hlast htemperature hfresh =>
    refine ⟨fun hnever => absurd ?_ hnever, fun _ => ⟨pre, t, hlast⟩, fun pre' t' hlast' => ?_⟩
    · refine (polls_suffix settings i hlast.earlier).subset ?_
      rw [hlast.answered]
      exact List.mem_cons_self ..
    · obtain ⟨rfl, rfl⟩ := lastAnswer_unique hlast hlast'
      exact ⟨readsAs_of_cached h htemperature hfresh, reading_near _⟩

/-- Unit 1, polled at 0, answered at 20 and not due again before 500. -/
theorem reading_genuine_and_fresh_boiler :
    ReadsAs embeddedObjects 0 400 [.pass 0, .pass 20, .pass 400]
      (Lib.binary32.round (Lib.binary64.round
        (((inputRegister embeddedObjects 0 [.pass 0, .pass 20]).toInt : ℚ) / 10))) 20 :=
  ((reading_genuine_and_fresh embeddedObjects 0 400 [.pass 0, .pass 20, .pass 400]
    (by decide) (by decide)).2.2
    [.pass 0] 20 ⟨⟨[.pass 400], rfl⟩, by decide +kernel, [], by decide +kernel, List.not_mem_nil⟩).1

end BacnetGateway.Lines
