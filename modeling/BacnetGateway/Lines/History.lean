/-
  BacnetGateway.Lines.History — the polls a slave has completed, and the passes that
  completed them.

  `polls` are a slave's completed polls in a run on the simulated bus, newest first. Only
  a pass adds to them, at most one, and then it is a poll's turn on the slave's line
  (`polls_pass`). So every completed poll belongs to one pass of the run
  (`exists_completes`), and one that timed out to a pass at which the connection was down
  (`timedOut_down`).
-/

import BacnetGateway.Lines.Timing

namespace BacnetGateway.Lines

open Seam Gateway Simulation

/-- The polls of slave `i` completed in a run, newest first. -/
def polls (settings : Settings) (i : SlaveIndex) (evs : List (Event FieldEvent)) : List Attempt :=
  completedPolls (attempts simulatedForeignBus settings initialSim i evs)

/-- The pass at `t` after `pre` completes a poll of slave `i`. -/
def Completes (settings : Settings) (i : SlaveIndex) (pre : List (Event FieldEvent)) (t : Nat)
    (a : Attempt) : Prop :=
  polls settings i (pre ++ [.pass t]) = a :: polls settings i pre

instance (settings : Settings) (i : SlaveIndex) (pre : List (Event FieldEvent)) (t : Nat)
    (a : Attempt) :
    Decidable (Completes settings i pre t a) := inferInstanceAs (Decidable (_ = _))

variable {settings : Settings} {i : SlaveIndex} {now : Nat} {evs : List (Event FieldEvent)}

/-! ## The line's history is the slave's -/

/-- Without its ids a log tells the same completed polls. -/
theorem anonymous_polls (log : List Act) :
    completedPolls (pollAttempts (log.map anonymousAct)) = completedPolls (pollAttempts log) := by
  induction log with
  | nil => rfl
  | cons a log ih =>
    have hcons : ∀ (a : Act) (log : List Act), completedPolls (pollAttempts (a :: log)) =
        completedPolls a.attempt.toList ++ completedPolls (pollAttempts log) := by
      intro a log
      rw [pollAttempts_cons]
      exact List.filter_append ..
    have hone : completedPolls (anonymousAct a).attempt.toList =
        completedPolls a.attempt.toList := by
      cases a with
      | startRead i now id => cases id <;> rfl
      | checkRead i now id outcome value => cases outcome <;> rfl
      | _ => rfl
    rw [List.map_cons, hcons, hcons, ih, hone]

theorem polls_eq (h : Nondecreasing evs) :
    polls settings i evs = ((Line.start i).run settings i evs).polls := by
  rw [← run_view settings h]
  exact (anonymous_polls _).symm

variable (settings i)

/-- A poll's turn in the pass at `now` after `evs`, and what it adds to the history. -/
theorem polls_pass (h : Nondecreasing (evs ++ [.pass now])) :
    ∃ completed, PollTurn i now (((Line.start i).run settings i evs).advance now).device
        ((Line.start i).run settings i evs).slave
          (((Line.start i).run settings i evs).wire .measuredTemperature) completed
        (((Line.start i).run settings i evs).polled settings i now)
        (((Line.start i).run settings i (evs ++ [.pass now])).wire .measuredTemperature) ∧
      polls settings i (evs ++ [.pass now]) = completed.toList ++ polls settings i evs := by
  rw [polls_eq h, polls_eq (nondecreasing_earlier h (List.prefix_append ..)), Line.run_concat]
  exact pass_poll settings i now (run_waiting evs)

variable {settings i}

/-- Between passes nothing is completed. -/
theorem polls_quiet {e : Event FieldEvent} (h : passTimes [e] = []) :
    polls settings i (evs ++ [e]) = polls settings i evs := by
  unfold polls attempts
  rw [Gateway.run_concat]
  cases e with
  | set call => rfl
  | outside e => rfl
  | pass now => cases h

/-- A longer run has the older history at its end. -/
theorem polls_suffix (settings : Settings) (i : SlaveIndex) {pre : List (Event FieldEvent)}
    (h : pre <+: evs) : polls settings i pre <:+ polls settings i evs := by
  obtain ⟨rest, rfl⟩ := h
  induction rest using List.reverseRecOn with
  | nil =>
    rw [List.append_nil]
  | append_singleton rest e ih =>
    rw [← List.append_assoc]
    refine ih.trans (List.IsSuffix.filter _ ?_)
    obtain ⟨r, hr⟩ := attempts_concat simulatedForeignBus settings initialSim i (pre ++ rest) e
    rw [hr]
    exact List.suffix_append ..

/-! ## The pass a poll was completed in -/

theorem exists_completes {a : Attempt} {older : List Attempt} (h : Nondecreasing evs)
    (hp : polls settings i evs = a :: older) :
    ∃ pre t, pre ++ [.pass t] <+: evs ∧ Completes settings i pre t a ∧
      polls settings i pre = older := by
  induction evs using List.reverseRecOn with
  | nil => cases hp
  | append_singleton evs e ih =>
    have hbefore := nondecreasing_earlier h (List.prefix_append ..)
    have earlier : polls settings i evs = a :: older →
        ∃ pre t, pre ++ [.pass t] <+: evs ++ [e] ∧ Completes settings i pre t a ∧
          polls settings i pre = older := by
      intro hsame
      obtain ⟨pre, t, hpre, hc, hold⟩ := ih hbefore hsame
      exact ⟨pre, t, hpre.trans (List.prefix_append ..), hc, hold⟩
    cases e with
    | set call => exact earlier ((polls_quiet rfl).symm.trans hp)
    | outside e => exact earlier ((polls_quiet rfl).symm.trans hp)
    | pass now =>
      obtain ⟨completed, -, hpolls⟩ := polls_pass settings i h
      cases completed with
      | none => exact earlier (hpolls.symm.trans hp)
      | some b =>
        rw [hpolls] at hp
        obtain ⟨rfl, hold⟩ := List.cons_eq_cons.mp hp
        exact ⟨evs, now, List.prefix_refl _, hpolls, hold⟩

theorem down_of_timedOut {device : SimulatedSlave} {slave slave' : GatewayedSlave}
    {f f' : Option Flight}
    (h : PollTurn i now device slave f (some .timedOut) slave' f') : device.online = false := by
  cases h with
  | expired ha he =>
    by_contra hup
    exact not_expires (by simpa using hup) ha he

/-- A poll times out only when the device's connection is down. -/
theorem timedOut_down {pre : List (Event FieldEvent)} {t : Nat}
    (h : Nondecreasing (pre ++ [.pass t])) (hc : Completes settings i pre t .timedOut) :
    ((run simulatedForeignBus settings (start initialSim) pre).bus.slaves i).online = false := by
  obtain ⟨completed, hturn, hpolls⟩ := polls_pass settings i h
  unfold Completes at hc
  rw [hpolls] at hc
  have hcompleted : completed = some .timedOut := by
    cases completed with
    | none => exact absurd hc.symm (List.cons_ne_self _ _)
    | some a => exact congrArg some (List.cons_eq_cons.mp hc).1
  subst hcompleted
  have hview := run_view settings (nondecreasing_earlier h (List.prefix_append ..)) i
  have hdevice : ((Line.start i).run settings i pre).device.online = false := by
    rw [← (advance_frame t _ .setpoint).1]
    exact down_of_timedOut hturn
  exact (congrArg (fun l : Line => l.device.online) hview).trans hdevice

end BacnetGateway.Lines
