/-
  BacnetGateway.Gateway.Priorities — the Priority_Arrays, over every run.

  `acceptedCalls` are the set calls of a run that return true; `commanded` is what the newest
  of them on a slot left there. The invariant is that every slot of every output holds
  exactly that (`run_slot`): a refused call, a poll, a write and an outage touch no slot.
  The callbacks read the slots back (`bool_answer`, `value_answer`), so the Present_Value
  a BACnet client resolves from them is the value `ServiceWriteThrough` puts on the wire
  (`presentValue_eq`, `pass_sends`).
-/

import BacnetGateway.Gateway.Calls
import BacnetGateway.Gateway.Commands

namespace BacnetGateway.Gateway

open Seam

variable {σ ε : Type} (D : Driver σ ε) (settings : Settings)

/-! ## What the accepted calls leave in a slot -/

/-- The call of a callback, if it returns true. -/
def acceptedCall (s : Sys σ) : Event ε → List SetCall
  | .set call => if (call.result settings s.slaves).accepted then [call] else []
  | _ => []

/-- The set calls of a run from `s` that return true, newest first. -/
def acceptedCalls (s : Sys σ) : List (Event ε) → List SetCall
  | [] => []
  | e :: evs => acceptedCalls (step D settings s e) evs ++ acceptedCall settings s e

/-- The slot a call is for: its priority, or 16 if that is not one of 1 to 16. -/
def SetCall.slotNumber (call : SetCall) : Nat :=
  if 1 ≤ call.priority ∧ call.priority ≤ 16 then call.priority else 16

/-- The newest of the calls on a slot of an output. -/
def lastCall (calls : List SetCall) (i : SlaveIndex) (k : Output)
    (slot : SlotIndex) : Option SetCall :=
  calls.find? fun call => Names settings call.property i k.kind ∧ call.slotNumber = slot + 1

/-- What it left there: nothing, if it relinquishes or there is none. -/
def commanded (calls : List SetCall) (i : SlaveIndex) (k : Output) (slot : SlotIndex) : Option ℚ :=
  (lastCall settings calls i k slot).bind SetCall.value

theorem acceptedCalls_concat (s : Sys σ) (evs : List (Event ε)) (e : Event ε) :
    acceptedCalls D settings s (evs ++ [e]) =
      acceptedCall settings (run D settings s evs) e ++ acceptedCalls D settings s evs := by
  induction evs generalizing s with
  | nil => simp [acceptedCalls, run]
  | cons e' evs ih =>
    rw [List.cons_append, acceptedCalls, ih, List.append_assoc]
    rfl

theorem accepted_of_mem {s : Sys σ} {evs : List (Event ε)} {call : SetCall}
    (h : call ∈ acceptedCalls D settings s evs) :
    (commandOf settings call).isSome := by
  induction evs generalizing s with
  | nil => cases h
  | cons e evs ih =>
    rcases List.mem_append.mp h with h | h
    · exact ih h
    · cases e with
      | set call' =>
        unfold acceptedCall at h
        dsimp only at h
        split at h
        · rename_i haccepted
          obtain rfl := List.mem_singleton.mp h
          rwa [← (set_result settings s.slaves call).1]
        · cases h
      | pass now => cases h
      | outside e => cases h

/-- The content of a slot. -/
def Commandable.slot (command : Commandable) (slot : SlotIndex) : Option ℚ :=
  if command.isSet slot then some (command.value slot) else none

@[simp] theorem setSlot_slot (command : Commandable) (slot : SlotIndex) (value : Option ℚ) :
    (command.setSlot slot value).slot slot = value := by
  cases value <;> simp [Commandable.setSlot, Commandable.slot]

theorem setSlot_slot_ne (command : Commandable) {slot slot' : SlotIndex} (value : Option ℚ)
    (h : slot' ≠ slot) :
    (command.setSlot slot value).slot slot' = command.slot slot' := by
  cases value <;> simp [Commandable.setSlot, Commandable.slot, h]

@[simp] theorem setSlot_relinquishDefault (command : Commandable) (slot : SlotIndex)
    (value : Option ℚ) :
    (command.setSlot slot value).relinquishDefault = command.relinquishDefault := by
  cases value <;> rfl

theorem apply_slot (c : Command) (slaves : SlaveIndex → GatewayedSlave)
    (i : SlaveIndex) (k : Output) (slot : SlotIndex) :
    ((c.apply slaves i).command k).slot slot =
      if c.slave = i ∧ c.output = k ∧ c.slot = slot then c.value
          else ((slaves i).command k).slot slot := by
  unfold Command.apply
  by_cases hi : c.slave = i
  · subst hi
    rw [Function.update_self]
    by_cases hk : c.output = k
    · subst hk
      rw [setCommand_command]
      by_cases hs : c.slot = slot
      · subst hs
        rw [setSlot_slot, if_pos ⟨rfl, rfl, rfl⟩]
      · rw [setSlot_slot_ne _ _ (Ne.symm hs), if_neg fun h => hs h.2.2]
    · rw [setCommand_command_ne _ _ (Ne.symm hk), if_neg fun h => hk h.2.1]
  · rw [Function.update_of_ne (Ne.symm hi), if_neg fun h => hi h.1]

theorem apply_relinquishDefault (c : Command) (slaves : SlaveIndex → GatewayedSlave)
    (i : SlaveIndex) (k : Output) :
    ((c.apply slaves i).command k).relinquishDefault =
      ((slaves i).command k).relinquishDefault := by
  unfold Command.apply
  by_cases hi : i = c.slave
  · subst hi
    rw [Function.update_self]
    by_cases hk : k = c.output
    · subst hk
      rw [setCommand_command, setSlot_relinquishDefault]
    · rw [setCommand_command_ne _ _ hk]
  · rw [Function.update_of_ne hi]

/-- A command is on the slot its call is for, of the output its call names. -/
theorem commandOf_slot {call : SetCall} {c : Command} (h : commandOf settings call = some c)
    (i : SlaveIndex) (k : Output) (slot : SlotIndex) :
    (Names settings call.property i k.kind ∧ call.slotNumber = slot + 1) ↔
    c.slave = i ∧ c.output = k ∧ c.slot = slot := by
  obtain ⟨hn, -, -, -, hslot, -⟩ := (commandOf_iff settings call c).mp h
  have hnumber : (c.slot : Nat) + 1 = call.slotNumber := by
    rw [hslot]
    exact slotIndex_succ call.priority
  constructor
  · intro hcall
    obtain ⟨hi, hk⟩ := names_unique settings hn hcall.1
    refine ⟨hi, kind_inj hk, Fin.ext ?_⟩
    omega
  · intro hcommand
    obtain ⟨rfl, rfl, rfl⟩ := hcommand
    exact ⟨hn, hnumber.symm⟩

theorem commanded_cons {call : SetCall} {c : Command} (h : commandOf settings call = some c)
    (calls : List SetCall) (i : SlaveIndex) (k : Output) (slot : SlotIndex) :
    commanded settings (call :: calls) i k slot =
      if c.slave = i ∧ c.output = k ∧ c.slot = slot then c.value
          else commanded settings calls i k slot := by
  have hvalue := ((commandOf_iff settings call c).mp h).2.2.2.2.2
  unfold commanded lastCall
  rw [List.find?_cons]
  by_cases hslot : c.slave = i ∧ c.output = k ∧ c.slot = slot
  · rw [if_pos hslot, decide_eq_true ((commandOf_slot settings h i k slot).mpr hslot)]
    exact hvalue.symm
  · rw [if_neg hslot, decide_eq_false fun hcall =>
      hslot ((commandOf_slot settings h i k slot).mp hcall)]

theorem pass_command (now : Nat) (s : Sys σ) (i : SlaveIndex) (k : Output) :
    ((serviceForeignBus D settings now s).slaves i).command k = (s.slaves i).command k :=
  pass_keeps D settings (P := fun t => (t.slaves i).command k = (s.slaves i).command k)
    (fun t c h => (exec_command D settings c i k t).trans h) now rfl

/-- Every slot holds what the newest accepted call on it left there, and the relinquish
    defaults stay. -/
theorem run_slot (bus : σ) (evs : List (Event ε)) (i : SlaveIndex) (k : Output) :
    let command := ((run D settings (start bus) evs).slaves i).command k
    (∀ slot, command.slot slot =
      commanded settings (acceptedCalls D settings (start bus) evs) i k slot) ∧
      command.relinquishDefault = ((initialSlave i).command k).relinquishDefault := by
  induction evs using List.reverseRecOn with
  | nil => exact ⟨fun slot => by cases k <;> rfl, rfl⟩
  | append_singleton evs e ih =>
    obtain ⟨ih1, ih2⟩ := ih
    rw [run_concat, acceptedCalls_concat]
    cases e with
    | outside e => exact ⟨ih1, ih2⟩
    | pass now =>
      simp only [step, pass_command]
      exact ⟨ih1, ih2⟩
    | set call =>
      obtain ⟨haccepted, hslaves⟩ :=
        set_result settings (run D settings (start bus) evs).slaves call
      simp only [step, hslaves, acceptedCall, haccepted]
      cases hc : commandOf settings call with
      | none => exact ⟨ih1, ih2⟩
      | some c =>
        refine ⟨fun slot => ?_, (apply_relinquishDefault c _ i k).trans ih2⟩
        rw [applyCommand, apply_slot, Option.isSome_some, if_pos rfl, List.singleton_append,
          commanded_cons settings hc]
        split
        · rfl
        · exact ih1 slot

/-- What an accepted call left in a slot is a value the output's point can hold. -/
theorem commanded_valid {s : Sys σ} {evs : List (Event ε)} {i : SlaveIndex} {k : Output}
    {slot : SlotIndex} {v : ℚ}
    (h : commanded settings (acceptedCalls D settings s evs) i k slot = some v) :
    ValidValue k v := by
  obtain ⟨call, hcall, hv⟩ := Option.bind_eq_some_iff.mp h
  obtain ⟨c, hc⟩ :=
    Option.isSome_iff_exists.mp (accepted_of_mem D settings (List.mem_of_find?_eq_some hcall))
  have hslot : Names settings call.property i k.kind ∧ call.slotNumber = slot + 1 := by
    simpa using List.find?_some hcall
  obtain ⟨-, hk, -⟩ := (commandOf_slot settings hc i k slot).mp hslot
  have hvalue := ((commandOf_iff settings call c).mp hc).2.2.2.2.2
  exact hk ▸ commandOf_valid settings hc v (hvalue.trans hv)

/-- Every output starts with a relinquish default its point can hold. -/
theorem relinquishDefault_valid (i : SlaveIndex) (k : Output) :
    ValidValue k ((initialSlave i).command k).relinquishDefault := by
  cases k with
  | setpoint => match i with
    | 0 | 1 | 2 => exact ⟨by decide +kernel, by decide +kernel⟩
  | enable => match i with
    | 0 | 1 => exact Or.inr rfl
    | 2 => exact Or.inl rfl

theorem winningValue_valid {k : Output} {command : Commandable}
    (hslot : ∀ slot v, command.slot slot = some v → ValidValue k v)
    (hdefault : ValidValue k command.relinquishDefault) : ValidValue k (winningValue command) := by
  unfold winningValue
  cases hf : (List.finRange 16).find? (fun slot => command.isSet slot) with
  | none => exact hdefault
  | some slot =>
    have hset : command.isSet slot = true := List.find?_some hf
    refine hslot slot _ ?_
    unfold Commandable.slot
    rw [if_pos hset]

/-! ## What the callbacks answer -/

/-- Element `slot` of the Priority_Array of the object `p` names. -/
def priorityArray (p : PropertyReference) (slot : SlotIndex) : PropertyReference :=
  { p with
    propertyIdentifier := PROPERTY_IDENTIFIER_PRIORITY_ARRAY
    useArrayIndex := true
    propertyArrayIndex := slot + 1 }

def relinquishDefaultOf (p : PropertyReference) : PropertyReference :=
  { p with propertyIdentifier := PROPERTY_IDENTIFIER_RELINQUISH_DEFAULT }

/-- The value callback of an output: `GetPropertyReal` for an Analog Output,
    `GetPropertyEnumerated` for a Binary Output. -/
def valueAnswer (slaves : SlaveIndex → GatewayedSlave) (k : Output)
    (p : PropertyReference) : Option ℚ :=
  match k with
  | .setpoint => getPropertyReal settings slaves p
  | .enable => (getPropertyEnumerated settings slaves p).map (Nat.cast : Nat → ℚ)

/-- Present_Value as the stack resolves it from the answers: the first slot that is not
    NULL, or Relinquish_Default. -/
def presentValue (slaves : SlaveIndex → GatewayedSlave) (k : Output)
    (p : PropertyReference) : Option ℚ :=
  match (List.finRange 16).find? fun slot =>
      getPropertyBool settings slaves (priorityArray p slot) = some false with
  | some slot => valueAnswer settings slaves k (priorityArray p slot)
  | none => valueAnswer settings slaves k (relinquishDefaultOf p)

theorem readPrioritySlot_priorityArray (command : Commandable) (p : PropertyReference)
    (slot : SlotIndex) :
    readPrioritySlot command (priorityArray p slot) =
      some (command.isSet slot, command.value slot) := by
  unfold readPrioritySlot priorityArray
  have h := slot.isLt
  rw [dif_pos ⟨rfl, rfl, Nat.le_add_left .., h⟩]
  rfl

theorem readPrioritySlot_relinquishDefault (command : Commandable) (p : PropertyReference) :
    readPrioritySlot command (relinquishDefaultOf p) = none :=
  dif_neg fun h =>
    absurd (show PROPERTY_IDENTIFIER_RELINQUISH_DEFAULT = PROPERTY_IDENTIFIER_PRIORITY_ARRAY from
      h.1) (by decide)

theorem toUnsigned_natCast (n : Nat) : toUnsigned (n : ℚ) = n := by
  simp [toUnsigned, truncate]

variable {settings} {p : PropertyReference} {i : SlaveIndex} {k : Output}

theorem bool_answer (slaves : SlaveIndex → GatewayedSlave) (hn : Names settings p i k.kind)
    (slot : SlotIndex) :
    getPropertyBool settings slaves (priorityArray p slot) =
      some (((slaves i).command k).slot slot).isNone := by
  have hf : findCommandable settings (priorityArray p slot).deviceInstance
      (priorityArray p slot).objectType
      (priorityArray p slot).objectInstance = some (i, k) :=
        (findCommandable_iff settings p i k).mpr hn
  unfold getPropertyBool Commandable.slot
  simp only [hf, readPrioritySlot_priorityArray]
  cases ((slaves i).command k).isSet slot <;> rfl

/-- An element of the Priority_Array and Relinquish_Default are properties of the same object. -/
theorem found_slot {kind : PointKind} (hn : Names settings p i kind) (slot : SlotIndex) :
    findMappedPoint settings (priorityArray p slot).deviceInstance
      (priorityArray p slot).objectType (priorityArray p slot).objectInstance = some (i, kind) :=
  (findMappedPoint_iff settings p i kind).mpr hn

theorem found_relinquishDefault {kind : PointKind} (hn : Names settings p i kind) :
    findMappedPoint settings (relinquishDefaultOf p).deviceInstance
      (relinquishDefaultOf p).objectType (relinquishDefaultOf p).objectInstance = some (i, kind) :=
  (findMappedPoint_iff settings p i kind).mpr hn

theorem getPropertyReal_slot (slaves : SlaveIndex → GatewayedSlave)
    (hn : Names settings p i .setpoint) (slot : SlotIndex) :
    getPropertyReal settings slaves (priorityArray p slot) = (slaves i).setpoint.slot slot := by
  have hf := found_slot hn slot
  unfold getPropertyReal Commandable.slot
  simp only [hf, readPrioritySlot_priorityArray]
  rfl

theorem getPropertyReal_relinquishDefault (slaves : SlaveIndex → GatewayedSlave)
    (hn : Names settings p i .setpoint) :
    getPropertyReal settings slaves (relinquishDefaultOf p) =
      some (slaves i).setpoint.relinquishDefault := by
  have hf := found_relinquishDefault hn
  unfold getPropertyReal
  simp only [hf, readPrioritySlot_relinquishDefault]
  rfl

theorem getPropertyEnumerated_slot (slaves : SlaveIndex → GatewayedSlave)
    (hn : Names settings p i .enable) (slot : SlotIndex) :
    getPropertyEnumerated settings slaves (priorityArray p slot) =
      ((slaves i).enable.slot slot).map toUnsigned := by
  have hf := found_slot hn slot
  have hp : (priorityArray p slot).propertyIdentifier = PROPERTY_IDENTIFIER_PRIORITY_ARRAY := rfl
  unfold getPropertyEnumerated Commandable.slot
  simp only [hf, hp, readPrioritySlot_priorityArray]
  cases (slaves i).enable.isSet slot <;> rfl

theorem getPropertyEnumerated_relinquishDefault (slaves : SlaveIndex → GatewayedSlave)
    (hn : Names settings p i .enable) :
    getPropertyEnumerated settings slaves (relinquishDefaultOf p) =
      some (toUnsigned (slaves i).enable.relinquishDefault) := by
  have hf := found_relinquishDefault hn
  have hp : (relinquishDefaultOf p).propertyIdentifier = PROPERTY_IDENTIFIER_RELINQUISH_DEFAULT :=
    rfl
  unfold getPropertyEnumerated
  simp only [hf, hp, readPrioritySlot_relinquishDefault]
  rfl

/-- The value survives the casts of output `k`'s value callback. -/
def Castable (k : Output) (value : ℚ) : Prop :=
  match k with
  | .setpoint => True
  | .enable => (toUnsigned value : ℚ) = value

theorem ValidValue.castable {value : ℚ} (h : ValidValue k value) : Castable k value := by
  cases k with
  | setpoint => trivial
  | enable =>
    rcases h with rfl | rfl
    · exact congrArg Nat.cast (toUnsigned_natCast 0)
    · exact congrArg Nat.cast (toUnsigned_natCast 1)

theorem value_answer (slaves : SlaveIndex → GatewayedSlave) (hn : Names settings p i k.kind)
    (slot : SlotIndex) (hcast : ∀ v, ((slaves i).command k).slot slot = some v → Castable k v) :
    valueAnswer settings slaves k (priorityArray p slot) = ((slaves i).command k).slot slot := by
  cases k with
  | setpoint => exact getPropertyReal_slot slaves hn slot
  | enable =>
    show Option.map _ _ = (slaves i).enable.slot slot
    rw [getPropertyEnumerated_slot slaves hn slot, Option.map_map]
    cases hs : (slaves i).enable.slot slot with
    | none => rfl
    | some v => exact congrArg some (hcast v hs)

theorem relinquishDefault_answer (slaves : SlaveIndex → GatewayedSlave)
    (hn : Names settings p i k.kind) (hcast : Castable k ((slaves i).command k).relinquishDefault) :
    valueAnswer settings slaves k (relinquishDefaultOf p) =
      some ((slaves i).command k).relinquishDefault := by
  cases k with
  | setpoint => exact getPropertyReal_relinquishDefault slaves hn
  | enable =>
    show Option.map _ _ = _
    rw [getPropertyEnumerated_relinquishDefault slaves hn]
    exact congrArg some hcast

/-- The stack, from the answers, and the gateway, from the slots, resolve the same winner. -/
theorem presentValue_eq (slaves : SlaveIndex → GatewayedSlave) (hn : Names settings p i k.kind)
    (hslot : ∀ slot v, ((slaves i).command k).slot slot = some v → Castable k v)
    (hdefault : Castable k ((slaves i).command k).relinquishDefault) :
    presentValue settings slaves k p = some (winningValue ((slaves i).command k)) := by
  unfold presentValue winningValue
  have hset : (fun slot =>
      decide (getPropertyBool settings slaves (priorityArray p slot) = some false)) =
      fun slot => ((slaves i).command k).isSet slot := by
    funext slot
    rw [bool_answer slaves hn slot, Commandable.slot]
    cases ((slaves i).command k).isSet slot <;> rfl
  rw [hset]
  cases hfind : (List.finRange 16).find? fun slot => ((slaves i).command k).isSet slot with
  | none => exact relinquishDefault_answer slaves hn hdefault
  | some slot =>
    dsimp only
    rw [value_answer slaves hn slot (hslot slot), Commandable.slot, if_pos (List.find?_some hfind)]

/-! ## What goes on the wire -/

/-- If the call starts a write, the value written is the winning value. -/
def SendsWinning (slaves : SlaveIndex → GatewayedSlave) : Act → Prop
  | .startWrite i k _ value word _ => value = winningValue ((slaves i).command k) ∧
      word = encode k value
  | _ => True

variable (settings)

theorem poll_sends (slaves : SlaveIndex → GatewayedSlave) (i : SlaveIndex) (now : Nat) (s : Sys σ) :
    ∃ acts, (servicePoll D settings i now s).log = acts ++ s.log ∧
      ∀ a ∈ acts, SendsWinning slaves a := by
  obtain ⟨acts, hlog, hpolls⟩ := poll_log D settings i now s
  refine ⟨acts, hlog, fun a ha => ?_⟩
  have hpoll := hpolls a ha
  -- A poll starts no write.
  cases a with
  | startWrite => cases hpoll
  | _ => trivial

theorem writeWinningValue_sends (slaves : SlaveIndex → GatewayedSlave) (i : SlaveIndex)
    (k : Output) (now : Nat)
    (s : Sys σ) (hcommand : (s.slaves i).command k = (slaves i).command k) :
    ∃ acts, (writeWinningValue D i k now s).log = acts ++ s.log ∧
      ∀ a ∈ acts, SendsWinning slaves a := by
  by_cases hdue : writeDue (s.slaves i) k now
  · rw [writeWinningValue_start D hdue rfl]
    exact ⟨[_], rfl, by simp [SendsWinning, hcommand]⟩
  · rw [writeWinningValue_skip D hdue]
    exact ⟨[], rfl, by simp⟩

theorem writeThrough_sends (slaves : SlaveIndex → GatewayedSlave) (i : SlaveIndex)
    (k : Output) (now : Nat)
    (s : Sys σ) (hcommand : (s.slaves i).command k = (slaves i).command k) :
    ∃ acts, (serviceWriteThrough D i k now s).log = acts ++ s.log ∧
      ∀ a ∈ acts, SendsWinning slaves a := by
  have answered : ∀ (t : Sys σ) (o : Outcome) (id : Nat),
    t.log = .checkWrite i k now id o :: s.log →
      (t.slaves i).command k = (slaves i).command k →
      ∃ acts, (writeWinningValue D i k now t).log = acts ++ s.log ∧
        ∀ a ∈ acts, SendsWinning slaves a := by
    intro t o id hlog ht
    obtain ⟨acts, hacts, hsends⟩ := writeWinningValue_sends D slaves i k now t ht
    refine ⟨acts ++ [.checkWrite i k now id o], by rw [hacts, hlog]; simp, ?_⟩
    simpa [or_imp, forall_and, SendsWinning] using hsends
  by_cases hid : ((s.slaves i).link k).transactionId = 0
  · rw [serviceWriteThrough_free D hid]
    exact writeWinningValue_sends D slaves i k now s hcommand
  · rcases hr : D.checkTransaction ((s.slaves i).link k).transactionId s.bus with ⟨⟨o, v⟩, bus⟩
    cases o with
    | pending =>
      rw [serviceWriteThrough_pending D hid hr]
      exact ⟨[_], rfl, by simp [SendsWinning]⟩
    | done =>
      rw [serviceWriteThrough_done D hid hr]
      exact answered _ .done _ rfl (by rw [called_slaves, setLink_slaves_command, hcommand])
    | timeout =>
      rw [serviceWriteThrough_timeout D hid hr]
      exact answered _ .timeout _ rfl (by rw [called_slaves, setLink_slaves_command, hcommand])

/-- A call of a pass sends no value but the winning one. -/
theorem exec_sends (slaves : SlaveIndex → GatewayedSlave) (c : Call) (s : Sys σ)
    (hcommand : ∀ i k, (s.slaves i).command k = (slaves i).command k) :
    ∃ acts, (exec D settings s c).log = acts ++ s.log ∧ ∀ a ∈ acts, SendsWinning slaves a := by
  cases c with
  | service now => exact ⟨[], rfl, by simp⟩
  | poll i now => exact poll_sends D settings slaves i now s
  | writeThrough i k now => exact writeThrough_sends D slaves i k now s (hcommand i k)

/-- Every write a pass starts carries the winning value, encoded. -/
theorem pass_sends (now : Nat) (s : Sys σ) :
    ∃ acts, (serviceForeignBus D settings now s).log = acts ++ s.log ∧
      ∀ a ∈ acts, SendsWinning s.slaves a := by
  suffices h : (∀ i k, ((serviceForeignBus D settings now s).slaves i).command k =
    (s.slaves i).command k) ∧
      ∃ acts, (serviceForeignBus D settings now s).log = acts ++ s.log ∧
        ∀ a ∈ acts, SendsWinning s.slaves a from h.2
  refine pass_keeps D settings (P := fun t =>
    (∀ i k, (t.slaves i).command k = (s.slaves i).command k) ∧
    ∃ acts, t.log = acts ++ s.log ∧ ∀ a ∈ acts, SendsWinning s.slaves a) ?_ now
      ⟨fun _ _ => rfl, [], rfl, by simp⟩
  rintro t c ⟨hcommand, acts, hacts, hsends⟩
  refine ⟨fun i k => (exec_command D settings c i k t).trans (hcommand i k), ?_⟩
  obtain ⟨new, hlog, hnew⟩ := exec_sends D settings s.slaves c t hcommand
  refine ⟨new ++ acts, by rw [hlog, hacts, List.append_assoc], fun a ha => ?_⟩
  rcases List.mem_append.mp ha with ha | ha
  · exact hnew a ha
  · exact hsends a ha

/-! ## The main result -/

theorem run_castable (bus : σ) (evs : List (Event ε)) (i : SlaveIndex) (k : Output) :
    let command := ((run D settings (start bus) evs).slaves i).command k
    (∀ slot v, command.slot slot = some v → Castable k v) ∧
      Castable k command.relinquishDefault := by
  obtain ⟨hslot, hdefault⟩ := run_slot D settings bus evs i k
  refine ⟨fun slot v h => (commanded_valid D settings ((hslot slot).symm.trans h)).castable, ?_⟩
  rw [hdefault]
  exact (relinquishDefault_valid i k).castable

/-- In every run over every driver:
    - a set call that returns false changes nothing; one that returns true writes or
      relinquishes the slot of its priority (16 for a priority that is not one of 1 to 16), of
      the output its address names, and nothing else;
    - the callbacks answer for each slot what the newest call on it that returned true left
      there;
    - the Present_Value resolved from the answers is the winning value, and each write a
      pass starts carries it. -/
theorem priority_arrays (bus : σ) (evs : List (Event ε)) :
    let s := run D settings (start bus) evs
    let calls := acceptedCalls D settings (start bus) evs
    (∀ call : SetCall,
      if (call.result settings s.slaves).accepted then
        ∃ c : Command, Names settings call.property c.slave c.output.kind ∧
          (c.slot : Nat) + 1 =
            (if 1 ≤ call.priority ∧ call.priority ≤ 16 then call.priority else 16) ∧
          c.value = call.value ∧ step D settings s (.set call) =
            { s with slaves := c.apply s.slaves }
      else step D settings s (.set call) = s) ∧
    (∀ p i k slot, Names settings p i k.kind →
      getPropertyBool settings s.slaves (priorityArray p slot) =
        some (commanded settings calls i k slot).isNone ∧
        valueAnswer settings s.slaves k (priorityArray p slot) =
          commanded settings calls i k slot) ∧
    (∀ p i k, Names settings p i k.kind →
      presentValue settings s.slaves k p = some (winningValue ((s.slaves i).command k))) ∧
    (∀ now, ∃ acts, (step D settings s (.pass now)).log = acts ++ s.log ∧ ∀ a ∈ acts,
      SendsWinning s.slaves a) := by
  intro s calls
  refine ⟨fun call => ?_, fun p i k slot hn => ?_, fun p i k hn => ?_,
    fun now => pass_sends D settings now s⟩
  · obtain ⟨haccepted, hslaves⟩ := set_result settings s.slaves call
    rw [haccepted, step, hslaves]
    cases hc : commandOf settings call with
    | none => rfl
    | some c =>
      obtain ⟨hn, -, -, -, hslot, hvalue⟩ := (commandOf_iff settings call c).mp hc
      have hnumber := slotIndex_succ call.priority
      rw [← hslot] at hnumber
      exact ⟨c, hn, hnumber, hvalue, rfl⟩
  · obtain ⟨hslot, -⟩ := run_slot D settings bus evs i k
    obtain ⟨hcast, -⟩ := run_castable D settings bus evs i k
    exact ⟨by rw [bool_answer s.slaves hn slot, hslot slot],
      by rw [value_answer s.slaves hn slot (hcast slot), hslot slot]⟩
  · obtain ⟨hcast, hdefault⟩ := run_castable D settings bus evs i k
    exact presentValue_eq s.slaves hn hcast hdefault

end BacnetGateway.Gateway
