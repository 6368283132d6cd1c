/-
  BacnetGateway.Gateway.Steps — what `ServicePoll` and `ServiceWriteThrough` do, case by
  case.

  Each lemma gives the state after the call in one branch of the source; together they
  say everything the two functions can do, so nothing later unfolds them. The record
  updates of the branches have names (`pollAnswered`, `pollFailed`, `writeDone`,
  `writeFailed`, `writeStarted`).
-/

import BacnetGateway.Gateway.Service

namespace BacnetGateway.Gateway

open Seam

variable {σ ε : Type} (D : Driver σ ε) (settings : Settings)

/-! ## The records -/

/-- The record after an answered poll. -/
def pollAnswered (slave : GatewayedSlave) (registerValue : Word) : GatewayedSlave :=
  { slave with
    pollTransactionId := 0
    measuredTemperature := Lib.binary64.round (decodeTemperature registerValue)
    consecutiveFailedPolls := 0
    online := true }

/-- The record after an unanswered poll. -/
def pollFailed (slave : GatewayedSlave) : GatewayedSlave :=
  { slave with
    pollTransactionId := 0
    consecutiveFailedPolls := countFailure slave.consecutiveFailedPolls }

def pollStarted (slave : GatewayedSlave) (nextPollAt transactionId : Nat) : GatewayedSlave :=
  { slave with nextPollAt := nextPollAt, pollTransactionId := transactionId }

def writeDone (link : WriteThrough) : WriteThrough :=
  { link with transactionId := 0, written := true, lastWrittenValue := link.inFlightValue }

def writeFailed (link : WriteThrough) (retryAt : Nat) : WriteThrough :=
  { link with transactionId := 0, retryAt := retryAt }

def writeStarted (link : WriteThrough) (transactionId : Nat) (value : ℚ) : WriteThrough :=
  { link with transactionId := transactionId, inFlightValue := value }

/-- Does one more unanswered poll declare the slave offline? -/
def declaresOffline (slave : GatewayedSlave) : Prop :=
  slave.online = true ∧ OFFLINE_AFTER_FAILED_POLLS ≤ countFailure slave.consecutiveFailedPolls

instance (slave : GatewayedSlave) : Decidable (declaresOffline slave) :=
  inferInstanceAs (Decidable (_ ∧ _))

/-- Is the winning value of output `k` to be written at `now`? -/
def writeDue (slave : GatewayedSlave) (k : Output) (now : Nat) : Prop :=
  slave.online = true ∧ (slave.link k).retryAt ≤ now ∧
    ¬ ((slave.link k).written = true ∧ (slave.link k).lastWrittenValue =
      winningValue (slave.command k))

instance (slave : GatewayedSlave) (k : Output) (now : Nat) : Decidable (writeDue slave k now) :=
  inferInstanceAs (Decidable (_ ∧ _))

/-- The slave after an unanswered poll, declared offline or not. -/
def afterTimeout (slave : GatewayedSlave) : GatewayedSlave :=
  if declaresOffline slave then markOffline (pollFailed slave) else pollFailed slave

/-! ## The stack calls -/

/-- The stack calls of `SlaveWentOffline`, newest first. -/
def offlineCalls (mode : GatewayMode) (i : SlaveIndex) : List Act :=
  match mode with
  | .virtualNetwork =>
    [.setServiceEnabled i SERVICE_WHO_HAS false, .setServiceEnabled i SERVICE_WHO_IS false]
  | .embeddedObjects => []

/-- The stack calls of `SlaveCameBack`, newest first. -/
def onlineCalls (mode : GatewayMode) (i : SlaveIndex) : List Act :=
  match mode with
  | .virtualNetwork =>
    [.sendIAm i, .setServiceEnabled i SERVICE_WHO_HAS true,
      .setServiceEnabled i SERVICE_WHO_IS true]
  | .embeddedObjects => []

/-- The stack calls of an answered poll. -/
def doneCalls (mode : GatewayMode) (i : SlaveIndex) (slave : GatewayedSlave) : List Act :=
  if slave.online then [] else onlineCalls mode i

/-- The stack calls of an unanswered poll. -/
def timeoutCalls (mode : GatewayMode) (i : SlaveIndex) (slave : GatewayedSlave) : List Act :=
  if declaresOffline slave then offlineCalls mode i else []

theorem slaveWentOffline_eq (i : SlaveIndex) (s : Sys σ) :
    slaveWentOffline settings i s =
      { s.setSlave i (markOffline (s.slaves i)) with
        log := offlineCalls settings.mode i ++ s.log } := by
  unfold slaveWentOffline offlineCalls
  cases settings.mode <;> rfl

theorem slaveCameBack_eq (i : SlaveIndex) (s : Sys σ) :
    slaveCameBack settings i s =
      { s.setSlave i { s.slaves i with online := true } with
        log := onlineCalls settings.mode i ++ s.log } := by
  unfold slaveCameBack onlineCalls
  cases settings.mode <;> rfl

/-! ## Updates -/

@[simp] theorem setSlave_self (s : Sys σ) (i : SlaveIndex) (slave : GatewayedSlave) :
    (s.setSlave i slave).slaves i = slave := Function.update_self ..

theorem setSlave_ne (s : Sys σ) {i j : SlaveIndex} (slave : GatewayedSlave) (h : j ≠ i) :
    (s.setSlave i slave).slaves j = s.slaves j := Function.update_of_ne h ..

@[simp] theorem setSlave_bus (s : Sys σ) (i : SlaveIndex) (slave : GatewayedSlave) :
    (s.setSlave i slave).bus = s.bus := rfl
@[simp] theorem setSlave_log (s : Sys σ) (i : SlaveIndex) (slave : GatewayedSlave) :
    (s.setSlave i slave).log = s.log := rfl
@[simp] theorem called_slaves (s : Sys σ) (bus : σ) (act : Act) :
    (s.called bus act).slaves = s.slaves := rfl
@[simp] theorem called_bus (s : Sys σ) (bus : σ) (act : Act) : (s.called bus act).bus = bus := rfl
@[simp] theorem called_log (s : Sys σ) (bus : σ) (act : Act) :
    (s.called bus act).log = act :: s.log := rfl

@[simp] theorem setSlave_setSlave (s : Sys σ) (i : SlaveIndex) (a b : GatewayedSlave) :
    (s.setSlave i a).setSlave i b = s.setSlave i b := by
  simp [Sys.setSlave]

/-! ## `ServicePoll` -/

theorem servicePoll_idle {i : SlaveIndex} {now : Nat} {s : Sys σ}
    (hid : (s.slaves i).pollTransactionId = 0)
    (hdue : now < (s.slaves i).nextPollAt) : servicePoll D settings i now s = s := by
  unfold servicePoll
  rw [if_pos hid, if_pos hdue]

theorem servicePoll_start {i : SlaveIndex} {now : Nat} {s : Sys σ}
    (hid : (s.slaves i).pollTransactionId = 0)
    (hdue : (s.slaves i).nextPollAt ≤ now) {id : Nat} {bus : σ}
    (hr : D.startRead (unitId i) .inputRegister pointAddress s.bus = (id, bus)) :
    servicePoll D settings i now s =
      (s.setSlave i (pollStarted (s.slaves i) (now + pollPeriodMilliseconds i) id)).called bus
        (.startRead i now id) := by
  unfold servicePoll
  rw [if_pos hid, if_neg (Nat.not_lt.mpr hdue)]
  simp only [hr]
  rfl

theorem servicePoll_pending {i : SlaveIndex} {now : Nat} {s : Sys σ}
    (hid : (s.slaves i).pollTransactionId ≠ 0) {v : Word} {bus : σ}
    (hr : D.checkTransaction (s.slaves i).pollTransactionId s.bus = (⟨.pending, v⟩, bus)) :
    servicePoll D settings i now s =
      s.called bus (.checkRead i now (s.slaves i).pollTransactionId .pending v) := by
  unfold servicePoll
  rw [if_neg hid]
  simp only [hr]

theorem servicePoll_done {i : SlaveIndex} {now : Nat} {s : Sys σ}
    (hid : (s.slaves i).pollTransactionId ≠ 0) {v : Word} {bus : σ}
    (hr : D.checkTransaction (s.slaves i).pollTransactionId s.bus = (⟨.done, v⟩, bus)) :
    servicePoll D settings i now s =
      ⟨Function.update s.slaves i (pollAnswered (s.slaves i) v), bus,
        doneCalls settings.mode i (s.slaves i) ++
        .checkRead i now (s.slaves i).pollTransactionId .done v :: s.log⟩ := by
  unfold servicePoll doneCalls
  rw [if_neg hid]
  simp only [hr]
  cases hon : (s.slaves i).online with
  | true => simp [Sys.setSlave, Sys.called, pollAnswered]
  | false => simp [slaveCameBack_eq, Sys.setSlave, Sys.called, pollAnswered]

theorem servicePoll_timeout {i : SlaveIndex} {now : Nat} {s : Sys σ}
    (hid : (s.slaves i).pollTransactionId ≠ 0) {v : Word} {bus : σ}
    (hr : D.checkTransaction (s.slaves i).pollTransactionId s.bus = (⟨.timeout, v⟩, bus)) :
    servicePoll D settings i now s =
      ⟨Function.update s.slaves i (afterTimeout (s.slaves i)), bus,
        timeoutCalls settings.mode i (s.slaves i) ++
        .checkRead i now (s.slaves i).pollTransactionId .timeout v :: s.log⟩ := by
  unfold servicePoll timeoutCalls afterTimeout
  rw [if_neg hid]
  simp only [hr]
  by_cases hd : declaresOffline (s.slaves i)
  · rw [if_pos hd, if_pos hd, if_pos (show (s.slaves i).online = true ∧ _ from hd)]
    simp [slaveWentOffline_eq, Sys.setSlave, Sys.called, pollFailed]
  · rw [if_neg hd, if_neg hd, if_neg (show ¬ ((s.slaves i).online = true ∧ _) from hd)]
    rfl

/-! ## `ServiceWriteThrough` -/

theorem writeWinningValue_skip {i : SlaveIndex} {k : Output} {now : Nat} {s : Sys σ}
    (h : ¬ writeDue (s.slaves i) k now) : writeWinningValue D i k now s = s := by
  unfold writeWinningValue
  rw [if_pos]
  by_cases hon : (s.slaves i).online = true
  · by_cases hr : now < ((s.slaves i).link k).retryAt
    · exact Or.inr (Or.inl hr)
    · exact Or.inr (Or.inr (Classical.not_not.mp fun hw => h ⟨hon, Nat.le_of_not_lt hr, hw⟩))
  · exact Or.inl (by simpa using hon)

theorem writeWinningValue_start {i : SlaveIndex} {k : Output} {now : Nat} {s : Sys σ}
    (h : writeDue (s.slaves i) k now) {id : Nat} {bus : σ}
    (hr : D.startWrite (unitId i) k.table pointAddress
      (encode k (winningValue ((s.slaves i).command k))) s.bus = (id, bus)) :
    writeWinningValue D i k now s =
      (s.setSlave i ((s.slaves i).setLink k
        (writeStarted ((s.slaves i).link k) id (winningValue ((s.slaves i).command k))))).called bus
        (.startWrite i k now (winningValue ((s.slaves i).command k))
          (encode k (winningValue ((s.slaves i).command k))) id) := by
  unfold writeWinningValue
  rw [if_neg]
  · simp only [hr]
    rfl
  · obtain ⟨h1, h2, h3⟩ := h
    rintro (h | h | h)
    · rw [h1] at h; cases h
    · omega
    · exact h3 h

theorem serviceWriteThrough_free {i : SlaveIndex} {k : Output} {now : Nat} {s : Sys σ}
    (hid : ((s.slaves i).link k).transactionId = 0) :
    serviceWriteThrough D i k now s = writeWinningValue D i k now s := by
  unfold serviceWriteThrough
  rw [if_neg (not_not.mpr hid)]

theorem serviceWriteThrough_pending {i : SlaveIndex} {k : Output} {now : Nat} {s : Sys σ}
    (hid : ((s.slaves i).link k).transactionId ≠ 0) {v : Word} {bus : σ}
    (hr : D.checkTransaction ((s.slaves i).link k).transactionId s.bus = (⟨.pending, v⟩, bus)) :
    serviceWriteThrough D i k now s =
      s.called bus (.checkWrite i k now ((s.slaves i).link k).transactionId .pending) := by
  unfold serviceWriteThrough
  rw [if_pos hid]
  simp only [hr]

theorem serviceWriteThrough_done {i : SlaveIndex} {k : Output} {now : Nat} {s : Sys σ}
    (hid : ((s.slaves i).link k).transactionId ≠ 0) {v : Word} {bus : σ}
    (hr : D.checkTransaction ((s.slaves i).link k).transactionId s.bus = (⟨.done, v⟩, bus)) :
    serviceWriteThrough D i k now s =
      writeWinningValue D i k now
        ((s.setSlave i ((s.slaves i).setLink k (writeDone ((s.slaves i).link k)))).called bus
          (.checkWrite i k now ((s.slaves i).link k).transactionId .done)) := by
  unfold serviceWriteThrough
  rw [if_pos hid]
  simp only [hr]
  rfl

theorem serviceWriteThrough_timeout {i : SlaveIndex} {k : Output} {now : Nat} {s : Sys σ}
    (hid : ((s.slaves i).link k).transactionId ≠ 0) {v : Word} {bus : σ}
    (hr : D.checkTransaction ((s.slaves i).link k).transactionId s.bus = (⟨.timeout, v⟩, bus)) :
    serviceWriteThrough D i k now s =
      writeWinningValue D i k now
        ((s.setSlave i ((s.slaves i).setLink k
          (writeFailed ((s.slaves i).link k) (now + pollPeriodMilliseconds i)))).called bus
          (.checkWrite i k now ((s.slaves i).link k).transactionId .timeout)) := by
  unfold serviceWriteThrough
  rw [if_pos hid]
  simp only [hr]
  rfl

end BacnetGateway.Gateway
