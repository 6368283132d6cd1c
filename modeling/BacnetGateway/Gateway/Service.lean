/-
  BacnetGateway.Gateway.Service — polling, write-through and offline detection
  (`main.cpp`, section 3), and the runs of the whole gateway over a driver.

  `Sys` holds the process's state: `g_slaves`, the driver's state, and a log, newest
  first, of every call the gateway makes on the seam and on the BACnet stack while it
  serves the foreign bus. A C++ reference into `g_slaves` is an index: `servicePoll D
  settings i now` is `ServicePoll(g_slaves[i], now)`.

  `Event` is what the main loop and the simulation's back door interleave: the set
  callbacks, `ServiceForeignBus` passes, and what happens on the far side of the seam. A
  run is any list of events. The clock of a pass is a millisecond count of
  `steady_clock`, a signed 64-bit number, so adding a poll period to it does not wrap.

  The log lines for the operator (`printf`) are left out. The stack's
  `BACnetStack_SetServiceEnabled` and `BACnetStack_SendIAm` are taken to succeed: their
  failure only prints an error.
-/

import BacnetGateway.Gateway.Callbacks

namespace BacnetGateway.Gateway

open Seam

def SERVICE_WHO_HAS : Nat := 33
def SERVICE_WHO_IS : Nat := 34

/-- A call the gateway makes, for slave `i`. -/
inductive Act where
  | startRead (i : SlaveIndex) (now transactionId : Nat)
  | startWrite (i : SlaveIndex) (k : Output) (now : Nat) (value : ℚ) (word : Word)
      (transactionId : Nat)
  | checkRead (i : SlaveIndex) (now transactionId : Nat) (outcome : Outcome) (registerValue : Word)
  | checkWrite (i : SlaveIndex) (k : Output) (now transactionId : Nat) (outcome : Outcome)
  /-- `BACnetStack_SetServiceEnabled` on the slave's virtual device. -/
  | setServiceEnabled (i : SlaveIndex) (service : Nat) (enabled : Bool)
  /-- `SendIAm` for the slave's virtual device. -/
  | sendIAm (i : SlaveIndex)
  deriving DecidableEq

def Act.slave : Act → SlaveIndex
  | .startRead i .. | .startWrite i .. | .checkRead i .. | .checkWrite i .. | .setServiceEnabled i
      .. | .sendIAm i => i

@[simp] theorem startRead_slave (i : SlaveIndex) (now id : Nat) :
    (Act.startRead i now id).slave = i := rfl
@[simp] theorem startWrite_slave (i : SlaveIndex) (k : Output) (now : Nat) (v : ℚ)
    (w : Word) (id : Nat) :
    (Act.startWrite i k now v w id).slave = i := rfl
@[simp] theorem checkRead_slave (i : SlaveIndex) (now id : Nat) (o : Outcome) (v : Word) :
    (Act.checkRead i now id o v).slave = i := rfl
@[simp] theorem checkWrite_slave (i : SlaveIndex) (k : Output) (now id : Nat) (o : Outcome) :
    (Act.checkWrite i k now id o).slave = i := rfl
@[simp] theorem setServiceEnabled_slave (i : SlaveIndex) (service : Nat) (b : Bool) :
    (Act.setServiceEnabled i service b).slave = i := rfl
@[simp] theorem sendIAm_slave (i : SlaveIndex) : (Act.sendIAm i).slave = i := rfl

/-- The calls made for slave `i`. -/
def own (i : SlaveIndex) (log : List Act) : List Act := log.filter (·.slave = i)

@[simp] theorem own_nil (i : SlaveIndex) : own i [] = [] := rfl

@[simp] theorem own_cons (i : SlaveIndex) (a : Act) (log : List Act) :
    own i (a :: log) = if a.slave = i then a :: own i log else own i log := by
  unfold own
  rw [List.filter_cons]
  simp only [decide_eq_true_eq]

@[simp] theorem own_append (i : SlaveIndex) (l m : List Act) :
    own i (l ++ m) = own i l ++ own i m :=
  List.filter_append ..

structure Sys (σ : Type) where
  slaves : SlaveIndex → GatewayedSlave
  bus : σ
  /-- Newest first. -/
  log : List Act

variable {σ ε : Type}

def Sys.setSlave (s : Sys σ) (i : SlaveIndex) (slave : GatewayedSlave) : Sys σ :=
  { s with slaves := Function.update s.slaves i slave }

def Sys.record (s : Sys σ) (act : Act) : Sys σ := { s with log := act :: s.log }

/-- A call on the seam: the driver's state after it, and the log line. -/
def Sys.called (s : Sys σ) (bus : σ) (act : Act) : Sys σ :=
  { s with bus := bus, log := act :: s.log }

variable (D : Driver σ ε) (settings : Settings)

def setVirtualDeviceDiscoverable (i : SlaveIndex) (discoverable : Bool) (s : Sys σ) : Sys σ :=
  (s.record (.setServiceEnabled i SERVICE_WHO_IS discoverable)).record
    (.setServiceEnabled i SERVICE_WHO_HAS discoverable)

/-- Whatever was written may not have landed: it is written again once the slave is back. -/
def markOffline (slave : GatewayedSlave) : GatewayedSlave :=
  { slave with
    online := false
    setpointLink := { slave.setpointLink with written := false }
    enableLink := { slave.enableLink with written := false } }

def slaveWentOffline (i : SlaveIndex) (s : Sys σ) : Sys σ :=
  let s := s.setSlave i (markOffline (s.slaves i))
  match settings.mode with
  | .virtualNetwork => setVirtualDeviceDiscoverable i false s
  | .embeddedObjects => s

def slaveCameBack (i : SlaveIndex) (s : Sys σ) : Sys σ :=
  let s := s.setSlave i { s.slaves i with online := true }
  match settings.mode with
  | .virtualNetwork => (setVirtualDeviceDiscoverable i true s).record (.sendIAm i)
  | .embeddedObjects => s

/-- `++consecutiveFailedPolls`, a `uint32_t`. -/
def countFailure (failedPolls : Nat) : Nat := (failedPolls + 1) % 2 ^ 32

def servicePoll (i : SlaveIndex) (now : Nat) (s : Sys σ) : Sys σ :=
  let slave := s.slaves i
  if slave.pollTransactionId = 0 then
    if now < slave.nextPollAt then s
    else
      let r := D.startRead (unitId i) .inputRegister pointAddress s.bus
      (s.setSlave i { slave with
        nextPollAt := now + pollPeriodMilliseconds i
        pollTransactionId := r.1 }).called r.2 (.startRead i now r.1)
  else
    let r := D.checkTransaction slave.pollTransactionId s.bus
    let s := s.called r.2 (.checkRead i now slave.pollTransactionId r.1.outcome r.1.value)
    match r.1.outcome with
    | .pending => s
    | .done =>
      let s := s.setSlave i { slave with
        pollTransactionId := 0
        measuredTemperature := Lib.binary64.round (decodeTemperature r.1.value)
        consecutiveFailedPolls := 0 }
      if slave.online then s else slaveCameBack settings i s
    | .timeout =>
      let failedPolls := countFailure slave.consecutiveFailedPolls
      let s := s.setSlave i { slave with
        pollTransactionId := 0
        consecutiveFailedPolls := failedPolls }
      if slave.online = true ∧
        OFFLINE_AFTER_FAILED_POLLS ≤ failedPolls then slaveWentOffline settings i s else s

/-- `ServiceWriteThrough` from `winningValue` on, with no write in flight. -/
def writeWinningValue (i : SlaveIndex) (k : Output) (now : Nat) (s : Sys σ) : Sys σ :=
  let slave := s.slaves i
  let link := slave.link k
  let value := winningValue (slave.command k)
  if slave.online = false ∨ now < link.retryAt ∨
    (link.written = true ∧ link.lastWrittenValue = value) then s
  else
    let word := encode k value
    let r := D.startWrite (unitId i) k.table pointAddress word s.bus
    (s.setSlave i
      (slave.setLink k { link with transactionId := r.1, inFlightValue := value })).called r.2
      (.startWrite i k now value word r.1)

/-- Keep one output's foreign data point equal to the BACnet winning value. -/
def serviceWriteThrough (i : SlaveIndex) (k : Output) (now : Nat) (s : Sys σ) : Sys σ :=
  let slave := s.slaves i
  let link := slave.link k
  if link.transactionId ≠ 0 then
    let r := D.checkTransaction link.transactionId s.bus
    let s := s.called r.2 (.checkWrite i k now link.transactionId r.1.outcome)
    match r.1.outcome with
    | .pending => s
    | .done =>
      writeWinningValue D i k now (s.setSlave i (slave.setLink k { link with
        transactionId := 0
        written := true
        lastWrittenValue := link.inFlightValue }))
    | .timeout =>
      writeWinningValue D i k now (s.setSlave i (slave.setLink k { link with
        transactionId := 0
        retryAt := now + pollPeriodMilliseconds i }))
  else writeWinningValue D i k now s

def serviceForeignBus (now : Nat) (s : Sys σ) : Sys σ :=
  (List.finRange 3).foldl (fun s i =>
    let s := servicePoll D settings i now s
    let s := serviceWriteThrough D i .setpoint now s
    serviceWriteThrough D i .enable now s) { s with bus := D.service now s.bus }

/-! ## Runs -/

inductive Event (ε : Type) where
  | set (call : SetCall)
  /-- A pass of `ServiceForeignBus` at clock `now`. -/
  | pass (now : Nat)
  | outside (e : ε)

def step (s : Sys σ) : Event ε → Sys σ
  | .set call => { s with slaves := (call.result settings s.slaves).slaves }
  | .pass now => serviceForeignBus D settings now s
  | .outside e => { s with bus := D.outside e s.bus }

def run (s : Sys σ) (evs : List (Event ε)) : Sys σ := evs.foldl (step D settings) s

theorem run_concat (s : Sys σ) (evs : List (Event ε)) (e : Event ε) :
    run D settings s (evs ++ [e]) = step D settings (run D settings s evs) e := List.foldl_concat ..

/-- The process at start-up, over a driver in state `bus`. -/
def start (bus : σ) : Sys σ := ⟨initialSlave, bus, []⟩

/-- The clocks of a run's passes. -/
def passTimes (evs : List (Event ε)) : List Nat :=
  evs.filterMap fun | .pass now => some now | _ => none

/-- The clock never runs backwards. -/
def Nondecreasing (evs : List (Event ε)) : Prop := (passTimes evs).Pairwise (· ≤ ·)

instance (evs : List (Event ε)) : Decidable (Nondecreasing evs) :=
  inferInstanceAs (Decidable (List.Pairwise ..))

/-- Consecutive passes are at most `delta` apart. -/
def Gaps (delta : Nat) (evs : List (Event ε)) : Prop :=
  (passTimes evs).IsChain fun a b => b ≤ a + delta

instance (delta : Nat) (evs : List (Event ε)) : Decidable (Gaps delta evs) :=
  inferInstanceAs (Decidable (List.IsChain ..))

end BacnetGateway.Gateway
