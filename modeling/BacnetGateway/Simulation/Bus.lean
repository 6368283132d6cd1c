/-
  BacnetGateway.Simulation.Bus — the simulated foreign bus
  (`simulation/SimulatedForeignBus.cpp`): three field devices in memory, each with one
  input register, one holding register and one coil, behind the seam.

  `g_slaves`, `g_transactions`, `g_nextTransactionId`, `g_nowMilliseconds` and
  `g_lastDriftAt` are the fields of `Sim`. A slave's unit id, name and latency never
  change: unit id and latency are functions of its place in `g_slaves`, the name is left
  out. `std::map` is a `Std.TreeMap`, whose loops run over the keys in the same order.

  Times are milliseconds; the clock never runs backwards, so no difference of two of them
  is negative. Transaction ids are `uint32_t`: the counter wraps and skips 0.
-/

import BacnetGateway.Seam.ForeignBus
import Mathlib.Tactic.Linarith
import Mathlib.Data.Fintype.Pi

namespace BacnetGateway.Simulation

open Seam

/-- How long a real master driver would wait for an answer. -/
def RESPONSE_TIMEOUT_MILLISECONDS : Nat := 300

def DRIFT_STEP_MILLISECONDS : Nat := 1000
def DRIFT_MAXIMUM_STEPS : Int := 5

structure SimulatedSlave where
  online : Bool
  inputRegister : Word
  holdingRegister : Word
  /-- 0 or 1. -/
  coil : Word
  /-- False once something sets the sensor explicitly. -/
  drifting : Bool
  driftCentre : Word
  driftOffset : Int
  driftDirection : Int
  deriving DecidableEq

def slaveUnitId (i : Fin 3) : Nat := i + 1

def latencyMilliseconds : Fin 3 → Nat
  | 0 => 20
  | 1 => 45
  | 2 => 80

structure Transaction where
  unitId : Nat
  table : Table
  address : Nat
  isWrite : Bool
  value : Word
  startedAt : Nat
  outcome : Outcome
  deriving DecidableEq

structure Sim where
  slaves : Fin 3 → SimulatedSlave
  transactions : Std.TreeMap Nat Transaction
  nextTransactionId : Nat
  nowMilliseconds : Nat
  lastDriftAt : Nat

def findSlave (unitId : Nat) : Option (Fin 3) :=
  (List.finRange 3).find? fun i => slaveUnitId i = unitId

/-- The slave whose register or coil (unit, address) names: one of each table, at address 0. -/
def findPoint (unitId address : Nat) : Option (Fin 3) :=
  if address = 0 then findSlave unitId else none

def SimulatedSlave.point (slave : SimulatedSlave) : Table → Word
  | .inputRegister => slave.inputRegister
  | .holdingRegister => slave.holdingRegister
  | .coil => slave.coil

/-- The assignment `*point = ...`: a coil takes 0 or 1. -/
def SimulatedSlave.assign (slave : SimulatedSlave) (table : Table)
    (value : Word) : SimulatedSlave :=
  match table with
  | .inputRegister => { slave with inputRegister := value }
  | .holdingRegister => { slave with holdingRegister := value }
  | .coil => { slave with coil := if value = 0 then 0 else 1 }

/-- The counter after handing out `id`: 32 bits, and never 0. -/
def successor (id : Nat) : Nat := if (id + 1) % 2 ^ 32 = 0 then 1 else (id + 1) % 2 ^ 32

def startTransaction (unitId : Nat) (table : Table) (address : Nat) (isWrite : Bool) (value : Word)
    (s : Sim) : Nat × Sim :=
  match findPoint unitId address with
  | none => (0, s)
  | some _ =>
    if isWrite = true ∧ table = .inputRegister then (0, s)
    else
      (s.nextTransactionId,
        { s with
          nextTransactionId := successor s.nextTransactionId
          transactions := s.transactions.insert s.nextTransactionId
            ⟨unitId, table, address, isWrite, value, s.nowMilliseconds, .pending⟩ })

/-- One step of a slave's sensor, turning round at the ends of its range. -/
def SimulatedSlave.drift (slave : SimulatedSlave) : SimulatedSlave :=
  if slave.drifting then
    let direction :=
      if DRIFT_MAXIMUM_STEPS < slave.driftOffset + slave.driftDirection ∨
          slave.driftOffset + slave.driftDirection < -DRIFT_MAXIMUM_STEPS then -slave.driftDirection
      else slave.driftDirection
    { slave with
      driftDirection := direction
      driftOffset := slave.driftOffset + direction
      inputRegister := BitVec.ofInt 16 (slave.driftCentre.toNat + (slave.driftOffset + direction)) }
  else slave

/-- Answer one transaction, or time it out, if its moment has come. -/
def resolve (now : Nat) (s : Sim) (entry : Nat × Transaction) : Sim :=
  let t := entry.2
  if t.outcome ≠ .pending then s
  else
    match findSlave t.unitId with
    | none => s
    | some i =>
      let slave := s.slaves i
      if slave.online = true ∧ latencyMilliseconds i ≤ now - t.startedAt then
        if t.isWrite then
          { s with
            slaves := Function.update s.slaves i (slave.assign t.table t.value)
            transactions := s.transactions.insert entry.1 { t with outcome := .done } }
        else
          { s with
            transactions := s.transactions.insert entry.1
              { t with value := slave.point t.table, outcome := .done } }
      else if RESPONSE_TIMEOUT_MILLISECONDS ≤ now - t.startedAt then
        { s with transactions := s.transactions.insert entry.1 { t with outcome := .timeout } }
      else s

/-- When the drift timer was last restarted, seen at `now`: 0 for never. -/
def driftTimer (lastDriftAt now : Nat) : Nat := if lastDriftAt = 0 then now else lastDriftAt

/-- Has a drift step come due at `now`? -/
def driftDue (lastDriftAt now : Nat) : Bool :=
  DRIFT_STEP_MILLISECONDS ≤ now - driftTimer lastDriftAt now

/-- The part of `Service` before its loop: the clock and the drift. -/
def advance (now : Nat) (s : Sim) : Sim :=
  { s with
    nowMilliseconds := now
    lastDriftAt := if driftDue s.lastDriftAt now then now else driftTimer s.lastDriftAt now
    slaves := fun i => if driftDue s.lastDriftAt now then (s.slaves i).drift else s.slaves i }

def service (now : Nat) (s : Sim) : Sim :=
  (advance now s).transactions.toList.foldl (resolve now) (advance now s)

def startRead (unitId : Nat) (table : Table) (address : Nat) (s : Sim) : Nat × Sim :=
  startTransaction unitId table address false 0 s

def startWrite (unitId : Nat) (table : Table) (address : Nat) (value : Word)
    (s : Sim) : Nat × Sim :=
  startTransaction unitId table address true value s

def checkTransaction (transactionId : Nat) (s : Sim) : Answer × Sim :=
  match s.transactions[transactionId]? with
  | none => (⟨.timeout, 0⟩, s)
  | some t =>
    (⟨t.outcome, if t.outcome = .done then t.value else 0⟩,
      if t.outcome ≠ .pending then { s with transactions := s.transactions.erase transactionId }
        else s)

/-! ## Reaching inside the simulation -/

/-- The back door of the simulation (`SimulatedForeignBus.h`). -/
inductive FieldEvent where
  | setSlaveOnline (unitId : Nat) (online : Bool)
  | setPoint (unitId : Nat) (table : Table) (address : Nat) (value : Word)
  deriving DecidableEq

def setSlaveOnline (unitId : Nat) (online : Bool) (s : Sim) : Sim :=
  match findSlave unitId with
  | none => s
  | some i => { s with slaves := Function.update s.slaves i { s.slaves i with online := online } }

/-- Setting the input register also stops the slave's drift. -/
def SimulatedSlave.fieldAssign (slave : SimulatedSlave) (table : Table)
    (value : Word) : SimulatedSlave :=
  match table with
  | .inputRegister => { slave.assign table value with drifting := false }
  | _ => slave.assign table value

def setPoint (unitId : Nat) (table : Table) (address : Nat) (value : Word) (s : Sim) : Sim :=
  match findPoint unitId address with
  | none => s
  | some i => { s with slaves := Function.update s.slaves i ((s.slaves i).fieldAssign table value) }

def fieldEvent : FieldEvent → Sim → Sim
  | .setSlaveOnline unitId online => setSlaveOnline unitId online
  | .setPoint unitId table address value => setPoint unitId table address value

/-- The simulation as an implementation of the seam. -/
def simulatedForeignBus : Driver Sim FieldEvent :=
  ⟨service, startRead, startWrite, checkTransaction, fieldEvent⟩

/-! ## Start-up -/

def initialSimulatedSlave : Fin 3 → SimulatedSlave
  | 0 => ⟨true, 652, 650, 1, true, 652, 0, 1⟩
  | 1 => ⟨true, 131, 130, 1, true, 131, 0, 1⟩
  | 2 => ⟨true, 71, 70, 0, true, 71, 0, 1⟩

def initialSim : Sim := ⟨initialSimulatedSlave, ∅, 1, 0, 0⟩

/-! ## Small facts -/

theorem findSlave_slaveUnitId (i : Fin 3) : findSlave (slaveUnitId i) = some i := by
  revert i
  decide

theorem findSlave_eq_some {unitId : Nat} {i : Fin 3} (h : findSlave unitId = some i) :
    unitId = slaveUnitId i := by
  have := List.find?_some h
  exact (of_decide_eq_true this).symm

theorem latency_pos (i : Fin 3) : 20 ≤ latencyMilliseconds i := by
  revert i
  decide

theorem latency_lt (i : Fin 3) : latencyMilliseconds i < RESPONSE_TIMEOUT_MILLISECONDS := by
  revert i
  decide

end BacnetGateway.Simulation
