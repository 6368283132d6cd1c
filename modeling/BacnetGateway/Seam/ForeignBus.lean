/-
  BacnetGateway.Seam.ForeignBus — the seam between the gateway and the non-BACnet
  network (`ForeignBus.h`).

  A driver is asynchronous: `startRead` and `startWrite` hand out a transaction id (0
  when the request could not even be started), `checkTransaction` says how the
  transaction is doing, `service` gives the driver CPU time. `Driver` is that interface
  over an arbitrary driver state, so a theorem over every `Driver` holds of every
  implementation of the seam. `outside` is what happens on the far side between two
  calls of the gateway (a cable is pulled, a register moves, a frame arrives).

  `uint16_t` register contents are `Word`s. Unit ids, addresses, transaction ids and the
  clock are natural numbers; where the code wraps one of them, the model says so.
-/

import Mathlib.Data.Nat.Notation

namespace BacnetGateway.Seam

/-- The content of a register or a coil (`uint16_t`). -/
abbrev Word := BitVec 16

/-- The three kinds of foreign data point. -/
inductive Table where
  | inputRegister
  | holdingRegister
  | coil
  deriving DecidableEq, Repr

/-- What happened to a transaction. -/
inductive Outcome where
  | pending
  | done
  | timeout
  deriving DecidableEq, Repr

/-- What `CheckTransaction` reports: the outcome, and the out-parameter `*value`, which
    holds the answer of a read that is done. -/
structure Answer where
  outcome : Outcome
  value : Word
  deriving DecidableEq, Repr

/-- An implementation of `ForeignBus.h` with state `σ`; `ε` is what may happen to it
    from outside. -/
structure Driver (σ ε : Type) where
  service : (nowMilliseconds : Nat) → σ → σ
  startRead : (unitId : Nat) → Table → (address : Nat) → σ → Nat × σ
  startWrite : (unitId : Nat) → Table → (address : Nat) → (value : Word) → σ → Nat × σ
  checkTransaction : (transactionId : Nat) → σ → Answer × σ
  outside : ε → σ → σ

end BacnetGateway.Seam
