import Transactor.World

namespace Transactor

/-- The code that a world calls back: what its parties do before and after a completion, and how a
batch is delivered on behalf of a unit. `patience` bounds how many parties one pass before a
completion asks, since parties may bring in further ones. -/
structure Host (P S : Type) where
  before : P → WorldTask P S UnitOfWorkError Unit
  after : P → Outcome → WorldTask P S Empty Unit
  dispatch : List Message → UnitRef → WorldTask P S DeliveryError Unit
  patience : Nat

namespace Host

variable {P S : Type}

def takeQueue {ε : Type} (u : UnitRef) : WorldAct P S ε (List Message) := fun w =>
  (.ok (w.unit u).queue, w.setUnit u (w.unit u).clearQueue)

/-- Hands over batches until none is left, at most `left` of them after the first `cycles`. -/
def drainCycles (h : Host P S) (u : UnitRef) (t : TransactionId) (limit : Nat) :
    (left cycles : Nat) → WorldTask P S UnitOfWorkError Unit
  | 0, _ => do
    let batch ← Task.atOnce (takeQueue u)
    if batch.isEmpty then return ()
    else
      Task.atOnce (WorldAct.record (.cascadeDiverged t limit batch.length))
      Task.fail (.cascadeLimit t limit)
  | left + 1, cycles => do
    let batch ← Task.atOnce (takeQueue u)
    if batch.isEmpty then return ()
    else
      Task.atOnce (WorldAct.record (.dispatching t (cycles + 1) batch.length))
      match ← (h.dispatch batch u).attempt with
      | .ok () => drainCycles h u t limit left (cycles + 1)
      | .error e =>
        Task.atOnce (WorldAct.record (.dispatchFailed t (cycles + 1) e.message))
        Task.fail (.dispatch t e)

def isFailure {ε α : Type} : Except ε α → Bool
  | .ok _ => false
  | .error _ => true

/-- Drains a unit that has not been drained before. -/
def drain (h : Host P S) (u : UnitRef) : WorldTask P S UnitOfWorkError Unit := do
  Task.atOnce (WorldAct.updateUnit u UnitOfWork.startDrain)
  let x ← Task.gets (World.unit · u)
  let result ← (drainCycles h u x.transaction x.limit x.limit 0).attempt
  Task.atOnce (WorldAct.modifyUnit u fun x => x.endDrain (isFailure result))
  Task.ofExcept result

end Host

end Transactor
