import Transactor.Completion

namespace Transactor

/-- A transaction as the registry sees it, whether it is a local one or the host's own. -/
structure TransactionHandle (P S : Type) where
  id : TransactionId
  status : World P S → TransactionStatus
  synchronize : Synchronization P → WorldAct P S TransactionError Unit

def TransactionHandle.ofLocal {P S : Type} (t : TransactionId) : TransactionHandle P S where
  id := t
  status := fun w => (w.transaction t).status
  synchronize := WorldAct.synchronize t

namespace WorldAct

variable {P S ε : Type}

def findUnit (t : TransactionId) : WorldAct P S ε (Option UnitRef) :=
  Act.gets fun w => w.bound.get? t

/-- Gives the unit bound to a transaction, or binds a new one to it. A transaction that refuses the
unit's synchronization leaves no unit behind. -/
def startUnit (t : TransactionHandle P S) : WorldAct P S UnitOfWorkError UnitRef := do
  match ← findUnit t.id with
  | some u => return u
  | none =>
    let u ← newUnit t.id (← Act.get).settings
    match ← (t.synchronize (.unit u)).attempt with
    | .ok () =>
      Act.modify fun w => { w with bound := w.bound.insert t.id u }
      return u
    | .error e =>
      Act.modify fun w => { w with units := w.units.erase u }
      Act.fail (.transaction e)

def currentUnit (t : TransactionHandle P S) : WorldAct P S UnitOfWorkError UnitRef := do
  if (t.status (← Act.get)).isActive then startUnit t
  else Act.fail .noActiveTransaction

/-- Ends the registry's hold on a transaction. -/
def endUnit (t : TransactionId) : WorldAct P S ε (Option UnitRef) := Host.release t

end WorldAct

end Transactor
