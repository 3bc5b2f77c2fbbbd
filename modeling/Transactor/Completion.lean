import Transactor.Drain

namespace Transactor

namespace Host

variable {P S : Type}

/-- Asks the participants of a unit from a place on, including those that enlist meanwhile. -/
def askParticipants (h : Host P S) (u : UnitRef) :
    (patience place : Nat) → WorldTask P S UnitOfWorkError Unit
  | 0, _ => Task.interrupt .exhausted
  | patience + 1, place => do
    let x ← Task.gets (World.unit · u)
    match x.participants[place]? with
    | none => return ()
    | some p =>
      h.before p
      askParticipants h u patience (place + 1)

/-- Before a completion a unit is drained, and then its participants are asked. -/
def before? (h : Host P S) : Synchronization P → WorldTask P S UnitOfWorkError Unit
  | .unit u => do
    h.drain u
    h.askParticipants u h.patience 0
  | .party p => h.before p

/-- Removes the unit bound to a transaction from the registry. -/
def release {ε : Type} (t : TransactionId) : WorldAct P S ε (Option UnitRef) := do
  match (← Act.get).bound.get? t with
  | none => return none
  | some u =>
    Act.modify fun w => { w with bound := w.bound.erase t }
    WorldAct.record (.unitReleased t)
    return some u

def tellAll (h : Host P S) (outcome : Outcome) : List P → WorldTask P S Empty Unit
  | [] => return ()
  | p :: ps => do
    h.after p outcome
    tellAll h outcome ps

/-- After a completion a unit is ended, its participants are told, and the registry lets go of it.
-/
def after? (h : Host P S) (outcome : Outcome) : Synchronization P → WorldTask P S Empty Unit
  | .unit u => do
    let x ← Task.gets (World.unit · u)
    Task.atOnce (WorldAct.modifyUnit u UnitOfWork.clearParticipants)
    Task.atOnce (WorldAct.completeUnit u outcome)
    h.tellAll outcome x.participants
    let _ ← Task.atOnce (release x.transaction)
  | .party p => h.after p outcome

/-- Asks what joined a transaction from a place on, including what joins meanwhile. -/
def askAll (h : Host P S) (t : TransactionId) :
    (patience place : Nat) → WorldTask P S UnitOfWorkError Unit
  | 0, _ => Task.interrupt .exhausted
  | patience + 1, place => do
    let x ← Task.gets (World.transaction · t)
    match x.synchronizations[place]? with
    | none => return ()
    | some s =>
      h.before? s
      askAll h t patience (place + 1)

def tellSynchronizations (h : Host P S) (outcome : Outcome) :
    List (Synchronization P) → WorldTask P S Empty Unit
  | [] => return ()
  | s :: ss => do
    h.after? outcome s
    tellSynchronizations h outcome ss

/-- Fixes the outcome of a transaction and tells all that joined it. -/
def complete (h : Host P S) (t : TransactionId) (outcome : Outcome) : WorldTask P S Empty Unit := do
  let x ← Task.gets (World.transaction · t)
  Task.atOnce (WorldAct.modifyTransaction t fun x => x.complete outcome)
  Task.atOnce (WorldAct.record (.transactionCompleted t outcome.name))
  h.tellSynchronizations outcome x.synchronizations

/-- Commits a transaction unless it must roll back. The status counts when the commit begins; what
is called back may change it, and is not looked at again. -/
def commit (h : Host P S) (t : TransactionId) : WorldTask P S TransactionError Unit := do
  match (← Task.gets (World.transaction · t)).status with
  | .completed _ => Task.fail (.notActive t)
  | .markedRollback =>
    (h.complete t .rolledBack).widen
    Task.fail (.rolledBack t)
  | .active =>
    match ← (h.askAll t h.patience 0).attempt with
    | .ok () => (h.complete t .committed).widen
    | .error e =>
      Task.atOnce (WorldAct.record (.beforeCompletionFailed t e.message))
      (h.complete t .rolledBack).widen
      Task.fail (.rolledBackBy t e)

/-- Rolls an open transaction back without asking anyone. -/
def rollback (h : Host P S) (t : TransactionId) : WorldTask P S TransactionError Unit := do
  if (← Task.gets (World.transaction · t)).status.isActive then (h.complete t .rolledBack).widen
  else Task.fail (.notActive t)

end Host

namespace WorldAct

variable {P S ε : Type}

def beginTransaction : WorldAct P S ε TransactionId := do
  let t := TransactionId.mk (← freshId)
  record (.transactionBegun t)
  Act.modify fun w => w.setTransaction t .begin
  return t

def markRollback (t : TransactionId) : WorldAct P S TransactionError Unit :=
  updateTransaction t fun x => x.markRollback t

def synchronize (t : TransactionId) (s : Synchronization P) : WorldAct P S TransactionError Unit :=
  updateTransaction t fun x => x.synchronize t s

end WorldAct

end Transactor
