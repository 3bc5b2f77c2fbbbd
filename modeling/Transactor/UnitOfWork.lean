import Transactor.Aggregate
import Transactor.Settings

namespace Transactor

inductive UnitStatus where
  | active
  | draining
  | drained
  | completed
  deriving DecidableEq

namespace UnitStatus

def name : UnitStatus → String
  | .active => "Active"
  | .draining => "Draining"
  | .drained => "Drained"
  | .completed => "Completed"

/-- New messages are taken until the drain has ended. -/
def accepts : UnitStatus → Bool
  | .active | .draining => true
  | .drained | .completed => false

end UnitStatus

inductive Registration where
  | message (m : Message)
  | transition (t : Transition)

def Registration.message? : Registration → Option Message
  | .message m => some m
  | .transition t => t.message

def Registration.aggregate? : Registration → Option (String × Uuid)
  | .message _ => none
  | .transition t => some (t.aggregateType, t.aggregateId)

/-- The unit of work of one transaction, with participants of type `P`. -/
structure UnitOfWork (P : Type) where
  transaction : TransactionId
  limit : Nat
  status : UnitStatus
  queue : List Message
  registered : List (String × Uuid)
  participants : List P
  limit_pos : 0 < limit

namespace UnitOfWork

variable {P : Type}

/-- An empty unit. At least one batch may be handed over, whatever the settings say. -/
def begin (t : TransactionId) (settings : Settings) : UnitOfWork P where
  transaction := t
  limit := max settings.maxCycles 1
  status := .active
  queue := []
  registered := []
  participants := []
  limit_pos := by omega

def ended (t : TransactionId) : UnitOfWork P :=
  { begin t default with status := .completed }

/-- Adds an aggregate unless it is tracked already. -/
def track (key : String × Uuid) (registered : List (String × Uuid)) : List (String × Uuid) :=
  if key ∈ registered then registered else registered ++ [key]

def add (u : UnitOfWork P) (r : Registration) : UnitOfWork P :=
  { u with
    queue := u.queue ++ r.message?.toList
    registered := match r.aggregate? with
      | some key => track key u.registered
      | none => u.registered }

/-- Takes a registration in as long as the drain has not ended. -/
def register (u : UnitOfWork P) (r : Registration) : Except UnitOfWorkError (UnitOfWork P) :=
  if u.status.accepts then .ok (u.add r) else .error (.closed u.transaction)

/-- Takes a participant in as long as the transaction has not ended. -/
def enlist (u : UnitOfWork P) (p : P) : Except UnitOfWorkError (UnitOfWork P) :=
  if u.status = .completed then .error (.closed u.transaction)
  else .ok { u with participants := u.participants ++ [p] }

/-- Starts the one drain that a unit may have. -/
def startDrain (u : UnitOfWork P) : Except UnitOfWorkError (UnitOfWork P) :=
  if u.status = .active then .ok { u with status := .draining } else .error (.closed u.transaction)

def clearQueue (u : UnitOfWork P) : UnitOfWork P := { u with queue := [] }

/-- Ends the drain; a failed one leaves nothing to be dispatched. -/
def endDrain (u : UnitOfWork P) (failed : Bool) : UnitOfWork P :=
  { u with status := .drained, queue := if failed then [] else u.queue }

def discard (u : UnitOfWork P) : UnitOfWork P :=
  { u with status := .completed, queue := [], registered := [] }

def clearParticipants (u : UnitOfWork P) : UnitOfWork P := { u with participants := [] }

end UnitOfWork

end Transactor
