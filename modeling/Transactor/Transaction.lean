import Transactor.Error

namespace Transactor

inductive Outcome where
  | committed
  | rolledBack
  deriving DecidableEq

def Outcome.name : Outcome → String
  | .committed => "Committed"
  | .rolledBack => "RolledBack"

/-- A transaction is open, open but bound to roll back, or over. -/
inductive TransactionStatus where
  | active
  | markedRollback
  | completed (outcome : Outcome)
  deriving DecidableEq

namespace TransactionStatus

def name : TransactionStatus → String
  | .active => "Active"
  | .markedRollback => "MarkedRollback"
  | .completed outcome => outcome.name

/-- Work may still join. -/
def isActive : TransactionStatus → Bool
  | .active | .markedRollback => true
  | .completed _ => false

end TransactionStatus

/-- Names a unit of work among all that a world has had. -/
structure UnitRef where
  index : Nat
  deriving DecidableEq

/-- What is told before a transaction decides and after it has ended: the unit of work that is bound
to it, or any other party. -/
inductive Synchronization (P : Type) where
  | unit (u : UnitRef)
  | party (p : P)

structure Transaction (P : Type) where
  status : TransactionStatus
  synchronizations : List (Synchronization P)

namespace Transaction

variable {P : Type}

def begin : Transaction P := ⟨.active, []⟩

def ended (outcome : Outcome) : Transaction P := ⟨.completed outcome, []⟩

def synchronize (t : Transaction P) (id : TransactionId) (s : Synchronization P) :
    Except TransactionError (Transaction P) :=
  if t.status.isActive then .ok { t with synchronizations := t.synchronizations ++ [s] }
  else .error (.notActive id)

/-- Leaves rolling back as the only way to end. -/
def markRollback (t : Transaction P) (id : TransactionId) :
    Except TransactionError (Transaction P) :=
  if t.status.isActive then .ok { t with status := .markedRollback } else .error (.notActive id)

/-- Fixes the outcome and lets go of all that joined. -/
def complete (t : Transaction P) (outcome : Outcome) : Transaction P :=
  { t with status := .completed outcome, synchronizations := [] }

end Transaction

end Transactor
