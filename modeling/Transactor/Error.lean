import Transactor.Lifecycle
import Transactor.Uuid

namespace Transactor

/-- Identifies one attempt of a transaction. -/
structure TransactionId where
  uuid : Uuid
  deriving DecidableEq

def TransactionId.text (t : TransactionId) : String := t.uuid.text

inductive DomainError where
  | validation (text : String)
  | notFound (id : Uuid)
  deriving DecidableEq

inductive DeliveryError where
  | rejected (text : String)
  | timedOut (milliseconds : Nat)
  deriving DecidableEq

mutual
inductive UnitOfWorkError where
  | noActiveTransaction
  | lifecycleViolation (aggregate : Uuid) (origin target : Lifecycle)
  | preHookRejected (aggregate : Uuid) (target : Lifecycle) (source : DomainError)
  | cascadeLimit (transaction : TransactionId) (maxCycles : Nat)
  | dispatch (transaction : TransactionId) (source : DeliveryError)
  | closed (transaction : TransactionId)
  | transaction (e : TransactionError)

/-- A rollback carries the failure that forced it, if there was one. -/
inductive TransactionError where
  | notActive (transaction : TransactionId)
  | rolledBack (transaction : TransactionId)
  | rolledBackBy (transaction : TransactionId) (cause : UnitOfWorkError)
end

end Transactor
