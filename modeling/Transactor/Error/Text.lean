import Transactor.Error
import Transactor.Settings
import Transactor.Text.Inspected

namespace Transactor

open Text

structure ErrorLink where
  kind : String
  message : String
  deriving DecidableEq

/-- An error and the chain of its causes, the nearest first. -/
structure ErrorReport where
  head : ErrorLink
  causes : List ErrorLink
  deriving DecidableEq

/-- The report of an error that is shown as it is by the one around it. -/
def ErrorReport.within (scope : String) (r : ErrorReport) : ErrorReport :=
  { r with head := { r.head with kind := scope ++ "." ++ r.head.kind } }

def ErrorReport.causedBy (kind message : String) (cause : ErrorReport) : ErrorReport :=
  ⟨⟨kind, message⟩, cause.head :: cause.causes⟩

def ErrorReport.plain (kind message : String) : ErrorReport := ⟨⟨kind, message⟩, []⟩

def TransactionId.inspected (t : TransactionId) : String := inspectedPart "TransactionId" t.text

def Lifecycle.inspected : Lifecycle → String
  | .none => "None"
  | .loaded => "Loaded"
  | .prePersist => "PrePersist"
  | .postPersisted => "PostPersisted"
  | .preUpdate => "PreUpdate"
  | .postUpdated => "PostUpdated"
  | .preRemove => "PreRemove"
  | .postRemoved => "PostRemoved"

namespace DomainError

def message : DomainError → String
  | .validation text => "validation error: " ++ text
  | .notFound id => "aggregate not found: " ++ id.text

def report (e : DomainError) : ErrorReport :=
  match e with
  | .validation _ => .plain "Validation" e.message
  | .notFound _ => .plain "AggregateNotFound" e.message

def inspected : DomainError → String
  | .validation text => inspectedPart "Validation" (quoted text)
  | .notFound id => inspectedPart "AggregateNotFound" id.text

end DomainError

namespace DeliveryError

def message : DeliveryError → String
  | .rejected text => "delivery failed: " ++ text
  | .timedOut ms => "delivery timed out after " ++ toString ms ++ " ms"

def report (e : DeliveryError) : ErrorReport :=
  match e with
  | .rejected _ => .plain "Delivery" e.message
  | .timedOut _ => .plain "TimedOut" e.message

def inspected : DeliveryError → String
  | .rejected text => inspectedPart "Delivery" (quoted text)
  | .timedOut ms => inspectedPart "TimedOut" (toString ms)

end DeliveryError

def TransactionError.message : TransactionError → String
  | .notActive t => "transaction " ++ t.text ++ " is not active"
  | .rolledBack t => "transaction " ++ t.text ++ " rolled back"
  | .rolledBackBy t _ => "transaction " ++ t.text ++ " rolled back"

def UnitOfWorkError.message : UnitOfWorkError → String
  | .noActiveTransaction => "no active transaction"
  | .lifecycleViolation id origin target =>
    "lifecycle violation on aggregate " ++ id.text ++ ": " ++ origin.name ++ " -> " ++ target.name
  | .preHookRejected id target source =>
    "pre-" ++ target.name ++ " hook rejected aggregate " ++ id.text ++ ": " ++ source.message
  | .cascadeLimit t n =>
    "transaction " ++ t.text ++ ": messages still pending after " ++ toString n
      ++ " dispatch cycles"
  | .dispatch t source => "transaction " ++ t.text ++ ": dispatch failed: " ++ source.message
  | .closed t => "unit of work for transaction " ++ t.text ++ " is closed"
  | .transaction e => e.message

mutual
def UnitOfWorkError.report : UnitOfWorkError → ErrorReport
  | .noActiveTransaction => .plain "NoActiveTransaction" UnitOfWorkError.noActiveTransaction.message
  | .lifecycleViolation id origin target =>
    .plain "LifecycleViolation" (UnitOfWorkError.lifecycleViolation id origin target).message
  | .preHookRejected id target source =>
    .causedBy "PreHookRejected" (UnitOfWorkError.preHookRejected id target source).message
      source.report
  | .cascadeLimit t n => .plain "CascadeLimitExceeded" (UnitOfWorkError.cascadeLimit t n).message
  | .dispatch t source =>
    .causedBy "Dispatch" (UnitOfWorkError.dispatch t source).message source.report
  | .closed t => .plain "Closed" (UnitOfWorkError.closed t).message
  | .transaction e => (TransactionError.report e).within "Transaction"

def TransactionError.report : TransactionError → ErrorReport
  | .notActive t => .plain "NotActive" (TransactionError.notActive t).message
  | .rolledBack t => .plain "RolledBack" (TransactionError.rolledBack t).message
  | .rolledBackBy t cause =>
    .causedBy "RolledBack" (TransactionError.rolledBack t).message (UnitOfWorkError.report cause)
end

mutual
def UnitOfWorkError.inspected : UnitOfWorkError → String
  | .noActiveTransaction => "NoActiveTransaction"
  | .lifecycleViolation id origin target =>
    inspectedRecord "LifecycleViolation"
      [("aggregate_id", id.text), ("from", origin.inspected), ("to", target.inspected)]
  | .preHookRejected id target source =>
    inspectedRecord "PreHookRejected"
      [("aggregate_id", id.text), ("to", target.inspected), ("source", source.inspected)]
  | .cascadeLimit t n =>
    inspectedRecord "CascadeLimitExceeded"
      [("transaction_id", t.inspected), ("max_cycles", toString n)]
  | .dispatch t source =>
    inspectedRecord "Dispatch" [("transaction_id", t.inspected), ("source", source.inspected)]
  | .closed t => inspectedPart "Closed" t.inspected
  | .transaction e => inspectedPart "Transaction" (TransactionError.inspected e)

def TransactionError.inspected : TransactionError → String
  | .notActive t => inspectedPart "NotActive" t.inspected
  | .rolledBack t =>
    inspectedRecord "RolledBack" [("transaction_id", t.inspected), ("cause", inspectedOption none)]
  | .rolledBackBy t cause =>
    inspectedRecord "RolledBack"
      [("transaction_id", t.inspected),
        ("cause", inspectedOption (some (UnitOfWorkError.inspected cause)))]
end

def InvalidSetting.report (e : InvalidSetting) : ErrorReport := .plain "Invalid" e.message

def InvalidSetting.inspected (e : InvalidSetting) : String :=
  inspectedRecord "Invalid"
    [("key", quoted e.key), ("value", quoted e.value), ("reason", quoted e.reason)]

end Transactor
