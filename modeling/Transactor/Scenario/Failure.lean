import Transactor.Json.Basic
import Transactor.Shop.Error

namespace Transactor.Scenario

open Shop

inductive Failure where
  | domain (e : DomainError)
  | delivery (e : DeliveryError)
  | unitOfWork (e : UnitOfWorkError)
  | transaction (e : TransactionError)
  | ordering (e : OrderingError)
  | setting (e : InvalidSetting)
  /-- A name under which nothing of the needed kind is known. -/
  | unknown (kind name : String)

namespace Failure

def message : Failure → String
  | .domain e => e.message
  | .delivery e => e.message
  | .unitOfWork e => e.message
  | .transaction e => e.message
  | .ordering e => e.message
  | .setting e => e.message
  | .unknown kind name => "no " ++ kind ++ " is named " ++ name

def report : Failure → ErrorReport
  | .domain e => e.report
  | .delivery e => e.report
  | .unitOfWork e => e.report
  | .transaction e => e.report
  | .ordering e => e.report
  | .setting e => e.report
  | .unknown kind name => .plain "BadInput" (Failure.unknown kind name).message

/-- As a handler passes it on: any failure but a failed delivery is told by its message. -/
def toDelivery : Failure → DeliveryError
  | .delivery e => e
  | f => .rejected f.message

/-- As a participant passes it on. What no unit of work fails with counts as a failed dispatch of no
transaction. -/
def toUnitOfWork : Failure → UnitOfWorkError
  | .unitOfWork e | .ordering (.unitOfWork e) => e
  | .transaction e | .ordering (.transaction e) => .transaction e
  | f => .dispatch ⟨.ofNat 0⟩ f.toDelivery

def toOrdering : Failure → OrderingError
  | .ordering e => e
  | .domain e => .domain e
  | .transaction e => .transaction e
  | f => .unitOfWork f.toUnitOfWork

end Failure

/-- An error and those that caused it, each inside the one before. -/
def linkJson (link : ErrorLink) : List ErrorLink → Json
  | [] => .object [("error", .string link.kind), ("message", .string link.message)]
  | cause :: causes =>
    .object [("error", .string link.kind), ("message", .string link.message),
      ("cause", linkJson cause causes)]

def reportJson (r : ErrorReport) : Json := linkJson r.head r.causes

def Failure.toJson (f : Failure) : Json := reportJson f.report

end Transactor.Scenario
