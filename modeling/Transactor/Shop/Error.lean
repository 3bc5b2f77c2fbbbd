import Transactor.Error.Text

namespace Transactor.Shop

open Text

inductive OrderingError where
  | domain (e : DomainError)
  | unitOfWork (e : UnitOfWorkError)
  | transaction (e : TransactionError)
  | alreadyExists (entity : String) (id : Uuid)

namespace OrderingError

def message : OrderingError → String
  | .domain e => e.message
  | .unitOfWork e => e.message
  | .transaction e => e.message
  | .alreadyExists entity id => entity ++ " " ++ id.text ++ " already exists"

def report (e : OrderingError) : ErrorReport :=
  match e with
  | .domain d => d.report.within "Domain"
  | .unitOfWork u => u.report.within "UnitOfWork"
  | .transaction t => t.report.within "Transaction"
  | .alreadyExists _ _ => .plain "AlreadyExists" e.message

def inspected : OrderingError → String
  | .domain e => inspectedPart "Domain" e.inspected
  | .unitOfWork e => inspectedPart "UnitOfWork" e.inspected
  | .transaction e => inspectedPart "Transaction" e.inspected
  | .alreadyExists entity id =>
    inspectedRecord "AlreadyExists" [("entity", quoted entity), ("id", id.text)]

end OrderingError

end Transactor.Shop
