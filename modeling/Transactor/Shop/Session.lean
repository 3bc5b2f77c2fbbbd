import Transactor.Shop.Store

namespace Transactor.Shop

variable {Q H α : Type}

/-- Runs work in the unit of a new transaction, and commits if it succeeds. A failure of the work
rolls back and is the result; so is a rollback that the commit ended in. -/
def inTransaction (h : Host (Party Q) (Premises H))
    (work : UnitRef → ShopAct Q H OrderingError α) : ShopTask Q H OrderingError α := do
  let t ← Task.atOnce WorldAct.beginTransaction
  let result ← Task.atOnce (Act.attempt do
    let u ← (WorldAct.currentUnit (.ofLocal t)).mapError .unitOfWork
    work u)
  match result with
  | .ok a =>
    (h.commit t).mapError .transaction
    return a
  | .error e =>
    Task.atOnce (WorldAct.record (.rollingBack t (OrderingError.message e)))
    (h.rollback t).mapError .transaction
    Task.fail e

end Transactor.Shop
