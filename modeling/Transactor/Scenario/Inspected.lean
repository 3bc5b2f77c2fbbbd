import Transactor.Scenario.Stage

namespace Transactor.Scenario

open Shop Text

def registryText (w : StageWorld) : String :=
  inspectedFields "UnitOfWorkManager"
    [("active_units", toString w.bound.size),
      ("config", inspectedRecord "UnitOfWorkConfig"
        [("max_cascade_cycles", toString w.settings.maxCycles)])] true

def listenerText : String := "AggregateListener \x7b .. \x7d"

def tableText {E : Type} (t : Table E) : String :=
  inspectedFields "InMemoryStore"
    [("rows", toString t.committed.size), ("open_transactions", toString t.staged.size)] true

def unitText {P : Type} (u : UnitOfWork P) : String :=
  inspectedFields "UnitOfWork"
    [("transaction_id", u.transaction.inspected), ("status", u.status.name),
      ("pending", toString u.queue.length), ("registered", toString u.registered.length),
      ("participants", toString u.participants.length)] true

def transactionText (t : TransactionId) (status : TransactionStatus) : String :=
  inspectedFields "LocalTransaction" [("id", t.inspected), ("status", status.name)] true

def reservationText (stock : Table (Tracked StockItem)) : String :=
  inspectedFields "ReserveStockOnOrderPlaced" [("stock", tableText stock)] true

def inProcessText (types : List String) : String :=
  inspectedRecord "InProcessDispatcher" [("subscriptions", inspectedList (types.map quoted))]

end Transactor.Scenario
