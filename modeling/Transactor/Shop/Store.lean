import Transactor.Persistence
import Transactor.Registry
import Transactor.Shop.Error
import Transactor.Shop.Table

namespace Transactor.Shop

/-- A party of the shop: the staged writes of a transaction to a table, or another party. -/
inductive Party (Q : Type) where
  | stagedWrites (table : TableRef) (transaction : TransactionId)
  | other (q : Q)

/-- The state of the shop in a world: its tables, the journal of handled messages, and what else the
host keeps. -/
structure Premises (H : Type) where
  tables : Tables
  journal : List String
  host : H

abbrev ShopWorld (Q H : Type) := World (Party Q) (Premises H)

/-- An operation in a shop that ends at once. -/
abbrev ShopAct (Q H ε α : Type) := Act (ShopWorld Q H) ε α

/-- An operation in a shop that may wait. -/
abbrev ShopTask (Q H ε α : Type) := Task (ShopWorld Q H) ε α

/-- The trace event of a table whose staged rows found their end. -/
def settledEvent (r : TableRef) (t : TransactionId) (rows : Nat) (outcome : Outcome) : TraceEvent :=
  .ofTransaction .debug "staged rows settled" t
    [("entity", .quoted r.kind.typeName), ("rows", .count rows), ("outcome", .plain outcome.name)]

namespace TableRef

variable {Q H ε : Type}

def table (r : TableRef) (w : ShopWorld Q H) : Table r.Row := w.host.tables.get r

def setTable (r : TableRef) (w : ShopWorld Q H) (t : Table r.Row) : ShopWorld Q H :=
  { w with host := { w.host with tables := w.host.tables.set r t } }

/-- The row as the transaction of a unit sees it. -/
def peek (r : TableRef) (u : UnitRef) (id : Uuid) : ShopAct Q H ε (Option r.Row) :=
  Act.gets fun w => (r.table w).visible (w.unit u).transaction id

def snapshot (r : TableRef) (id : Uuid) : ShopAct Q H ε (Option r.Row) :=
  Act.gets fun w => (r.table w).committed.get? id

/-- Stages a row for the transaction of a unit; its first row enlists the table. -/
def stage (r : TableRef) (u : UnitRef) (id : Uuid) (row : Option r.Row) :
    ShopAct Q H OrderingError Unit := do
  let tx := ((← Act.get).unit u).transaction
  if (r.table (← Act.get)).staged.contains tx then pure ()
  else (WorldAct.enlist u (.stagedWrites r tx)).mapError .unitOfWork
  Act.modify fun w => r.setTable w ((r.table w).stage tx id row)

def settle (r : TableRef) (tx : TransactionId) (outcome : Outcome) : ShopAct Q H ε Unit := do
  match (r.table (← Act.get)).staged.get? tx with
  | none => pure ()
  | some rows =>
    WorldAct.record (settledEvent r tx rows.size outcome)
    Act.modify fun w => r.setTable w ((r.table w).settle tx outcome)

def report (r : TableRef) (event : PersistenceEvent) (u : UnitRef) :
    Act (Tracked r.Entity × ShopWorld Q H) OrderingError Unit :=
  (event.report u).mapError .unitOfWork

def entityId (r : TableRef) : Act (Tracked r.Entity × ShopWorld Q H) OrderingError Uuid :=
  Act.gets fun s => Aggregate.aggregateId s.1.body

def insert (r : TableRef) (u : UnitRef) :
    Act (Tracked r.Entity × ShopWorld Q H) OrderingError Unit := do
  let id ← r.entityId
  if (← Act.onSecond (r.peek u id)).isSome then Act.fail (.alreadyExists r.kind.typeName id)
  r.report .prePersist u
  let row ← Act.gets fun s => s.1.detached
  Act.onSecond (r.stage u id (some row))
  r.report .postPersist u

def update (r : TableRef) (u : UnitRef) :
    Act (Tracked r.Entity × ShopWorld Q H) OrderingError Unit := do
  let id ← r.entityId
  if (← Act.onSecond (r.peek u id)).isNone then Act.fail (.domain (.notFound id))
  r.report .preUpdate u
  let row ← Act.gets fun s => s.1.detached
  Act.onSecond (r.stage u id (some row))
  r.report .postUpdate u

def remove (r : TableRef) (u : UnitRef) :
    Act (Tracked r.Entity × ShopWorld Q H) OrderingError Unit := do
  let id ← r.entityId
  if (← Act.onSecond (r.peek u id)).isNone then Act.fail (.domain (.notFound id))
  r.report .preRemove u
  Act.onSecond (r.stage u id none)
  r.report .postRemove u

def load (r : TableRef) (u : UnitRef) (id : Uuid) :
    ShopAct Q H OrderingError (Tracked r.Entity) := do
  match ← r.peek u id with
  | none => Act.fail (.domain (.notFound id))
  | some row => Act.carrying row (r.report .postLoad u)

end TableRef

/-- The host of a shop, given the code of its other parties. Staged writes agree to every completion
and settle with its outcome. -/
def Host.ofShop {Q H : Type} (before : Q → ShopTask Q H UnitOfWorkError Unit)
    (after : Q → Outcome → ShopTask Q H Empty Unit)
    (dispatch : List Message → UnitRef → ShopTask Q H DeliveryError Unit) (patience : Nat) :
    Host (Party Q) (Premises H) where
  before
    | .stagedWrites _ _ => pure ()
    | .other q => before q
  after
    | .stagedWrites r tx, outcome => Task.atOnce (r.settle tx outcome)
    | .other q, outcome => after q outcome
  dispatch := dispatch
  patience := patience

end Transactor.Shop
