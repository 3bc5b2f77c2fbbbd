import Transactor.Aggregate
import Transactor.Shop.Event

namespace Transactor.Shop

structure OrderLine where
  stockItemId : Uuid
  quantity : UInt32
  deriving DecidableEq

inductive OrderStatus where
  | placed
  | cancelled
  deriving DecidableEq

def OrderStatus.name : OrderStatus → String
  | .placed => "Placed"
  | .cancelled => "Cancelled"

structure Order where
  id : Uuid
  customerId : Uuid
  lines : List OrderLine
  status : OrderStatus
  deriving DecidableEq

/-- The message of an event that an aggregate raises on behalf of a correlated command. -/
def eventMessage (stamp : Stamp) (aggregate correlation : Uuid) (kind : EventKind) : Message :=
  Event.message
    { metadata := ⟨stamp.id, kind.type, some aggregate, some correlation, stamp.time⟩, kind }

namespace Order

def typeName : String := "order"

instance : Aggregate Order where
  aggregateId o := o.id
  aggregateType _ := typeName
  beforeSave := fun o =>
    if o.lines.isEmpty then
      (.error (.validation ("order " ++ o.id.text ++ " has no lines")), o)
    else (.ok (), o)
  beforeRemoval := fun o =>
    if o.status = .cancelled then (.ok (), o)
    else (.error (.validation ("order " ++ o.id.text ++ " must be cancelled before removal")), o)

/-- Places an order; every line must ask for something. -/
def place (stamp : Stamp) (id customer : Uuid) (lines : List OrderLine) (correlation : Uuid) :
    Except DomainError (Tracked Order) :=
  match lines.find? fun l => l.quantity = 0 with
  | some l =>
    .error (.validation
      ("order " ++ id.text ++ " requests zero units of stock item " ++ l.stockItemId.text))
  | none =>
    let placed := .orderPlaced ⟨id, customer, lines.map fun l => ⟨l.stockItemId, l.quantity⟩⟩
    .ok ((Tracked.fresh ⟨id, customer, lines, .placed⟩).raise
      (eventMessage stamp id correlation placed))

/-- Cancels an order that has not been cancelled before. -/
def cancel (stamp : Stamp) (reason : String) (correlation : Uuid) :
    Act (Tracked Order) DomainError Unit := fun o =>
  if o.body.status = .cancelled then
    (.error (.validation ("order " ++ o.body.id.text ++ " is already cancelled")), o)
  else
    let cancelled := .orderCancelled ⟨o.body.id, reason⟩
    (.ok (), Tracked.raise { o with body := { o.body with status := .cancelled } }
      (eventMessage stamp o.body.id correlation cancelled))

end Order

end Transactor.Shop
