import Transactor.Delivery
import Transactor.Message.Codec
import Transactor.Shop.Store

namespace Transactor.Shop

variable {Q H : Type}

/-- The order that a message says was placed. -/
def placedOrder (m : Message) : Except DeliveryError OrderPlaced :=
  match m.payload with
  | .lifecycle _ =>
    .error (.rejected (m.metadata.messageId.text ++ " is not a domain message"))
  | .domain body =>
    match EventKind.ofDraft body.toDraft with
    | .ok (.orderPlaced placed) => .ok placed
    | .ok other => .error (.rejected ("expected order.placed, got " ++ other.type))
    | .error e => .error (.rejected ("malformed order.placed payload: " ++ e.message))

def reserveLine (shelf : Nat) (u : UnitRef) (order correlation : Uuid) (line : PlacedLine) :
    ShopAct Q H OrderingError Unit := do
  let item : Tracked StockItem ← TableRef.load ⟨.stockItem, shelf⟩ u line.stockItemId
  let stamp ← WorldAct.stamp
  let item ← Act.carrying item
    ((Act.onFirst (StockItem.reserve stamp order line.quantity correlation)).mapError .domain)
  let _ : Tracked StockItem ← Act.carrying item (TableRef.update ⟨.stockItem, shelf⟩ u)

def reserveLines (shelf : Nat) (u : UnitRef) (order correlation : Uuid) :
    List PlacedLine → ShopAct Q H OrderingError Unit
  | [] => return ()
  | line :: lines => do
    reserveLine shelf u order correlation line
    reserveLines shelf u order correlation lines

def reservingEvent (t : TransactionId) (order : Uuid) (lines : Nat) : TraceEvent :=
  .ofTransaction .debug "reserving stock" t
    [("order_id", .plain order.text), ("lines", .count lines)]

/-- Reserves stock for a placed order from the given table. A message without a correlation is
correlated with its order. -/
def reserveStock (shelf : Nat) : Handler (Party Q) (Premises H) := fun m u => Task.atOnce do
  let placed ← Act.ofExcept (placedOrder m)
  let x ← Act.gets (World.unit · u)
  WorldAct.record (reservingEvent x.transaction placed.orderId placed.lines.length)
  let correlation := m.metadata.correlationId.getD placed.orderId
  (reserveLines shelf u placed.orderId correlation placed.lines).mapError
    fun e => .rejected e.message

def deliveredEvent (t : TransactionId) (m : Message) : TraceEvent :=
  .ofTransaction .info "message delivered" t
    [("message_type", .quoted m.type),
      ("aggregate_id", TraceEvent.optionalId m.metadata.aggregateId)]

def keepJournal : Handler (Party Q) (Premises H) := fun m u => Task.atOnce do
  let x ← Act.gets (World.unit · u)
  WorldAct.record (deliveredEvent x.transaction m)
  Act.modify fun w => { w with host := { w.host with journal := w.host.journal ++ [m.type] } }

end Transactor.Shop
