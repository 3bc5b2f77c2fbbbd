import Transactor.Shop.Store

namespace Transactor.Shop

structure PlaceOrder where
  correlationId : Uuid
  orderId : Uuid
  customerId : Uuid
  lines : List OrderLine

structure CancelOrder where
  correlationId : Uuid
  orderId : Uuid
  reason : String

def PlaceOrder.type : String := "ordering.place_order"

def CancelOrder.type : String := "ordering.cancel_order"

def handlingEvent (type : String) (correlation : Uuid) (t : TransactionId) : TraceEvent :=
  ⟨.debug, "handling command",
    [("command_type", .quoted type), ("correlation_id", .plain correlation.text),
      ("transaction_id", .plain t.text)]⟩

variable {Q H : Type}

/-- Reports that a command is handled within a unit. -/
def reportCommand (type : String) (correlation : Uuid) (u : UnitRef) :
    ShopAct Q H OrderingError Unit := do
  let x ← Act.gets (World.unit · u)
  WorldAct.record (handlingEvent type correlation x.transaction)

/-- Places an order and inserts it into the given table of orders; gives its identifier. -/
def PlaceOrder.handle (c : PlaceOrder) (u : UnitRef) (shelf : Nat) :
    ShopAct Q H OrderingError Uuid := do
  reportCommand PlaceOrder.type c.correlationId u
  let stamp ← WorldAct.stamp
  let order ← (Act.ofExcept
    (Order.place stamp c.orderId c.customerId c.lines c.correlationId)).mapError .domain
  let order : Tracked Order ← Act.carrying order (TableRef.insert ⟨.order, shelf⟩ u)
  return order.body.id

/-- Loads an order from the given table, cancels it and writes it back; gives its identifier. -/
def CancelOrder.handle (c : CancelOrder) (u : UnitRef) (shelf : Nat) :
    ShopAct Q H OrderingError Uuid := do
  reportCommand CancelOrder.type c.correlationId u
  let order : Tracked Order ← TableRef.load ⟨.order, shelf⟩ u c.orderId
  let stamp ← WorldAct.stamp
  let order ← Act.carrying order
    ((Act.onFirst (Order.cancel stamp c.reason c.correlationId)).mapError .domain)
  let order : Tracked Order ← Act.carrying order (TableRef.update ⟨.order, shelf⟩ u)
  return order.body.id

end Transactor.Shop
