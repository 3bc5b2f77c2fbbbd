import Transactor.Json.Decode
import Transactor.Message.Basic

namespace Transactor.Shop

open Json

structure PlacedLine where
  stockItemId : Uuid
  quantity : UInt32
  deriving DecidableEq

structure OrderPlaced where
  orderId : Uuid
  customerId : Uuid
  lines : List PlacedLine
  deriving DecidableEq

structure OrderCancelled where
  orderId : Uuid
  reason : String
  deriving DecidableEq

/-- Stock was set aside; `remaining` is what is still available. -/
structure StockReserved where
  stockItemId : Uuid
  orderId : Uuid
  quantity : UInt32
  remaining : UInt32
  deriving DecidableEq

inductive EventKind where
  | orderPlaced (e : OrderPlaced)
  | orderCancelled (e : OrderCancelled)
  | stockReserved (e : StockReserved)
  deriving DecidableEq

/-- An event with what a message says about it. -/
structure Event where
  metadata : Metadata
  kind : EventKind

def orderPlacedType : String := "order.placed"

def orderCancelledType : String := "order.cancelled"

def stockReservedType : String := "inventory.stock_reserved"

def EventKind.type : EventKind → String
  | .orderPlaced _ => orderPlacedType
  | .orderCancelled _ => orderCancelledType
  | .stockReserved _ => stockReservedType

def wordJson (n : UInt32) : Json := .int n.toNat

namespace PlacedLine

def shape : Draft.RecordShape := ⟨"PlacedLine", 2⟩

def toJson (l : PlacedLine) : Json :=
  .object [("stock_item_id", .string l.stockItemId.text), ("quantity", wordJson l.quantity)]

def ofFields (fields : List (String × Draft)) : Decoded PlacedLine := do
  let quantity ← Draft.field? fields "quantity" Draft.asWord
  let item ← Draft.field? fields "stock_item_id" Draft.asUuid
  return {
    stockItemId := ← Draft.required "stock_item_id" item
    quantity := ← Draft.required "quantity" quantity }

def ofParts (items : List Draft) : Decoded PlacedLine := do
  return {
    stockItemId := ← Draft.part shape items 0 Draft.asUuid
    quantity := ← Draft.part shape items 1 Draft.asWord }

def ofDraft (d : Draft) : Decoded PlacedLine := d.asRecord shape ofFields ofParts

end PlacedLine

namespace OrderPlaced

def shape : Draft.RecordShape := ⟨"OrderPlaced", 3⟩

def toJson (e : OrderPlaced) : Json :=
  .object [("order_id", .string e.orderId.text), ("customer_id", .string e.customerId.text),
    ("lines", .array (e.lines.map PlacedLine.toJson))]

def ofFields (fields : List (String × Draft)) : Decoded OrderPlaced := do
  let customer ← Draft.field? fields "customer_id" Draft.asUuid
  let lines ← Draft.field? fields "lines" (Draft.asList PlacedLine.ofDraft)
  let order ← Draft.field? fields "order_id" Draft.asUuid
  return {
    orderId := ← Draft.required "order_id" order
    customerId := ← Draft.required "customer_id" customer
    lines := ← Draft.required "lines" lines }

def ofParts (items : List Draft) : Decoded OrderPlaced := do
  return {
    orderId := ← Draft.part shape items 0 Draft.asUuid
    customerId := ← Draft.part shape items 1 Draft.asUuid
    lines := ← Draft.part shape items 2 (Draft.asList PlacedLine.ofDraft) }

def ofDraft (d : Draft) : Decoded OrderPlaced := d.asRecord shape ofFields ofParts

end OrderPlaced

namespace OrderCancelled

def shape : Draft.RecordShape := ⟨"OrderCancelled", 2⟩

def toJson (e : OrderCancelled) : Json :=
  .object [("order_id", .string e.orderId.text), ("reason", .string e.reason)]

def ofFields (fields : List (String × Draft)) : Decoded OrderCancelled := do
  let order ← Draft.field? fields "order_id" Draft.asUuid
  let reason ← Draft.field? fields "reason" Draft.asString
  return {
    orderId := ← Draft.required "order_id" order
    reason := ← Draft.required "reason" reason }

def ofParts (items : List Draft) : Decoded OrderCancelled := do
  return {
    orderId := ← Draft.part shape items 0 Draft.asUuid
    reason := ← Draft.part shape items 1 Draft.asString }

def ofDraft (d : Draft) : Decoded OrderCancelled := d.asRecord shape ofFields ofParts

end OrderCancelled

namespace StockReserved

def shape : Draft.RecordShape := ⟨"StockReserved", 4⟩

def toJson (e : StockReserved) : Json :=
  .object [("stock_item_id", .string e.stockItemId.text), ("order_id", .string e.orderId.text),
    ("quantity", wordJson e.quantity), ("remaining", wordJson e.remaining)]

def ofFields (fields : List (String × Draft)) : Decoded StockReserved := do
  let order ← Draft.field? fields "order_id" Draft.asUuid
  let quantity ← Draft.field? fields "quantity" Draft.asWord
  let remaining ← Draft.field? fields "remaining" Draft.asWord
  let item ← Draft.field? fields "stock_item_id" Draft.asUuid
  return {
    stockItemId := ← Draft.required "stock_item_id" item
    orderId := ← Draft.required "order_id" order
    quantity := ← Draft.required "quantity" quantity
    remaining := ← Draft.required "remaining" remaining }

def ofParts (items : List Draft) : Decoded StockReserved := do
  return {
    stockItemId := ← Draft.part shape items 0 Draft.asUuid
    orderId := ← Draft.part shape items 1 Draft.asUuid
    quantity := ← Draft.part shape items 2 Draft.asWord
    remaining := ← Draft.part shape items 3 Draft.asWord }

def ofDraft (d : Draft) : Decoded StockReserved := d.asRecord shape ofFields ofParts

end StockReserved

namespace EventKind

def names : List String := ["OrderPlaced", "OrderCancelled", "StockReserved"]

def toJson : EventKind → Json
  | .orderPlaced e => .object [("OrderPlaced", e.toJson)]
  | .orderCancelled e => .object [("OrderCancelled", e.toJson)]
  | .stockReserved e => .object [("StockReserved", e.toJson)]

def ofContent (name : String) (content : Draft) : Decoded EventKind :=
  if name = "OrderPlaced" then (OrderPlaced.ofDraft content).map .orderPlaced
  else if name = "OrderCancelled" then (OrderCancelled.ofDraft content).map .orderCancelled
  else (StockReserved.ofDraft content).map .stockReserved

def ofDraft (d : Draft) : Decoded EventKind :=
  d.asVariant names (fun _ => .error (.wrongType .unitVariant "newtype variant")) ofContent

end EventKind

/-- The message of an event keeps the event's metadata but for the type, which is the event's. -/
def Event.message (e : Event) : Message where
  metadata := { e.metadata with messageType := e.kind.type }
  payload := .domain e.kind.toJson

end Transactor.Shop
