import Transactor.Shop.Order

namespace Transactor.Shop

structure StockItem where
  id : Uuid
  sku : String
  onHand : UInt32
  reserved : UInt32
  deriving DecidableEq

namespace StockItem

def typeName : String := "stock_item"

def ofUnits (id : Uuid) (sku : String) (onHand : UInt32) : Tracked StockItem :=
  .fresh ⟨id, sku, onHand, 0⟩

/-- The units that can still be reserved. -/
def available (i : StockItem) : UInt32 := if i.reserved ≤ i.onHand then i.onHand - i.reserved else 0

instance : Aggregate StockItem where
  aggregateId i := i.id
  aggregateType _ := typeName
  beforeSave := fun i =>
    if i.onHand < i.reserved then
      (.error (.validation ("stock item " ++ i.sku ++ " reserves more than it holds")), i)
    else (.ok (), i)
  beforeRemoval := fun i => (.ok (), i)

/-- Sets units aside for an order: at least one, and no more than are available. -/
def reserve (stamp : Stamp) (order : Uuid) (quantity : UInt32) (correlation : Uuid) :
    Act (Tracked StockItem) DomainError Unit := fun i =>
  let available := i.body.available
  if quantity = 0 then
    (.error (.validation ("cannot reserve zero units of " ++ i.body.sku)), i)
  else if available < quantity then
    (.error (.validation ("insufficient stock for " ++ i.body.sku ++ ": requested "
      ++ toString quantity.toNat ++ ", available " ++ toString available.toNat)), i)
  else
    let body := { i.body with reserved := i.body.reserved + quantity }
    let event := .stockReserved ⟨body.id, order, quantity, body.available⟩
    (.ok (), Tracked.raise { i with body } (eventMessage stamp body.id correlation event))

end StockItem

end Transactor.Shop
