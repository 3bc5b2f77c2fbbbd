import Transactor.Scenario.Stage
import Transactor.Shop.Commands

namespace Transactor.Scenario

open Shop StageAct

def storedView (k : Kind) (row : Option (Tracked k.Entity)) : Json := Json.ofOption (rowView k) row

def commandJson (aggregate : Uuid) (type : String) (correlation : Uuid) : Json :=
  .object [("aggregate_id", idJson aggregate), ("command", .string type),
    ("correlation_id", idJson correlation)]

def hasNoRows (w : StageWorld) (k : Kind) : Bool := (TableRef.table ⟨k, 0⟩ w).committed.size == 0

def ShopDeed.run (atHand : Option UnitRef) : ShopDeed → StageAct Failure Json
  | .peek unit kind id => do
    let u ← unitNamed atHand unit
    return storedView kind (← TableRef.peek ⟨kind, 0⟩ u id)
  | .snapshot kind id => do return storedView kind (← TableRef.snapshot ⟨kind, 0⟩ id)
  | .isEmpty => do
    let w ← Act.get
    return .array [.bool (hasNoRows w .order), .bool (hasNoRows w .stockItem)]
  | .place unit c => do
    let u ← unitNamed atHand unit
    let id ← (c.handle u 0).mapError .ordering
    return commandJson id PlaceOrder.type c.correlationId
  | .cancel unit c => do
    let u ← unitNamed atHand unit
    let id ← (c.handle u 0).mapError .ordering
    return commandJson id CancelOrder.type c.correlationId

end Transactor.Scenario
