import Transactor.Persistence
import Transactor.Scenario.Stage

namespace Transactor.Scenario

open Shop

/-- An operation on a named aggregate in its world. -/
abbrev EntityAct (s : Species) (α : Type) := Act (Tracked s.Body × StageWorld) Failure α

namespace StageAct

def setEntity {ε : Type} (name : String) (e : Entity) : StageAct ε Unit :=
  modifyStage fun s => { s with entities := s.entities.insert name e }

def present (name : String) (e : Entity) : StageAct Failure Json := do
  setEntity name e
  return e.view

/-- Runs an operation on the aggregate of a name. -/
def onEntity {α : Type} (name : String) (x : (s : Species) → EntityAct s α) : StageAct Failure α :=
  fun w =>
    match w.host.host.entities.get? name with
    | some (.tracked s a) =>
      let r := x s (a, w)
      (r.1, (setEntity (ε := Failure) name (.tracked s r.2.1) r.2.2).2)
    | _ => (.error (.unknown "aggregate" name), w)

end StageAct

namespace EntityAct

variable {s : Species} {α : Type}

def world (x : StageAct Failure α) : EntityAct s α := Act.onSecond x

def aggregate (x : Act (Tracked s.Body) Failure α) : EntityAct s α := Act.onFirst x

def tracked : EntityAct s (Tracked s.Body) := Act.gets Prod.fst

end EntityAct

open StageAct EntityAct

def NewEntity.make : NewEntity → StageAct Failure Entity
  | .order id customer lines correlation => do
    let stamp ← WorldAct.stamp
    let order ← (Act.ofExcept (Order.place stamp id customer lines correlation)).mapError .domain
    return .tracked (.row .order) order
  | .stock id sku onHand => return .tracked (.row .stockItem) (StockItem.ofUnits id sku onHand)
  | .probe id type saveVeto removalVeto =>
    return .tracked .probe (.fresh ⟨id, type, saveVeto, removalVeto, 0, 0⟩)
  | .bare id type => return .tracked .bare (.fresh ⟨id, type⟩)
  | .plain => return .plain

/-- The step that was taken, with its message as it is shown. -/
def stepJson (t : Transition) : StageAct Failure Json := do
  return .object [("id", idJson t.aggregateId), ("type", .string t.aggregateType),
    ("from", .string t.origin.name), ("to", .string t.target.name),
    ("message", ← shownOption t.message)]

def moveAndShow (target : Lifecycle) (s : Species) : EntityAct s Json := do
  let stamp ← world WorldAct.stamp
  let step ← aggregate ((Tracked.move target stamp).mapError .unitOfWork)
  world (stepJson step)

/-- Calls the table's operation on an entity that has a table. -/
def onRow (x : (r : TableRef) → Act (Tracked r.Entity × StageWorld) OrderingError Unit) :
    (s : Species) → EntityAct s Unit
  | .row .order => (x ⟨.order, 0⟩).mapError .ordering
  | .row .stockItem => (x ⟨.stockItem, 0⟩).mapError .ordering
  | _ => do
    let a ← tracked
    Act.fail (.unknown "table" (Aggregate.aggregateType a.body))

def cancelOrder (stamp : Stamp) (reason : String) (correlation : Uuid) :
    (s : Species) → EntityAct s Unit
  | .row .order => aggregate ((Order.cancel stamp reason correlation).mapError .domain)
  | _ => Act.fail (.unknown "order" "")

def reserveUnits (stamp : Stamp) (order : Uuid) (quantity : UInt32) (correlation : Uuid) :
    (s : Species) → EntityAct s Unit
  | .row .stockItem =>
    aggregate ((StockItem.reserve stamp order quantity correlation).mapError .domain)
  | _ => Act.fail (.unknown "stock item" "")

def loadRow (u : UnitRef) (id : Uuid) : Kind → StageAct Failure Entity
  | .order => do
    return .tracked (.row .order) (← (TableRef.load ⟨.order, 0⟩ u id).mapError .ordering)
  | .stockItem => do
    return .tracked (.row .stockItem) (← (TableRef.load ⟨.stockItem, 0⟩ u id).mapError .ordering)

/-- Answers nothing but that all went well. -/
def quietly {σ ε : Type} (x : Act σ ε Unit) : Act σ ε Json := do
  x
  return .null

/-- Reports to an aggregate's lifecycle; an entity that is none is left alone. -/
def reportTo (name : String) (u : UnitRef) (event : PersistenceEvent) : StageAct Failure Unit := do
  match (← stage).entities.get? name with
  | some .plain => return ()
  | _ => onEntity name fun _ => (event.report u).mapError .unitOfWork

def EntityDeed.run (atHand : Option UnitRef) (name : String) : EntityDeed → StageAct Failure Json
  | .new plan => do present name (← plan.make)
  | .show => do return (← named "entity" Stage.entities name).view
  | .move target => onEntity name (moveAndShow target)
  | .raise plan => do
    let m ← make plan
    quietly (onEntity name fun _ => aggregate (Act.modify fun a => a.raise m))
  | .takeRaised => do shownAll (← onEntity name fun _ => aggregate Tracked.takeRaised)
  | .messages => do shownAll (← onEntity name fun _ => Act.gets fun s => s.1.messages)
  | .clearMessages => quietly (onEntity name fun _ => aggregate (Act.modify Tracked.clearMessages))
  | .beforeSave =>
    quietly
      (onEntity name fun _ => aggregate ((Tracked.onBody Aggregate.beforeSave).mapError .domain))
  | .beforeRemoval =>
    quietly
      (onEntity name fun _ => aggregate ((Tracked.onBody Aggregate.beforeRemoval).mapError .domain))
  | .identity =>
    onEntity name fun _ => Act.gets fun s =>
      .array [.string (Aggregate.aggregateType s.1.body), idJson (Aggregate.aggregateId s.1.body)]
  | .cancel reason correlation => do
    let stamp ← WorldAct.stamp
    quietly (onEntity name (cancelOrder stamp reason correlation))
  | .reserve order quantity correlation => do
    let stamp ← WorldAct.stamp
    quietly (onEntity name (reserveUnits stamp order quantity correlation))
  | .report unit event => do
    let u ← unitNamed atHand unit
    quietly (reportTo name u event)
  | .insert unit => do
    let u ← unitNamed atHand unit
    quietly (onEntity name (onRow fun r => r.insert u))
  | .update unit => do
    let u ← unitNamed atHand unit
    quietly (onEntity name (onRow fun r => r.update u))
  | .remove unit => do
    let u ← unitNamed atHand unit
    quietly (onEntity name (onRow fun r => r.remove u))
  | .load unit kind id => do
    let u ← unitNamed atHand unit
    present name (← loadRow u id kind)

end Transactor.Scenario
