import Transactor.Scenario.Stage

namespace Transactor.Scenario

open Shop StageAct

def StageAct.takeIn (u : UnitRef) (r : Registration) : StageAct Failure Unit :=
  (WorldAct.register u r).mapError .unitOfWork

def StageAct.makeOption {ε : Type} : Option MessagePlan → StageAct ε (Option Message)
  | none => return none
  | some p => do return some (← make p)

def UnitDeed.run (atHand : Option UnitRef) : UnitDeed → StageAct Failure Json
  | .begin name given maxCycles => do
    let id ← match given with
      | some id => pure id
      | none => do
        let id ← WorldAct.freshId
        nameId name ⟨id⟩
        pure id
    let shared := (← Act.get).settings
    nameUnit name (← WorldAct.newUnit ⟨id⟩ ((maxCycles.map Settings.mk).getD shared))
    return .null
  | .register unit plan => do
    let u ← unitNamed atHand unit
    takeIn u (.message (← make plan))
    return .null
  | .registerTransition unit aggregate type origin target plan => do
    let u ← unitNamed atHand unit
    takeIn u (.transition ⟨aggregate, type, origin, target, ← makeOption plan⟩)
    return .null
  | .discard unit => do
    WorldAct.discard (← unitNamed atHand unit)
    return .null
  | .complete unit outcome => do
    WorldAct.completeUnit (← unitNamed atHand unit) outcome
    return .null
  | .isRegistered unit type aggregate => do
    let u ← unitNamed atHand unit
    return .bool (((← Act.get).unit u).registered.contains (type, aggregate))
  | .status unit => do
    let u ← unitNamed atHand unit
    let x := (← Act.get).unit u
    return .array [.string x.status.name, .nat x.queue.length]

end Transactor.Scenario
