import Transactor.Scenario.Stage

namespace Transactor.Scenario

open Shop

namespace Stub

/-- The status of a stub; an unknown one counts as over. -/
def statusOf (t : TransactionId) (w : StageWorld) : TransactionStatus :=
  match w.host.host.stubs.get? t with
  | some x => x.status
  | none => .completed .rolledBack

def change (t : TransactionId) (f : Stub → Stub) : StageAct Failure Unit := do
  match (← StageAct.stage).stubs.get? t with
  | some x => StageAct.modifyStage fun s => { s with stubs := s.stubs.insert t (f x) }
  | none => Act.fail (.unknown "stub" t.text)

/-- A stub keeps what is synchronised with it unless it refuses; its status does not matter. -/
def synchronize (t : TransactionId) (s : Synchronization (Party Actor)) :
    StageAct TransactionError Unit := do
  match (← StageAct.stage).stubs.get? t with
  | some x =>
    if x.refuses then Act.fail (.notActive t)
    else StageAct.modifyStage fun stage =>
      { stage with stubs := stage.stubs.insert t { x with kept := x.kept ++ [s] } }
  | none => Act.fail (.notActive t)

end Stub

/-- The handle under which the registry takes a transaction. -/
def NamedTransaction.handle (t : NamedTransaction) :
    TransactionHandle (Party Actor) (Premises Stage) :=
  if t.isStub then ⟨t.id, Stub.statusOf t.id, Stub.synchronize t.id⟩ else .ofLocal t.id

namespace StageAct

def addTransaction (name : String) (t : NamedTransaction) : StageAct Failure Unit := do
  modifyStage fun s => { s with transactions := s.transactions.insert name t }
  nameId name t.id

/-- The transaction of a name, unless it is a stub. -/
def localNamed (name : String) : StageAct Failure TransactionId := do
  let t ← transactionNamed name
  if t.isStub then Act.fail (.unknown "local transaction" name) else return t.id

/-- The identifier of a transaction by its name, which it keeps when it is over. -/
def idNamed (name : String) : StageAct Failure TransactionId := do
  let s ← stage
  match s.transactions.get? name, s.aliases.reverse.find? fun a => a.2 == name with
  | some t, _ => return t.id
  | none, some a => return a.1
  | none, none => Act.fail (.unknown "transaction" name)

def stubNamed (name : String) : StageAct Failure (TransactionId × Stub) := do
  let t ← transactionNamed name
  match (← stage).stubs.get? t.id with
  | some x => return (t.id, x)
  | none => Act.fail (.unknown "stub" name)

/-- Says how a unit is named; a unit without a name is given one. -/
def introduce (name : String) (u : UnitRef) : StageAct Failure Json := do
  match (← stage).unitName? u with
  | some known => return .object [("existing", .string known)]
  | none =>
    nameUnit name u
    return .object [("new", .string name)]

def nameOf : Option UnitRef → StageAct Failure Json
  | none => return .null
  | some u => do return Json.ofOption .string ((← stage).unitName? u)

end StageAct

open StageAct

def TransactionDeed.run : TransactionDeed → StageAct Failure Json
  | .begin name => do
    let t ← WorldAct.beginTransaction
    addTransaction name ⟨t, false⟩
    return .null
  | .beginStub name status refuses => do
    let t := TransactionId.mk (← WorldAct.freshId)
    modifyStage fun s => { s with stubs := s.stubs.insert t ⟨status, refuses, []⟩ }
    addTransaction name ⟨t, true⟩
    return .null
  | .setStub name status refuses => do
    let (t, x) ← stubNamed name
    Stub.change t fun _ =>
      { x with status := status.getD x.status, refuses := refuses.getD x.refuses }
    return .null
  | .markRollback name => do
    let t ← localNamed name
    (WorldAct.markRollback t).mapError .transaction
    return .null
  | .isActive name => do
    let t ← transactionNamed name
    return .bool (t.handle.status (← Act.get)).isActive
  | .current name unit => do
    let t ← transactionNamed name
    introduce unit (← (WorldAct.currentUnit t.handle).mapError .unitOfWork)
  | .start name unit => do
    let t ← transactionNamed name
    introduce unit (← (WorldAct.startUnit t.handle).mapError .unitOfWork)
  | .find name => do nameOf (← WorldAct.findUnit (← idNamed name))
  | .endUnit name => do nameOf (← WorldAct.endUnit (← idNamed name))

end Transactor.Scenario
