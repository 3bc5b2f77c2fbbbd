import Transactor.Scenario.Deed.Transaction
import Transactor.Scenario.Inspected

namespace Transactor.Scenario

open Shop StageAct

/-- The batches of one transaction, or all of them. -/
def Recorder.batchesOf (r : Recorder) : Option TransactionId → List (List Message)
  | none => r.batches.map Prod.snd
  | some t => (r.batches.filter fun b => b.1 = t).map Prod.snd

def shownBatches (batches : List (List Message)) : StageAct Failure Json := do
  return .array (← batches.mapM shownAll)

/-- What a dispatcher tells of its calls; one that notes nothing is left out. -/
def recorderViews (r : Recorder) (transaction : Option TransactionId) (brief : Bool) :
    DispatcherPlan → StageAct Failure (List Json)
  | .recording => do
    let batches ← shownBatches (r.batchesOf transaction)
    if transaction.isSome then return [batches]
    else
      let types := r.batches.flatMap fun b => b.2.map Message.type
      return [.object [("calls", .nat r.batches.length), ("types", .strings types),
        ("batches", batches)]]
  | .failing => return [.object [("calls", .nat r.started)]]
  | .cascading _ => do
    let calls := ("calls", .nat r.batches.length)
    if brief then return [.object [calls]]
    else return [.object [calls, ("batches", ← shownBatches (r.batchesOf none))]]
  | .slow _ => return [.object [("started", .nat r.started), ("finished", .nat r.finished)]]
  | .bounded _ inner => recorderViews r transaction brief inner
  | .logging | .inProcess _ => return []

def Subject.text (atHand : Option UnitRef) : Subject → StageAct Failure String
  | .registry => do return registryText (← Act.get)
  | .listener => return listenerText
  | .table .order => do return tableText (TableRef.table ⟨.order, 0⟩ (← Act.get))
  | .table .stockItem => do return tableText (TableRef.table ⟨.stockItem, 0⟩ (← Act.get))
  | .unit name => do
    let u ← unitNamed atHand name
    return unitText ((← Act.get).unit u)
  | .transaction name => do
    let t ← localNamed name
    return transactionText t ((← Act.get).transaction t).status
  | .built => do return String.intercalate "\n" (← stage).built

def Query.run (atHand : Option UnitRef) : Query → StageAct Failure Json
  | .settings => do return .string (toString (← Act.get).settings.maxCycles)
  | .journal => do return .strings (← Act.get).host.journal
  | .takeJournal => do
    let journal := (← Act.get).host.journal
    Act.modify fun w => { w with host := { w.host with journal := [] } }
    return .strings journal
  | .recorders transaction brief => do
    let t ← match transaction with
      | none => pure none
      | some name => do pure (some (← idNamed name))
    let s ← stage
    return .array (← recorderViews s.recorder t brief s.dispatcher)
  | .inspect subject => do return .string (← subject.text atHand)

end Transactor.Scenario
