import Transactor.Message.Codec
import Transactor.Registry
import Transactor.Scenario.Entity
import Transactor.Scenario.Script
import Transactor.Shop.Store

namespace Transactor.Scenario

open Shop

/-- A transaction of the host's own. It keeps what is synchronised with it. -/
structure Stub where
  status : TransactionStatus
  refuses : Bool
  kept : List (Synchronization (Party Actor))

structure NamedTransaction where
  id : TransactionId
  isStub : Bool

inductive LogEntry where
  | dispatched (types : List String)
  | handled (handler type : String)
  | asked (participant : String)
  | told (participant : String) (outcome : Outcome)
  | done (who action : String) (result : Except Failure Json)

def resultJson : Except Failure Json → Json
  | .ok j => .object [("ok", j)]
  | .error f => f.toJson

def LogEntry.toJson : LogEntry → Json
  | .dispatched types => .array [.string "dispatch", .strings types]
  | .handled handler type => .strings ["handle", handler, type]
  | .asked participant => .strings ["before", participant]
  | .told participant outcome => .strings ["after", participant, outcome.name]
  | .done who action result => .array [.string who, .string action, resultJson result]

structure Recorder where
  batches : List (TransactionId × List Message)
  started : Nat
  finished : Nat

structure Stage where
  dispatcher : DispatcherPlan
  transactions : KeyedList String NamedTransaction
  units : KeyedList String UnitRef
  entities : KeyedList String Entity
  stubs : KeyedList TransactionId Stub
  /-- The names of transactions whose identifier was not given. -/
  aliases : List (TransactionId × String)
  /-- The message identifiers shown so far, in that order. -/
  shown : List Uuid
  recorder : Recorder
  /-- How often each rule of a handler has applied. -/
  tallies : KeyedList (Nat × Nat) Nat
  handlers : Nat
  /-- The inspected forms of what was built. -/
  built : List String
  log : List LogEntry

namespace Stage

def start (dispatcher : DispatcherPlan) : Stage where
  dispatcher := dispatcher
  transactions := ∅
  units := ∅
  entities := ∅
  stubs := ∅
  aliases := []
  shown := []
  recorder := ⟨[], 0, 0⟩
  tallies := ∅
  handlers := 0
  built := []
  log := []

def unitName? (s : Stage) (u : UnitRef) : Option String :=
  (s.units.entries.find? fun e => e.2 = u).map Prod.fst

/-- The place of a message identifier among those shown, where it is put if it is new. -/
def label (s : Stage) (id : Uuid) : String × Stage :=
  match s.shown.idxOf? id with
  | some i => ("m" ++ toString i, s)
  | none => ("m" ++ toString s.shown.length, { s with shown := s.shown ++ [id] })

end Stage

abbrev StageWorld := ShopWorld Actor Stage

abbrev StageAct (ε α : Type) := ShopAct Actor Stage ε α

abbrev StageTask (ε α : Type) := ShopTask Actor Stage ε α

namespace StageAct

variable {ε : Type}

def stage : StageAct ε Stage := Act.gets fun w => w.host.host

def modifyStage (f : Stage → Stage) : StageAct ε Unit :=
  Act.modify fun w => { w with host := { w.host with host := f w.host.host } }

def log (e : LogEntry) : StageAct ε Unit := modifyStage fun s => { s with log := e :: s.log }

/-- What a name stands for in one of the stage's lists. -/
def named {α : Type} (kind : String) (list : Stage → KeyedList String α) (name : String) :
    StageAct Failure α := do
  match (list (← stage)).get? name with
  | some a => return a
  | none => Act.fail (.unknown kind name)

def transactionNamed : String → StageAct Failure NamedTransaction :=
  named "transaction" Stage.transactions

def unitNamed (atHand : Option UnitRef) : UnitName → StageAct Failure UnitRef
  | some name => named "unit" Stage.units name
  | none =>
    match atHand with
    | some u => return u
    | none => Act.fail (.unknown "unit" "")

def nameUnit (name : String) (u : UnitRef) : StageAct ε Unit :=
  modifyStage fun s => { s with units := s.units.insert name u }

/-- Notes the name of a transaction whose identifier was not given. -/
def nameId (name : String) (t : TransactionId) : StageAct ε Unit :=
  modifyStage fun s => { s with aliases := s.aliases ++ [(t, name)] }

/-- Makes a message with a fresh identifier and the time. -/
def make (p : MessagePlan) : StageAct ε Message := do
  return p.message (← WorldAct.stamp)

/-- A message as it is shown, with a label in place of its identifier. -/
def shown (m : Message) : StageAct ε Json := do
  let (label, stage) := (← stage).label m.metadata.messageId
  modifyStage fun _ => stage
  return m.toJson.setField "metadata" (m.metadata.toJson.setField "message_id" (.string label))

def shownAll (ms : List Message) : StageAct ε Json := do
  return .array (← ms.mapM shown)

def shownOption : Option Message → StageAct ε Json
  | none => return .null
  | some m => shown m

end StageAct

end Transactor.Scenario
