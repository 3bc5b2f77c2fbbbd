import Transactor.Scenario.Player
import Transactor.Scenario.Redaction

namespace Transactor.Scenario

open Shop

structure StepReport where
  result : Exit Failure Json
  log : List LogEntry
  state : Json
  trace : Option (List String)

/-- The answer of a step; one that was given up has no other. -/
def exitJson : Exit Failure Json → Json
  | .done j => resultJson (.ok j)
  | .failed f => resultJson (.error f)
  | .interrupted _ => reportJson (.plain "Interrupted" "given up")

def StepReport.toJson (r : StepReport) : Json :=
  .object ([("r", exitJson r.result), ("log", .array (r.log.map LogEntry.toJson)),
    ("state", r.state)] ++ (r.trace.map fun lines => ("trace", Json.strings lines)).toList)

def transactionView (w : StageWorld) (t : NamedTransaction) : Json :=
  .string (t.handle.status w).name

def unitView (w : StageWorld) (u : UnitRef) : Json :=
  let x := w.unit u
  .array [.string x.status.name, .bool x.status.accepts, .nat x.queue.length,
    .nat x.registered.length, .nat x.participants.length]

def listView {α : Type} (f : α → Json) (m : KeyedList String α) : Json :=
  .object (m.entries.map fun e => (e.1, f e.2))

def stateView (w : StageWorld) : Json :=
  let s := w.host.host
  .object [("active_units", .nat w.bound.size),
    ("txs", listView (transactionView w) s.transactions),
    ("units", listView (unitView w) s.units),
    ("entities", listView Entity.recordView s.entities),
    ("rows", .array [.nat (TableRef.table ⟨.order, 0⟩ w).committed.size,
      .nat (TableRef.table ⟨.stockItem, 0⟩ w).committed.size])]

def traceLines (level : Level) (events : List TraceEvent) : List String :=
  (events.filter fun e => e.level.rank ≤ level.rank).map TraceEvent.line

def clearLogs (w : StageWorld) : StageWorld :=
  { w with trace := [], host := { w.host with host := { w.host.host with log := [] } } }

/-- How deep actions may nest. -/
def maxDepth : Nat := 10000

def playStep (level : Option Level) (w : StageWorld) (step : Step Action) :
    StepReport × StageWorld :=
  let (result, w) := play maxDepth none step.action (clearLogs w)
  let trace := level.map fun l => traceLines l w.trace.reverse
  (⟨result, w.host.host.log.reverse, stateView w, trace⟩, w)

/-- Plays steps in turn; each starts from the world that the one before has left. -/
def playSteps (level : Option Level) (w : StageWorld) :
    List (Step Action) → List StepReport × StageWorld
  | [] => ([], w)
  | step :: steps =>
    let (report, w) := playStep level w step
    let (reports, w) := playSteps level w steps
    (report :: reports, w)

namespace Script

/-- The world that a script starts in. -/
def opening (s : Script) (supply : Supply) : StageWorld :=
  let settings := match s.maxCycles with
    | none => Settings.default
    | some n => Settings.default.withMaxCycles n
  let stage := { Stage.start s.dispatcher with
    handlers := s.dispatcher.subscriptions.length, built := s.dispatcher.built }
  World.start settings supply openingTime ⟨.empty, [], stage⟩

/-- The answer to a script that came with some identifiers. -/
def answer (s : Script) (given : List Uuid) : Json :=
  let (reports, w) := playSteps s.level (s.opening ⟨freshSupply given, 0⟩) s.steps
  let disclosure : Disclosure := ⟨given, w.host.host.aliases⟩
  disclosure.redactJson (.object [("steps", .array (reports.map StepReport.toJson))])

end Script

end Transactor.Scenario
