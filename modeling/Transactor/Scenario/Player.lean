import Transactor.Scenario.Deed
import Transactor.Scenario.Dispatchers
import Transactor.Shop.Reservation
import Transactor.Shop.Session

namespace Transactor.Scenario

open Shop StageAct

abbrev Player := Option UnitRef → Action → StageTask Failure Json

def noteDone {ε : Type} (who action : String) (result : Except Failure Json) : StageAct ε Unit :=
  log (.done who action result)

/-- Takes steps in turn and notes each. A failure ends them unless it is passed over. -/
def takeSteps (who : String) (act : Action → StageTask Failure Json) :
    List (Step Action) → StageTask Failure Unit
  | [] => return ()
  | step :: steps => do
    let result ← (act step.action).attempt
    Task.atOnce (noteDone who step.name result)
    match result with
    | .error f => if step.ignore then takeSteps who act steps else Task.fail f
    | .ok _ => takeSteps who act steps

/-- Takes steps that end at once, as `takeSteps` does. -/
def takeDeeds (who : String) (act : Deed → StageAct Failure Json) :
    List (Step Deed) → StageAct Failure Unit
  | [] => return ()
  | step :: steps => do
    let result ← (act step.action).attempt
    noteDone who step.name result
    match result with
    | .error f => if step.ignore then takeDeeds who act steps else Act.fail f
    | .ok _ => takeDeeds who act steps

/-- Whether a rule applies once more, which is counted. -/
def applies (handler place : Nat) (rule : Rule Action) (type : String) :
    StageAct Failure Bool := do
  let count := (← stage).tallies.getD (handler, place) 0
  if takesType rule.type type && rule.times.all (count < ·) then
    modifyStage fun s => { s with tallies := s.tallies.insert (handler, place) (count + 1) }
    return true
  else return false

def followRules (who : String) (act : Action → StageTask Failure Json) (handler : Nat)
    (type : String) : Nat → List (Rule Action) → StageTask Failure Unit
  | _, [] => return ()
  | place, rule :: rules => do
    if ← Task.atOnce (applies handler place rule type) then takeSteps who act rule.steps
    followRules who act handler type (place + 1) rules

/-- The handler of a plan, under the number by which its rules are counted. -/
def HandlerPlan.handler (act : Player) (number : Nat) :
    HandlerPlan Action → Handler (Party Actor) (Premises Stage)
  | .journal => keepJournal
  | .reservation => reserveStock 0
  | .script name rules => fun m u => do
    Task.atOnce (log (.handled name m.type))
    (followRules name (act (some u)) number m.type 0 rules).mapError Failure.toDelivery

/-- Numbers a handler, and notes what is built for it. -/
def numberHandler (plan : HandlerPlan Action) : StageAct Failure Nat := do
  let w ← Act.get
  let text := match plan with
    | .reservation => [reservationText (TableRef.table ⟨.stockItem, 0⟩ w)]
    | .journal | .script _ _ => []
  let s ← stage
  modifyStage fun s => { s with handlers := s.handlers + 1, built := s.built ++ text }
  return s.handlers

def DispatcherPlan.dispatcher (act : Player) : DispatcherPlan → StageDispatcher
  | .recording => StageDispatcher.recording
  | .failing => StageDispatcher.failing
  | .cascading calls => StageDispatcher.cascading calls
  | .slow delay => StageDispatcher.slow delay
  | .logging => Dispatcher.logging
  | .inProcess subscriptions =>
    Dispatcher.inProcess (subscriptions.mapIdx fun i s => ⟨s.type, s.handler.handler act i⟩)
  | .bounded limit inner =>
    Dispatcher.bounded .milliseconds (limit * 1000) (inner.dispatcher act)

namespace Player

variable (act : Player)

def before (p : Actor) : StageTask UnitOfWorkError Unit := do
  Task.atOnce (log (.asked p.name))
  (takeSteps p.name (act none) p.before).mapError Failure.toUnitOfWork

/-- What a participant does after a completion; its failures end there. -/
def after (p : Actor) (outcome : Outcome) : StageTask Empty Unit := do
  Task.atOnce (log (.told p.name outcome))
  let _ ← (takeSteps p.name (act none) p.after).attempt

/-- Delivers a batch by the stage's dispatcher, and notes that it was called. -/
def dispatch : StageDispatcher := fun batch u => do
  Task.atOnce (log (.dispatched (batch.map Message.type)))
  let s ← Task.atOnce stage
  s.dispatcher.dispatcher act batch u

/-- How many parties one pass before a completion asks at most. -/
def patience : Nat := 100000

def host : Host (Party Actor) (Premises Stage) :=
  Shop.Host.ofShop act.before act.after act.dispatch patience

end Player

/-- Asks what a stub has kept, up to the first refusal. -/
def askKept (h : Host (Party Actor) (Premises Stage)) :
    List (Synchronization (Party Actor)) → StageTask UnitOfWorkError Unit
  | [] => return ()
  | s :: ss => do
    h.before? s
    askKept h ss

/-- The work of a transaction of its own: names it and its unit, and takes the steps. -/
def namedWork (name : String) (work : List (Step Deed)) (value : Json) (u : UnitRef) :
    StageAct OrderingError Json := do
  nameId name ((← Act.get).unit u).transaction
  if ((← stage).unitName? u).isNone then nameUnit name u
  (takeDeeds "work" (Deed.run (some u)) work).mapError Failure.toOrdering
  return value

/-- Answers nothing but that all went well. -/
def silently {ε : Type} (x : StageTask ε Unit) (f : ε → Failure) : StageTask Failure Json := do
  x.mapError f
  return .null

/-- Plays an action over the player of the actions inside it. -/
def Action.play (act : Player) : Player := fun atHand a =>
  match a with
  | .deed d => Task.atOnce (d.run atHand)
  | .commit name => do
    let t ← Task.atOnce (localNamed name)
    silently (act.host.commit t) .transaction
  | .rollback name => do
    let t ← Task.atOnce (localNamed name)
    silently (act.host.rollback t) .transaction
  | .drain name => do
    let u ← Task.atOnce (unitNamed atHand name)
    silently (act.host.drain u) .unitOfWork
  | .dispatch name plans => do
    let u ← Task.atOnce (unitNamed atHand name)
    let batch ← Task.atOnce (plans.mapM make)
    silently (act.dispatch batch u) .delivery
  | .handle name plan m => do
    let u ← Task.atOnce (unitNamed atHand name)
    let m ← Task.atOnce (make m)
    let number ← Task.atOnce (numberHandler plan)
    silently (plan.handler act number m u) .delivery
  | .askStub name => do
    let (_, stub) ← Task.atOnce (stubNamed name)
    silently (askKept act.host stub.kept) .unitOfWork
  | .tellStub name outcome => do
    let (_, stub) ← Task.atOnce (stubNamed name)
    silently (act.host.tellSynchronizations outcome stub.kept) nofun
  | .inTransaction name work value =>
    (Shop.inTransaction act.host (namedWork name work value)).mapError .ordering
  | .wait milliseconds => silently (WorldTask.wait .milliseconds (milliseconds * 1000000)) id

/-- Plays an action; what is called back deeper than the given depth is given up. -/
def play : Nat → Player
  | 0 => fun _ _ => Task.interrupt .exhausted
  | depth + 1 => Action.play (play depth)

end Transactor.Scenario
