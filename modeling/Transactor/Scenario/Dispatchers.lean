import Transactor.Scenario.Inspected
import Transactor.Scenario.Stage

namespace Transactor.Scenario

open Shop StageAct

/-- When a scenario's clock starts: ten o'clock on 15 January 2026. -/
def openingTime : Instant where
  date := ⟨2026, 1, 15, by decide, by decide⟩
  hour := 10
  minute := 0
  second := 0
  nano := 0
  hour_lt := by decide
  minute_lt := by decide
  second_lt := by decide
  nano_lt := by decide
  leap := by decide

abbrev StageDispatcher := Dispatcher (Party Actor) (Premises Stage)

namespace Recorder

def note (f : Recorder → Recorder) : StageAct DeliveryError Unit :=
  modifyStage fun s => { s with recorder := f s.recorder }

def noteStart : StageAct DeliveryError Unit := note fun r => { r with started := r.started + 1 }

def noteFinish : StageAct DeliveryError Unit := note fun r => { r with finished := r.finished + 1 }

/-- Notes a batch with the transaction of its unit. -/
def noteBatch (batch : List Message) (u : UnitRef) : StageAct DeliveryError Unit := do
  let t := ((← Act.get).unit u).transaction
  note fun r => { r with batches := r.batches ++ [(t, batch)] }

end Recorder

namespace StageDispatcher

def recording : StageDispatcher := fun batch u => Task.atOnce (Recorder.noteBatch batch u)

def failing : StageDispatcher := fun _ _ => Task.atOnce do
  Recorder.noteStart
  Act.fail (.rejected "broker unavailable")

def cascadeMessage (id : Uuid) (call : Nat) : Message :=
  .ofBody ⟨id, openingTime⟩ "test.cascade" none (.object [("call", .nat call)])

/-- Notes every batch, and registers one more message on each of the first calls, or on every call.
-/
def cascading (calls : Option Nat) : StageDispatcher := fun batch u => Task.atOnce do
  Recorder.noteBatch batch u
  let call := (← stage).recorder.batches.length
  if calls.all (call ≤ ·) then
    let m := cascadeMessage (← WorldAct.freshId) call
    (WorldAct.register u (.message m)).mapError fun e => .rejected e.message

def slow (delay : Nat) : StageDispatcher := fun _ _ => do
  Task.atOnce Recorder.noteStart
  WorldTask.wait .milliseconds (delay * 1000000)
  Task.atOnce Recorder.noteFinish

end StageDispatcher

def DispatcherPlan.subscriptions : DispatcherPlan → List (Subscription (HandlerPlan Action))
  | .inProcess subscriptions => subscriptions
  | .bounded _ inner => inner.subscriptions
  | .recording | .failing | .cascading _ | .slow _ | .logging => []

/-- The inspected forms of what is built for a dispatcher over an empty table of stock. -/
def DispatcherPlan.built : DispatcherPlan → List String
  | .inProcess subscriptions =>
    subscriptions.filterMap (fun s =>
      match s.handler with
      | .reservation => some (reservationText .empty)
      | .journal | .script _ _ => none) ++
      [inProcessText (subscriptions.map Subscription.type)]
  | .bounded _ inner => inner.built
  | .recording | .failing | .cascading _ | .slow _ | .logging => []

end Transactor.Scenario
