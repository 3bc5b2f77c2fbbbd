import Transactor.World

namespace Transactor

variable {A P S : Type}

def WorldAct.registerAll (u : UnitRef) : List Message → WorldAct P S UnitOfWorkError Unit
  | [] => return ()
  | m :: ms => do
    register u (.message m)
    registerAll u ms

/-- Handles a report about an aggregate. A unit that takes nothing more leaves the aggregate alone.
-/
def PersistenceEvent.report [Aggregate A] (event : PersistenceEvent) (u : UnitRef) :
    Act (Tracked A × World P S) UnitOfWorkError Unit := do
  let x ← Act.onSecond (Act.gets (World.unit · u))
  if x.status.accepts then
    let stamp ← Act.onSecond WorldAct.stamp
    let step ← Act.onFirst (Tracked.move event.target stamp)
    Act.onSecond (WorldAct.record
      (.aggregateMoved x.transaction step.aggregateId step.origin step.target))
    Act.onSecond (WorldAct.register u (.transition step))
    if event.target.isPost then
      let raised ← Act.onFirst Tracked.takeRaised
      Act.onSecond (WorldAct.registerAll u raised)
  else Act.fail (.closed x.transaction)

end Transactor
