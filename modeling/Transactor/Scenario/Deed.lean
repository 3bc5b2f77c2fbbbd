import Transactor.Scenario.Deed.Entity
import Transactor.Scenario.Deed.Query
import Transactor.Scenario.Deed.Shop
import Transactor.Scenario.Deed.Transaction
import Transactor.Scenario.Deed.Unit

namespace Transactor.Scenario

open Shop StageAct

def Deed.run (atHand : Option UnitRef) : Deed → StageAct Failure Json
  | .transaction d => d.run
  | .unit d => d.run atHand
  | .entity name d => d.run atHand name
  | .shop d => d.run atHand
  | .query q => q.run atHand
  | .enlist name p => do
    let u ← unitNamed atHand name
    quietly ((WorldAct.enlist u (.other p)).mapError .unitOfWork)
  | .synchronize name p => do
    let t ← transactionNamed name
    quietly ((t.handle.synchronize (.party (.other p))).mapError .transaction)
  | .setClock t => quietly (Act.modify fun w => { w with clock := t })
  | .fail f => Act.fail f

end Transactor.Scenario
