import Transactor.Delivery
import Transactor.Shop.Commands
import Transactor.Shop.Reservation
import Transactor.Shop.Session

namespace Transactor.Shop

inductive DemoError where
  | setting (e : InvalidSetting)
  | timeLimit (e : Text.NumeralError)
  | ordering (e : OrderingError)
  | givenUp

namespace DemoError

/-- The variable that bounds each delivery, in milliseconds. -/
def timeLimitKey : String := "UNITWORK_DISPATCH_TIMEOUT_MS"

def inspected : DemoError → String
  | .setting e => e.inspected
  | .timeLimit e =>
    Text.quoted (timeLimitKey ++ " must be a number of milliseconds: " ++ e.message)
  | .ordering e => e.inspected
  | .givenUp => "GivenUp"

end DemoError

namespace Demo

/-- A step of the demonstration. The host's state is the lines told so far; it has no parties of its
own. -/
abbrev DemoTask (α : Type) := ShopTask Empty (List String) DemoError α

/-- The milliseconds that a delivery may take if no variable says otherwise. -/
def defaultTimeLimit : String := "5000"

/-- Every message is noted, and stock is reserved for placed orders. -/
def subscriptions : List (Subscription (Handler (Party Empty) (Premises (List String)))) :=
  [⟨anyType, keepJournal⟩, ⟨orderPlacedType, reserveStock 0⟩]

/-- The host of the demonstration, whose deliveries are bounded in milliseconds. -/
def host (timeLimit : Nat) : Host (Party Empty) (Premises (List String)) :=
  let nanoseconds := timeLimit * 1000000
  Host.ofShop nofun nofun
    (Dispatcher.bounded .milliseconds nanoseconds (Dispatcher.inProcess subscriptions)) 100

def tell (line : String) : DemoTask Unit :=
  Task.modify fun w => { w with host := { w.host with host := w.host.host ++ [line] } }

/-- Tells under a heading what was delivered since the last time. -/
def tellDelivered (heading : String) : DemoTask Unit := do
  tell (heading ++ ":")
  for type in (← Task.gets fun w => w.host.journal) do
    tell ("  " ++ type)
  Task.modify fun w => { w with host := { w.host with journal := [] } }

def freshId : DemoTask Uuid := Task.atOnce WorldAct.freshId

def inOwnTransaction {α : Type} (timeLimit : Nat)
    (work : UnitRef → ShopAct Empty (List String) OrderingError α) : DemoTask α :=
  (inTransaction (host timeLimit) work).mapError .ordering

def stockUp (id : Uuid) (sku : String) (onHand : UInt32) (u : UnitRef) :
    ShopAct Empty (List String) OrderingError Unit := do
  let _ : Tracked StockItem ←
    Act.carrying (StockItem.ofUnits id sku onHand) (TableRef.insert ⟨.stockItem, 0⟩ u)

def tellStock (id : Uuid) (sku : String) : DemoTask Unit := do
  let item : Option (Tracked StockItem) ← Task.atOnce (TableRef.snapshot ⟨.stockItem, 0⟩ id)
  match item with
  | none => return ()
  | some item =>
    tell (sku ++ ": " ++ toString item.body.available.toNat ++ " available of "
      ++ toString item.body.onHand.toNat)

def play (timeLimit : Nat) : DemoTask Unit := do
  let widget ← freshId
  let gadget ← freshId
  inOwnTransaction timeLimit fun u => do
    stockUp widget "WIDGET-1" 10 u
    stockUp gadget "GADGET-7" 3 u
  tellDelivered "seed stock"
  let order : PlaceOrder := ⟨← freshId, ← freshId, ← freshId, [⟨widget, 4⟩, ⟨gadget, 1⟩]⟩
  let id ← inOwnTransaction timeLimit fun u => order.handle u 0
  tellDelivered "place order"
  let cancellation : CancelOrder := ⟨← freshId, id, "customer request"⟩
  let _ ← inOwnTransaction timeLimit fun u => cancellation.handle u 0
  tellDelivered "cancel order"
  tellStock widget "WIDGET-1"
  tellStock gadget "GADGET-7"

def readVariables (lookup : String → Option String) : Except DemoError (Settings × Nat) := do
  let settings ← (Settings.ofLookup lookup).mapError .setting
  let limit := (lookup DemoError.timeLimitKey).getD defaultTimeLimit
  let timeLimit ← (Text.readNumeral Text.maxWord limit.toList).mapError .timeLimit
  return (settings, timeLimit)

/-- What a run tells, and how it failed if it did. -/
structure Report where
  lines : List String
  failure : Option DemoError

/-- Runs the demonstration under a lookup of variables. -/
def run (lookup : String → Option String) (supply : Supply) (clock : Instant) : Report :=
  match readVariables lookup with
  | .error e => ⟨[], some e⟩
  | .ok (settings, timeLimit) =>
    let (result, w) := play timeLimit (World.start settings supply clock ⟨.empty, [], []⟩)
    let failure := match result with
      | .done () => none
      | .failed e => some e
      | .interrupted _ => some .givenUp
    ⟨w.host.host, failure⟩

namespace Report

/-- The status that a run leaves. -/
def exitCode (r : Report) : Nat := if r.failure.isSome then 1 else 0

def errorLines (r : Report) : List String :=
  (r.failure.map fun e => "Error: " ++ e.inspected).toList

end Report

end Demo

end Transactor.Shop
