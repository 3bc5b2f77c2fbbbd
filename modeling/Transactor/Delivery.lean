import Transactor.Drain
import Transactor.Time

namespace Transactor

/-- Delivers a batch on behalf of the unit that is being drained. -/
abbrev Dispatcher (P S : Type) := List Message → UnitRef → WorldTask P S DeliveryError Unit

abbrev Handler (P S : Type) := Message → UnitRef → WorldTask P S DeliveryError Unit

/-- A handler `H` under the type of the messages that it takes. -/
structure Subscription (H : Type) where
  type : String
  handler : H

/-- The type that takes every message. -/
def anyType : String := "*"

def takesType (subscribed type : String) : Bool := subscribed == anyType || subscribed == type

def Subscription.takes {H : Type} (s : Subscription H) (m : Message) : Bool :=
  takesType s.type m.type

namespace Dispatcher

variable {P S : Type}

def handAround (m : Message) (u : UnitRef) :
    List (Subscription (Handler P S)) → WorldTask P S DeliveryError Unit
  | [] => return ()
  | s :: ss => do
    s.handler m u
    handAround m u ss

/-- Routes each message to the handlers subscribed to its type; the first failure ends the batch. -/
def inProcess (subscriptions : List (Subscription (Handler P S))) : Dispatcher P S
  | [], _ => return ()
  | m :: ms, u => do
    handAround m u (subscriptions.filter fun s => s.takes m)
    inProcess subscriptions ms u

/-- Bounds the time that each call may take, in nanoseconds; whole milliseconds of it are reported.
-/
def bounded (timer : Timer) (limit : Nat) (inner : Dispatcher P S) : Dispatcher P S :=
  fun batch u => WorldTask.within timer limit (.timedOut (limit / 1000000)) (inner batch u)

def logging : Dispatcher P S
  | [], _ => return ()
  | m :: ms, u => do
    let x ← Task.gets (World.unit · u)
    Task.atOnce (WorldAct.record
      (.messageDispatched x.transaction m.metadata.messageId m.type m.metadata.aggregateId))
    logging ms u

end Dispatcher

end Transactor
