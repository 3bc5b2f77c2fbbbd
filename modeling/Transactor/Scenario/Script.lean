import Transactor.Delivery
import Transactor.Lifecycle
import Transactor.Scenario.Failure
import Transactor.Shop.Commands

namespace Transactor.Scenario

open Shop

inductive MessageSource where
  | domain (type : String) (aggregate : Option Uuid) (body : Json)
  | lifecycle (state : Lifecycle) (aggregate : Uuid) (aggregateType : String)
  | event (e : Event)
  | given (m : Message)

/-- A message to be made, correlated or not. -/
structure MessagePlan where
  source : MessageSource
  correlation : Option Uuid

def MessageSource.message (stamp : Stamp) : MessageSource → Message
  | .domain type aggregate body => .ofBody stamp type aggregate body
  | .lifecycle state aggregate type => .announce stamp aggregate type state
  | .event e => e.message
  | .given m => m

def MessagePlan.message (stamp : Stamp) (p : MessagePlan) : Message :=
  match p.correlation with
  | none => p.source.message stamp
  | some id => (p.source.message stamp).correlated id

/-- Names a unit of work; `none` is the one at hand. -/
abbrev UnitName := Option String

/-- Operations on transactions and their registry. A stub is a transaction of the host's own, whose
status and refusals are set by the script. -/
inductive TransactionDeed where
  | begin (name : String)
  | beginStub (name : String) (status : TransactionStatus) (refuses : Bool)
  | setStub (name : String) (status : Option TransactionStatus) (refuses : Option Bool)
  | markRollback (name : String)
  | isActive (name : String)
  | current (name : String) (unit : String)
  | start (name : String) (unit : String)
  | find (name : String)
  | endUnit (name : String)

inductive UnitDeed where
  | begin (name : String) (transaction : Option Uuid) (maxCycles : Option Nat)
  | register (unit : UnitName) (m : MessagePlan)
  | registerTransition (unit : UnitName) (aggregate : Uuid) (type : String)
      (origin target : Lifecycle) (m : Option MessagePlan)
  | discard (unit : UnitName)
  | complete (unit : UnitName) (outcome : Outcome)
  | isRegistered (unit : UnitName) (type : String) (aggregate : Uuid)
  | status (unit : UnitName)

inductive NewEntity where
  | order (id customer : Uuid) (lines : List OrderLine) (correlation : Uuid)
  | stock (id : Uuid) (sku : String) (onHand : UInt32)
  | probe (id : Uuid) (type : String) (saveVeto removalVeto : Option DomainError)
  | bare (id : Uuid) (type : String)
  | plain

inductive EntityDeed where
  | new (e : NewEntity)
  | show
  | move (target : Lifecycle)
  | raise (m : MessagePlan)
  | takeRaised
  | messages
  | clearMessages
  | beforeSave
  | beforeRemoval
  | identity
  | cancel (reason : String) (correlation : Uuid)
  | reserve (order : Uuid) (quantity : UInt32) (correlation : Uuid)
  | report (unit : UnitName) (event : PersistenceEvent)
  | insert (unit : UnitName)
  | update (unit : UnitName)
  | remove (unit : UnitName)
  | load (unit : UnitName) (kind : Kind) (id : Uuid)

inductive ShopDeed where
  | peek (unit : UnitName) (kind : Kind) (id : Uuid)
  | snapshot (kind : Kind) (id : Uuid)
  | isEmpty
  | place (unit : UnitName) (c : PlaceOrder)
  | cancel (unit : UnitName) (c : CancelOrder)

/-- What a script can ask to have inspected. -/
inductive Subject where
  | registry
  | listener
  | table (kind : Kind)
  | unit (name : UnitName)
  | transaction (name : String)
  | built

inductive Query where
  | settings
  | journal
  | takeJournal
  | recorders (transaction : Option String) (brief : Bool)
  | inspect (s : Subject)

/-- An action `α` and whether its failure is passed over. -/
structure Step (α : Type) where
  name : String
  ignore : Bool
  action : α

/-- Steps to take for messages of a type, at most so many times if there is a limit. -/
structure Rule (α : Type) where
  type : String
  times : Option Nat
  steps : List (Step α)

/-- The handlers of a scenario: the two of the shop, and handlers that follow rules. -/
inductive HandlerPlan (α : Type) where
  | journal
  | reservation
  | script (name : String) (rules : List (Rule α))

/-- A participant or a synchronization that takes steps of its own. -/
structure Participant (α : Type) where
  name : String
  before : List (Step α)
  after : List (Step α)

mutual
/-- An operation that ends at once. -/
inductive Deed where
  | transaction (d : TransactionDeed)
  | unit (d : UnitDeed)
  | entity (name : String) (d : EntityDeed)
  | shop (d : ShopDeed)
  | query (q : Query)
  | enlist (unit : UnitName) (p : Participant Action)
  | synchronize (transaction : String) (p : Participant Action)
  | setClock (t : Instant)
  | fail (f : Failure)

/-- An operation that may call back or wait. -/
inductive Action where
  | deed (d : Deed)
  | commit (transaction : String)
  | rollback (transaction : String)
  | drain (unit : UnitName)
  | dispatch (unit : UnitName) (batch : List MessagePlan)
  | handle (unit : UnitName) (h : HandlerPlan Action) (m : MessagePlan)
  | askStub (transaction : String)
  | tellStub (transaction : String) (outcome : Outcome)
  | inTransaction (name : String) (work : List (Step Deed)) (value : Json)
  | wait (milliseconds : Nat)
end

abbrev Actor := Participant Action

/-- A way to deliver batches. A delay is in milliseconds and a limit in microseconds. -/
inductive DispatcherPlan where
  | recording
  | failing
  | cascading (calls : Option Nat)
  | slow (delay : Nat)
  | logging
  | inProcess (subscriptions : List (Subscription (HandlerPlan Action)))
  | bounded (limit : Nat) (inner : DispatcherPlan)

/-- A scenario: the settings and the dispatcher of its world, what trace is asked for, and the
steps. -/
structure Script where
  maxCycles : Option Nat
  dispatcher : DispatcherPlan
  level : Option Level
  steps : List (Step Action)

end Transactor.Scenario
