import Transactor.Act
import Transactor.Error
import Transactor.Message.Basic

namespace Transactor

/-- What the lifecycle needs to know of a type of aggregates. A hook may change the aggregate
whether it agrees or not; what is recorded of the lifecycle is out of its reach. -/
class Aggregate (A : Type) where
  aggregateId : A → Uuid
  aggregateType : A → String
  /-- Asked before an insert and before an update. -/
  beforeSave : Act A DomainError Unit
  /-- Asked before a removal. -/
  beforeRemoval : Act A DomainError Unit

/-- An aggregate, its lifecycle state, and the messages gathered since it was last loaded. -/
structure Tracked (A : Type) where
  body : A
  state : Lifecycle
  messages : List Message

/-- A step of a lifecycle; only a step to the end of a write has a message. -/
structure Transition where
  aggregateId : Uuid
  aggregateType : String
  origin : Lifecycle
  target : Lifecycle
  message : Option Message

namespace Tracked

variable {A : Type}

def fresh (body : A) : Tracked A := ⟨body, .none, []⟩

def raise (a : Tracked A) (m : Message) : Tracked A := { a with messages := a.messages ++ [m] }

def raised (a : Tracked A) : List Message := a.messages.filter Message.isDomain

/-- Forgets the raised domain messages; lifecycle records stay. -/
def dropRaised (a : Tracked A) : Tracked A :=
  { a with messages := a.messages.filter fun m => !m.isDomain }

/-- The aggregate alone, with nothing that was recorded of its lifecycle. -/
def detached (a : Tracked A) : Tracked A := { a with state := .none, messages := [] }

def clearMessages (a : Tracked A) : Tracked A := { a with messages := [] }

def takeRaised {ε : Type} : Act (Tracked A) ε (List Message) := fun a =>
  (.ok a.raised, a.dropRaised)

def onBody {ε α : Type} (x : Act A ε α) : Act (Tracked A) ε α := fun a =>
  let r := x a.body
  (r.1, { a with body := r.2 })

variable [Aggregate A]

def hook (target : Lifecycle) : Act A DomainError Unit :=
  match target with
  | .prePersist | .preUpdate => Aggregate.beforeSave
  | .preRemove => Aggregate.beforeRemoval
  | _ => pure ()

/-- Records that the aggregate entered a state. A reload forgets all messages, and every other step
leaves its own record. -/
def enter (a : Tracked A) (target : Lifecycle) (announcement : Message) : Tracked A :=
  { a with
    state := target
    messages := if target = .loaded then [] else a.messages ++ [announcement] }

/-- Moves the aggregate to a state if one step leads there and the hook agrees. -/
def move (target : Lifecycle) (stamp : Stamp) : Act (Tracked A) UnitOfWorkError Transition := do
  let a ← Act.get
  let id := Aggregate.aggregateId a.body
  if a.state.canMove target then
    (onBody (hook target)).mapError (.preHookRejected id target)
    let body ← Act.gets Tracked.body
    let type := Aggregate.aggregateType body
    let announcement := Message.announce stamp id type target
    Act.modify fun a => a.enter target announcement
    return ⟨id, type, a.state, target, if target.isPost then some announcement else none⟩
  else Act.fail (.lifecycleViolation id a.state target)

end Tracked

end Transactor
