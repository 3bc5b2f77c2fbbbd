import Transactor.Instant.Basic
import Transactor.Json.Basic
import Transactor.Lifecycle
import Transactor.Uuid

namespace Transactor

structure Metadata where
  messageId : Uuid
  messageType : String
  aggregateId : Option Uuid
  correlationId : Option Uuid
  occurredAt : Instant

structure LifecycleChange where
  aggregateId : Uuid
  aggregateType : String
  lifecycle : Lifecycle

inductive Payload where
  | lifecycle (change : LifecycleChange)
  | domain (body : Json)

structure Message where
  metadata : Metadata
  payload : Payload

/-- A fresh identifier and the time for a new message. -/
structure Stamp where
  id : Uuid
  time : Instant

namespace Message

def type (m : Message) : String := m.metadata.messageType

/-- A domain message, as opposed to a lifecycle record. -/
def isDomain (m : Message) : Bool :=
  match m.payload with
  | .domain _ => true
  | .lifecycle _ => false

def announce (stamp : Stamp) (id : Uuid) (aggregateType : String) (state : Lifecycle) :
    Message where
  metadata := ⟨stamp.id, state.messageType, some id, none, stamp.time⟩
  payload := .lifecycle ⟨id, aggregateType, state⟩

def ofBody (stamp : Stamp) (type : String) (aggregate : Option Uuid) (body : Json) : Message where
  metadata := ⟨stamp.id, type, aggregate, none, stamp.time⟩
  payload := .domain body

def correlated (m : Message) (id : Uuid) : Message :=
  { m with metadata := { m.metadata with correlationId := some id } }

end Message

end Transactor
