import Transactor.Error
import Transactor.Json.Decode
import Transactor.Message.Basic

namespace Transactor

open Json

def Uuid.optionJson (id : Option Uuid) : Json := Json.ofOption (fun u => .string u.text) id

namespace Lifecycle

def toJson (s : Lifecycle) : Json := .string s.name

def names : List String := all.map name

def named (s : String) : Decoded Lifecycle :=
  match ofName? s with
  | .some l => .ok l
  | .none => .error (.unknownVariant s names)

def ofDraft (d : Draft) : Decoded Lifecycle :=
  d.asVariant names named fun s content => do
    content.asUnit
    named s

end Lifecycle

namespace TransactionId

def toJson (t : TransactionId) : Json := .string t.text

def ofDraft (d : Draft) : Decoded TransactionId := d.asUuid.map TransactionId.mk

end TransactionId

namespace Metadata

def shape : Draft.RecordShape := ⟨"MessageMetadata", 5⟩

def toJson (m : Metadata) : Json :=
  .object [("message_id", .string m.messageId.text), ("message_type", .string m.messageType),
    ("aggregate_id", Uuid.optionJson m.aggregateId),
    ("correlation_id", Uuid.optionJson m.correlationId),
    ("occurred_at", .string m.occurredAt.text)]

def ofFields (fields : List (String × Draft)) : Decoded Metadata := do
  let aggregate ← Draft.field? fields "aggregate_id" (Draft.asOptional Draft.asUuid)
  let correlation ← Draft.field? fields "correlation_id" (Draft.asOptional Draft.asUuid)
  let id ← Draft.field? fields "message_id" Draft.asUuid
  let type ← Draft.field? fields "message_type" Draft.asString
  let time ← Draft.field? fields "occurred_at" Draft.asInstant
  return {
    messageId := ← Draft.required "message_id" id
    messageType := ← Draft.required "message_type" type
    aggregateId := aggregate.join
    correlationId := correlation.join
    occurredAt := ← Draft.required "occurred_at" time }

def ofParts (items : List Draft) : Decoded Metadata := do
  return {
    messageId := ← Draft.part shape items 0 Draft.asUuid
    messageType := ← Draft.part shape items 1 Draft.asString
    aggregateId := ← Draft.part shape items 2 (Draft.asOptional Draft.asUuid)
    correlationId := ← Draft.part shape items 3 (Draft.asOptional Draft.asUuid)
    occurredAt := ← Draft.part shape items 4 Draft.asInstant }

def ofDraft (d : Draft) : Decoded Metadata := d.asRecord shape ofFields ofParts

end Metadata

namespace LifecycleChange

def shape : Draft.RecordShape := ⟨"AggregateLifecycleChanged", 3⟩

def toJson (c : LifecycleChange) : Json :=
  .object [("aggregate_id", .string c.aggregateId.text),
    ("aggregate_type", .string c.aggregateType), ("lifecycle", c.lifecycle.toJson)]

def ofFields (fields : List (String × Draft)) : Decoded LifecycleChange := do
  let id ← Draft.field? fields "aggregate_id" Draft.asUuid
  let type ← Draft.field? fields "aggregate_type" Draft.asString
  let state ← Draft.field? fields "lifecycle" Lifecycle.ofDraft
  return {
    aggregateId := ← Draft.required "aggregate_id" id
    aggregateType := ← Draft.required "aggregate_type" type
    lifecycle := ← Draft.required "lifecycle" state }

def ofParts (items : List Draft) : Decoded LifecycleChange := do
  return {
    aggregateId := ← Draft.part shape items 0 Draft.asUuid
    aggregateType := ← Draft.part shape items 1 Draft.asString
    lifecycle := ← Draft.part shape items 2 Lifecycle.ofDraft }

def ofDraft (d : Draft) : Decoded LifecycleChange := d.asRecord shape ofFields ofParts

end LifecycleChange

namespace Payload

def toJson : Payload → Json
  | .lifecycle c => .object [("Lifecycle", c.toJson)]
  | .domain body => .object [("Domain", body)]

def ofContent (name : String) (content : Draft) : Decoded Payload :=
  if name = "Lifecycle" then (LifecycleChange.ofDraft content).map .lifecycle
  else content.asValue.map .domain

def ofDraft (d : Draft) : Decoded Payload :=
  d.asVariant ["Lifecycle", "Domain"]
    (fun _ => .error (.wrongType .unitVariant "newtype variant")) ofContent

end Payload

namespace Message

def shape : Draft.RecordShape := ⟨"Message", 2⟩

def toJson (m : Message) : Json :=
  .object [("metadata", m.metadata.toJson), ("payload", m.payload.toJson)]

def ofFields (fields : List (String × Draft)) : Decoded Message := do
  let metadata ← Draft.field? fields "metadata" Metadata.ofDraft
  let payload ← Draft.field? fields "payload" Payload.ofDraft
  return {
    metadata := ← Draft.required "metadata" metadata
    payload := ← Draft.required "payload" payload }

def ofParts (items : List Draft) : Decoded Message := do
  return {
    metadata := ← Draft.part shape items 0 Metadata.ofDraft
    payload := ← Draft.part shape items 1 Payload.ofDraft }

def ofDraft (d : Draft) : Decoded Message := d.asRecord shape ofFields ofParts

end Message

end Transactor
