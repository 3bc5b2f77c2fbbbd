import Transactor.Json.Basic
import Transactor.Shop.Table

namespace Transactor.Scenario

open Shop

/-- An aggregate that counts the calls of its hooks, and may be told to refuse. -/
structure Probe where
  id : Uuid
  type : String
  saveVeto : Option DomainError
  removalVeto : Option DomainError
  saves : Nat
  removals : Nat

/-- The result of a hook that may have been told to refuse. -/
def vetoed : Option DomainError → Except DomainError Unit
  | none => .ok ()
  | some e => .error e

instance : Aggregate Probe where
  aggregateId p := p.id
  aggregateType p := p.type
  beforeSave := fun p => (vetoed p.saveVeto, { p with saves := p.saves + 1 })
  beforeRemoval := fun p => (vetoed p.removalVeto, { p with removals := p.removals + 1 })

structure Bare where
  id : Uuid
  type : String

instance : Aggregate Bare where
  aggregateId b := b.id
  aggregateType b := b.type
  beforeSave := pure ()
  beforeRemoval := pure ()

/-- The aggregates that a script can make. -/
inductive Species where
  | row (k : Kind)
  | probe
  | bare

namespace Species

abbrev Body : Species → Type
  | .row k => k.Entity
  | .probe => Probe
  | .bare => Bare

instance : (s : Species) → Aggregate s.Body
  | .row k => inferInstanceAs (Aggregate k.Entity)
  | .probe => inferInstanceAs (Aggregate Probe)
  | .bare => inferInstanceAs (Aggregate Bare)

end Species

/-- What a script can hold under a name. -/
inductive Entity where
  | tracked (s : Species) (a : Tracked s.Body)
  | plain

def idJson (id : Uuid) : Json := .string id.text

def stateField (state : Lifecycle) : String × Json := ("state", .string state.name)

def orderView (o : Tracked Order) : Json :=
  .object [("id", idJson o.body.id), ("customer", idJson o.body.customerId),
    ("status", .string o.body.status.name),
    ("lines", .array (o.body.lines.map fun l =>
      .array [idJson l.stockItemId, .nat l.quantity.toNat])),
    stateField o.state]

def stockView (i : Tracked StockItem) : Json :=
  .object [("id", idJson i.body.id), ("sku", .string i.body.sku),
    ("on_hand", .nat i.body.onHand.toNat), ("reserved", .nat i.body.reserved.toNat),
    ("available", .nat i.body.available.toNat), stateField i.state]

def rowView : (k : Kind) → Tracked k.Entity → Json
  | .order => orderView
  | .stockItem => stockView

def Species.view : (s : Species) → Tracked s.Body → Json
  | .row k => rowView k
  | .probe => fun p =>
    .object [("id", idJson p.body.id), ("type", .string p.body.type),
      ("hooks", .array [.nat p.body.saves, .nat p.body.removals]), stateField p.state]
  | .bare => fun b =>
    .object [("id", idJson b.body.id), ("type", .string b.body.type), stateField b.state]

namespace Entity

def view : Entity → Json
  | .tracked s a => s.view a
  | .plain => .object []

/-- What is recorded of an entity: its state and the types of its messages. -/
def recordView : Entity → Json
  | .tracked _ a => .array [.string a.state.name, .strings (a.messages.map Message.type)]
  | .plain => .null

end Entity

end Transactor.Scenario
