import Transactor.Proofs.MessageCodec
import Transactor.Proofs.Shop.EventCodec

namespace Transactor.Shop

open Json Draft

/-- The types that travel as JSON. -/
inductive Format where
  | message
  | metadata
  | payload
  | lifecycleChange
  | lifecycle
  | transactionId
  | eventKind
  | orderPlaced
  | orderCancelled
  | stockReserved
  | placedLine

namespace Format

def Value : Format → Type
  | message => Message
  | metadata => Metadata
  | payload => Payload
  | lifecycleChange => LifecycleChange
  | lifecycle => Lifecycle
  | transactionId => TransactionId
  | eventKind => EventKind
  | orderPlaced => OrderPlaced
  | orderCancelled => OrderCancelled
  | stockReserved => StockReserved
  | placedLine => PlacedLine

def encode : (f : Format) → f.Value → Json
  | message => Message.toJson
  | metadata => Metadata.toJson
  | payload => Payload.toJson
  | lifecycleChange => LifecycleChange.toJson
  | lifecycle => Lifecycle.toJson
  | transactionId => TransactionId.toJson
  | eventKind => EventKind.toJson
  | orderPlaced => OrderPlaced.toJson
  | orderCancelled => OrderCancelled.toJson
  | stockReserved => StockReserved.toJson
  | placedLine => PlacedLine.toJson

def decode : (f : Format) → Draft → Decoded f.Value
  | message => Message.ofDraft
  | metadata => Metadata.ofDraft
  | payload => Payload.ofDraft
  | lifecycleChange => LifecycleChange.ofDraft
  | lifecycle => Lifecycle.ofDraft
  | transactionId => TransactionId.ofDraft
  | eventKind => EventKind.ofDraft
  | orderPlaced => OrderPlaced.ofDraft
  | orderCancelled => OrderCancelled.ofDraft
  | stockReserved => StockReserved.ofDraft
  | placedLine => PlacedLine.ofDraft

theorem decode_encode (f : Format) (x : f.Value) : f.decode (f.encode x).toDraft = .ok x := by
  cases f with
  | message => exact Message.ofDraft_toJson x
  | metadata => exact Metadata.ofDraft_toJson x
  | payload => exact Payload.ofDraft_toJson x
  | lifecycleChange => exact LifecycleChange.ofDraft_toJson x
  | lifecycle => exact Lifecycle.ofDraft_toJson x
  | transactionId => exact TransactionId.ofDraft_toJson x
  | eventKind => exact EventKind.ofDraft_toJson x
  | orderPlaced => exact OrderPlaced.ofDraft_toJson x
  | orderCancelled => exact OrderCancelled.ofDraft_toJson x
  | stockReserved => exact StockReserved.ofDraft_toJson x
  | placedLine => exact PlacedLine.ofDraft_toJson x

/-- The formats that are objects with one field for each part of the value. -/
def IsRecord : Format → Prop
  | lifecycle | transactionId | payload | eventKind => False
  | _ => True

theorem decode_spelled {f : Format} (hf : f.IsRecord) {x : f.Value} {d : Draft}
    (h : Spelled (f.encode x).fields d) : f.decode d = .ok x := by
  cases f with
  | message => exact Message.ofDraft_spelled h
  | metadata => exact Metadata.ofDraft_spelled h
  | payload => exact hf.elim
  | lifecycleChange => exact LifecycleChange.ofDraft_spelled h
  | lifecycle => exact hf.elim
  | transactionId => exact hf.elim
  | eventKind => exact hf.elim
  | orderPlaced => exact OrderPlaced.ofDraft_spelled h
  | orderCancelled => exact OrderCancelled.ofDraft_spelled h
  | stockReserved => exact StockReserved.ofDraft_spelled h
  | placedLine => exact PlacedLine.ofDraft_spelled h

/-- Spellings of a value other than the one that is written. A record is an object with its fields
among any others, or the list of its parts. A bare name may be the name of empty content, and the
content of a name may be spelled in its own ways. -/
inductive Spells : (f : Format) → f.Value → Draft → Prop
  | record {f : Format} (hf : f.IsRecord) {x : f.Value} {d : Draft}
      (h : Spelled (f.encode x).fields d) : Spells f x d
  | tagged (s : Lifecycle) : Spells lifecycle s (.object [(s.name, .null)])
  | identifier {t : TransactionId} {text : String} (h : Uuid.read text = .ok t.uuid) :
      Spells transactionId t (.string text)
  | change {c : LifecycleChange} {d : Draft} (h : Spells lifecycleChange c d) :
      Spells payload (.lifecycle c) (.object [("Lifecycle", d)])
  | placed {e : OrderPlaced} {d : Draft} (h : Spells orderPlaced e d) :
      Spells eventKind (.orderPlaced e) (.object [("OrderPlaced", d)])
  | cancelled {e : OrderCancelled} {d : Draft} (h : Spells orderCancelled e d) :
      Spells eventKind (.orderCancelled e) (.object [("OrderCancelled", d)])
  | reserved {e : StockReserved} {d : Draft} (h : Spells stockReserved e d) :
      Spells eventKind (.stockReserved e) (.object [("StockReserved", d)])

theorem decode_spells {f : Format} {x : f.Value} {d : Draft} (h : Spells f x d) :
    f.decode d = .ok x := by
  induction h with
  | record hf h => exact decode_spelled hf h
  | tagged s => exact Lifecycle.ofDraft_tagged s
  | @identifier t text h =>
    change (asUuid (.string text)).map TransactionId.mk = _
    rw [asUuid, h]
    rfl
  | @change c d _ ih =>
    change (lifecycleChange.decode d).map Payload.lifecycle = _
    rw [ih]
    rfl
  | @placed e d _ ih =>
    change (orderPlaced.decode d).map EventKind.orderPlaced = _
    rw [ih]
    rfl
  | @cancelled e d _ ih =>
    change (orderCancelled.decode d).map EventKind.orderCancelled = _
    rw [ih]
    rfl
  | @reserved e d _ ih =>
    change (stockReserved.decode d).map EventKind.stockReserved = _
    rw [ih]
    rfl

/-- Every value is read back from what is written of it. So whatever is read from any JSON, in
whichever spelling it is accepted, is written in a form that reads as what was read, and the other
spellings of a value are accepted. This holds of every instant of the calendar, so also of years
that show their sign, which a text with an offset can lead to. -/
theorem round_trip (f : Format) :
    (∀ x : f.Value, f.decode (f.encode x).toDraft = .ok x) ∧
      (∀ (d : Draft) (x : f.Value), f.decode d = .ok x →
        f.decode (f.encode x).toDraft = f.decode d) ∧
      ∀ (x : f.Value) (d : Draft), Spells f x d → f.decode d = .ok x := by
  refine ⟨f.decode_encode, ?_, fun _ _ h => decode_spells h⟩
  intro d x h
  rw [h]
  exact f.decode_encode x

/-- Metadata as the list of its parts, with identifiers in two more spellings and a leap second as
the clocks an hour and a half ahead show it, on the next day and in the next year. -/
def shifted : Draft :=
  .array [.string "\x7b67E55044-10B1-426F-9247-BB680E5FE0C8\x7d", .string "order.noted", .null,
    .string "67e5504410b1426f9247bb680e5fe0c8", .string "2017-01-01T01:29:60.1234567890+01:30"]

def unshifted : Metadata where
  messageId := .ofNat 0x67e5504410b1426f9247bb680e5fe0c8
  messageType := "order.noted"
  aggregateId := none
  correlationId := some (.ofNat 0x67e5504410b1426f9247bb680e5fe0c8)
  occurredAt :=
    { date := ⟨2016, 12, 31, by decide, by decide⟩
      hour := 23
      minute := 59
      second := 59
      nano := 1123456789
      hour_lt := by decide
      minute_lt := by decide
      second_lt := by decide
      nano_lt := by decide
      leap := fun _ => rfl }

theorem round_trip_shifted :
    metadata.decode shifted = .ok unshifted ∧
      metadata.decode (metadata.encode unshifted).toDraft = metadata.decode shifted ∧
      lifecycle.decode (.object [("LOADED", .null)]) = .ok Lifecycle.loaded := by
  have hread : metadata.decode shifted = .ok unshifted := rfl
  exact ⟨hread, (round_trip metadata).2.1 shifted unshifted hread,
    (round_trip lifecycle).2.2 Lifecycle.loaded _ (.tagged .loaded)⟩

end Format

end Transactor.Shop
