import Transactor.Proofs.Decoding
import Transactor.Shop.Reservation

namespace Transactor.Shop

open Json Draft

theorem PlacedLine.ofDraft_spelled {l : PlacedLine} {d : Draft}
    (h : Spelled l.toJson.fields d) : ofDraft d = .ok l := by
  refine h.asRecord (fun found h => ?_) ?_ rfl
  · rw [ofFields, h.field? 1 rfl (asWord_toNat _), h.field? 0 rfl (asUuid_text _)]
    rfl
  · rw [ofParts, part_of_get rfl (asUuid_text _), part_of_get rfl (asWord_toNat _)]
    rfl

theorem PlacedLine.ofDraft_toJson (l : PlacedLine) : ofDraft l.toJson.toDraft = .ok l :=
  ofDraft_spelled (.self (of_decide_eq_true rfl))

theorem OrderPlaced.ofDraft_spelled {e : OrderPlaced} {d : Draft}
    (h : Spelled e.toJson.fields d) : ofDraft d = .ok e := by
  refine h.asRecord (fun found h => ?_) ?_ rfl
  · rw [ofFields, h.field? 1 rfl (asUuid_text _),
      h.field? 2 rfl (asList_toDrafts PlacedLine.ofDraft_toJson _), h.field? 0 rfl (asUuid_text _)]
    rfl
  · rw [ofParts, part_of_get rfl (asUuid_text _), part_of_get rfl (asUuid_text _),
      part_of_get rfl (asList_toDrafts PlacedLine.ofDraft_toJson _)]
    rfl

theorem OrderPlaced.ofDraft_toJson (e : OrderPlaced) : ofDraft e.toJson.toDraft = .ok e :=
  ofDraft_spelled (.self (of_decide_eq_true rfl))

theorem OrderCancelled.ofDraft_spelled {e : OrderCancelled} {d : Draft}
    (h : Spelled e.toJson.fields d) : ofDraft d = .ok e := by
  refine h.asRecord (fun found h => ?_) ?_ rfl
  · rw [ofFields, h.field? 0 rfl (asUuid_text _), h.field? 1 rfl (asString_string _)]
    rfl
  · rw [ofParts, part_of_get rfl (asUuid_text _), part_of_get rfl (asString_string _)]
    rfl

theorem OrderCancelled.ofDraft_toJson (e : OrderCancelled) : ofDraft e.toJson.toDraft = .ok e :=
  ofDraft_spelled (.self (of_decide_eq_true rfl))

theorem StockReserved.ofDraft_spelled {e : StockReserved} {d : Draft}
    (h : Spelled e.toJson.fields d) : ofDraft d = .ok e := by
  refine h.asRecord (fun found h => ?_) ?_ rfl
  · rw [ofFields, h.field? 1 rfl (asUuid_text _), h.field? 2 rfl (asWord_toNat _),
      h.field? 3 rfl (asWord_toNat _), h.field? 0 rfl (asUuid_text _)]
    rfl
  · rw [ofParts, part_of_get rfl (asUuid_text _), part_of_get rfl (asUuid_text _),
      part_of_get rfl (asWord_toNat _), part_of_get rfl (asWord_toNat _)]
    rfl

theorem StockReserved.ofDraft_toJson (e : StockReserved) : ofDraft e.toJson.toDraft = .ok e :=
  ofDraft_spelled (.self (of_decide_eq_true rfl))

theorem EventKind.ofDraft_toJson (k : EventKind) : ofDraft k.toJson.toDraft = .ok k := by
  cases k with
  | orderPlaced e =>
    change (OrderPlaced.ofDraft e.toJson.toDraft).map orderPlaced = _
    rw [OrderPlaced.ofDraft_toJson]
    rfl
  | orderCancelled e =>
    change (OrderCancelled.ofDraft e.toJson.toDraft).map orderCancelled = _
    rw [OrderCancelled.ofDraft_toJson]
    rfl
  | stockReserved e =>
    change (StockReserved.ofDraft e.toJson.toDraft).map stockReserved = _
    rw [StockReserved.ofDraft_toJson]
    rfl

theorem placedOrder_eventMessage (stamp : Stamp) (aggregate correlation : Uuid) (e : OrderPlaced) :
    placedOrder (eventMessage stamp aggregate correlation (.orderPlaced e)) = .ok e := by
  simp only [placedOrder, eventMessage, Event.message, EventKind.ofDraft_toJson]

end Transactor.Shop
