import Transactor.Proofs.Routing
import Transactor.Proofs.Shop.Drained
import Transactor.Shop.Commands

namespace Transactor.Shop

open Relation

variable {Q H : Type}

/-- What a command does in the unit of its transaction. -/
def Command.work (shelf : Nat) (c : Command) (u : UnitRef) : ShopAct Q H OrderingError Uuid :=
  match c with
  | .stock id sku onHand => do
    let item : Tracked StockItem ←
      Act.carrying (StockItem.ofUnits id sku onHand) (TableRef.insert ⟨.stockItem, shelf⟩ u)
    return item.body.id
  | .place c => c.handle u shelf
  | .cancel c => c.handle u shelf

section Steps

variable {ε : Type} (shelf : Nat) (u : UnitRef) (w : ShopWorld Q H)

/-- What steps of a unit lead to from a world. -/
def Stepped (v : ShopWorld Q H) : Prop := ReflTransGen (UnitStep u) w v

theorem own_stepped {α : Type} {x : ShopAct Q H ε α} (hx : ∀ v, SameRecords v (x v).2) :
    x.Keeps (Stepped u w) := fun v hv => hv.tail (.own (hx v))

theorem stamp_stepped : (WorldAct.stamp : ShopAct Q H ε Stamp).Keeps (Stepped u w) :=
  own_stepped u w fun _ => ⟨rfl, rfl, rfl, rfl⟩

theorem insert_stepped (r : TableRef) (a : Tracked r.Entity) :
    (Act.carrying a (r.insert u) : ShopAct Q H _ _).Keeps (Stepped u w) :=
  fun v hv => hv.tail (.insert r a v)

theorem update_stepped (r : TableRef) (a : Tracked r.Entity) :
    (Act.carrying a (r.update u) : ShopAct Q H _ _).Keeps (Stepped u w) :=
  fun v hv => hv.tail (.update r a v)

theorem load_stepped (r : TableRef) (id : Uuid) :
    (r.load u id : ShopAct Q H _ _).Keeps (Stepped u w) := fun v hv => hv.tail (.load r id v)

theorem reportCommand_stepped (type : String) (correlation : Uuid) :
    (reportCommand type correlation u : ShopAct Q H _ _).Keeps (Stepped u w) :=
  own_stepped u w fun _ => ⟨rfl, rfl, rfl, rfl⟩

theorem place_stepped (c : PlaceOrder) :
    (c.handle u shelf : ShopAct Q H _ _).Keeps (Stepped u w) := by
  apply (reportCommand_stepped u w _ _).bind
  intro _
  apply (stamp_stepped u w).bind
  intro stamp
  apply Act.Keeps.bind
  · exact fun v hv => hv
  intro order
  exact (insert_stepped u w ⟨.order, shelf⟩ order).bind fun _ => Act.Keeps.pure _

theorem cancel_stepped (c : CancelOrder) :
    (c.handle u shelf : ShopAct Q H _ _).Keeps (Stepped u w) := by
  apply (reportCommand_stepped u w _ _).bind
  intro _
  apply (load_stepped u w ⟨.order, shelf⟩ c.orderId).bind
  intro order
  apply (stamp_stepped u w).bind
  intro stamp
  apply Act.Keeps.bind
  · exact fun v hv => hv
  intro order
  exact (update_stepped u w ⟨.order, shelf⟩ order).bind fun _ => Act.Keeps.pure _

theorem work_stepped (c : Command) :
    (c.work shelf u : ShopAct Q H _ _).Keeps (Stepped u w) := by
  cases c with
  | stock id sku onHand =>
    exact (insert_stepped u w ⟨.stockItem, shelf⟩ _).bind fun _ => Act.Keeps.pure _
  | place c => exact place_stepped shelf u w c
  | cancel c => exact cancel_stepped shelf u w c

theorem reserveLine_stepped (order correlation : Uuid) (line : PlacedLine) :
    (reserveLine shelf u order correlation line : ShopAct Q H _ _).Keeps (Stepped u w) := by
  apply (load_stepped u w ⟨.stockItem, shelf⟩ line.stockItemId).bind
  intro item
  apply (stamp_stepped u w).bind
  intro stamp
  apply Act.Keeps.bind
  · exact fun v hv => hv
  intro item
  exact (update_stepped u w ⟨.stockItem, shelf⟩ item).bind fun _ => Act.Keeps.pure _

theorem reserveLines_stepped (order correlation : Uuid) (lines : List PlacedLine) :
    (reserveLines shelf u order correlation lines : ShopAct Q H _ _).Keeps (Stepped u w) := by
  induction lines with
  | nil => exact Act.Keeps.pure ()
  | cons line lines ih =>
    exact (reserveLine_stepped shelf u w order correlation line).bind fun _ => ih

end Steps

section Handlers

variable (shelf : Nat) (u : UnitRef)

theorem keepJournal_within (m : Message) :
    (keepJournal m u : ShopTask Q H _ _).Within (UnitStep u) :=
  Task.Within.atOnce fun w => own_stepped u w fun _ => ⟨rfl, rfl, rfl, rfl⟩

theorem reserveStock_within (m : Message) :
    (reserveStock shelf m u : ShopTask Q H _ _).Within (UnitStep u) := by
  apply Task.Within.atOnce
  intro w
  apply Act.Keeps.bind
  · exact fun v hv => hv
  intro placed
  apply Act.Keeps.bind
  · exact Act.Keeps.gets _
  intro x
  apply (own_stepped u w fun _ => ⟨rfl, rfl, rfl, rfl⟩).bind
  intro _
  exact (reserveLines_stepped shelf u w _ _ _).mapError _

theorem handlers_within (batch : List Message) :
    (Dispatcher.inProcess (handlers shelf) batch u : ShopTask Q H _ _).Within (UnitStep u) := by
  apply Dispatcher.inProcess_within
  intro s hs m
  obtain _ | ⟨_, _ | ⟨_, hs⟩⟩ := hs
  · exact keepJournal_within u m
  · exact reserveStock_within shelf u m
  · cases hs

end Handlers

theorem StockItem.beforeSave_unreserved (id : Uuid) (sku : String) (onHand : UInt32) :
    Aggregate.beforeSave (StockItem.mk id sku onHand 0) = (.ok (), ⟨id, sku, onHand, 0⟩) := by
  have hno : ¬onHand < 0 := UInt32.not_lt_zero
  exact if_neg hno

theorem Order.place_invalid {lines : List OrderLine} (h : ∃ l ∈ lines, l.quantity = 0)
    (stamp : Stamp) (id customer correlation : Uuid) :
    ∃ text, Order.place stamp id customer lines correlation = .error (.validation text) := by
  have hs : (lines.find? fun l => l.quantity = 0).isSome = true := by
    simpa only [List.find?_isSome, decide_eq_true_eq] using h
  obtain ⟨l, hl⟩ := Option.isSome_iff_exists.mp hs
  exact ⟨_, by rw [Order.place, hl]⟩

/-- An order that is placed raises one message, from which it can be told what was placed. -/
theorem Order.place_valid {lines : List OrderLine} (h : ¬∃ l ∈ lines, l.quantity = 0)
    (stamp : Stamp) (id customer correlation : Uuid) :
    ∃ (a : Tracked Order) (m : Message), Order.place stamp id customer lines correlation = .ok a ∧
      a.body = ⟨id, customer, lines, .placed⟩ ∧ a.state = .none ∧ a.raised = [m] ∧
      m.type = orderPlacedType ∧
      placedOrder m = .ok ⟨id, customer, lines.map fun l => ⟨l.stockItemId, l.quantity⟩⟩ := by
  have hn : (lines.find? fun l => l.quantity = 0) = none := by
    simpa only [List.find?_eq_none, decide_eq_true_eq, not_exists, not_and] using h
  refine ⟨_, _, by rw [Order.place, hn], rfl, rfl, rfl, rfl, ?_⟩
  exact placedOrder_eventMessage stamp id correlation _

theorem Order.beforeSave_withStatus {o : Order} (h : Aggregate.beforeSave o = (.ok (), o))
    (s : OrderStatus) :
    Aggregate.beforeSave { o with status := s } = (.ok (), { o with status := s }) := by
  have hlines : ¬o.lines.isEmpty = true := by
    intro hnil
    have hrefused : Aggregate.beforeSave o = (.error (.validation _), o) := if_pos hnil
    exact absurd (h.symm.trans hrefused) (fun he => by cases he)
  exact if_neg hlines

theorem Order.beforeSave_lines {o : Order} (h : o.lines ≠ []) :
    Aggregate.beforeSave o = (.ok (), o) :=
  if_neg fun hnil => h (List.isEmpty_iff.mp hnil)

theorem Order.cancel_again {a : Tracked Order} (h : a.body.status = .cancelled) (stamp : Stamp)
    (reason : String) (correlation : Uuid) :
    ∃ text, Order.cancel stamp reason correlation a = (.error (.validation text), a) :=
  ⟨_, if_pos h⟩

theorem Order.cancel_placed {a : Tracked Order} (h : a.body.status ≠ .cancelled) (stamp : Stamp)
    (reason : String) (correlation : Uuid) :
    ∃ m : Message, Order.cancel stamp reason correlation a =
        (.ok (), Tracked.raise { a with body := { a.body with status := .cancelled } } m) ∧
      m.type = "order.cancelled" ∧ m.isDomain = true :=
  ⟨_, if_neg h, rfl, rfl⟩

namespace Sees

variable {shelf : Nat} {t : TransactionId} {u : UnitRef} {x : View} {w : ShopWorld Q H}

theorem reportCommand (h : Sees shelf t u x w) (type : String) (correlation : Uuid) :
    ∃ v, Shop.reportCommand type correlation u w = (.ok (), v) ∧ Sees shelf t u x v :=
  ⟨_, rfl, h.sameRecords ⟨rfl, rfl, rfl, rfl⟩ rfl rfl⟩

section Stock

variable {id : Uuid} (sku : String) (onHand : UInt32)

theorem stock_taken (h : Sees shelf t u x w) (htaken : (x.rows .stockItem id).isSome = true) :
    (Command.stock id sku onHand).work shelf u w =
      (.error (.alreadyExists StockItem.typeName id), w) :=
  Act.bind_error (h.insert_taken (k := .stockItem) (StockItem.ofUnits id sku onHand) rfl htaken)

theorem stock_free (h : Sees shelf t u x w) (ha : x.status.accepts = true)
    (hfree : x.rows .stockItem id = none) :
    ∃ (m : Message) (v : ShopWorld Q H),
      (Command.stock id sku onHand).work shelf u w = (.ok id, v) ∧
      m.type = "aggregate.post_persisted" ∧ Sees shelf t u { x with
        rows := x.rows.put .stockItem id (some ⟨id, sku, onHand, 0⟩)
        queue := x.queue ++ [m] } v := by
  obtain ⟨m, b, v, hv, hb, ht, hs⟩ := h.insert (k := .stockItem) ha
    (StockItem.ofUnits id sku onHand) rfl hfree rfl (StockItem.beforeSave_unreserved id sku onHand)
  refine ⟨m, v, (Act.bind_ok hv).trans ?_, ht, hs⟩
  rw [hb]
  rfl

end Stock

section Place

variable {c : PlaceOrder}

theorem place_invalid (h : Sees shelf t u x w) (hq : ∃ l ∈ c.lines, l.quantity = 0) :
    ∃ text v, c.handle u shelf w = (.error (.domain (.validation text)), v) ∧
      Sees shelf t u x v := by
  obtain ⟨d, hd, hs⟩ := h.reportCommand PlaceOrder.type c.correlationId
  obtain ⟨stamp, v, hv, hs⟩ := hs.stamp (ε := OrderingError)
  obtain ⟨text, hp⟩ := Order.place_invalid hq stamp c.orderId c.customerId c.correlationId
  refine ⟨text, v, ?_, hs⟩
  rw [PlaceOrder.handle, Act.bind_ok hd, Act.bind_ok hv]
  exact Act.bind_error (Act.mapError_error (congrArg (·, v) hp))

theorem place_valid (h : Sees shelf t u x w) (hq : ¬∃ l ∈ c.lines, l.quantity = 0) :
    ∃ (a : Tracked Order) (v : ShopWorld Q H), Sees shelf t u x v ∧
      a.body = ⟨c.orderId, c.customerId, c.lines, .placed⟩ ∧ a.state = .none ∧
      (∃ m : Message, a.raised = [m] ∧ m.type = orderPlacedType ∧ placedOrder m =
        .ok ⟨c.orderId, c.customerId, c.lines.map fun l => ⟨l.stockItemId, l.quantity⟩⟩) ∧
      c.handle u shelf w = ((Act.carrying a (TableRef.insert ⟨.order, shelf⟩ u) >>=
        fun b : Tracked Order => pure b.body.id) : ShopAct Q H OrderingError Uuid) v := by
  obtain ⟨d, hd, hs⟩ := h.reportCommand PlaceOrder.type c.correlationId
  obtain ⟨stamp, v, hv, hs⟩ := hs.stamp (ε := OrderingError)
  obtain ⟨a, m, hp, hbody, hstate, hraised, ht, he⟩ :=
    Order.place_valid hq stamp c.orderId c.customerId c.correlationId
  refine ⟨a, v, hs, hbody, hstate, ⟨m, hraised, ht, he⟩, ?_⟩
  rw [PlaceOrder.handle, Act.bind_ok hd, Act.bind_ok hv]
  exact Act.bind_ok (Act.mapError_ok (congrArg (·, v) hp))

theorem place_taken (h : Sees shelf t u x w) (hq : ¬∃ l ∈ c.lines, l.quantity = 0)
    (htaken : (x.rows .order c.orderId).isSome = true) :
    ∃ v, c.handle u shelf w = (.error (.alreadyExists Order.typeName c.orderId), v) ∧
      Sees shelf t u x v := by
  obtain ⟨a, v, hs, hbody, -, -, hw⟩ := h.place_valid hq
  have hid : a.body.id = c.orderId := by rw [hbody]
  have hv := hs.insert_taken (k := .order) a hid htaken
  exact ⟨v, hw.trans (Act.bind_error hv), hs⟩

theorem place_empty (h : Sees shelf t u x w) (ha : x.status.accepts = true)
    (hfree : x.rows .order c.orderId = none) (hlines : c.lines = []) :
    ∃ text v, c.handle u shelf w = (.error (.unitOfWork
        (.preHookRejected c.orderId .prePersist (.validation text))), v) ∧
      Sees shelf t u x v := by
  have hq : ¬∃ l ∈ c.lines, l.quantity = 0 := by
    rw [hlines]
    rintro ⟨l, hl, -⟩
    exact List.not_mem_nil hl
  obtain ⟨a, d, hs, hbody, hstate, -, hw⟩ := h.place_valid hq
  have hid : a.body.id = c.orderId := by rw [hbody]
  let text := "order " ++ c.orderId.text ++ " has no lines"
  have hhook : Aggregate.beforeSave a.body = (.error (.validation text), a.body) := by
    rw [hbody, hlines]
    rfl
  have hmove : a.state.canMove .prePersist = true := by
    rw [hstate]
    rfl
  obtain ⟨v, hv, hs⟩ := hs.insert_rejected (k := .order) ha a hid hfree hmove hhook
  exact ⟨text, v, hw.trans (Act.bind_error hv), hs⟩

theorem place_free (h : Sees shelf t u x w) (ha : x.status.accepts = true)
    (hq : ¬∃ l ∈ c.lines, l.quantity = 0) (hfree : x.rows .order c.orderId = none)
    (hlines : c.lines ≠ []) :
    ∃ queue v, c.handle u shelf w = (.ok c.orderId, v) ∧ Announces c queue ∧ Sees shelf t u { x with
      rows := x.rows.put .order c.orderId (some ⟨c.orderId, c.customerId, c.lines, .placed⟩)
      queue := x.queue ++ queue } v := by
  obtain ⟨a, d, hs, hbody, hstate, ⟨m, hraised, hm, he⟩, hw⟩ := h.place_valid hq
  have hid : a.body.id = c.orderId := by rw [hbody]
  have hhook : Aggregate.beforeSave a.body = (.ok (), a.body) := by
    rw [hbody]
    exact Order.beforeSave_lines hlines
  have hmove : a.state.canMove .prePersist = true := by
    rw [hstate]
    rfl
  obtain ⟨n, b, v, hv, hb, hn, hs⟩ := hs.insert (k := .order) ha a hid hfree hmove hhook
  rw [hbody, hraised] at hs
  refine ⟨[n, m], v, ?_, ⟨n, m, rfl, hn, hm, he⟩, hs⟩
  rw [hw, Act.bind_ok hv, hb, hbody]
  rfl

end Place

section Cancel

variable {c : CancelOrder} {o : Order}

theorem cancel_unknown (h : Sees shelf t u x w) (hnone : x.rows .order c.orderId = none) :
    ∃ v, c.handle u shelf w = (.error (.domain (.notFound c.orderId)), v) ∧
      Sees shelf t u x v := by
  obtain ⟨d, hd, hs⟩ := h.reportCommand CancelOrder.type c.correlationId
  refine ⟨d, ?_, hs⟩
  rw [CancelOrder.handle, Act.bind_ok hd]
  exact Act.bind_error (hs.load_unknown hnone)

theorem cancel_known (h : Sees shelf t u x w) (ha : x.status.accepts = true)
    (ho : x.rows .order c.orderId = some o) :
    ∃ (a : Tracked Order) (stamp : Stamp) (v : ShopWorld Q H), Sees shelf t u x v ∧ a.body = o ∧
      a.state = .loaded ∧ a.raised = [] ∧
      c.handle u shelf w = (Act.carrying a ((Act.onFirst
        (Order.cancel stamp c.reason c.correlationId)).mapError .domain) >>= fun a =>
        Act.carrying a (TableRef.update ⟨.order, shelf⟩ u) >>=
        fun b : Tracked Order => pure b.body.id : ShopAct Q H OrderingError Uuid) v := by
  obtain ⟨d, hd, hs⟩ := h.reportCommand CancelOrder.type c.correlationId
  obtain ⟨a, e, hload, hbody, hstate, hraised, hs⟩ := hs.load_known ha ho
  obtain ⟨stamp, v, hv, hs⟩ := hs.stamp (ε := OrderingError)
  refine ⟨a, stamp, v, hs, hbody, hstate, hraised, ?_⟩
  rw [CancelOrder.handle, Act.bind_ok hd, Act.bind_ok hload]
  exact Act.bind_ok hv

theorem cancel_again (h : Sees shelf t u x w) (ha : x.status.accepts = true)
    (ho : x.rows .order c.orderId = some o) (hc : o.status = .cancelled) :
    ∃ text v, c.handle u shelf w = (.error (.domain (.validation text)), v) ∧
      Sees shelf t u x v := by
  obtain ⟨a, stamp, v, hs, rfl, -, -, hw⟩ := h.cancel_known ha ho
  obtain ⟨text, ht⟩ := Order.cancel_again hc stamp c.reason c.correlationId
  have hcancel := Act.carrying_onFirst_error ht OrderingError.domain v
  exact ⟨text, v, hw.trans (Act.bind_error hcancel), hs⟩

theorem cancel_placed (h : Sees shelf t u x w) (ha : x.status.accepts = true) (hk : Kept x.rows)
    (ho : x.rows .order c.orderId = some o) (hc : o.status ≠ .cancelled) :
    ∃ (ms : List Message) (v : ShopWorld Q H), c.handle u shelf w = (.ok c.orderId, v) ∧
      ms.map Message.type = ["aggregate.post_updated", "order.cancelled"] ∧
      Sees shelf t u { x with
        rows := x.rows.put .order c.orderId (some { o with status := .cancelled })
        queue := x.queue ++ ms } v := by
  obtain ⟨hid, hhook⟩ := hk .order _ _ ho
  obtain ⟨a, stamp, d, hs, rfl, hstate, hraised, hw⟩ := h.cancel_known ha ho
  obtain ⟨m, hm, ht, hd⟩ := Order.cancel_placed hc stamp c.reason c.correlationId
  have hcancel := Act.carrying_onFirst_ok hm OrderingError.domain d
  obtain ⟨n, b, v, hv, hb, hn, hs⟩ := hs.update_changed (k := .order) ha ho hstate hraised
    { a.body with status := .cancelled } hid (Order.beforeSave_withStatus hhook .cancelled) hd
  refine ⟨[n, m], v, ?_, ?_, hs⟩
  · rw [hw, Act.bind_ok hcancel, Act.bind_ok hv, hb]
    exact congrArg (fun id => (Except.ok id, v)) hid
  · rw [List.map_cons, List.map_cons, hn, ht]
    rfl

end Cancel

end Sees

end Transactor.Shop
