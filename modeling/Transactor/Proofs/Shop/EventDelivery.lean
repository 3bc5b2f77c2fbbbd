import Transactor.Proofs.RoutedDrain
import Transactor.Proofs.Shop.MessageFormat
import Transactor.Proofs.Shop.Work
import Transactor.Proofs.Shop.Writes

namespace Transactor.Shop

open Relation

variable {Q H : Type}

/-- What a message tells of an event. Only a placed order is taken for one. -/
structure Event.Conveyed (e : Event) (m : Message) : Prop where
  type : m.type = e.kind.type
  metadata : m.metadata = { e.metadata with messageType := e.kind.type }
  placed : ∀ p, placedOrder m = .ok p ↔ e.kind = .orderPlaced p
  other : (∀ p, e.kind ≠ .orderPlaced p) →
    placedOrder m = .error (.rejected ("expected order.placed, got " ++ e.kind.type))

theorem placedOrder_message (e : Event) : placedOrder e.message = match e.kind with
    | .orderPlaced p => .ok p
    | k => .error (.rejected ("expected order.placed, got " ++ k.type)) := by
  simp only [placedOrder, Event.message, EventKind.ofDraft_toJson]
  cases e.kind <;> rfl

theorem Event.conveyed_message (e : Event) : e.Conveyed e.message where
  type := rfl
  metadata := rfl
  placed p := by
    rw [placedOrder_message]
    cases e.kind with
    | orderPlaced q => simp
    | orderCancelled q => simp
    | stockReserved q => simp
  other hne := by
    rw [placedOrder_message]
    cases hk : e.kind with
    | orderPlaced q => exact absurd hk (hne q)
    | orderCancelled q => rfl
    | stockReserved q => rfl

section Insert

variable {u : UnitRef} {w v : ShopWorld Q H}

theorem RowWrite.written_of_ok {r : TableRef} {a b : Tracked r.Entity} (wr : RowWrite)
    (h : wr.run r u (a, w) = (.ok (), b, v)) : wr.Written r u a w b v := by
  have hend := wr.run_ending (u := u) a w
  rw [h] at hend
  cases hend with
  | written _ hw => exact hw

/-- An order that is placed and inserted leaves two messages in the unit: the record of the insert,
and what it has raised. -/
theorem insert_placed {stamp : Stamp} {id customer correlation : Uuid} {lines : List OrderLine}
    {a b : Tracked Order} {shelf : Nat}
    (hp : Order.place stamp id customer lines correlation = .ok a)
    (hi : (TableRef.mk .order shelf).insert u (a, w) = (.ok (), b, v)) :
    ∃ m n, a.raised = [m] ∧ m.type = orderPlacedType ∧
      placedOrder m = .ok ⟨id, customer, lines.map fun l => ⟨l.stockItemId, l.quantity⟩⟩ ∧
      (v.unit u).status = (w.unit u).status ∧
      (v.unit u).queue = (w.unit u).queue ++ [n, m] := by
  have hvalid : ¬∃ l ∈ lines, l.quantity = 0 := by
    intro h
    obtain ⟨text, he⟩ := Order.place_invalid h stamp id customer correlation
    cases he.symm.trans hp
  obtain ⟨a', m, ha, -, -, hraised, htype, hplaced⟩ :=
    Order.place_valid hvalid stamp id customer correlation
  obtain rfl : a' = a := Except.ok.inj (ha.symm.trans hp)
  have h := RowWrite.written_of_ok (r := ⟨.order, shelf⟩) .insert hi
  refine ⟨m, RowWrite.postRecord ⟨.order, shelf⟩ .insert a' w, hraised, htype, hplaced, ?_, ?_⟩
  · rw [h.unit]
  · rw [h.unit, hraised]

end Insert

section Placed

variable {stamp : Stamp} {id customer correlation : Uuid} {lines : List OrderLine}
  {a b : Tracked Order} {shelf : Nat} {u : UnitRef} {w v later : ShopWorld Q H}
  {subscriptions : List (Subscription (Handler (Party Q) (Premises H)))}
  {h : Host (Party Q) (Premises H × List Invocation)} {past : List Invocation}
  (hp : Order.place stamp id customer lines correlation = .ok a)
  (hi : (TableRef.mk .order shelf).insert u (a, w) = (.ok (), b, v))
  (hactive : (w.unit u).status = .active) (hsteps : ReflTransGen (UnitStep u) v later)
  (hd : h.dispatch = Dispatcher.inProcess (numbered subscriptions))

include hp hi hactive hsteps hd

theorem drain_placed :
    let r := h.drain u (later.beside past)
    let place := (w.unit u).queue.length + 1
    ∃ m handed pairs calls exit, a.raised = [m] ∧ handed[place]? = some m ∧
      placedOrder m = .ok ⟨id, customer, lines.map fun l => ⟨l.stockItemId, l.quantity⟩⟩ ∧
      (later.unit u).queue <+: handed ∧ r.2.host.2 = past ++ calls ∧
      Routed subscriptions handed pairs calls exit ∧
      Concluded (later.unit u).transaction (later.unit u).limit exit r.1 ∧
      ∀ i s, subscriptions[i]? = some s → s.type = "order.placed" →
        (∃ c, CalledOnce pairs calls (place, i) c ∧ c.message = m ∧ c.subscription = i) ∨
          ∃ (k : ℕ) (p : ℕ × ℕ) (c : Invocation), Prod.Lex (· < ·) (· < ·) p (place, i) ∧
            pairs[k]? = some p ∧ calls[k]? = some c ∧ c.exit ≠ .done () ∧ exit = c.exit := by
  obtain ⟨m, n, hraised, htype, hplaced, hstatus, hqueue⟩ := insert_placed hp hi
  have hchanges := changes_of_steps hsteps
  have hqueued : (later.unit u).queue[(w.unit u).queue.length + 1]? = some m := by
    obtain ⟨rest, hrest⟩ := queue_of_changes hchanges
    rw [← hrest, hqueue, List.append_assoc, List.getElem?_append_right (Nat.le_add_right _ 1),
      Nat.add_sub_cancel_left]
    rfl
  have hopen : ((later.beside past).unit u).status = .active := by
    change (later.unit u).status = .active
    rw [status_of_changes hchanges, hstatus, hactive]
  obtain ⟨batches, exit, d, hrounds, hhost, hc, hhead⟩ := h.drain_inRounds u hopen
  have hmakes : ∀ batch, Makes (due subscriptions batch) (h.dispatch batch u) := by
    intro batch
    rw [hd]
    exact Makes.inProcess subscriptions batch u
  obtain ⟨calls, hn, hmade⟩ := hrounds.made hmakes
  have hfirst : (later.unit u).queue <+: batches.flatten := by
    have hne : (later.unit u).queue ≠ [] := by
      intro hnil
      rw [hnil] at hqueued
      cases hqueued
    obtain ⟨rest, rfl⟩ := List.head?_eq_some_iff.mp (hhead hne)
    exact ⟨rest.flatten, rfl⟩
  have hhanded : batches.flatten[(w.unit u).queue.length + 1]? = some m := by
    obtain ⟨rest, hrest⟩ := hfirst
    rw [← hrest, List.getElem?_append_left (List.getElem?_eq_some_iff.mp hqueued).1, hqueued]
  refine ⟨m, batches.flatten, _, calls, exit, hraised, hhanded, hplaced, hfirst, ?_, hmade.routed,
    hc, ?_⟩
  · rw [hhost, hn]
    rfl
  · intro i s hs ht
    exact hmade.routed.once hhanded hs (.inr (ht.trans htype.symm))

/-- A drain that has gone well has called every subscription to placed orders. -/
theorem drain_placed_done (hok : (h.drain u (later.beside past)).1 = .done ()) :
    let place := (w.unit u).queue.length + 1
    ∃ m handed pairs calls, a.raised = [m] ∧ handed[place]? = some m ∧
      placedOrder m = .ok ⟨id, customer, lines.map fun l => ⟨l.stockItemId, l.quantity⟩⟩ ∧
      (h.drain u (later.beside past)).2.host.2 = past ++ calls ∧
      Routed subscriptions handed pairs calls (.done ()) ∧
      ∀ i s, subscriptions[i]? = some s → s.type = "order.placed" →
        ∃ c, CalledOnce pairs calls (place, i) c ∧ c.message = m ∧ c.subscription = i := by
  obtain ⟨m, handed, pairs, calls, exit, hraised, hm, hplaced, -, hcalls, hrouted, hc, honce⟩ :=
    drain_placed hp hi hactive hsteps hd
  rw [hok] at hc
  obtain rfl : exit = .done () := by
    cases hc
    rfl
  refine ⟨m, handed, pairs, calls, hraised, hm, hplaced, hcalls, hrouted, ?_⟩
  intro i s hs ht
  obtain hcalled | ⟨_, _, c, -, -, -, hne, he⟩ := honce i s hs ht
  · exact hcalled
  · exact absurd he.symm hne

end Placed

/-- Every event is read back from its message, and from the JSON of that, as the event that it is.
An order that is placed, inserted into a table and drained with what else the unit has been given
is handed, under its place in the queue, to each subscription to placed orders once, and read there
as what was placed; unless a call that comes before does not go well, which ends the drain. -/
theorem events_delivered :
    (∀ e : Event, e.Conveyed e.message ∧
      ∃ m, Message.ofDraft e.message.toJson.toDraft = .ok m ∧ e.Conveyed m) ∧
    ∀ (stamp : Stamp) (id customer correlation : Uuid) (lines : List OrderLine)
      (a b : Tracked Order) (shelf : Nat) (u : UnitRef) (w v later : ShopWorld Q H)
      (subscriptions : List (Subscription (Handler (Party Q) (Premises H))))
      (h : Host (Party Q) (Premises H × List Invocation)) (past : List Invocation),
      Order.place stamp id customer lines correlation = .ok a →
      (TableRef.mk .order shelf).insert u (a, w) = (.ok (), b, v) →
      (w.unit u).status = .active → ReflTransGen (UnitStep u) v later →
      h.dispatch = Dispatcher.inProcess (numbered subscriptions) →
      let r := h.drain u (later.beside past)
      let place := (w.unit u).queue.length + 1
      ∃ m handed pairs calls exit, a.raised = [m] ∧ handed[place]? = some m ∧
        placedOrder m = .ok ⟨id, customer, lines.map fun l => ⟨l.stockItemId, l.quantity⟩⟩ ∧
        (later.unit u).queue <+: handed ∧ r.2.host.2 = past ++ calls ∧
        Routed subscriptions handed pairs calls exit ∧
        Concluded (later.unit u).transaction (later.unit u).limit exit r.1 ∧
        ∀ i s, subscriptions[i]? = some s → s.type = "order.placed" →
          (∃ c, CalledOnce pairs calls (place, i) c ∧ c.message = m ∧ c.subscription = i) ∨
            ∃ (k : ℕ) (p : ℕ × ℕ) (c : Invocation), Prod.Lex (· < ·) (· < ·) p (place, i) ∧
              pairs[k]? = some p ∧ calls[k]? = some c ∧ c.exit ≠ .done () ∧ exit = c.exit := by
  constructor
  · intro e
    exact ⟨e.conveyed_message, e.message, Message.ofDraft_toJson e.message, e.conveyed_message⟩
  · intro stamp id customer correlation lines a b shelf u w v later subscriptions h past hp hi
      hactive hsteps hd
    exact drain_placed hp hi hactive hsteps hd

/-- A shop that has nothing yet, with a new unit. -/
def bareShop : ShopWorld Empty Unit :=
  (World.first ⟨2⟩ ⟨.empty, [], ()⟩).setUnit ⟨0⟩ (.begin ⟨.ofNat 0⟩ ⟨2⟩)

/-- A host whose journal is only told of placed orders. -/
def orderBook : Host (Party Empty) (Premises Unit × List Invocation) where
  before _ := pure ()
  after _ _ := pure ()
  dispatch := Dispatcher.inProcess (numbered [⟨"order.placed", keepJournal⟩])
  patience := 1

/-- An order whose lines name one item twice: of the two messages that it leaves in the unit the
second one is read as it. -/
theorem events_delivered_repeated :
    let lines : List OrderLine := [⟨.ofNat 1, 4⟩, ⟨.ofNat 1, 7⟩]
    ∃ (a b : Tracked Order) (v : ShopWorld Empty Unit),
      Order.place ⟨.ofNat 4, .epoch⟩ (.ofNat 2) (.ofNat 3) lines (.ofNat 5) = .ok a ∧
      (TableRef.mk .order 0).insert ⟨0⟩ (a, bareShop) = (.ok (), b, v) ∧
      (bareShop.unit ⟨0⟩).status = .active ∧ ReflTransGen (UnitStep ⟨0⟩) v v ∧
      (orderBook.drain ⟨0⟩ (v.beside [])).1 = .done () ∧
      ∃ m handed pairs calls c, a.raised = [m] ∧ handed[1]? = some m ∧
        placedOrder m = .ok ⟨.ofNat 2, .ofNat 3, [⟨.ofNat 1, 4⟩, ⟨.ofNat 1, 7⟩]⟩ ∧
        (orderBook.drain ⟨0⟩ (v.beside [])).2.host.2 = calls ∧ calls.length = 1 ∧
        Routed [⟨"order.placed", (keepJournal : Handler (Party Empty) (Premises Unit))⟩] handed
          pairs calls (.done ()) ∧
        CalledOnce pairs calls (1, 0) c ∧ c.message = m ∧ c.subscription = 0 := by
  obtain ⟨a, hp⟩ : ∃ a, Order.place ⟨.ofNat 4, .epoch⟩ (.ofNat 2) (.ofNat 3)
      [⟨.ofNat 1, 4⟩, ⟨.ofNat 1, 7⟩] (.ofNat 5) = .ok a := ⟨_, rfl⟩
  let b := RowWrite.insert.done ⟨.order, 0⟩ a bareShop
  let v := RowWrite.insert.after ⟨.order, 0⟩ ⟨0⟩ a bareShop
  have hi : (TableRef.mk .order 0).insert ⟨0⟩ (a, bareShop) = (.ok (), b, v) := by
    cases hp
    exact RowWrite.run_of_free (r := ⟨.order, 0⟩) .insert _ _ rfl rfl rfl rfl
  have hrun : ((orderBook.drain ⟨0⟩ (v.beside [])).1,
      (orderBook.drain ⟨0⟩ (v.beside [])).2.host.2.length) = (.done (), 1) := by
    cases hp
    rfl
  obtain ⟨hdone, hcount⟩ := Prod.mk.inj hrun
  obtain ⟨m, handed, pairs, calls, exit, hraised, hm, hplaced, -, hn, hrouted, hc, honce⟩ :=
    events_delivered.2 _ _ _ _ _ _ _ _ _ _ _ _ _ orderBook [] hp hi rfl .refl rfl
  rw [hdone] at hc
  obtain rfl : exit = .done () := by
    cases hc
    rfl
  refine ⟨a, b, v, hp, hi, rfl, .refl, hdone, ?_⟩
  obtain ⟨c, hc, hmessage, hplace⟩ | ⟨_, _, c, -, -, -, hne, he⟩ := honce 0 _ rfl rfl
  · rw [hn] at hcount
    exact ⟨m, handed, pairs, calls, c, hraised, hm, hplaced, hn, hcount, hrouted, hc, hmessage,
      hplace⟩
  · exact absurd he.symm hne

end Transactor.Shop
