import Transactor.Proofs.Shop.SoundRows

namespace Transactor.Shop

open Relation

/-- An aggregate that somebody holds. -/
structure Held where
  kind : Kind
  entity : Tracked kind.Entity

/-- A state that remembers which aggregates are held outside the tables. -/
class Hands (H : Type) where
  held : H → List Held
  hold : List Held → H → H
  held_hold : ∀ es s, held (hold es s) = es

instance : Hands (List Held) where
  held es := es
  hold es _ := es
  held_hold _ _ := rfl

variable {Q H : Type} [Hands H]

/-- What is held in a world. -/
def heldIn (w : ShopWorld Q H) : List Held := Hands.held w.host.host

def holding (es : List Held) (w : ShopWorld Q H) : ShopWorld Q H :=
  { w with host := { w.host with host := Hands.hold es w.host.host } }

/-- Somebody takes hold of an aggregate. -/
def taking (e : Held) (w : ShopWorld Q H) : ShopWorld Q H := holding (heldIn w ++ [e]) w

/-- An aggregate that is held becomes another. -/
def swapping (i : Nat) (e : Held) (w : ShopWorld Q H) : ShopWorld Q H :=
  holding ((heldIn w).set i e) w

@[simp] theorem heldIn_holding (es : List Held) (w : ShopWorld Q H) :
    heldIn (holding es w) = es := Hands.held_hold es w.host.host

/-- What may be done in a shop, step by step: aggregates are made, loaded, looked up, copied,
changed and written, commands and messages are handled, and tables settle. Whatever leaves the
tables alone and brings no new aggregate may happen besides. -/
inductive Trade : ShopWorld Q H → ShopWorld Q H → Prop
  | stockItem (id : Uuid) (sku : String) (onHand : UInt32) (w : ShopWorld Q H) :
      Trade w (taking ⟨.stockItem, StockItem.ofUnits id sku onHand⟩ w)
  | place {stamp : Stamp} {id customer : Uuid} {lines : List OrderLine} {correlation : Uuid}
      {o : Tracked Order} (ho : Order.place stamp id customer lines correlation = .ok o)
      (w : ShopWorld Q H) : Trade w (taking ⟨.order, o⟩ w)
  | load {r : TableRef} {u : UnitRef} {id : Uuid} {a : Tracked r.Entity} {w v : ShopWorld Q H}
      (hl : r.load u id w = (.ok a, v)) : Trade w (taking ⟨r.kind, a⟩ v)
  | miss {r : TableRef} {u : UnitRef} {id : Uuid} {e : OrderingError} {w v : ShopWorld Q H}
      (hl : r.load u id w = (.error e, v)) : Trade w v
  | peek {r : TableRef} {t : TransactionId} {id : Uuid} {row : r.Row} {w : ShopWorld Q H}
      (hv : (r.table w).visible t id = some row) : Trade w (taking ⟨r.kind, row⟩ w)
  | snapshot {r : TableRef} {id : Uuid} {row : r.Row} {w : ShopWorld Q H}
      (hc : (r.table w).committed.get? id = some row) : Trade w (taking ⟨r.kind, row⟩ w)
  | copy {e : Held} {w : ShopWorld Q H} (he : e ∈ heldIn w) : Trade w (taking e w)
  | reserve {i : Nat} {a : Tracked StockItem} {w : ShopWorld Q H}
      (ha : (heldIn w)[i]? = some ⟨.stockItem, a⟩) (stamp : Stamp) (order : Uuid)
      (quantity : UInt32) (correlation : Uuid) :
      Trade w (swapping i
        ⟨.stockItem, (StockItem.reserve stamp order quantity correlation a).2⟩ w)
  | cancel {i : Nat} {a : Tracked Order} {w : ShopWorld Q H}
      (ha : (heldIn w)[i]? = some ⟨.order, a⟩) (stamp : Stamp) (reason : String)
      (correlation : Uuid) :
      Trade w (swapping i ⟨.order, (Order.cancel stamp reason correlation a).2⟩ w)
  | insert {r : TableRef} {i : Nat} {a : Tracked r.Entity} {w : ShopWorld Q H}
      (ha : (heldIn w)[i]? = some ⟨r.kind, a⟩) (u : UnitRef) :
      Trade w (swapping i ⟨r.kind, (r.insert u (a, w)).2.1⟩ (r.insert u (a, w)).2.2)
  | update {r : TableRef} {i : Nat} {a : Tracked r.Entity} {w : ShopWorld Q H}
      (ha : (heldIn w)[i]? = some ⟨r.kind, a⟩) (u : UnitRef) :
      Trade w (swapping i ⟨r.kind, (r.update u (a, w)).2.1⟩ (r.update u (a, w)).2.2)
  | remove {r : TableRef} {i : Nat} {a : Tracked r.Entity} {w : ShopWorld Q H}
      (ha : (heldIn w)[i]? = some ⟨r.kind, a⟩) (u : UnitRef) :
      Trade w (swapping i ⟨r.kind, (r.remove u (a, w)).2.1⟩ (r.remove u (a, w)).2.2)
  | placeOrder (c : PlaceOrder) (u : UnitRef) (shelf : Nat) (w : ShopWorld Q H) :
      Trade w (c.handle u shelf w).2
  | cancelOrder (c : CancelOrder) (u : UnitRef) (shelf : Nat) (w : ShopWorld Q H) :
      Trade w (c.handle u shelf w).2
  | reserveStock (shelf : Nat) (m : Message) (u : UnitRef) (w : ShopWorld Q H) :
      Trade w (Shop.reserveStock shelf m u w).2
  | settle (r : TableRef) (t : TransactionId) (o : Outcome) (w : ShopWorld Q H) :
      Trade w ((r.settle t o : ShopAct Q H Empty Unit) w).2
  | other {w v : ShopWorld Q H} (ht : v.host.tables = w.host.tables)
      (hh : heldIn v ⊆ heldIn w) : Trade w v

/-- A shop in which every aggregate that is held is valid, and every row may be kept. -/
structure Consistent (w : ShopWorld Q H) : Prop where
  held : ∀ e ∈ heldIn w, e.kind.Valid e.entity.body
  rows : Stocked w

namespace Consistent

variable {w v : ShopWorld Q H}

theorem congr (h : Consistent w) (hv : v.host = w.host) : Consistent v where
  held := by
    rw [heldIn, hv]
    exact h.held
  rows := h.rows.congr (by rw [hv])

theorem taking (h : Consistent w) {e : Held} (he : e.kind.Valid e.entity.body) :
    Consistent (taking e w) where
  held f hf := by
    rw [Shop.taking, heldIn_holding] at hf
    obtain hf | hf := List.mem_append.mp hf
    · exact h.held f hf
    · rwa [List.mem_singleton.mp hf]
  rows := h.rows.congr rfl

theorem swapping (h : Consistent w) (hv : heldIn v = heldIn w) (hs : Stocked v) (i : Nat)
    {e : Held} (he : e.kind.Valid e.entity.body) : Consistent (swapping i e v) where
  held f hf := by
    rw [Shop.swapping, heldIn_holding, hv] at hf
    obtain hf | rfl := List.mem_or_eq_of_mem_set hf
    · exact h.held f hf
    · exact he
  rows := hs.congr rfl

theorem getElem (h : Consistent w) {i : Nat} {k : Kind} {a : Tracked k.Entity}
    (ha : (heldIn w)[i]? = some ⟨k, a⟩) : k.Valid a.body :=
  h.held ⟨k, a⟩ (List.mem_of_getElem? ha)

theorem stocks (h : Consistent w) : Stocks w.host.host w := ⟨h.rows, rfl⟩

theorem of_stocks (h : Consistent w) (hv : Stocks w.host.host v) : Consistent v where
  held := by
    rw [heldIn, hv.host]
    exact h.held
  rows := hv.rows

theorem swapping_of_stocks (h : Consistent w) (hv : Stocks w.host.host v) (i : Nat) {e : Held}
    (he : e.kind.Valid e.entity.body) : Consistent (Shop.swapping i e v) :=
  h.swapping (congrArg Hands.held hv.host) hv.rows i he

end Consistent

/-- One step keeps a shop consistent, whatever it is and however it ends. -/
theorem Trade.consistent {w v : ShopWorld Q H} (h : Trade w v) (hw : Consistent w) :
    Consistent v := by
  cases h with
  | stockItem id sku onHand => exact hw.taking (UInt32.zero_le)
  | place ho => exact hw.taking (Order.valid_of_place ho)
  | @load r u id a _ v hl =>
    have hv := hw.of_stocks (hw.stocks.load r u id)
    rw [hl] at hv
    exact hv.taking (hw.rows.loaded hl).valid
  | @miss r u id e _ _ hl =>
    have hv := hw.of_stocks (hw.stocks.load r u id)
    rwa [hl] at hv
  | @peek r t id row _ hv =>
    have hrow := (hw.rows r).visible hv
    exact hw.taking (e := ⟨r.kind, row⟩) hrow.storable.valid
  | @snapshot r id row _ hc =>
    have hrow := (hw.rows r).committed id row hc
    exact hw.taking (e := ⟨r.kind, row⟩) hrow.storable.valid
  | copy he => exact hw.taking (hw.held _ he)
  | @reserve i a _ ha stamp order quantity correlation =>
    exact hw.swapping rfl hw.rows i (StockItem.reserve_valid (hw.getElem ha))
  | @cancel i a _ ha stamp reason correlation =>
    exact hw.swapping rfl hw.rows i (Order.cancel_valid (hw.getElem ha))
  | @insert r i a _ ha u =>
    have hvalid := hw.getElem ha
    exact hw.swapping_of_stocks (hw.stocks.insert u hvalid) i (r.insert_body a w ▸ hvalid)
  | @update r i a _ ha u =>
    have hvalid := hw.getElem ha
    exact hw.swapping_of_stocks (hw.stocks.update u hvalid) i (r.update_body a w ▸ hvalid)
  | @remove r i a _ ha u =>
    have hvalid := hw.getElem ha
    exact hw.swapping_of_stocks (hw.stocks.remove u a) i (r.remove_body a w ▸ hvalid)
  | placeOrder c u shelf => exact hw.of_stocks (Stocks.place c u shelf w hw.stocks)
  | cancelOrder c u shelf => exact hw.of_stocks (Stocks.cancel c u shelf w hw.stocks)
  | reserveStock shelf m u => exact hw.of_stocks (Stocks.reserveStock shelf m u w hw.stocks)
  | settle r t o => exact hw.of_stocks (Stocks.settle r t o w hw.stocks)
  | other ht hh => exact ⟨fun e he => hw.held e (hh he), hw.rows.congr ht⟩

theorem consistent_lasting : Lasting Trade (Consistent : ShopWorld Q H → Prop) where
  congr _ _ hv h := h.congr hv
  settle r t o w h := h.of_stocks (Stocks.settle r t o w h.stocks)
  step _ _ hs h := hs.consistent h

/-- What a shop can rely on: no row has a past, the units that are available and those that are
reserved are those on hand, a reservation adds up, the hook of a stock item agrees, and a load by a
unit that takes registrations finds the row, or there is none. -/
structure Safe (w : ShopWorld Q H) : Prop where
  detached : AllRows (fun _ _ row => row.IsDetached) w
  available : ∀ i : Tracked StockItem, ⟨.stockItem, i⟩ ∈ heldIn w →
    i.body.available.toNat + i.body.reserved.toNat = i.body.onHand.toNat
  reserve : ∀ i : Tracked StockItem, ⟨.stockItem, i⟩ ∈ heldIn w →
    ∀ stamp order quantity correlation j,
      StockItem.reserve stamp order quantity correlation i = (.ok (), j) →
        j.body.reserved.toNat = i.body.reserved.toNat + quantity.toNat
  agrees : ∀ i : Tracked StockItem, ⟨.stockItem, i⟩ ∈ heldIn w →
    Aggregate.beforeSave i.body = (.ok (), i.body)
  load : ∀ (r : TableRef) (u : UnitRef) (id : Uuid), (w.unit u).status.accepts = true →
    (∃ e v, (r.table w).visible (w.unit u).transaction id = some (.fresh e) ∧
      r.load u id w = (.ok ⟨e, .loaded, []⟩, v)) ∨
    (r.table w).visible (w.unit u).transaction id = none ∧
      r.load u id w = (.error (.domain (.notFound id)), w)

theorem Consistent.safe {w : ShopWorld Q H} (h : Consistent w) : Safe w where
  detached := h.rows.mono fun _ _ _ hrow => hrow.detached
  available i hi := StockItem.available_add (h.held _ hi)
  reserve i _ stamp order quantity correlation j hj := by
    obtain ⟨text, hr⟩ | ⟨k, hr, -, hsum, -⟩ :=
      StockItem.reserve_cases i stamp order quantity correlation
    · rw [hj] at hr
      cases hr
    · rw [hj] at hr
      cases hr
      exact hsum
  agrees i hi := StockItem.beforeSave_valid (h.held _ hi)
  load r _ _ ha := TableRef.load_cases ha fun _ hrow => ((h.rows r).visible hrow).detached

theorem consistent_empty {w : ShopWorld Q H} (ht : w.host.tables = .empty)
    (hh : heldIn w = []) : Consistent w where
  held e he := by
    rw [hh] at he
    cases he
  rows r := by
    rw [TableRef.table, ht]
    obtain ⟨k, n⟩ := r
    cases k with
    | order => exact Table.Holds.empty
    | stockItem => exact Table.Holds.empty

/-- Whatever is done in a shop that begins with empty tables and empty hands, and wherever it gets
to: what is held is valid, every row may be kept, and the shop can rely on what follows. -/
theorem run_consistent {before : Q → ShopTask Q H UnitOfWorkError Unit}
    {after : Q → Outcome → ShopTask Q H Empty Unit}
    {dispatch : List Message → UnitRef → ShopTask Q H DeliveryError Unit} {patience : Nat}
    (hb : ∀ q, (before q).Within Trade) (ha : ∀ q o, (after q o).Within Trade)
    (hd : ∀ batch u, (dispatch batch u).Within Trade) {w v : ShopWorld Q H}
    (ht : w.host.tables = .empty) (hh : heldIn w = [])
    (hr : ReflTransGen (Business Trade (Host.ofShop before after dispatch patience)) w v) :
    Consistent v ∧ Safe v := by
  have hv := Business.keeps_run consistent_lasting hb ha hd hr (consistent_empty ht hh)
  exact ⟨hv, hv.safe⟩

/-- Reserves stock for the first order of a batch. -/
def reserving (batch : List Message) (u : UnitRef) :
    ShopTask Empty (List Held) DeliveryError Unit :=
  match batch with
  | [] => pure ()
  | m :: _ => Shop.reserveStock 0 m u

theorem reserving_within (batch : List Message) (u : UnitRef) :
    (reserving batch u).Within Trade := by
  cases batch with
  | nil => exact .pure ()
  | cons m ms =>
    exact Task.Within.atOnce fun _ w hw => hw.tail (.reserveStock 0 m u w)

/-- An empty shop with a unit of work, and the same shop after ten units of an item have been made
and inserted. -/
def openShop : ShopWorld Empty (List Held) :=
  (World.first ⟨2⟩ ⟨.empty, [], []⟩).setUnit ⟨0⟩ (.begin ⟨.ofNat 0⟩ ⟨2⟩)

def tenItems : Tracked StockItem := StockItem.ofUnits (.ofNat 1) "WIDGET" 10

def insertedItems : ShopWorld Empty (List Held) :=
  let s := (TableRef.mk .stockItem 0).insert ⟨0⟩ (tenItems, taking ⟨.stockItem, tenItems⟩ openShop)
  swapping 0 ⟨.stockItem, s.2.1⟩ s.2.2

theorem run_consistent_inserted :
    let h := Host.ofShop (fun q : Empty => nomatch q) (fun q => nomatch q) reserving 2
    (∀ batch u, (reserving batch u).Within Trade) ∧ openShop.host.tables = .empty ∧
      heldIn openShop = [] ∧
      ReflTransGen (Business Trade h) openShop (h.commit ⟨.ofNat 0⟩ insertedItems).2 ∧
      Consistent (h.commit ⟨.ofNat 0⟩ insertedItems).2 ∧
      Safe (h.commit ⟨.ofNat 0⟩ insertedItems).2 := by
  intro h
  have hrun : ReflTransGen (Business Trade h) openShop (h.commit ⟨.ofNat 0⟩ insertedItems).2 := by
    refine .tail (.tail (.single (.own (.stockItem (.ofNat 1) "WIDGET" 10 openShop)))
      (.own ?_)) (.commit _ _)
    exact .insert (r := ⟨.stockItem, 0⟩) (i := 0) (a := tenItems) rfl ⟨0⟩
  exact ⟨reserving_within, rfl, rfl, hrun, run_consistent (fun q => q.elim) (fun q => q.elim)
    reserving_within rfl rfl hrun⟩

end Transactor.Shop
