import Transactor.Proofs.Shop.SoundRows
import Transactor.Proofs.Shop.Work
import Transactor.Proofs.Shop.Writes

namespace Transactor.Shop

open Relation

variable {Q H : Type}

/-- A row that is under its own identifier, with nothing recorded of its lifecycle. -/
structure Tracked.Filed {A : Type} [Aggregate A] (id : Uuid) (row : Tracked A) : Prop where
  detached : row.IsDetached
  keyed : Aggregate.aggregateId row.body = id

/-- All rows of a table are so. -/
def Table.Keyed {A : Type} [Aggregate A] (t : Table (Tracked A)) : Prop :=
  t.Holds fun id row => Tracked.Filed id row

/-- All rows of all tables are so. -/
def Filed (w : ShopWorld Q H) : Prop := ∀ r : TableRef, (r.table w).Keyed

namespace Filed

variable {w v : ShopWorld Q H}

theorem empty (ht : w.host.tables = .empty) : Filed w := by
  intro r
  rw [TableRef.table, ht]
  obtain ⟨k, n⟩ := r
  cases k with
  | order => exact Table.Holds.empty
  | stockItem => exact Table.Holds.empty

theorem load (h : Filed w) (r : TableRef) (u : UnitRef) (id : Uuid) : Filed (r.load u id w).2 :=
  (AllRows.stable _ u).load r id w h

theorem write (h : Filed w) (wr : RowWrite) (r : TableRef) (u : UnitRef) (a : Tracked r.Entity) :
    Filed (wr.run r u (a, w)).2.2 := by
  cases wr with
  | insert =>
    apply AllRows.writeEnd h (r.insert_end u w a)
    intro _ row hrow
    cases hrow
    exact ⟨Tracked.isDetached_fresh _, rfl⟩
  | update =>
    apply AllRows.writeEnd h (r.update_end u w a)
    intro _ row hrow
    cases hrow
    exact ⟨Tracked.isDetached_fresh _, rfl⟩
  | remove =>
    apply AllRows.writeEnd h (r.remove_end u w a)
    intro _ row hrow
    cases hrow

theorem settle (r : TableRef) (t : TransactionId) (o : Outcome) :
    (r.settle t o : ShopAct Q H Empty Unit).Keeps Filed := AllRows.settle _ r t o

theorem enlist (h : Filed w) (u : UnitRef) (p : Party Q) : Filed (WorldAct.enlist u p w).2 := by
  by_cases hc : (w.unit u).status = .completed
  · rw [WorldAct.enlist_closed w u hc]
    exact h
  · rw [WorldAct.enlist_open w u hc]
    exact AllRows.congr h rfl

/-- Whatever is done in a unit keeps the rows so. -/
theorem unitStep {u : UnitRef} (h : Filed w) (hs : UnitStep u w v) : Filed v := by
  cases hs with
  | register x => exact (AllRows.stable _ u).register x w h
  | enlist q => exact h.enlist u (.other q)
  | insert r a => exact h.write .insert r u a
  | update r a => exact h.write .update r u a
  | remove r a => exact h.write .remove r u a
  | load r id => exact h.load r u id
  | own hs => exact AllRows.congr h hs.tables

end Filed

/-- What is done in a unit, or leaves the tables alone. -/
inductive Filing : ShopWorld Q H → ShopWorld Q H → Prop
  | inUnit {u : UnitRef} {w v : ShopWorld Q H} (hs : UnitStep u w v) : Filing w v
  | beside {w v : ShopWorld Q H} (ht : v.host.tables = w.host.tables) : Filing w v

theorem filed_lasting : Lasting Filing (Filed : ShopWorld Q H → Prop) where
  congr _ _ hv h := AllRows.congr h (congrArg Premises.tables hv)
  settle := Filed.settle
  step _ _ hs h := by
    cases hs with
    | inUnit hs => exact h.unitStep hs
    | beside ht => exact AllRows.congr h ht

/-- A shop that begins with empty tables keeps its rows so, whatever its units and its host do. -/
theorem filed_run {before : Q → ShopTask Q H UnitOfWorkError Unit}
    {after : Q → Outcome → ShopTask Q H Empty Unit}
    {dispatch : List Message → UnitRef → ShopTask Q H DeliveryError Unit} {patience : Nat}
    {w v : ShopWorld Q H} (hb : ∀ q, (before q).Within Filing)
    (ha : ∀ q o, (after q o).Within Filing) (hd : ∀ batch u, (dispatch batch u).Within Filing)
    (ht : w.host.tables = .empty)
    (hr : ReflTransGen (Business Filing (Host.ofShop before after dispatch patience)) w v) :
    Filed v :=
  Business.keeps_run filed_lasting hb ha hd hr (Filed.empty ht)

theorem handlers_filing (shelf : Nat) (batch : List Message) (u : UnitRef) :
    (Dispatcher.inProcess (handlers shelf) batch u : ShopTask Q H _ _).Within Filing :=
  (handlers_within shelf u batch).refine fun _ _ hs => .single (.inUnit hs)

/-- What a line of a placed order asks for. -/
def PlacedLine.ordered (l : PlacedLine) : OrderLine := ⟨l.stockItemId, l.quantity⟩

/-- The units of an item that the lines of a placed order ask for. -/
def unitsAsked (ls : List PlacedLine) (id : Uuid) : Nat := demand (ls.map PlacedLine.ordered) id

namespace Stock

/-- Sets aside what placed lines ask for. -/
def afterLines (stock : Stock) (ls : List PlacedLine) : Stock :=
  stock.reserve (ls.map PlacedLine.ordered)

/-- Why a line is refused, after others have been reserved from the stock. -/
def refusal? (stock : Stock) (done : List PlacedLine) (l : PlacedLine) : Option OrderingError :=
  match stock l.stockItemId with
  | none => some (.domain (.notFound l.stockItemId))
  | some p =>
    let free := p.available - unitsAsked done l.stockItemId
    if l.quantity = 0 then
      some (.domain (.validation ("cannot reserve zero units of " ++ p.sku)))
    else if free < l.quantity.toNat then
      some (.domain (.validation ("insufficient stock for " ++ p.sku ++ ": requested "
        ++ toString l.quantity.toNat ++ ", available " ++ toString free)))
    else none

/-- None of the lines is refused after the ones before it. -/
def Admits (stock : Stock) (ls : List PlacedLine) : Prop :=
  ∀ done l later, ls = done ++ l :: later → stock.refusal? done l = none

/-- How far one gets with lines: through all of them, or up to the first that is refused. -/
inductive Progress (stock : Stock) (ls : List PlacedLine) :
    List PlacedLine → Except OrderingError Unit → Prop
  | through (h : stock.Admits ls) : Progress stock ls ls (.ok ())
  | stopped {done later : List PlacedLine} {l : PlacedLine} {e : OrderingError}
      (hls : ls = done ++ l :: later) (h : stock.Admits done)
      (he : stock.refusal? done l = some e) : Progress stock ls done (.error e)

theorem admits_nil (stock : Stock) : stock.Admits [] := by
  intro done l later h
  simp at h

theorem Admits.snoc {stock : Stock} {ls : List PlacedLine} {l : PlacedLine} (h : stock.Admits ls)
    (hl : stock.refusal? ls l = none) : stock.Admits (ls ++ [l]) := by
  intro done k later hk
  obtain rfl | ⟨init, last, rfl⟩ := List.eq_nil_or_concat later
  · obtain ⟨rfl, hlast⟩ := List.append_inj' hk rfl
    obtain rfl := List.singleton_inj.mp hlast
    exact hl
  · rw [List.concat_eq_append, ← List.cons_append, ← List.append_assoc] at hk
    exact h done k init (List.append_inj' hk rfl).1

theorem Progress.through_iff {stock : Stock} {ls done : List PlacedLine}
    {result : Except OrderingError Unit} (h : stock.Progress ls done result) :
    result = .ok () ↔ stock.Admits ls := by
  cases h with
  | through hls => exact ⟨fun _ => hls, fun _ => rfl⟩
  | stopped hls hdone he =>
    constructor
    · intro hok
      cases hok
    · intro hadmits
      cases he.symm.trans (hadmits _ _ _ hls)

end Stock

theorem unitsAsked_snoc (ls : List PlacedLine) (l : PlacedLine) :
    unitsAsked (ls ++ [l]) l.stockItemId =
      unitsAsked ls l.stockItemId + l.quantity.toNat := by
  have hown : demand [l.ordered] l.stockItemId = l.quantity.toNat := by
    rw [demand, demand, PlacedLine.ordered, if_pos rfl, Nat.add_zero]
  rw [unitsAsked, List.map_append, demand_append, List.map_singleton, hown, unitsAsked]

namespace Stock

variable {stock : Stock} {done : List PlacedLine} {l : PlacedLine}

theorem afterLines_nil (stock : Stock) : stock.afterLines [] = stock := stock.reserve_nil

theorem afterLines_snoc (stock : Stock) (ls : List PlacedLine) (l : PlacedLine) :
    stock.afterLines (ls ++ [l]) = (stock.afterLines ls).afterLines [l] := by
  rw [afterLines, List.map_append]
  exact stock.reserve_append _ _

theorem afterLines_eq_some {p : Product} {id : Uuid} (h : stock.afterLines done id = some p) :
    ∃ q, stock id = some q ∧ q.reserve (unitsAsked done id) = p := Option.map_eq_some_iff.mp h

/-- A line is refused as it were the first one if what the lines before it ask for is set aside. -/
theorem refusal?_afterLines (stock : Stock) (done : List PlacedLine) (l : PlacedLine) :
    (stock.afterLines done).refusal? [] l = stock.refusal? done l := by
  have hnone : unitsAsked [] l.stockItemId = 0 := rfl
  unfold refusal?
  cases hs : stock l.stockItemId with
  | none =>
    have ha : stock.afterLines done l.stockItemId = none := Option.map_eq_none_iff.mpr hs
    rw [ha]
  | some p =>
    have ha : stock.afterLines done l.stockItemId =
        some (p.reserve (unitsAsked done l.stockItemId)) := Option.map_eq_some_iff.mpr ⟨p, hs, rfl⟩
    rw [ha]
    simp only [Product.available_reserve, hnone, Nat.sub_zero]
    rfl

theorem refusal?_eq_none (h : stock.refusal? [] l = none) :
    ∃ p, stock l.stockItemId = some p ∧ l.quantity ≠ 0 ∧ l.quantity.toNat ≤ p.available := by
  unfold refusal? at h
  cases hs : stock l.stockItemId with
  | none =>
    rw [hs] at h
    cases h
  | some p =>
    simp only [hs] at h
    split at h
    · cases h
    · rename_i hq
      split at h
      · cases h
      · rename_i hle
        exact ⟨p, rfl, hq, Nat.not_lt.mp hle⟩

end Stock

/-- The world in which a row was loaded and an identifier taken for a message about it. -/
def TableRef.looked (r : TableRef) (u : UnitRef) (e : r.Entity) (w : ShopWorld Q H) :
    ShopWorld Q H :=
  let c := PersistenceEvent.postLoad.taken u (Tracked.fresh e) e w
  { c with supply := c.supply.advance }

theorem TableRef.unit_looked_self (r : TableRef) (u : UnitRef) (e : r.Entity)
    (w : ShopWorld Q H) : (r.looked u e w).unit u = (w.unit u).receive
      (Aggregate.aggregateType e, Aggregate.aggregateId e) [] := by
  change (PersistenceEvent.postLoad.taken u (Tracked.fresh e) e w).unit u = _
  rw [PersistenceEvent.unit_taken_self, Tracked.handedOver, if_neg (by decide)]
  rfl

theorem TableRef.unit_looked_of_ne (r : TableRef) {u v : UnitRef} (e : r.Entity)
    (w : ShopWorld Q H) (h : v ≠ u) : (r.looked u e w).unit v = w.unit v := by
  change (PersistenceEvent.postLoad.taken u (Tracked.fresh e) e w).unit v = _
  exact PersistenceEvent.unit_taken_of_ne h

/-- The stock as the transaction of a unit sees it. -/
def stockSeen (shelf : Nat) (u : UnitRef) (w : ShopWorld Q H) : Stock := fun id =>
  (((TableRef.mk .stockItem shelf).table w).visible (w.unit u).transaction id).map
    fun row => row.body.product

theorem Table.Keyed.seen {shelf : Nat} {u : UnitRef} {w : ShopWorld Q H} {id : Uuid} {p : Product}
    (hk : ((TableRef.mk .stockItem shelf).table w).Keyed) (hp : stockSeen shelf u w id = some p) :
    ∃ i : StockItem, ((TableRef.mk .stockItem shelf).table w).visible (w.unit u).transaction id =
      some (.fresh i) ∧ i.id = id ∧ i.product = p := by
  obtain ⟨row, hrow, rfl⟩ := Option.map_eq_some_iff.mp hp
  obtain ⟨hdetached, hid⟩ := hk.visible hrow
  rw [hdetached.eq_fresh] at hrow
  exact ⟨row.body, hrow, hid, rfl⟩

section Line

variable {shelf : Nat} {u : UnitRef} {w : ShopWorld Q H} {order correlation : Uuid}
  {l : PlacedLine} {i : StockItem}

/-- An item as a reservation leaves it, with its message. -/
def StockItem.promised (i : StockItem) (stamp : Stamp) (order : Uuid) (quantity : UInt32)
    (correlation : Uuid) : Tracked StockItem :=
  Tracked.raise ⟨i.withReserved quantity, .loaded, []⟩ (eventMessage stamp i.id correlation
    (.stockReserved ⟨i.id, order, quantity, (i.withReserved quantity).available⟩))

theorem StockItem.reserve_refused {stock : Stock} (order correlation : Uuid) {e : OrderingError}
    (hs : stock l.stockItemId = some i.product) (he : stock.refusal? [] l = some e) :
    ∃ d, e = .domain d ∧ ∀ stamp, StockItem.reserve stamp order l.quantity correlation
      ⟨i, .loaded, []⟩ = (.error d, ⟨i, .loaded, []⟩) := by
  simp only [Stock.refusal?, hs] at he
  split at he
  · rename_i hq
    cases he
    rw [hq]
    exact ⟨_, rfl, fun stamp => reserve_zero stamp order correlation⟩
  · rename_i hq
    split at he
    · rename_i hlt
      cases he
      exact ⟨_, rfl, fun stamp => reserve_short stamp order correlation (Nat.not_le.mpr hlt) hq⟩
    · cases he

theorem reserveLine_refused (ha : (w.unit u).status.accepts = true)
    (hk : ((TableRef.mk .stockItem shelf).table w).Keyed) {e : OrderingError}
    (he : (stockSeen shelf u w).refusal? [] l = some e) :
    ∃ v, reserveLine shelf u order correlation l w = (.error e, v) ∧
      (v = w ∨ ∃ i, v = (TableRef.mk .stockItem shelf).looked u i w) := by
  let r : TableRef := ⟨.stockItem, shelf⟩
  cases hsome : stockSeen shelf u w l.stockItemId with
  | none =>
    rw [Stock.refusal?, hsome] at he
    cases he
    exact ⟨w, Act.bind_error (TableRef.load_unseen (Option.map_eq_none_iff.mp hsome)), .inl rfl⟩
  | some p =>
    obtain ⟨i, hi, -, rfl⟩ := hk.seen hsome
    have hload : r.load u l.stockItemId w = _ := TableRef.load_seen ha hi
    obtain ⟨d, rfl, hd⟩ := StockItem.reserve_refused order correlation hsome he
    refine ⟨r.looked u i w, ?_, .inr ⟨i, rfl⟩⟩
    rw [reserveLine, Act.bind_ok hload, Act.bind_ok (WorldAct.stamp_apply _)]
    exact Act.bind_error (Act.carrying_onFirst_error (hd _) _ _)

theorem StockItem.raised_promised (i : StockItem) (stamp : Stamp) (order : Uuid)
    (quantity : UInt32) (correlation : Uuid) :
    (i.promised stamp order quantity correlation).raised = [eventMessage stamp i.id correlation
      (.stockReserved ⟨i.id, order, quantity, (i.withReserved quantity).available⟩)] :=
  Tracked.raised_raise _ rfl

theorem RowWrite.table_promised_after (i : StockItem) (stamp : Stamp) (quantity : UInt32) :
    (TableRef.mk .stockItem shelf).table (RowWrite.update.after ⟨.stockItem, shelf⟩ u
      (i.promised stamp order quantity correlation) w) =
    ((TableRef.mk .stockItem shelf).table w).stage (w.unit u).transaction i.id
      (some (.fresh (i.withReserved quantity))) := by
  let r : TableRef := ⟨.stockItem, shelf⟩
  let a : Tracked r.Entity := i.promised stamp order quantity correlation
  have hhost := RowWrite.update.host_after (r := r) (u := u) a w
  rw [TableRef.table_congr hhost, r.table_setTable_self]
  rfl

theorem reserveLine_met (ha : (w.unit u).status.accepts = true)
    (hi : ((TableRef.mk .stockItem shelf).table w).visible (w.unit u).transaction l.stockItemId =
      some (.fresh i)) (hid : i.id = l.stockItemId) (hq : l.quantity ≠ 0)
    (hle : l.quantity.toNat ≤ i.product.available) :
    ∃ stamp, reserveLine shelf u order correlation l w = (.ok (), RowWrite.update.after
      ⟨.stockItem, shelf⟩ u (i.promised stamp order l.quantity correlation)
      ((TableRef.mk .stockItem shelf).looked u i w)) := by
  let r : TableRef := ⟨.stockItem, shelf⟩
  let d := r.looked u i w
  let c := PersistenceEvent.postLoad.taken u (Tracked.fresh i) i w
  let stamp : Stamp := ⟨c.supply.current, c.clock⟩
  let b := i.promised stamp order l.quantity correlation
  have hload : r.load u l.stockItemId w = (.ok ⟨i, .loaded, []⟩, c) := TableRef.load_seen ha hi
  have hstamp : (WorldAct.stamp : ShopAct Q H OrderingError Stamp) c = (.ok stamp, d) :=
    WorldAct.stamp_apply c
  have hreserve : Act.carrying ⟨i, .loaded, []⟩ ((Act.onFirst
      (StockItem.reserve stamp order l.quantity correlation)).mapError OrderingError.domain) d =
        (.ok b, d) :=
    Act.carrying_onFirst_ok (StockItem.reserve_covered stamp order correlation hle hq) _ d
  have hunit : (d.unit u).transaction = (w.unit u).transaction ∧
      (d.unit u).status = (w.unit u).status := by
    rw [r.unit_looked_self]
    exact ⟨rfl, rfl⟩
  have hfree : RowWrite.update.conflict? r i.id
      ((r.table d).visible (d.unit u).transaction i.id) = none := by
    have hseen : (r.table d).visible (d.unit u).transaction i.id = some (.fresh i) := by
      rw [hunit.1, hid]
      exact hi
    rw [hseen]
    rfl
  have hupdate : r.update u (b, d) =
      (.ok (), RowWrite.update.done r b d, RowWrite.update.after r u b d) :=
    RowWrite.update.run_of_free (r := r) b d hfree (hunit.2 ▸ ha) rfl
      (StockItem.beforeSave_withReserved hle hq)
  have hcarry : Act.carrying b (r.update u) d =
      (.ok (RowWrite.update.done r b d), RowWrite.update.after r u b d) := by
    rw [Act.carrying_apply, hupdate]
    rfl
  refine ⟨stamp, ?_⟩
  rw [reserveLine, Act.bind_ok hload, Act.bind_ok hstamp, Act.bind_ok hreserve]
  exact Act.bind_ok hcarry

end Line

/-- The messages of lines that were reserved one after the other from a stock. Each promises units
to the order, and says how many are left after its own line. -/
inductive Promises (stock : Stock) (order correlation : Uuid) :
    List PlacedLine → List Message → Prop
  | nil : Promises stock order correlation [] []
  | snoc {ls : List PlacedLine} {ms : List Message} {l : PlacedLine} {p : Product}
      {remaining : UInt32} (written promised : Stamp) (h : Promises stock order correlation ls ms)
      (hp : stock l.stockItemId = some p)
      (hr : remaining.toNat = p.available - unitsAsked (ls ++ [l]) l.stockItemId) :
      Promises stock order correlation (ls ++ [l]) (ms ++ [
        .announce written l.stockItemId StockItem.typeName .postUpdated,
        eventMessage promised l.stockItemId correlation
          (.stockReserved ⟨l.stockItemId, order, l.quantity, remaining⟩)])

/-- From one world to another lines have been reserved on behalf of a unit, and nothing else has
changed in tables and in what units hold. -/
structure Processed (shelf : Nat) (u : UnitRef) (order correlation : Uuid) (w : ShopWorld Q H)
    (ls : List PlacedLine) (v : ShopWorld Q H) : Prop where
  owner : (v.unit u).transaction = (w.unit u).transaction
  status : (v.unit u).status = (w.unit u).status
  stock : stockSeen shelf u v = (stockSeen shelf u w).afterLines ls
  queue : ∃ ms, (v.unit u).queue = (w.unit u).queue ++ ms ∧
    Promises (stockSeen shelf u w) order correlation ls ms
  committed : ((TableRef.mk .stockItem shelf).table v).committed =
    ((TableRef.mk .stockItem shelf).table w).committed
  transactions : ∀ t, t ≠ (w.unit u).transaction →
    ((TableRef.mk .stockItem shelf).table v).staged.get? t =
      ((TableRef.mk .stockItem shelf).table w).staged.get? t
  tables : ∀ q : TableRef, q ≠ ⟨.stockItem, shelf⟩ → q.table v = q.table w
  units : ∀ q, q ≠ u → v.unit q = w.unit q

namespace Processed

variable {shelf : Nat} {u : UnitRef} {order correlation : Uuid} {w v : ShopWorld Q H}
  {ls : List PlacedLine} {l : PlacedLine} {i : StockItem}

theorem nil (shelf : Nat) (u : UnitRef) (order correlation : Uuid) (w : ShopWorld Q H) :
    Processed shelf u order correlation w [] w where
  owner := rfl
  status := rfl
  stock := (stockSeen shelf u w).afterLines_nil.symm
  queue := ⟨[], (List.append_nil _).symm, .nil⟩
  committed := rfl
  transactions _ _ := rfl
  tables _ _ := rfl
  units _ _ := rfl

theorem looked (h : Processed shelf u order correlation w ls v) (i : StockItem) :
    Processed shelf u order correlation w ls ((TableRef.mk .stockItem shelf).looked u i v) := by
  let r : TableRef := ⟨.stockItem, shelf⟩
  have hunit := r.unit_looked_self u i v
  have howner : ((r.looked u i v).unit u).transaction = (v.unit u).transaction := by
    rw [hunit]
    rfl
  refine ⟨howner.trans h.owner, ?_, ?_, ?_, h.committed, h.transactions, h.tables, ?_⟩
  · rw [hunit]
    exact h.status
  · unfold stockSeen at *
    rw [howner]
    exact h.stock
  · rw [hunit]
    obtain ⟨ms, hq, hms⟩ := h.queue
    exact ⟨ms, (List.append_nil _).trans hq, hms⟩
  · intro q hq
    rw [r.unit_looked_of_ne i v hq]
    exact h.units q hq

theorem snoc (h : Processed shelf u order correlation w ls v)
    (hi : ((TableRef.mk .stockItem shelf).table v).visible (v.unit u).transaction l.stockItemId =
      some (.fresh i)) (hid : i.id = l.stockItemId) (hq : l.quantity ≠ 0)
    (hle : l.quantity.toNat ≤ i.product.available) (stamp : Stamp) :
    Processed shelf u order correlation w (ls ++ [l]) (RowWrite.update.after
      ⟨.stockItem, shelf⟩ u (i.promised stamp order l.quantity correlation) v) := by
  let r : TableRef := ⟨.stockItem, shelf⟩
  let a : Tracked r.Entity := i.promised stamp order l.quantity correlation
  have hwritten := RowWrite.update.written_after (r := r) (u := u) a v
  have htable : r.table (RowWrite.update.after r u a v) = (r.table v).stage
      (v.unit u).transaction i.id (some (.fresh (i.withReserved l.quantity))) :=
    RowWrite.table_promised_after i stamp l.quantity
  have hunit := hwritten.unit
  have howner : ((RowWrite.update.after r u a v).unit u).transaction =
      (v.unit u).transaction := by rw [hunit]
  have hseen : stockSeen shelf u v l.stockItemId = some i.product :=
    Option.map_eq_some_iff.mpr ⟨.fresh i, hi, rfl⟩
  have hproduct := StockItem.product_withReserved hle hq
  refine ⟨howner.trans h.owner, ?_, ?_, ?_, hwritten.committed.trans h.committed, ?_, ?_, ?_⟩
  · rw [hunit]
    exact h.status
  · rw [Stock.afterLines_snoc, ← h.stock, Stock.afterLines, List.map_singleton,
      Stock.reserve_single _ hseen, PlacedLine.ordered, ← hproduct, ← hid]
    funext id
    unfold stockSeen
    rw [howner, htable, Table.visible_stage, Function.update_apply, Function.update_apply]
    split <;> rfl
  · rw [hunit]
    obtain ⟨ms, hqueue, hms⟩ := h.queue
    refine ⟨ms ++ RowWrite.update.postRecord r a v :: a.raised, ?_, ?_⟩
    · rw [← List.append_assoc, ← hqueue]
    · obtain ⟨p, hp, hpi⟩ := Stock.afterLines_eq_some (h.stock ▸ hseen)
      have hleft : (i.withReserved l.quantity).available.toNat =
          p.available - unitsAsked (ls ++ [l]) l.stockItemId := by
        rw [StockItem.toNat_available, hproduct, ← hpi, Product.available_reserve,
          Product.available_reserve, unitsAsked_snoc, Nat.sub_sub]
      have hsnoc := hms.snoc ⟨v.supply.advance.current, v.clock⟩ stamp hp hleft
      rw [← hid] at hsnoc
      rw [StockItem.raised_promised]
      exact hsnoc
  · intro t ht
    rw [← h.owner] at ht
    exact (hwritten.transactions t ht).trans (h.transactions t (h.owner ▸ ht))
  · intro q hq
    exact (hwritten.tables q hq).trans (h.tables q hq)
  · intro q hq
    exact (hwritten.units q hq).trans (h.units q hq)

theorem line_refused (h : Processed shelf u order correlation w ls v)
    (ha : (w.unit u).status.accepts = true)
    (hk : ((TableRef.mk .stockItem shelf).table v).Keyed) {e : OrderingError}
    (he : (stockSeen shelf u w).refusal? ls l = some e) :
    ∃ d, reserveLine shelf u order correlation l v = (.error e, d) ∧
      Processed shelf u order correlation w ls d := by
  rw [← Stock.refusal?_afterLines, ← h.stock] at he
  obtain ⟨d, hd, hv⟩ := reserveLine_refused (h.status ▸ ha) hk he
  refine ⟨d, hd, ?_⟩
  obtain rfl | ⟨i, rfl⟩ := hv
  · exact h
  · exact h.looked i

/-- A line that is not refused after others is reserved as well. -/
theorem line_admitted (h : Processed shelf u order correlation w ls v)
    (ha : (w.unit u).status.accepts = true)
    (hk : ((TableRef.mk .stockItem shelf).table v).Keyed)
    (hl : (stockSeen shelf u w).refusal? ls l = none) :
    ∃ d, reserveLine shelf u order correlation l v = (.ok (), d) ∧
      Processed shelf u order correlation w (ls ++ [l]) d ∧
      ((TableRef.mk .stockItem shelf).table d).Keyed := by
  let r : TableRef := ⟨.stockItem, shelf⟩
  rw [← Stock.refusal?_afterLines, ← h.stock] at hl
  obtain ⟨p, hp, hq, hle⟩ := Stock.refusal?_eq_none hl
  obtain ⟨i, hi, hid, rfl⟩ := hk.seen hp
  obtain ⟨stamp, hd⟩ : ∃ stamp, reserveLine shelf u order correlation l v = (.ok (),
      RowWrite.update.after r u (i.promised stamp order l.quantity correlation)
        (r.looked u i v)) := reserveLine_met (h.status ▸ ha) hi hid hq hle
  have hi' : (r.table (r.looked u i v)).visible ((r.looked u i v).unit u).transaction
      l.stockItemId = some (.fresh i) := by
    rw [r.unit_looked_self]
    exact hi
  refine ⟨_, hd, (h.looked i).snoc hi' hid hq hle stamp, ?_⟩
  rw [RowWrite.table_promised_after]
  apply Table.Holds.stage hk
  intro row hrow
  cases hrow
  exact ⟨Tracked.isDetached_fresh _, rfl⟩

/-- The lines that remain are reserved up to the first that is refused. -/
theorem lines (h : Processed shelf u order correlation w ls v)
    (ha : (w.unit u).status.accepts = true)
    (hk : ((TableRef.mk .stockItem shelf).table v).Keyed) (hls : (stockSeen shelf u w).Admits ls)
    (rest : List PlacedLine) :
    ∃ done result d, (stockSeen shelf u w).Progress (ls ++ rest) done result ∧
      reserveLines shelf u order correlation rest v = (result, d) ∧
      Processed shelf u order correlation w done d := by
  induction rest generalizing ls v with
  | nil =>
    rw [List.append_nil]
    exact ⟨ls, .ok (), v, .through hls, rfl, h⟩
  | cons l rest ih =>
    cases hl : (stockSeen shelf u w).refusal? ls l with
    | some e =>
      obtain ⟨d, hd, hp⟩ := h.line_refused ha hk hl
      exact ⟨ls, .error e, d, .stopped rfl hls hl, Act.bind_error hd, hp⟩
    | none =>
      obtain ⟨c, hc, hp, hk⟩ := h.line_admitted ha hk hl
      obtain ⟨done, result, d, hprogress, hd, hp⟩ := ih hp hk (hls.snoc hl)
      rw [List.append_assoc] at hprogress
      exact ⟨done, result, d, hprogress, (Act.bind_ok hc).trans hd, hp⟩

end Processed

/-- A placed order has its lines reserved one after the other, each from what those before it leave,
up to the first that is refused. The handler fails with the refusal, and succeeds if there is none;
either way what has been reserved till then stays in the unit. -/
theorem reserveStock_effect {shelf : Nat} {u : UnitRef} {w : ShopWorld Q H} {m : Message}
    {placed : OrderPlaced} (hm : placedOrder m = .ok placed)
    (ha : (w.unit u).status.accepts = true)
    (hk : ((TableRef.mk .stockItem shelf).table w).Keyed) :
    ((reserveStock shelf m u w).1 = .done () ↔ (stockSeen shelf u w).Admits placed.lines) ∧
      ∃ done result v, (stockSeen shelf u w).Progress placed.lines done result ∧
        reserveStock shelf m u w =
          (.ofExcept (result.mapError fun e => .rejected e.message), v) ∧
        Processed shelf u placed.orderId (m.metadata.correlationId.getD placed.orderId) w
          done v := by
  let event := reservingEvent (w.unit u).transaction placed.orderId placed.lines.length
  let correlation := m.metadata.correlationId.getD placed.orderId
  have hrun : reserveStock shelf m u w = Task.atOnce
      ((reserveLines shelf u placed.orderId correlation placed.lines).mapError
        fun e => .rejected e.message) (w.record event) := by
    rw [reserveStock, Task.atOnce_apply, hm]
    rfl
  have hstart : Processed shelf u placed.orderId correlation w [] (w.record event) :=
    { Processed.nil shelf u placed.orderId correlation w with }
  obtain ⟨done, result, v, hprogress, hlines, hp⟩ :=
    hstart.lines ha hk (stockSeen shelf u w).admits_nil placed.lines
  rw [List.nil_append] at hprogress
  rw [Task.atOnce_apply, Act.mapError_apply, hlines] at hrun
  refine ⟨?_, done, result, v, hprogress, hrun, hp⟩
  rw [hrun, ← hprogress.through_iff]
  cases result with
  | ok _ => exact ⟨fun _ => rfl, fun _ => rfl⟩
  | error e =>
    constructor
    · intro h
      cases h
    · intro h
      cases h

/-- An order whose lines name one item twice. -/
def repeatedLines : OrderPlaced := ⟨.ofNat 2, .ofNat 3, [⟨.ofNat 1, 4⟩, ⟨.ofNat 1, 7⟩]⟩

/-- The message that it was placed. -/
def repeatedNotice : Message :=
  eventMessage ⟨.ofNat 4, .epoch⟩ (.ofNat 2) (.ofNat 5) (.orderPlaced repeatedLines)

/-- A shop with a unit of work and empty tables, and the same shop after the unit's transaction has
inserted ten units of the item. -/
def unstockedShop : ShopWorld Empty Unit :=
  (World.first ⟨2⟩ ⟨.empty, [], ()⟩).setUnit ⟨0⟩ (.begin ⟨.ofNat 0⟩ ⟨2⟩)

def stockedShop : ShopWorld Empty Unit :=
  (RowWrite.insert.run ⟨.stockItem, 0⟩ ⟨0⟩
    (StockItem.ofUnits (.ofNat 1) "WIDGET" 10, unstockedShop)).2.2

theorem filed_stockedShop : Filed stockedShop := by
  have hrun : ReflTransGen (Business Filing
      (Host.ofShop nofun nofun (Dispatcher.inProcess (handlers 0)) 3)) unstockedShop stockedShop :=
    .single (.own (.inUnit (.insert (u := ⟨0⟩) ⟨.stockItem, 0⟩
      (StockItem.ofUnits (.ofNat 1) "WIDGET" 10) unstockedShop)))
  exact filed_run (fun q => q.elim) (fun q => q.elim) (handlers_filing 0) rfl hrun

theorem reserveStock_effect_repeated :
    placedOrder repeatedNotice = .ok repeatedLines ∧
      (stockedShop.unit ⟨0⟩).status.accepts = true ∧
      ((TableRef.mk .stockItem 0).table stockedShop).Keyed ∧
      ((reserveStock 0 repeatedNotice ⟨0⟩ stockedShop).1 = .done () ↔
        (stockSeen 0 ⟨0⟩ stockedShop).Admits repeatedLines.lines) ∧
      ∃ done result v, (stockSeen 0 ⟨0⟩ stockedShop).Progress repeatedLines.lines done result ∧
        reserveStock 0 repeatedNotice ⟨0⟩ stockedShop =
          (.ofExcept (result.mapError fun e => .rejected e.message), v) ∧
        Processed 0 ⟨0⟩ (.ofNat 2) (.ofNat 5) stockedShop done v := by
  have hm : placedOrder repeatedNotice = .ok repeatedLines := placedOrder_eventMessage _ _ _ _
  have hk := filed_stockedShop ⟨.stockItem, 0⟩
  exact ⟨hm, rfl, hk, reserveStock_effect hm rfl hk⟩

/-- Of ten units the first line takes four, and the second asks for seven. -/
example : (stockSeen 0 ⟨0⟩ stockedShop).refusal? [⟨.ofNat 1, 4⟩] ⟨.ofNat 1, 7⟩ = some (.domain
    (.validation "insufficient stock for WIDGET: requested 7, available 6")) := by rfl

end Transactor.Shop
