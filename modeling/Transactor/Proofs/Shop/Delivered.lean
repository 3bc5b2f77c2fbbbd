import Transactor.Proofs.Shop.Books
import Transactor.Proofs.Shop.EventCodec
import Transactor.Proofs.Shop.View

namespace Transactor

theorem Task.bind_unit {σ ε : Type} (x : Task σ ε Unit) : (x >>= fun _ => Pure.pure ()) = x := by
  funext s
  rw [Task.bind_apply]
  cases x s with
  | mk r t => cases r <;> rfl

namespace Shop

namespace StockItem

/-- The item as the books show it. -/
def product (i : StockItem) : Product := ⟨i.id, i.sku, i.onHand.toNat, i.reserved.toNat⟩

theorem toNat_available (i : StockItem) : i.available.toNat = i.product.available := by
  unfold available
  by_cases h : i.reserved ≤ i.onHand
  · rw [if_pos h, UInt32.toNat_sub_of_le _ _ h]
    rfl
  · rw [if_neg h]
    have hlt := UInt32.lt_iff_toNat_lt.mp (UInt32.not_le.mp h)
    exact (Nat.sub_eq_zero_of_le (Nat.le_of_lt hlt)).symm

/-- The item with units set aside. -/
def withReserved (i : StockItem) (quantity : UInt32) : StockItem :=
  { i with reserved := i.reserved + quantity }

variable {i : StockItem} {quantity : UInt32}

theorem toNat_withReserved (h : quantity.toNat ≤ i.product.available) (hq : quantity ≠ 0) :
    (i.withReserved quantity).reserved.toNat = i.reserved.toNat + quantity.toNat ∧
      i.reserved.toNat + quantity.toNat ≤ i.onHand.toNat := by
  have hpos : quantity.toNat ≠ 0 := fun h0 => hq (UInt32.toNat_inj.mp h0)
  have hle : i.reserved.toNat + quantity.toNat ≤ i.onHand.toNat := by
    have hav : i.product.available = i.onHand.toNat - i.reserved.toNat := rfl
    omega
  have hlt := i.onHand.toNat_lt
  refine ⟨?_, hle⟩
  rw [withReserved, UInt32.toNat_add, Nat.mod_eq_of_lt (by omega)]

theorem product_withReserved (h : quantity.toNat ≤ i.product.available) (hq : quantity ≠ 0) :
    (i.withReserved quantity).product = i.product.reserve quantity.toNat := by
  unfold product
  rw [(toNat_withReserved h hq).1]
  rfl

theorem beforeSave_withReserved (h : quantity.toNat ≤ i.product.available) (hq : quantity ≠ 0) :
    Aggregate.beforeSave (i.withReserved quantity) = (.ok (), i.withReserved quantity) := by
  obtain ⟨hsum, hle⟩ := toNat_withReserved h hq
  have hno : ¬(i.withReserved quantity).onHand < (i.withReserved quantity).reserved := by
    rw [UInt32.lt_iff_toNat_lt, hsum]
    exact Nat.not_lt.mpr hle
  exact if_neg hno

variable {a : Tracked StockItem} (stamp : Stamp) (order correlation : Uuid)

theorem reserve_covered (h : quantity.toNat ≤ a.body.product.available) (hq : quantity ≠ 0) :
    reserve stamp order quantity correlation a =
      (.ok (), Tracked.raise { a with body := a.body.withReserved quantity }
        (eventMessage stamp a.body.id correlation (.stockReserved
          ⟨a.body.id, order, quantity, (a.body.withReserved quantity).available⟩))) := by
  have hno : ¬a.body.available < quantity := by
    rw [UInt32.lt_iff_toNat_lt, toNat_available]
    exact Nat.not_lt.mpr h
  simp only [reserve, hq, hno, ↓reduceIte]
  rfl

theorem reserve_zero : reserve stamp order 0 correlation a =
    (.error (.validation ("cannot reserve zero units of " ++ a.body.sku)), a) := rfl

theorem reserve_short (h : ¬quantity.toNat ≤ a.body.product.available) (hq : quantity ≠ 0) :
    reserve stamp order quantity correlation a = (.error (.validation ("insufficient stock for "
      ++ a.body.sku ++ ": requested " ++ toString quantity.toNat ++ ", available "
      ++ toString a.body.product.available)), a) := by
  have hlt : a.body.available < quantity := by
    rw [UInt32.lt_iff_toNat_lt, toNat_available]
    exact Nat.not_le.mp h
  simp only [reserve, hq, hlt, ↓reduceIte, toNat_available]

end StockItem

/-- Every row is kept under its own identifier, and its hook agrees to it. -/
def Kept (rows : Rows) : Prop := ∀ k id row, rows k id = some row →
  Aggregate.aggregateId row = id ∧ Aggregate.beforeSave row = (.ok (), row)

theorem Kept.put {rows : Rows} (h : Kept rows) {k : Kind} (row : k.Entity) {id : Uuid}
    (hid : Aggregate.aggregateId row = id) (hh : Aggregate.beforeSave row = (.ok (), row)) :
    Kept (rows.put k id (some row)) := by
  intro j other entry hentry
  by_cases hj : j = k
  · subst hj
    rw [Rows.put_self] at hentry
    by_cases ho : other = id
    · rw [ho, Function.update_self, Option.some.injEq] at hentry
      subst hentry
      exact ⟨hid.trans ho.symm, hh⟩
    · rw [Function.update_of_ne ho] at hentry
      exact h j other entry hentry
  · rw [rows.put_of_ne _ _ hj] at hentry
    exact h j other entry hentry

/-- The stock that rows come to. -/
def Rows.stock (rows : Rows) : Stock := fun id => (rows .stockItem id).map StockItem.product

theorem Rows.stock_put (rows : Rows) (id : Uuid) (i : StockItem) :
    (rows.put .stockItem id (some i)).stock = Function.update rows.stock id (some i.product) := by
  funext j
  rw [stock, put_self, Function.update_apply, Function.update_apply]
  split <;> rfl

theorem Rows.stock_put_order (rows : Rows) (id : Uuid) (o : Option Order) :
    (rows.put .order id o).stock = rows.stock := by
  funext j
  have hne : Kind.stockItem ≠ .order := by decide
  rw [stock, rows.put_of_ne id o hne]
  rfl

theorem Stock.reserve_single (stock : Stock) {l : OrderLine} {p : Product}
    (hp : stock l.stockItemId = some p) :
    stock.reserve [l] =
      Function.update stock l.stockItemId (some (p.reserve l.quantity.toNat)) := by
  funext id
  rw [Function.update_apply]
  by_cases hid : id = l.stockItemId
  · subst hid
    rw [if_pos rfl, Stock.reserve, hp, demand, if_pos rfl]
    rfl
  · rw [if_neg hid, Stock.reserve, demand, if_neg fun he => hid he.symm]
    change (stock id).map (Product.reserve 0) = _
    cases stock id <;> rfl

/-- From one view to another lines have been reserved, and nothing else has been done. -/
structure Reserved (x y : View) (ls : List OrderLine) : Prop where
  settings : y.settings = x.settings
  status : y.status = x.status
  journal : y.journal = x.journal
  kept : Kept y.rows
  orders : y.rows .order = x.rows .order
  stock : y.rows.stock = x.rows.stock.reserve ls
  queue : ∃ ms : List Message, y.queue = x.queue ++ ms ∧ ms.map Message.type = reservedTypes ls

namespace Reserved

variable {x y z : View} {l : OrderLine} {ls : List OrderLine}

theorem nil (h : Kept x.rows) : Reserved x x [] :=
  ⟨rfl, rfl, rfl, h, rfl, x.rows.stock.reserve_nil.symm, [], (List.append_nil _).symm, rfl⟩

theorem cons (h : Reserved x y [l]) (g : Reserved y z ls) : Reserved x z (l :: ls) := by
  obtain ⟨ms, hq, hms⟩ := h.queue
  obtain ⟨ns, hr, hns⟩ := g.queue
  refine ⟨g.settings.trans h.settings, g.status.trans h.status, g.journal.trans h.journal, g.kept,
    g.orders.trans h.orders, ?_, ms ++ ns, ?_, ?_⟩
  · rw [g.stock, h.stock, Stock.reserve_cons _ l ls]
  · rw [hr, hq, List.append_assoc]
  · rw [List.map_append, hms, hns]
    rfl

end Reserved

variable {Q H : Type}

namespace Sees

variable {shelf : Nat} {t : TransactionId} {u : UnitRef} {x : View} {w v : ShopWorld Q H}
  {l : OrderLine}

/-- An item with enough units is reserved: the unit takes the announcement of the write and a
message that promises the units, and the host stages the row. -/
theorem reserveLine_enough (h : Sees shelf t u x w) (ha : x.status.accepts = true) {i : StockItem}
    {id : Uuid} {n : UInt32} (hi : x.rows .stockItem id = some i) (hid : i.id = id) (hq : n ≠ 0)
    (hle : n.toNat ≤ i.product.available) (order correlation : Uuid) :
    ∃ stamp remaining m v, reserveLine shelf u order correlation ⟨id, n⟩ w = (.ok (), v) ∧
      m.type = "aggregate.post_updated" ∧
      Sees shelf t u { x with
        rows := x.rows.put .stockItem id (some (i.withReserved n))
        queue := x.queue ++ [m, eventMessage stamp id correlation
          (.stockReserved ⟨id, order, n, remaining⟩)] } v ∧
      v.host = (TableRef.setTable ⟨.stockItem, shelf⟩ w
        (((TableRef.mk .stockItem shelf).table w).stage t id
          (some (.fresh (i.withReserved n))))).host := by
  let r : TableRef := ⟨.stockItem, shelf⟩
  obtain ⟨a, c, hload, rfl, hstate, hraised, hs⟩ := h.load_known ha hi
  obtain ⟨stamp, d, hstamp, hs⟩ := hs.stamp (ε := OrderingError)
  have hm := StockItem.reserve_covered stamp order correlation hle hq
  have hreserve := Act.carrying_onFirst_ok hm OrderingError.domain d
  subst hid
  have hi' : x.rows .stockItem a.body.id = some a.body := hi
  have hd : (eventMessage stamp a.body.id correlation
      (.stockReserved ⟨a.body.id, order, n, (a.body.withReserved n).available⟩)).isDomain = true :=
    rfl
  obtain ⟨m, b, v, hupdate, -, hn, hv⟩ := hs.update_changed (k := .stockItem) ha hi' hstate hraised
    (a.body.withReserved n) rfl (StockItem.beforeSave_withReserved hle hq) hd
  refine ⟨stamp, _, m, v, ?_, hn, hv, ?_⟩
  · rw [reserveLine, Act.bind_ok hload, Act.bind_ok hstamp, Act.bind_ok hreserve]
    exact Act.bind_ok hupdate
  · have hdh : d.host = w.host := by
      cases hstamp
      exact (r.load_unheard hload).host
    have hu := Act.carrying_eq_ok hupdate
    have hhost := (r.update_end u d _).host (congrArg Prod.fst hu)
    rw [hu] at hhost
    rw [hhost, hs.owner, TableRef.table_congr hdh, r.host_setTable hdh]
    rfl

theorem reserveLine_refused (h : Sees shelf t u x w) (ha : x.status.accepts = true) {id : Uuid}
    {n : UInt32} (hc : ¬∃ i, x.rows .stockItem id = some i ∧ n ≠ 0 ∧
      n.toNat ≤ i.product.available) (order correlation : Uuid) :
    ∃ e v, reserveLine shelf u order correlation ⟨id, n⟩ w = (.error e, v) ∧ Sees shelf t u x v ∧
      v.host = w.host := by
  cases hi : x.rows .stockItem id with
  | none => exact ⟨_, w, Act.bind_error (h.load_unknown hi), h, rfl⟩
  | some i =>
    obtain ⟨a, c, hload, rfl, -, -, hs⟩ := h.load_known ha hi
    have hhost : c.host = w.host := (TableRef.load_unheard _ hload).host
    have hs' : Sees shelf t u x { c with supply := c.supply.advance } :=
      hs.sameRecords ⟨rfl, rfl, rfl, rfl⟩ rfl rfl
    let stamp : Stamp := ⟨c.supply.current, c.clock⟩
    obtain ⟨text, hr⟩ : ∃ text, StockItem.reserve stamp order n correlation a =
        (.error (.validation text), a) := by
      by_cases hq : n = 0
      · rw [hq]
        exact ⟨_, StockItem.reserve_zero _ order correlation⟩
      · exact ⟨_, StockItem.reserve_short _ order correlation (fun hle => hc ⟨_, hi, hq, hle⟩) hq⟩
    have hreserve := Act.carrying_onFirst_error hr OrderingError.domain
      { c with supply := c.supply.advance }
    refine ⟨.domain (.validation text), _, ?_, hs', hhost⟩
    rw [reserveLine, Act.bind_ok hload, Act.bind_ok (WorldAct.stamp_apply c)]
    exact Act.bind_error hreserve

theorem reserveLine_covered (h : Sees shelf t u x w) (ha : x.status.accepts = true)
    (hk : Kept x.rows) (hq : l.quantity ≠ 0)
    (hc : ∃ p ∈ x.rows.stock l.stockItemId, l.quantity.toNat ≤ p.available)
    (order correlation : Uuid) :
    ∃ y v, reserveLine shelf u order correlation ⟨l.stockItemId, l.quantity⟩ w = (.ok (), v) ∧
      Sees shelf t u y v ∧ Reserved x y [l] := by
  obtain ⟨p, hp, hle⟩ := hc
  obtain ⟨i, hi, rfl⟩ := Option.map_eq_some_iff.mp hp
  have hid : i.id = l.stockItemId := (hk .stockItem _ _ hi).1
  obtain ⟨_, _, m, v, hv, hm, hs, -⟩ := h.reserveLine_enough ha hi hid hq hle order correlation
  refine ⟨_, v, hv, hs, rfl, rfl, rfl, ?_, ?_, ?_, _, rfl, ?_⟩
  · exact hk.put (k := .stockItem) _ hid (StockItem.beforeSave_withReserved hle hq)
  · rfl
  · rw [Stock.reserve_single _ hp, ← StockItem.product_withReserved hle hq]
    exact x.rows.stock_put l.stockItemId (i.withReserved l.quantity)
  · rw [List.map_cons, hm]
    rfl

/-- A line is refused if there is no such item or not enough of it. -/
theorem reserveLine_uncovered (h : Sees shelf t u x w) (ha : x.status.accepts = true)
    (hc : ¬∃ p ∈ x.rows.stock l.stockItemId, l.quantity.toNat ≤ p.available)
    (order correlation : Uuid) :
    ∃ e v, reserveLine shelf u order correlation ⟨l.stockItemId, l.quantity⟩ w = (.error e, v) ∧
      Sees shelf t u x v := by
  have hno : ¬∃ i, x.rows .stockItem l.stockItemId = some i ∧ l.quantity ≠ 0 ∧
      l.quantity.toNat ≤ (StockItem.product i).available := by
    rintro ⟨i, hi, -, hle⟩
    exact hc ⟨i.product, Option.map_eq_some_iff.mpr ⟨i, hi, rfl⟩, hle⟩
  obtain ⟨e, v, hv, hs, -⟩ := h.reserveLine_refused ha hno order correlation
  exact ⟨e, v, hv, hs⟩

theorem reserveLines_covered {ls : List OrderLine} (h : Sees shelf t u x w)
    (ha : x.status.accepts = true) (hk : Kept x.rows) (hq : ∀ l ∈ ls, l.quantity ≠ 0)
    (hc : x.rows.stock.Covers ls) (order correlation : Uuid) :
    ∃ y v, reserveLines shelf u order correlation (ls.map fun l => ⟨l.stockItemId, l.quantity⟩) w =
      (.ok (), v) ∧ Sees shelf t u y v ∧ Reserved x y ls := by
  induction ls generalizing x w with
  | nil => exact ⟨x, w, rfl, h, .nil hk⟩
  | cons l ls ih =>
    rw [List.forall_mem_cons] at hq
    rw [Stock.covers_cons] at hc
    obtain ⟨y, v, hv, hs, hr⟩ := h.reserveLine_covered ha hk hq.1 hc.1 order correlation
    have hrest := hc.2
    rw [← hr.stock] at hrest
    obtain ⟨z, d, hd, hs, hr'⟩ := ih hs (hr.status ▸ ha) hr.kept hq.2 hrest
    exact ⟨z, d, (Act.bind_ok hv).trans hd, hs, hr.cons hr'⟩

theorem reserveLines_uncovered {ls : List OrderLine} (h : Sees shelf t u x w)
    (ha : x.status.accepts = true) (hk : Kept x.rows) (hq : ∀ l ∈ ls, l.quantity ≠ 0)
    (hc : ¬x.rows.stock.Covers ls) (order correlation : Uuid) :
    ∃ e y v, reserveLines shelf u order correlation
        (ls.map fun l => ⟨l.stockItemId, l.quantity⟩) w = (.error e, v) ∧
      Sees shelf t u y v ∧ y.settings = x.settings ∧ y.journal = x.journal := by
  induction ls generalizing x w with
  | nil => exact absurd x.rows.stock.covers_nil hc
  | cons l ls ih =>
    rw [List.forall_mem_cons] at hq
    rw [Stock.covers_cons] at hc
    by_cases hone : ∃ p ∈ x.rows.stock l.stockItemId, l.quantity.toNat ≤ p.available
    · obtain ⟨y, v, hv, hs, hr⟩ := h.reserveLine_covered ha hk hq.1 hone order correlation
      have hrest : ¬y.rows.stock.Covers ls := by
        rw [hr.stock]
        exact fun hcov => hc ⟨hone, hcov⟩
      obtain ⟨e, z, d, hd, hs, hset, hj⟩ := ih hs (hr.status ▸ ha) hr.kept hq.2 hrest
      exact ⟨e, z, d, (Act.bind_ok hv).trans hd, hs, hset.trans hr.settings, hj.trans hr.journal⟩
    · obtain ⟨e, v, hv, hs⟩ := h.reserveLine_uncovered ha hone order correlation
      exact ⟨e, x, v, Act.bind_error hv, hs, rfl, rfl⟩

end Sees

/-- The handlers of the shop: the journal comes first, and stock is reserved for placed orders. -/
def handlers (shelf : Nat) : List (Subscription (Handler (Party Q) (Premises H))) :=
  [⟨anyType, keepJournal⟩, ⟨orderPlacedType, reserveStock shelf⟩]

theorem handlers_placed (shelf : Nat) {m : Message} (h : m.type = orderPlacedType) :
    (handlers shelf : List (Subscription (Handler (Party Q) (Premises H)))).filter
      (fun s => s.takes m) = handlers shelf := by
  simp [handlers, Subscription.takes, takesType, h]

theorem handlers_other (shelf : Nat) {m : Message} (h : m.type ≠ orderPlacedType) :
    (handlers shelf : List (Subscription (Handler (Party Q) (Premises H)))).filter
      (fun s => s.takes m) = [⟨anyType, keepJournal⟩] := by
  have hany : (orderPlacedType == anyType) = false := by decide
  have hne : (orderPlacedType == m.type) = false := beq_false_of_ne fun he => h he.symm
  simp [handlers, Subscription.takes, takesType, hany, hne]

theorem inProcess_other (shelf : Nat) {m : Message} (h : m.type ≠ orderPlacedType) {u : UnitRef}
    {w v : ShopWorld Q H} (hv : keepJournal m u w = (.done (), v)) (ms : List Message) :
    Dispatcher.inProcess (handlers shelf) (m :: ms) u w =
      Dispatcher.inProcess (handlers shelf) ms u v := by
  rw [Dispatcher.inProcess, handlers_other shelf h]
  apply Task.bind_done
  rw [Dispatcher.handAround, Task.bind_done hv]
  rfl

namespace Sees

variable {shelf : Nat} {t : TransactionId} {u : UnitRef} {x : View} {w v : ShopWorld Q H}

theorem keepJournal (h : Sees shelf t u x w) (m : Message) :
    ∃ v, Shop.keepJournal m u w = (.done (), v) ∧
      Sees shelf t u { x with journal := x.journal ++ [m.type] } v := by
  have hs := (h.sameRecords (v := w.record (deliveredEvent (w.unit u).transaction m))
    ⟨rfl, rfl, rfl, rfl⟩ rfl rfl).setJournal (x.journal ++ [m.type])
  rw [← h.journal] at hs ⊢
  exact ⟨_, rfl, hs⟩

theorem deliver_other (h : Sees shelf t u x w) {m : Message} (hm : m.type ≠ orderPlacedType)
    (ms : List Message) :
    ∃ v, Dispatcher.inProcess (handlers shelf) (m :: ms) u w =
        Dispatcher.inProcess (handlers shelf) ms u v ∧
      Sees shelf t u { x with journal := x.journal ++ [m.type] } v := by
  obtain ⟨v, hv, hs⟩ := h.keepJournal m
  exact ⟨v, inProcess_other shelf hm hv ms, hs⟩

theorem deliver_others (h : Sees shelf t u x w) {ms : List Message}
    (hms : ∀ m ∈ ms, m.type ≠ orderPlacedType) :
    ∃ v, Dispatcher.inProcess (handlers shelf) ms u w = (.done (), v) ∧
      Sees shelf t u { x with journal := x.journal ++ ms.map Message.type } v := by
  induction ms generalizing x w with
  | nil =>
    refine ⟨w, rfl, ?_⟩
    rw [List.map_nil, List.append_nil]
    exact h
  | cons m ms ih =>
    rw [List.forall_mem_cons] at hms
    obtain ⟨c, hc, hs⟩ := h.deliver_other hms.1 ms
    obtain ⟨v, hv, hs⟩ := ih hs hms.2
    rw [List.append_assoc] at hs
    exact ⟨v, hc.trans hv, hs⟩

/-- A placed order is noted, and then its lines are reserved. -/
theorem deliver_placed (h : Sees shelf t u x w) {m : Message} (hm : m.type = orderPlacedType)
    {e : OrderPlaced} (he : placedOrder m = .ok e) :
    ∃ (correlation : Uuid) (v : ShopWorld Q H),
      Sees shelf t u { x with journal := x.journal ++ [m.type] } v ∧
      Dispatcher.inProcess (handlers shelf) [m] u w = Task.atOnce
        ((reserveLines shelf u e.orderId correlation e.lines).mapError
          fun e => .rejected e.message) v := by
  obtain ⟨c, hc, hs⟩ := h.keepJournal m
  let event := reservingEvent (c.unit u).transaction e.orderId e.lines.length
  have hreserve : reserveStock shelf m u c = Task.atOnce
      ((reserveLines shelf u e.orderId (m.metadata.correlationId.getD e.orderId) e.lines).mapError
        fun e => .rejected e.message) (c.record event) := by
    rw [reserveStock, Task.atOnce_apply, he]
    rfl
  refine ⟨m.metadata.correlationId.getD e.orderId, c.record event, ?_, ?_⟩
  · exact hs.sameRecords ⟨rfl, rfl, rfl, rfl⟩ rfl rfl
  · rw [Dispatcher.inProcess, handlers_placed shelf hm, Dispatcher.inProcess, Task.bind_unit,
      handlers, Dispatcher.handAround, Task.bind_done hc, Dispatcher.handAround,
      Dispatcher.handAround, Task.bind_unit]
    exact hreserve

end Sees

end Shop

end Transactor
