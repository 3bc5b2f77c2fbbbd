import Transactor.Proofs.Shop.Delivered
import Transactor.Proofs.Shop.RowInvariant

namespace Transactor

theorem Act.carrying_onFirst {σ τ ε ε' : Type} {x : Act τ ε Unit} {a b : τ} {f : ε → ε'} {s t : σ}
    (h : Act.carrying a ((Act.onFirst x).mapError f) s = (.ok b, t)) : b = (x a).2 ∧ s = t := by
  rw [carrying_apply, mapError_apply, onFirst_apply] at h
  cases hx : x a with
  | mk r c =>
    rw [hx] at h
    cases r with
    | ok _ =>
      cases h
      exact ⟨rfl, rfl⟩
    | error e => cases h

section Body

variable {A P S : Type} [Aggregate A]

theorem Tracked.move_body {target : Lifecycle} {a : Tracked A}
    (hh : (Tracked.hook target a.body).2 = a.body) (stamp : Stamp) :
    (Tracked.move target stamp a).2.body = a.body := by
  cases hm : a.state.canMove target with
  | false => rw [Tracked.move_violation hm]
  | true =>
    cases hk : Tracked.hook target a.body with
    | mk answer b =>
      rw [hk] at hh
      obtain rfl : b = a.body := hh
      cases answer with
      | ok _ => rw [Tracked.move_ok hm hk]; rfl
      | error e => rw [Tracked.move_rejected hm hk]

theorem PersistenceEvent.report_body (hh : ∀ target (e : A), (Tracked.hook target e).2 = e)
    (event : PersistenceEvent) (u : UnitRef) (e : A) :
    (event.report u : Act (Tracked A × World P S) UnitOfWorkError Unit).Keeps
      fun s => s.1.body = e := by
  have hsecond {α : Type} (x : World P S → Except UnitOfWorkError α × World P S) :
      (Act.onSecond x : Act (Tracked A × World P S) UnitOfWorkError α).Keeps
        fun s => s.1.body = e := fun _ hs => hs
  apply (hsecond _).bind
  intro x
  split
  · apply (hsecond _).bind
    intro stamp
    apply Act.Keeps.bind
    · exact fun s hs => (Tracked.move_body (hh _ _) stamp).trans hs
    intro step
    apply (hsecond _).bind
    intro _
    apply (hsecond _).bind
    intro _
    split
    · apply Act.Keeps.bind
      · exact fun s hs => hs
      · exact fun raised => hsecond _
    · exact Act.Keeps.pure ()
  · exact Act.Keeps.fail _

end Body

namespace Shop

variable {Q H : Type} {u : UnitRef} {w v : ShopWorld Q H}

namespace TableRef

variable (r : TableRef)

theorem writing_body (row : r.Row → Option r.Row) (u : UnitRef) (id : Uuid)
    (pre post : PersistenceEvent) (e : r.Entity) :
    (r.writing row u id pre post : Act (Tracked r.Entity × ShopWorld Q H) OrderingError Unit).Keeps
      fun s => s.1.body = e := by
  have hreport (event : PersistenceEvent) :
      (r.report event u : Act (Tracked r.Entity × ShopWorld Q H) OrderingError Unit).Keeps
        fun s => s.1.body = e :=
    Act.Keeps.mapError _ (PersistenceEvent.report_body hook_body event u e)
  apply (hreport pre).bind
  intro _
  apply Act.Keeps.bind
  · exact Act.Keeps.gets _
  intro _
  apply Act.Keeps.bind
  · exact fun s hs => hs
  · exact fun _ => hreport post

theorem insert_body (a : Tracked r.Entity) (w : ShopWorld Q H) :
    (r.insert u (a, w)).2.1.body = a.body := by
  rw [insert_apply]
  split
  · rfl
  · exact r.writing_body some u _ _ _ a.body (a, w) rfl

theorem update_body (a : Tracked r.Entity) (w : ShopWorld Q H) :
    (r.update u (a, w)).2.1.body = a.body := by
  rw [update_apply]
  split
  · rfl
  · exact r.writing_body some u _ _ _ a.body (a, w) rfl

theorem remove_body (a : Tracked r.Entity) (w : ShopWorld Q H) :
    (r.remove u (a, w)).2.1.body = a.body := by
  rw [remove_apply]
  split
  · rfl
  · exact r.writing_body (fun _ => none) u _ _ _ a.body (a, w) rfl

variable {r} {a : Tracked r.Entity}

theorem hook_of_writing {row : r.Row → Option r.Row} {id : Uuid} {pre post : PersistenceEvent}
    (h : (r.writing row u id pre post (a, w)).1 = .ok ()) :
    (Tracked.hook pre.target a.body).1 = .ok () := by
  cases hr : r.report pre u (a, w) with
  | mk result s =>
    cases result with
    | ok _ => exact hook_of_report hr
    | error e =>
      rw [writing, Act.bind_error hr] at h
      cases h

end TableRef

namespace Kind

/-- An aggregate as its own operations leave it. -/
def Valid : (k : Kind) → k.Entity → Prop
  | .order, o => ∀ l ∈ o.lines, 0 < l.quantity
  | .stockItem, i => i.reserved ≤ i.onHand

/-- An aggregate as it may be kept in a table. -/
def Storable : (k : Kind) → k.Entity → Prop
  | .order, o => o.lines ≠ [] ∧ ∀ l ∈ o.lines, 0 < l.quantity
  | .stockItem, i => i.reserved ≤ i.onHand

/-- A row as a table may keep it: nothing is recorded of its lifecycle. -/
structure Stored (k : Kind) (row : Tracked k.Entity) : Prop where
  detached : row.IsDetached
  storable : k.Storable row.body

variable {k : Kind} {e : k.Entity}

theorem Storable.valid (h : k.Storable e) : k.Valid e := by
  cases k with
  | order => exact h.2
  | stockItem => exact h

theorem Valid.storable (h : k.Valid e) (hs : (Aggregate.beforeSave e).1 = .ok ()) :
    k.Storable e := by
  cases k with
  | order =>
    refine ⟨fun hl => ?_, h⟩
    have hs : (if e.lines.isEmpty then _ else _ : Except DomainError Unit × Order).1 = .ok () := hs
    rw [hl] at hs
    cases hs
  | stockItem => exact h

end Kind

namespace StockItem

variable {i : Tracked StockItem} {stamp : Stamp} {order correlation : Uuid} {quantity : UInt32}

theorem available_add (h : Kind.stockItem.Valid i.body) :
    i.body.available.toNat + i.body.reserved.toNat = i.body.onHand.toNat := by
  have hle : i.body.reserved.toNat ≤ i.body.onHand.toNat := h
  have hav : i.body.product.available = i.body.onHand.toNat - i.body.reserved.toNat := rfl
  rw [toNat_available, hav]
  omega

theorem beforeSave_valid (h : Kind.stockItem.Valid i.body) :
    Aggregate.beforeSave i.body = (.ok (), i.body) := if_neg (UInt32.not_lt.mpr h)

/-- A reservation either adds to what is reserved, which does not overflow, or changes nothing. -/
theorem reserve_cases (i : Tracked StockItem) (stamp : Stamp) (order : Uuid) (quantity : UInt32)
    (correlation : Uuid) :
    (∃ text, reserve stamp order quantity correlation i = (.error (.validation text), i)) ∨
      ∃ j, reserve stamp order quantity correlation i = (.ok (), j) ∧
        j.body.onHand = i.body.onHand ∧
        j.body.reserved.toNat = i.body.reserved.toNat + quantity.toNat ∧
        j.body.reserved ≤ j.body.onHand := by
  by_cases hq : quantity = 0
  · rw [hq]
    exact .inl ⟨_, reserve_zero stamp order correlation⟩
  by_cases hle : quantity.toNat ≤ i.body.product.available
  · have hr := reserve_covered stamp order correlation hle hq
    obtain ⟨hsum, hheld⟩ := toNat_withReserved hle hq
    exact .inr ⟨_, hr, rfl, hsum, Nat.le_trans (Nat.le_of_eq hsum) hheld⟩
  · exact .inl ⟨_, reserve_short stamp order correlation hle hq⟩

theorem reserve_valid (h : Kind.stockItem.Valid i.body) :
    Kind.stockItem.Valid (reserve stamp order quantity correlation i).2.body := by
  obtain ⟨text, hr⟩ | ⟨j, hr, -, -, hle⟩ := reserve_cases i stamp order quantity correlation
  · rw [hr]
    exact h
  · rw [hr]
    exact hle

end StockItem

namespace Order

variable {stamp : Stamp} {id customer correlation : Uuid} {lines : List OrderLine}

theorem valid_of_place {o : Tracked Order} (h : place stamp id customer lines correlation = .ok o) :
    Kind.order.Valid o.body := by
  unfold place at h
  split at h
  · cases h
  · rename_i hnone
    cases h
    intro l hl
    have hzero := List.find?_eq_none.mp hnone l hl
    simp only [decide_eq_true_eq] at hzero
    exact UInt32.pos_iff_ne_zero.mpr hzero

theorem cancel_valid {o : Tracked Order} {reason : String} (h : Kind.order.Valid o.body) :
    Kind.order.Valid (cancel stamp reason correlation o).2.body := by
  unfold cancel
  split <;> exact h

end Order

/-- Every row of every table may be kept there. -/
abbrev Stocked (w : ShopWorld Q H) : Prop := AllRows (fun r _ row => r.kind.Stored row) w

namespace Stocked

section Use

variable {r : TableRef} {a : Tracked r.Entity}

theorem insert (h : Stocked w) (u : UnitRef) (ha : r.kind.Valid a.body) :
    Stocked (r.insert u (a, w)).2.2 := by
  apply AllRows.writeEnd h (r.insert_end u w a)
  intro hok row hrow
  cases hrow
  refine ⟨Tracked.isDetached_fresh _, ?_⟩
  rw [TableRef.insert_apply] at hok
  split at hok
  · cases hok
  · exact ha.storable (TableRef.hook_of_writing hok)

theorem update (h : Stocked w) (u : UnitRef) (ha : r.kind.Valid a.body) :
    Stocked (r.update u (a, w)).2.2 := by
  apply AllRows.writeEnd h (r.update_end u w a)
  intro hok row hrow
  cases hrow
  refine ⟨Tracked.isDetached_fresh _, ?_⟩
  rw [TableRef.update_apply] at hok
  split at hok
  · cases hok
  · exact ha.storable (TableRef.hook_of_writing hok)

theorem remove (h : Stocked w) (u : UnitRef) (a : Tracked r.Entity) :
    Stocked (r.remove u (a, w)).2.2 :=
  AllRows.writeEnd h (r.remove_end u w a) fun _ row hrow => by cases hrow

theorem load (h : Stocked w) (r : TableRef) (u : UnitRef) (id : Uuid) : Stocked (r.load u id w).2 :=
  (AllRows.stable _ u).load r id w h

theorem loaded (h : Stocked w) {id : Uuid} (hl : r.load u id w = (.ok a, v)) :
    r.kind.Storable a.body := by
  obtain ⟨row, hrow, rfl⟩ := TableRef.seen_of_load hl
  exact ((h r).visible hrow).storable

end Use

end Stocked

/-- Every row may be kept, and what the host keeps beside its tables and its journal is given. -/
structure Stocks (a : H) (w : ShopWorld Q H) : Prop where
  rows : Stocked w
  host : w.host.host = a

namespace Stocks

variable {a : H}

theorem congr (h : Stocks a w) (hv : v.host = w.host) : Stocks a v :=
  ⟨h.rows.congr (congrArg Premises.tables hv), by rw [hv]; exact h.host⟩

section Use

variable {r : TableRef} {b : Tracked r.Entity}

theorem insert (h : Stocks a w) (u : UnitRef) (hb : r.kind.Valid b.body) :
    Stocks a (r.insert u (b, w)).2.2 :=
  ⟨h.rows.insert u hb, (upheld_host u a).insert r (b, w) h.host⟩

theorem update (h : Stocks a w) (u : UnitRef) (hb : r.kind.Valid b.body) :
    Stocks a (r.update u (b, w)).2.2 :=
  ⟨h.rows.update u hb, (upheld_host u a).update r (b, w) h.host⟩

theorem remove (h : Stocks a w) (u : UnitRef) (b : Tracked r.Entity) :
    Stocks a (r.remove u (b, w)).2.2 :=
  ⟨h.rows.remove u b, (upheld_host u a).remove r (b, w) h.host⟩

theorem load (h : Stocks a w) (r : TableRef) (u : UnitRef) (id : Uuid) :
    Stocks a (r.load u id w).2 :=
  ⟨h.rows.load r u id, (upheld_host u a).load r id w h.host⟩

end Use

theorem settle (r : TableRef) (t : TransactionId) (o : Outcome) :
    (r.settle t o : ShopAct Q H Empty Unit).Keeps (Stocks a) := by
  apply Act.Keeps.bind
  · exact Act.Keeps.get
  intro w
  split
  · exact Act.Keeps.pure ()
  · apply Act.Keeps.bind
    · exact fun v hv => hv.congr rfl
    · exact fun _ v hv => ⟨hv.rows.setTable ((hv.rows r).settle t o), hv.host⟩

theorem revise {α : Type} (r : TableRef) (u : UnitRef) (id : Uuid)
    {f : Stamp → Act (Tracked r.Entity) DomainError Unit}
    (hf : ∀ stamp b, r.kind.Valid b.body → r.kind.Valid (f stamp b).2.body)
    {k : Tracked r.Entity → ShopAct Q H OrderingError α} (hk : ∀ b, (k b).Keeps (Stocks a)) :
    (do
      let b ← r.load u id
      let stamp ← WorldAct.stamp
      let b ← Act.carrying b ((Act.onFirst (f stamp)).mapError .domain)
      let b ← Act.carrying b (r.update u)
      k b : ShopAct Q H OrderingError α).Keeps (Stocks a) := by
  apply Act.Keeps.bind_of_ok
  · exact fun w hw => hw.load r u id
  intro w b v hw hl
  have hb := (hw.rows.loaded hl).valid
  have hv := hw.load r u id
  rw [hl] at hv
  apply Act.Keeps.bind (I := Stocks a) _ _ v hv
  · exact fun w hw => hw.congr rfl
  intro stamp
  apply Act.Keeps.bind_of_ok
  · exact fun w hw => hw
  intro w c v hw hc
  obtain ⟨rfl, rfl⟩ := Act.carrying_onFirst hc
  have hupdate : (Act.carrying (f stamp b).2 (r.update u) :
      ShopAct Q H OrderingError (Tracked r.Entity)).Keeps (Stocks a) :=
    fun w hw => hw.update u (hf stamp b hb)
  exact hupdate.bind hk w hw

theorem place (c : PlaceOrder) (u : UnitRef) (shelf : Nat) :
    (c.handle u shelf : ShopAct Q H OrderingError Uuid).Keeps (Stocks a) := by
  apply Act.Keeps.bind
  · exact fun w hw => hw.congr rfl
  intro _
  apply Act.Keeps.bind
  · exact fun w hw => hw.congr rfl
  intro stamp
  apply Act.Keeps.bind_of_ok
  · exact fun w hw => hw
  intro w o v hw ho
  have hplaced : Order.place stamp c.orderId c.customerId c.lines c.correlationId = .ok o := by
    cases hp : Order.place stamp c.orderId c.customerId c.lines c.correlationId with
    | error e =>
      rw [hp] at ho
      cases ho
    | ok a =>
      rw [hp] at ho
      cases ho
      rfl
  have hinsert : (Act.carrying o (TableRef.insert ⟨.order, shelf⟩ u) :
      ShopAct Q H OrderingError (Tracked Order)).Keeps (Stocks a) :=
    fun w hw => hw.insert (r := ⟨.order, shelf⟩) u (Order.valid_of_place hplaced)
  obtain rfl : w = v := (Prod.mk.inj ho).2
  exact hinsert.bind (fun _ => Act.Keeps.pure _) w hw

theorem cancel (c : CancelOrder) (u : UnitRef) (shelf : Nat) :
    (c.handle u shelf : ShopAct Q H OrderingError Uuid).Keeps (Stocks a) := by
  apply Act.Keeps.bind
  · exact fun w hw => hw.congr rfl
  intro _
  exact revise ⟨.order, shelf⟩ u c.orderId (fun _ _ => Order.cancel_valid) fun _ => Act.Keeps.pure _

theorem reserveLines (shelf : Nat) (u : UnitRef) (order correlation : Uuid)
    (lines : List PlacedLine) :
    (Shop.reserveLines shelf u order correlation lines :
      ShopAct Q H OrderingError Unit).Keeps (Stocks a) := by
  induction lines with
  | nil => exact Act.Keeps.pure ()
  | cons l ls ih =>
    apply Act.Keeps.bind
    · exact revise ⟨.stockItem, shelf⟩ u l.stockItemId (fun _ _ => StockItem.reserve_valid)
        fun _ => Act.Keeps.pure ()
    · exact fun _ => ih

theorem reserveStock (shelf : Nat) (m : Message) (u : UnitRef) :
    (Shop.reserveStock shelf m u : ShopTask Q H DeliveryError Unit).Keeps (Stocks a) := by
  apply Task.Keeps.atOnce
  apply Act.Keeps.bind
  · exact fun w hw => hw
  intro placed
  apply Act.Keeps.bind
  · exact fun w hw => hw
  intro x
  apply Act.Keeps.bind
  · exact fun w hw => hw.congr rfl
  intro _
  exact Act.Keeps.mapError _ (reserveLines shelf u _ _ _)

end Stocks

end Shop

end Transactor
