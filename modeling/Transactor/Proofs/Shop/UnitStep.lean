import Transactor.Proofs.Shop.TableUse

namespace Transactor

open Relation

namespace Shop

variable {Q H : Type} {u : UnitRef} {w v : ShopWorld Q H}

/-- What transactions are about is the same: the transactions, the units, which of them are bound,
and the tables. -/
structure SameRecords (w v : ShopWorld Q H) : Prop where
  transactions : v.transactions = w.transactions
  units : v.units = w.units
  bound : v.bound = w.bound
  tables : v.host.tables = w.host.tables

namespace SameRecords

theorem refl (w : ShopWorld Q H) : SameRecords w w := ⟨rfl, rfl, rfl, rfl⟩

theorem trans {m : ShopWorld Q H} (h : SameRecords w m) (g : SameRecords m v) : SameRecords w v :=
  ⟨g.transactions.trans h.transactions, g.units.trans h.units, g.bound.trans h.bound,
    g.tables.trans h.tables⟩

theorem unit (h : SameRecords w v) (u : UnitRef) : v.unit u = w.unit u := by
  rw [World.unit, h.units, World.unit]

theorem transaction (h : SameRecords w v) (t : TransactionId) :
    v.transaction t = w.transaction t := by
  rw [World.transaction, h.transactions, World.transaction]

theorem table (h : SameRecords w v) (r : TableRef) : r.table v = r.table w := by
  rw [TableRef.table, h.tables, TableRef.table]

end SameRecords

/-- One thing that code called on behalf of a unit may do: register, enlist a party of its own,
write or load a row, or do anything that leaves transactions, units and tables alone. -/
inductive UnitStep (u : UnitRef) : ShopWorld Q H → ShopWorld Q H → Prop
  | register (r : Registration) (w) : UnitStep u w (WorldAct.register u r w).2
  | enlist (q : Q) (w) : UnitStep u w (WorldAct.enlist u (.other q) w).2
  | insert (r : TableRef) (a : Tracked r.Entity) (w) : UnitStep u w (r.insert u (a, w)).2.2
  | update (r : TableRef) (a : Tracked r.Entity) (w) : UnitStep u w (r.update u (a, w)).2.2
  | remove (r : TableRef) (a : Tracked r.Entity) (w) : UnitStep u w (r.remove u (a, w)).2.2
  | load (r : TableRef) (id : Uuid) (w) : UnitStep u w (r.load u id w).2
  | own {w v : ShopWorld Q H} (h : SameRecords w v) : UnitStep u w v

/-- What a step comes to. -/
inductive Change (u : UnitRef) : ShopWorld Q H → ShopWorld Q H → Prop
  | add {w : ShopWorld Q H} (r : Registration) (ho : (w.unit u).status.accepts = true) :
      Change u w (w.setUnit u ((w.unit u).add r))
  | enlist {w : ShopWorld Q H} (q : Q) (ho : (w.unit u).status ≠ .completed) :
      Change u w (w.setUnit u
        { w.unit u with participants := (w.unit u).participants ++ [.other q] })
  | stage {w : ShopWorld Q H} (r : TableRef) (id : Uuid) (row : Option r.Row)
      (ho : (w.unit u).status.accepts = true) : Change u w (r.stage u id row w).2
  | own {w v : ShopWorld Q H} (h : SameRecords w v) : Change u w v

/-- The transactions, the registry and all units but one are the same. -/
structure Aside (u : UnitRef) (w v : ShopWorld Q H) : Prop where
  transactions : v.transactions = w.transactions
  bound : v.bound = w.bound
  units : ∀ x, x ≠ u → v.unit x = w.unit x

/-- No committed row has changed, nor any that another transaction has staged. -/
structure SameRows (t : TransactionId) (w v : ShopWorld Q H) : Prop where
  committed : ∀ r : TableRef, (r.table v).committed = (r.table w).committed
  staged : ∀ (r : TableRef) (x : TransactionId), x ≠ t →
    (r.table v).staged.get? x = (r.table w).staged.get? x

namespace SameRows

variable {t : TransactionId} {m : ShopWorld Q H}

theorem of_tables (t : TransactionId) (h : ∀ r : TableRef, r.table v = r.table w) :
    SameRows t w v :=
  ⟨fun r => by rw [h], fun r _ _ => by rw [h]⟩

theorem trans (h : SameRows t w m) (g : SameRows t m v) : SameRows t w v :=
  ⟨fun r => (g.committed r).trans (h.committed r),
    fun r x hx => (g.staged r x hx).trans (h.staged r x hx)⟩

theorem stage (t : TransactionId) (w : ShopWorld Q H) (r : TableRef) (id : Uuid)
    (row : Option r.Row) : SameRows t w (r.setTable w ((r.table w).stage t id row)) where
  committed q := by
    by_cases hq : q = r
    · subst hq
      rw [TableRef.table_setTable_self]
      rfl
    · rw [r.table_setTable_of_ne _ hq]
  staged q x hx := by
    by_cases hq : q = r
    · subst hq
      rw [TableRef.table_setTable_self, Table.stage, KeyedList.get?_insert_of_ne _ _ hx]
    · rw [r.table_setTable_of_ne _ hq]

end SameRows

/-- A unit is that of a transaction, and each table with staged rows of the transaction is enlisted
with it; tables that are enlisted settle nothing else. -/
structure Holding (t : TransactionId) (u : UnitRef) (w : ShopWorld Q H) : Prop where
  owner : (w.unit u).transaction = t
  enlisted : ∀ r : TableRef, ((r.table w).staged.get? t).isSome →
    .stagedWrites r t ∈ (w.unit u).participants
  own : ∀ r x, .stagedWrites r x ∈ (w.unit u).participants → x = t

namespace Holding

variable {t : TransactionId}

theorem sameRecords (h : Holding t u w) (hs : SameRecords w v) : Holding t u v where
  owner := by rw [hs.unit]; exact h.owner
  enlisted r := by rw [hs.table, hs.unit]; exact h.enlisted r
  own := by rw [hs.unit]; exact h.own

theorem setUnit (h : Holding t u w) {x : UnitOfWork (Party Q)}
    (ht : x.transaction = (w.unit u).transaction)
    (hp : x.participants = (w.unit u).participants) : Holding t u (w.setUnit u x) where
  owner := by rw [World.unit_setUnit_self, ht]; exact h.owner
  enlisted := by rw [World.unit_setUnit_self, hp]; exact h.enlisted
  own := by rw [World.unit_setUnit_self, hp]; exact h.own

theorem enlist (h : Holding t u w) {p : Party Q} (hp : ∀ r x, p = .stagedWrites r x → x = t) :
    Holding t u (w.setUnit u
      { w.unit u with participants := (w.unit u).participants ++ [p] }) where
  owner := by rw [World.unit_setUnit_self]; exact h.owner
  enlisted r hr := by
    rw [World.unit_setUnit_self]
    exact List.mem_append_left _ (h.enlisted r hr)
  own r x hm := by
    rw [World.unit_setUnit_self] at hm
    obtain hm | hm := List.mem_append.mp hm
    · exact h.own r x hm
    · exact hp r x (List.mem_singleton.mp hm).symm

theorem stage (h : Holding t u w) {r : TableRef}
    (hr : .stagedWrites r t ∈ (w.unit u).participants) (T : Table r.Row) :
    Holding t u (r.setTable w T) where
  owner := h.owner
  enlisted q hm := by
    by_cases hq : q = r
    · rw [hq]
      exact hr
    · rw [r.table_setTable_of_ne _ hq] at hm
      exact h.enlisted q hm
  own := h.own

theorem enlisting (h : Holding t u w) (r : TableRef) :
    Holding t u (r.enlisting u w) ∧
      .stagedWrites r t ∈ ((r.enlisting u w).unit u).participants := by
  unfold TableRef.enlisting
  rw [h.owner]
  split
  · rename_i hc
    rw [KeyedList.contains_eq_isSome] at hc
    exact ⟨h, h.enlisted r hc⟩
  · refine ⟨h.enlist ?_, ?_⟩
    · rintro q x ⟨⟩
      rfl
    · rw [World.unit_setUnit_self]
      exact List.mem_append_right _ (List.mem_singleton_self _)

theorem change (h : Holding t u w) (hs : Change u w v) : Holding t u v := by
  cases hs with
  | add r ho => exact h.setUnit rfl rfl
  | enlist q ho => exact h.enlist fun r x he => by cases he
  | stage r id row ho =>
    rw [r.stage_open (accepts_ne_completed ho)]
    exact (h.enlisting r).1.stage (h.enlisting r).2 _
  | own hs => exact h.sameRecords hs

end Holding

namespace Change

theorem status (h : Change u w v) : (v.unit u).status = (w.unit u).status := by
  cases h with
  | add r ho => simp only [World.unit_setUnit_self, UnitOfWork.add]
  | enlist q ho => rw [World.unit_setUnit_self]
  | stage r id row ho => exact r.unit_stage (accepts_ne_completed ho) id row
  | own hs => rw [hs.unit]

theorem queue (h : Change u w v) : (w.unit u).queue <+: (v.unit u).queue := by
  cases h with
  | add r ho => simp [UnitOfWork.add]
  | enlist q ho => simp
  | stage r id row ho =>
    rw [r.stage_open (accepts_ne_completed ho), TableRef.unit_setTable, TableRef.enlisting]
    split <;> simp
  | own hs => simp [hs.unit]

/-- A completed unit is beyond all change. -/
theorem sameRecords (h : Change u w v) (hc : (w.unit u).status = .completed) : SameRecords w v := by
  cases h with
  | add r ho => exact absurd hc (accepts_ne_completed ho)
  | enlist q ho => exact absurd hc ho
  | stage r id row ho => exact absurd hc (accepts_ne_completed ho)
  | own hs => exact hs

theorem aside (h : Change u w v) : Aside u w v := by
  cases h with
  | add r ho => exact ⟨rfl, rfl, fun x hx => World.unit_setUnit_of_ne _ _ hx⟩
  | enlist q ho => exact ⟨rfl, rfl, fun x hx => World.unit_setUnit_of_ne _ _ hx⟩
  | own hs => exact ⟨hs.transactions, hs.bound, fun x _ => hs.unit x⟩
  | stage r id row ho =>
    rw [r.stage_open (accepts_ne_completed ho)]
    unfold TableRef.enlisting
    split
    · exact ⟨rfl, rfl, fun _ _ => rfl⟩
    · exact ⟨rfl, rfl, fun x hx => World.unit_setUnit_of_ne _ _ hx⟩

theorem sameRows (h : Change u w v) : SameRows (w.unit u).transaction w v := by
  cases h with
  | add r ho => exact .of_tables _ fun _ => rfl
  | enlist q ho => exact .of_tables _ fun _ => rfl
  | own hs => exact .of_tables _ hs.table
  | stage r id row ho =>
    rw [r.stage_open (accepts_ne_completed ho), ← r.table_enlisting r]
    exact (SameRows.of_tables _ (r.table_enlisting)).trans (.stage _ _ r id row)

end Change

theorem status_of_changes (h : ReflTransGen (Change u) w v) :
    (v.unit u).status = (w.unit u).status := by
  induction h with
  | refl => rfl
  | tail _ hs ih => exact hs.status.trans ih

theorem queue_of_changes (h : ReflTransGen (Change u) w v) :
    (w.unit u).queue <+: (v.unit u).queue := by
  induction h with
  | refl => exact List.prefix_rfl
  | tail _ hs ih => exact ih.trans hs.queue

theorem sameRecords_of_changes (h : ReflTransGen (Change u) w v)
    (hc : (w.unit u).status = .completed) : SameRecords w v := by
  induction h with
  | refl => exact .refl w
  | tail hr hs ih => exact ih.trans (hs.sameRecords ((status_of_changes hr).trans hc))

section Changes

variable (u w)

/-- What changes lead to from a world. -/
def Reached (v : ShopWorld Q H) : Prop := ReflTransGen (Change u) w v

theorem Reached.own {m : ShopWorld Q H} (h : Reached u w v) (hs : SameRecords v m) :
    Reached u w m := h.tail (.own hs)

theorem reached_upheld : Upheld u (Reached u w) where
  record _ _ hv := hv.own u w ⟨rfl, rfl, rfl, rfl⟩
  supply _ hv := hv.own u w ⟨rfl, rfl, rfl, rfl⟩
  add _ x ha hv := hv.tail (.add x ha)
  stage _ r id row ha hv := hv.tail (.stage r id row ha)

theorem enlist_reached (q : Q) :
    (WorldAct.enlist u (.other q) : ShopAct Q H _ _).Keeps (Reached u w) := by
  intro v hv
  by_cases hc : (v.unit u).status = .completed
  · rw [WorldAct.enlist_closed v u hc]
    exact hv
  · rw [WorldAct.enlist_open v u hc]
    exact hv.tail (.enlist q hc)

end Changes

theorem UnitStep.changes (h : UnitStep u w v) : ReflTransGen (Change u) w v := by
  have hu := reached_upheld u w
  cases h with
  | register r => exact hu.register r w .refl
  | enlist q => exact enlist_reached u w q w .refl
  | insert r a => exact hu.insert r (a, w) .refl
  | update r a => exact hu.update r (a, w) .refl
  | remove r a => exact hu.remove r (a, w) .refl
  | load r id => exact hu.load r id w .refl
  | own hs => exact .single (.own hs)

theorem changes_of_steps (h : ReflTransGen (UnitStep u) w v) : ReflTransGen (Change u) w v := by
  induction h with
  | refl => exact .refl
  | tail _ hs ih => exact ih.trans hs.changes

/-- A completed unit stays as it is, whatever is done on behalf of any unit. -/
theorem unit_of_steps (hc : (w.unit u).status = .completed)
    (h : ReflTransGen (fun a b => ∃ x, UnitStep x a b) w v) : v.unit u = w.unit u := by
  have hstep {a b : ShopWorld Q H} {x : UnitRef} (hs : ReflTransGen (Change x) a b)
      (ha : (a.unit u).status = .completed) : b.unit u = a.unit u := by
    by_cases hx : u = x
    · subst hx
      exact (sameRecords_of_changes hs ha).unit u
    · induction hs with
      | refl => rfl
      | tail _ hs ih => exact (hs.aside.units u hx).trans ih
  induction h with
  | refl => rfl
  | tail _ hs ih =>
    obtain ⟨x, hs⟩ := hs
    exact (hstep hs.changes (by rw [ih, hc])).trans ih

end Shop

end Transactor
