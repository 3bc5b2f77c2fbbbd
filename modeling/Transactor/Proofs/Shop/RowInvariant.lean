import Transactor.Proofs.Shop.Settlement
namespace Transactor.Shop

open Relation

variable {Q H : Type} {u : UnitRef} {w v : ShopWorld Q H}

/-- Something holds of every row of a table and the identifier it is under, committed or staged. -/
structure Table.Holds {E : Type} (I : Uuid → E → Prop) (t : Table E) : Prop where
  committed : ∀ id e, t.committed.get? id = some e → I id e
  staged : ∀ x rows id e, t.staged.get? x = some rows → rows.get? id = some (some e) → I id e

namespace Table.Holds

variable {E : Type} {I : Uuid → E → Prop} {t : Table E}

theorem empty : (Table.empty : Table E).Holds I where
  committed id e h := by cases h
  staged x rows id e h := by cases h

theorem visible (h : t.Holds I) {x : TransactionId} {id : Uuid} {e : E}
    (he : t.visible x id = some e) : I id e := by
  unfold Table.visible at he
  cases hs : t.staged.get? x with
  | none =>
    rw [hs] at he
    exact h.committed id e he
  | some rows =>
    simp only [hs, Option.bind_some] at he
    split at he
    · rename_i row hrow
      subst he
      exact h.staged x rows id e hs hrow
    · exact h.committed id e he

theorem stage (h : t.Holds I) (x : TransactionId) (id : Uuid) {row : Option E}
    (hrow : ∀ e, row = some e → I id e) : (t.stage x id row).Holds I where
  committed := h.committed
  staged y rows j e hy he := by
    rw [Table.stage, KeyedList.get?_insert] at hy
    split at hy
    · cases hy
      rw [KeyedList.get?_insert] at he
      split at he
      · rename_i hj
        rw [hj]
        exact hrow e (Option.some.inj he)
      · rw [KeyedList.getD] at he
        cases hx : t.staged.get? x with
        | none =>
          rw [hx] at he
          cases he
        | some rows =>
          rw [hx] at he
          exact h.staged x rows j e hx he
    · exact h.staged y rows j e hy he

theorem settle (h : t.Holds I) (x : TransactionId) (o : Outcome) : (t.settle x o).Holds I where
  committed id e he := by
    cases o with
    | committed =>
      rw [Table.get?_settle_committed] at he
      exact h.visible he
    | rolledBack => exact h.committed id e he
  staged y rows id e hy he := by
    by_cases hx : y = x
    · rw [hx, Table.staged_settle] at hy
      cases hy
    · rw [Table.staged_settle_of_ne t o hx] at hy
      exact h.staged y rows id e hy he

end Table.Holds

/-- Something holds of every row of every table and the identifier it is under. -/
def AllRows (I : (r : TableRef) → Uuid → r.Row → Prop) (w : ShopWorld Q H) : Prop :=
  ∀ r : TableRef, (r.table w).Holds (I r)

namespace AllRows

variable {I : (r : TableRef) → Uuid → r.Row → Prop}

theorem congr (h : AllRows I w) (ht : v.host.tables = w.host.tables) : AllRows I v := by
  intro r
  rw [TableRef.table, ht]
  exact h r

theorem mono {J : (r : TableRef) → Uuid → r.Row → Prop} (h : AllRows I w)
    (hI : ∀ r id row, I r id row → J r id row) : AllRows J w := fun r =>
  ⟨fun id row hrow => hI r id row ((h r).committed id row hrow),
    fun x rows id row hrows hrow => hI r id row ((h r).staged x rows id row hrows hrow)⟩

theorem setTable (h : AllRows I w) {r : TableRef} {t : Table r.Row} (ht : t.Holds (I r)) :
    AllRows I (r.setTable w t) := by
  intro q
  by_cases hq : q = r
  · subst hq
    rwa [q.table_setTable_self]
  · rw [r.table_setTable_of_ne t hq]
    exact h q

/-- A write has to answer for its own row only. -/
theorem writeEnd (h : AllRows I w) {r : TableRef} {id : Uuid} {row : Option r.Row}
    {s : Except OrderingError Unit × Tracked r.Entity × ShopWorld Q H}
    (hs : TableRef.WriteEnd r u id row w s)
    (hrow : s.1 = .ok () → ∀ e, row = some e → I r id e) : AllRows I s.2.2 := by
  cases hs with
  | staged hv =>
    have hstaged := h.setTable ((h r).stage (w.unit u).transaction id (hrow rfl))
    exact hstaged.congr (congrArg Premises.tables hv)
  | refused hv => exact h.congr (congrArg Premises.tables hv)

theorem stable (I : (r : TableRef) → Uuid → r.Row → Prop) (u : UnitRef) :
    Stable u (AllRows I : ShopWorld Q H → Prop) where
  record _ _ h := h.congr rfl
  supply _ h := h.congr rfl
  add _ _ _ h := h.congr rfl

theorem settle (I : (r : TableRef) → Uuid → r.Row → Prop) (r : TableRef) (t : TransactionId)
    (o : Outcome) : (r.settle t o : ShopAct Q H Empty Unit).Keeps (AllRows I) := by
  apply Act.Keeps.bind
  · exact Act.Keeps.get
  intro w
  split
  · exact Act.Keeps.pure ()
  · apply Act.Keeps.bind
    · exact fun v hv => hv.congr rfl
    · exact fun _ v hv => hv.setTable ((hv r).settle t o)

end AllRows

/-- Nothing is recorded of the lifecycle of any row in the tables of a number. -/
def Unmarked (shelf : Nat) (w : ShopWorld Q H) : Prop :=
  ∀ k, ((TableRef.mk k shelf).table w).Holds fun _ row => row.IsDetached

namespace Unmarked

variable {shelf : Nat}

theorem congr (h : Unmarked shelf w) (hv : v.host = w.host) : Unmarked shelf v := by
  intro k
  rw [TableRef.table_congr hv]
  exact h k

theorem stage (h : Unmarked shelf w) {k : Kind} (t : TransactionId) (id : Uuid) (e : k.Entity)
    (hv : v.host = ((TableRef.mk k shelf).setTable w
      (((TableRef.mk k shelf).table w).stage t id (some (.fresh e)))).host) :
    Unmarked shelf v := by
  intro j
  rw [TableRef.table_congr hv]
  by_cases hj : j = k
  · subst hj
    rw [TableRef.table_setTable_self]
    apply (h j).stage
    intro row hrow
    cases hrow
    exact Tracked.isDetached_fresh e
  · have hne : TableRef.mk j shelf ≠ ⟨k, shelf⟩ := fun he => hj (TableRef.mk.inj he).1
    rw [TableRef.table_setTable_of_ne _ _ hne]
    exact h j

theorem settle (h : Unmarked shelf w) {t : TransactionId} {o : Outcome}
    (hv : ∀ k, (TableRef.mk k shelf).table v = ((TableRef.mk k shelf).table w).settle t o) :
    Unmarked shelf v := by
  intro k
  rw [hv]
  exact (h k).settle t o

end Unmarked

/-- What happens in a shop: a step of its own, or a call of its host that drains a unit or ends a
transaction. -/
inductive Business (S : ShopWorld Q H → ShopWorld Q H → Prop) (h : Host (Party Q) (Premises H)) :
    ShopWorld Q H → ShopWorld Q H → Prop
  | own {w v : ShopWorld Q H} (hs : S w v) : Business S h w v
  | drain (u : UnitRef) (w : ShopWorld Q H) : Business S h w (h.drain u w).2
  | commit (t : TransactionId) (w : ShopWorld Q H) : Business S h w (h.commit t w).2
  | rollback (t : TransactionId) (w : ShopWorld Q H) : Business S h w (h.rollback t w).2

/-- What is said of a shop hangs on its premises only, and neither a step of the shop's own nor the
settling of a table undoes it. -/
structure Lasting (S : ShopWorld Q H → ShopWorld Q H → Prop) (I : ShopWorld Q H → Prop) :
    Prop where
  congr : ∀ w v, v.host = w.host → I w → I v
  settle : ∀ (r : TableRef) t o, (r.settle t o : ShopAct Q H Empty Unit).Keeps I
  step : ∀ w v, S w v → I w → I v

section Business

variable {S : ShopWorld Q H → ShopWorld Q H → Prop} {I : ShopWorld Q H → Prop} (hI : Lasting S I)
  {before : Q → ShopTask Q H UnitOfWorkError Unit} {after : Q → Outcome → ShopTask Q H Empty Unit}
  {dispatch : List Message → UnitRef → ShopTask Q H DeliveryError Unit} {patience : Nat}
  (hb : ∀ q, (before q).Within S) (ha : ∀ q o, (after q o).Within S)
  (hd : ∀ batch u, (dispatch batch u).Within S)

include hI hb ha hd

/-- A host whose own code takes no other steps does not undo it either. -/
theorem Business.keeps (h : Business S (Host.ofShop before after dispatch patience) w v)
    (hw : I w) : I v := by
  have hi : Host.Indifferent I :=
    ⟨fun _ _ => hI.congr _ _ rfl, fun _ _ _ => hI.congr _ _ rfl, fun _ _ => hI.congr _ _ rfl⟩
  have hbefore : ∀ p, ((Host.ofShop before after dispatch patience).before p).Keeps I := by
    intro p
    cases p with
    | stagedWrites r t => exact Task.Keeps.pure ()
    | other q => exact (hb q).keeps hI.step
  have hafter : ∀ p o, ((Host.ofShop before after dispatch patience).after p o).Keeps I := by
    intro p o
    cases p with
    | stagedWrites r t => exact Task.Keeps.atOnce (hI.settle r t o)
    | other q => exact (ha q o).keeps hI.step
  have hdispatch : ∀ batch u,
      ((Host.ofShop before after dispatch patience).dispatch batch u).Keeps I :=
    fun batch u => (hd batch u).keeps hI.step
  have htransaction : ∀ (w : ShopWorld Q H) t x, I w → I (w.setTransaction t x) :=
    fun _ _ _ => hI.congr _ _ rfl
  cases h with
  | own hs => exact hI.step _ _ hs hw
  | drain u =>
    exact Host.drain_keeps _ u hi.record (fun w _ _ => hi.unit w u _) (fun b => hdispatch b u) w hw
  | commit t =>
    exact Host.commit_keeps _ t hi (fun w => htransaction w t) hbefore hafter hdispatch w hw
  | rollback t => exact Host.rollback_keeps _ t hi (fun w => htransaction w t) hafter w hw

theorem Business.keeps_run
    (h : ReflTransGen (Business S (Host.ofShop before after dispatch patience)) w v)
    (hw : I w) : I v := by
  induction h with
  | refl => exact hw
  | tail _ hs ih => exact hs.keeps hI hb ha hd ih

end Business

end Transactor.Shop
