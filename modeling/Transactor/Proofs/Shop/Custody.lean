import Transactor.Proofs.Shop.Tenure
import Transactor.Proofs.Shop.Writes

namespace Transactor

namespace KeyedList

variable {κ α : Type} [DecidableEq κ]

theorem eq_empty_iff {m : KeyedList κ α} : m = ∅ ↔ ∀ k, m.get? k = none := by
  constructor
  · rintro rfl k
    rfl
  · intro h
    apply eq_of_entries
    cases he : m.entries with
    | nil => rfl
    | cons e es =>
      have hk := h e.1
      simp [get?, he] at hk

theorem insert_ne_empty (m : KeyedList κ α) (k : κ) (a : α) : m.insert k a ≠ ∅ := by
  intro h
  cases (get?_insert_self m k a).symm.trans (eq_empty_iff.mp h k)

end KeyedList

/-- It takes no registrations and has no participants. -/
def UnitOfWork.Idle {P : Type} (x : UnitOfWork P) : Prop :=
  x.status.accepts = false ∧ x.participants = []

namespace Shop

/-- A transaction that has staged something has staged a row. -/
def Table.Filled {E : Type} (T : Table E) : Prop :=
  ∀ t rows, T.staged.get? t = some rows → rows ≠ ∅

namespace Table.Filled

variable {E : Type} {T : Table E}

theorem stage (h : T.Filled) (t : TransactionId) (id : Uuid) (row : Option E) :
    (T.stage t id row).Filled := by
  intro x rows hx
  by_cases he : x = t
  · rw [he, Table.stage, KeyedList.get?_insert_self] at hx
    rw [← Option.some.inj hx]
    exact KeyedList.insert_ne_empty _ _ _
  · rw [Table.get?_stage_of_ne T id row he] at hx
    exact h x rows hx

theorem settle (h : T.Filled) (t : TransactionId) (o : Outcome) : (T.settle t o).Filled := by
  intro x rows hx
  by_cases he : x = t
  · rw [he, Table.staged_settle] at hx
    cases hx
  · rw [Table.staged_settle_of_ne T o he] at hx
    exact h x rows hx

end Table.Filled

variable {H : Type} {t x : TransactionId} {u : UnitRef} {w v : ShopWorld Empty H}

/-- An open transaction with a unit of work that has enlisted the tables with staged rows of it,
each of them once, and no others. -/
structure Custodian (t : TransactionId) (u : UnitRef) (w : ShopWorld Empty H) : Prop
    extends Attached t u w where
  once : (w.unit u).participants.Nodup
  staged : ∀ r : TableRef, .stagedWrites r t ∈ (w.unit u).participants →
    ((r.table w).staged.get? t).isSome

/-- Every transaction has nothing or a custodian, and a unit that is no custodian is idle. -/
structure InCustody (w : ShopWorld Empty H) : Prop where
  transactions : ∀ t, Unattached t w ∨ ∃ u, Custodian t u w
  units : ∀ y, Custodian (w.unit y).transaction y w ∨ (w.unit y).Idle
  filled : ∀ r : TableRef, (r.table w).Filled

/-- Nothing has changed that custody hangs on: no transaction has ended or been joined, no unit has
got other participants, and none takes registrations that did not before. -/
structure SameHoldings (w v : ShopWorld Empty H) : Prop where
  isActive : ∀ t, (w.transaction t).status.isActive = true →
    (v.transaction t).status.isActive = true
  joined : ∀ t, (v.transaction t).synchronizations = (w.transaction t).synchronizations
  bound : v.bound = w.bound
  known : ∀ y, w.units.get? y ≠ none → v.units.get? y ≠ none
  owner : ∀ y, (v.unit y).transaction = (w.unit y).transaction
  participants : ∀ y, (v.unit y).participants = (w.unit y).participants
  accepts : ∀ y, (v.unit y).status.accepts = true → (w.unit y).status.accepts = true
  table : ∀ r : TableRef, r.table v = r.table w

namespace SameHoldings

theorem of_sameRecords (h : SameRecords w v) : SameHoldings w v where
  isActive t ha := by rwa [h.transaction]
  joined t := by rw [h.transaction]
  bound := h.bound
  known y hy := by rwa [h.units]
  owner y := by rw [h.unit]
  participants y := by rw [h.unit]
  accepts y ha := by rwa [h.unit] at ha
  table := h.table

theorem setUnit (w : ShopWorld Empty H) (u : UnitRef) {z : UnitOfWork (Party Empty)}
    (ht : z.transaction = (w.unit u).transaction) (hp : z.participants = (w.unit u).participants)
    (ha : z.status.accepts = true → (w.unit u).status.accepts = true) :
    SameHoldings w (w.setUnit u z) := by
  have hself := World.unit_setUnit_self w u z
  have hother {y : UnitRef} (hy : y ≠ u) : (w.setUnit u z).unit y = w.unit y :=
    World.unit_setUnit_of_ne w z hy
  refine ⟨fun _ h => h, fun _ => rfl, rfl, (Persists.setUnit w u z).units, ?_, ?_, ?_,
    fun _ => rfl⟩
  · intro y
    by_cases hy : y = u
    · rw [hy, hself, ht]
    · rw [hother hy]
  · intro y
    by_cases hy : y = u
    · rw [hy, hself, hp]
    · rw [hother hy]
  · intro y hya
    by_cases hy : y = u
    · rw [hy, hself] at hya
      rw [hy]
      exact ha hya
    · rwa [hother hy] at hya

theorem setTransaction (w : ShopWorld Empty H) (t : TransactionId) {z : Transaction (Party Empty)}
    (ha : (w.transaction t).status.isActive = true → z.status.isActive = true)
    (hj : z.synchronizations = (w.transaction t).synchronizations) :
    SameHoldings w (w.setTransaction t z) := by
  have hself := World.transaction_setTransaction_self w t z
  have hother {x : TransactionId} (hx : x ≠ t) :
      (w.setTransaction t z).transaction x = w.transaction x :=
    World.transaction_setTransaction_of_ne w z hx
  refine ⟨?_, ?_, rfl, fun _ h => h, fun _ => rfl, fun _ => rfl, fun _ h => h, fun _ => rfl⟩
  · intro x hx
    by_cases he : x = t
    · rw [he] at hx ⊢
      rw [hself]
      exact ha hx
    · rwa [hother he]
  · intro x
    by_cases he : x = t
    · rw [he, hself, hj]
    · rw [hother he]

end SameHoldings

namespace Custodian

theorem sameHoldings (h : Custodian t u w) (hs : SameHoldings w v) : Custodian t u v where
  isActive := hs.isActive t h.isActive
  joined := (hs.joined t).trans h.joined
  bound := by rw [hs.bound, h.bound]
  known := hs.known u h.known
  holding := by
    refine ⟨(hs.owner u).trans h.holding.owner, ?_, ?_⟩
    · intro r
      rw [hs.table, hs.participants]
      exact h.holding.enlisted r
    · rw [hs.participants]
      exact h.holding.own
  once := by
    rw [hs.participants]
    exact h.once
  staged r hr := by
    rw [hs.participants] at hr
    rw [hs.table]
    exact h.staged r hr

/-- What is done for one transaction does not touch the custodians of others. -/
theorem apart (h : Custodian x u w) (ha : Apart t w v) (hx : x ≠ t) : Custodian x u v := by
  have hu : v.unit u = w.unit u := by
    apply ha.units u _ h.known
    rw [h.holding.owner]
    exact hx
  refine ⟨h.toAttached.apart ha hx, ?_, ?_⟩
  · rw [hu]
    exact h.once
  · intro r hr
    rw [hu] at hr
    rw [ha.staged x hx]
    exact h.staged r hr

/-- The first row that a transaction stages in a table enlists the table, and no later one does. -/
theorem stage (h : Custodian t u w) (ho : (w.unit u).status.accepts = true) (r : TableRef)
    (id : Uuid) (row : Option r.Row) : Custodian t u (r.stage u id row w).2 := by
  have ha : Attached t u (r.stage u id row w).2 :=
    ((Carried.refl h.holding).change (.stage r id row ho)).attached h.toAttached
  rw [r.stage_open (accepts_ne_completed ho), h.holding.owner] at ha ⊢
  have hunit : ((r.enlisting u w).unit u).participants = r.participants u w := by
    rw [r.unit_enlisting_self]
  have hcontains : (r.table w).staged.contains t = ((r.table w).staged.get? t).isSome :=
    KeyedList.contains_eq_isSome _ t
  refine ⟨ha, ?_, ?_⟩
  · rw [TableRef.unit_setTable, hunit, TableRef.participants, h.holding.owner, hcontains]
    -- a table that is enlisted has an entry, so it is not enlisted again
    split
    · exact h.once
    · rename_i hn
      refine List.nodup_append.mpr ⟨h.once, List.pairwise_singleton _ _, ?_⟩
      rintro p hp q hq rfl
      exact hn (h.staged r (List.mem_singleton.mp hq ▸ hp))
  · intro q hq
    rw [TableRef.unit_setTable, hunit, TableRef.participants, h.holding.owner] at hq
    by_cases hqr : q = r
    · subst hqr
      rw [TableRef.table_setTable_self, Table.stage, KeyedList.get?_insert_self]
      rfl
    · rw [r.table_setTable_of_ne _ hqr, r.table_enlisting]
      split at hq
      · exact h.staged q hq
      · obtain hq | hq := List.mem_append.mp hq
        · exact h.staged q hq
        · cases List.mem_singleton.mp hq
          exact absurd rfl hqr

end Custodian

namespace InCustody

theorem sameHoldings (h : InCustody w) (hs : SameHoldings w v) : InCustody v where
  transactions t := by
    obtain ht | ⟨u, hu⟩ := h.transactions t
    · left
      refine ⟨(hs.joined t).trans ht.joined, ?_, fun r => ?_⟩
      · rw [hs.bound, ht.bound]
      · rw [hs.table, ht.staged]
    · exact .inr ⟨u, hu.sameHoldings hs⟩
  units y := by
    obtain hc | hi := h.units y
    · left
      rw [hs.owner]
      exact hc.sameHoldings hs
    · right
      refine ⟨?_, (hs.participants y).trans hi.2⟩
      rw [← Bool.not_eq_true]
      intro ha
      cases hi.1.symm.trans (hs.accepts y ha)
  filled r := by
    rw [hs.table]
    exact h.filled r

/-- It is enough to look at the transaction that something is done for, and at the units that have
changed. -/
theorem apart (h : InCustody w) (ha : Apart t w v) (ht : Unattached t v ∨ ∃ u, Custodian t u v)
    (hu : ∀ y, v.unit y = w.unit y ∧ w.bound.get? t ≠ some y ∨
      Custodian (v.unit y).transaction y v ∨ (v.unit y).Idle)
    (hf : ∀ r : TableRef, (r.table v).Filled) : InCustody v where
  transactions x := by
    by_cases hx : x = t
    · rw [hx]
      exact ht
    · obtain hx' | ⟨u, hc⟩ := h.transactions x
      · exact .inl (hx'.apart ha hx)
      · exact .inr ⟨u, hc.apart ha hx⟩
  units y := by
    obtain ⟨heq, hb⟩ | hy := hu y
    · rw [heq]
      obtain hc | hi := h.units y
      · exact .inl (hc.apart ha fun he => hb (he ▸ hc.bound))
      · exact .inr hi
    · exact hy
  filled := hf

theorem custodian_of_bound (h : InCustody w) (hb : w.bound.get? t = some u) :
    Custodian t u w := by
  obtain ht | ⟨y, hy⟩ := h.transactions t
  · cases ht.bound.symm.trans hb
  · cases hy.bound.symm.trans hb
    exact hy

theorem custodian_of_accepts (h : InCustody w) (ha : (w.unit u).status.accepts = true) :
    Custodian (w.unit u).transaction u w := by
  obtain hc | hi := h.units u
  · exact hc
  · cases hi.1.symm.trans ha

section Steps

variable (h : InCustody w)

include h

theorem stage (ho : (w.unit u).status.accepts = true) (r : TableRef) (id : Uuid)
    (row : Option r.Row) : InCustody (r.stage u id row w).2 := by
  have hc := h.custodian_of_accepts ho
  have hcarried := (Carried.refl hc.holding).change (.stage r id row ho)
  have hstaged := hc.stage ho r id row
  refine h.apart (hcarried.apart rfl) (.inr ⟨u, hstaged⟩) ?_ ?_
  · intro y
    by_cases hy : y = u
    · right
      left
      rw [hy, hstaged.holding.owner]
      exact hstaged
    · left
      exact ⟨hcarried.aside.units y hy, fun hb => hy (Option.some.inj (hb.symm.trans hc.bound))⟩
  · intro q
    rw [r.stage_open (accepts_ne_completed ho)]
    by_cases hq : q = r
    · subst hq
      rw [TableRef.table_setTable_self]
      exact (h.filled q).stage _ id row
    · rw [r.table_setTable_of_ne _ hq, r.table_enlisting]
      exact h.filled q

theorem change (hs : Change u w v) : InCustody v := by
  cases hs with
  | add r ho => exact h.sameHoldings (.setUnit w u rfl rfl fun _ => ho)
  | enlist q ho => exact q.elim
  | stage r id row ho => exact h.stage ho r id row
  | own hs => exact h.sameHoldings (.of_sameRecords hs)

theorem begin (hnew : ¬ w.Knows w.nextTransaction) : InCustody (begun w) := by
  have hs : SameRecords w ({ w with supply := w.supply.advance }.record
      (.transactionBegun w.nextTransaction)) := ⟨rfl, rfl, rfl, rfl⟩
  refine (h.sameHoldings (.of_sameRecords hs)).sameHoldings (.setTransaction _ _ (fun _ => rfl) ?_)
  rw [hs.transaction, World.transaction, KeyedList.getD, not_not.mp hnew]
  rfl

theorem discard {ε : Type} (u : UnitRef) :
    InCustody ((WorldAct.discard u : ShopAct Empty H ε Unit) w).2 := by
  have hs : SameRecords w (w.record (.unitDiscarded (w.unit u).transaction
    (w.unit u).queue.length)) := ⟨rfl, rfl, rfl, rfl⟩
  exact (h.sameHoldings (.of_sameRecords hs)).sameHoldings
    (.setUnit _ u rfl rfl fun ha => by cases ha)

theorem current (hc : Current t w v) : InCustody v := by
  obtain ht | ⟨u, hu⟩ := h.transactions t
  · obtain rfl | ⟨ha, hself, hother⟩ := hc.tenure ht
    · exact h
    · have hnew : Custodian t w.freshUnit v := by
        refine ⟨ha, ?_, ?_⟩
        · rw [hself]
          exact List.nodup_nil
        · intro r hr
          rw [hself] at hr
          cases hr
      refine h.apart hc.apart (.inr ⟨_, hnew⟩) ?_ ?_
      · intro y
        by_cases hy : y = w.freshUnit
        · right
          left
          rw [hy, ha.holding.owner]
          exact hnew
        · left
          refine ⟨hother y hy, ?_⟩
          rw [ht.bound]
          exact fun he => by cases he
      · intro r
        rw [TableRef.table_congr hc.host]
        exact h.filled r
  · rw [hc.eq_of_attached hu.toAttached]
    exact h

theorem complete [Chronicle H (Party Empty)] (deliver : Dispatcher (Party Empty) (Premises H))
    (patience : Nat) (t : TransactionId) (o : Outcome) :
    ∃ v, (dealing deliver patience).complete t o w = (.done (), v) ∧ Concluded t o w v ∧
      v.Over t ∧ InCustody v := by
  obtain ht | ⟨u, hu⟩ := h.transactions t
  · have hv := Host.complete_alone (dealing deliver patience) t (o := o) ht.joined
    have hc := ht.complete hv
    refine ⟨_, hv, hc, ⟨World.knows_setTransaction_self _ _ _, ?_⟩,
      h.apart hc.apart (.inl hc.unattached) ?_ h.filled⟩
    · rw [hc.status]
      rfl
    · intro y
      left
      refine ⟨rfl, ?_⟩
      rw [ht.bound]
      exact fun he => by cases he
  · obtain ⟨v, hv, hend⟩ := complete_unit (h := dealing deliver patience) (fun _ _ _ => rfl) o
      (fun q _ => q.elim) hu.joined hu.holding.owner hu.bound hu.holding.own
    have hc := hu.toAttached.complete hv
    refine ⟨v, hv, hc, hc.isOver (World.knows_of_isActive hu.isActive),
      h.apart hc.apart (.inl hc.unattached) ?_ ?_⟩
    · intro y
      by_cases hy : y = u
      · right
        right
        rw [hy, hend.unit]
        exact ⟨rfl, rfl⟩
      · left
        exact ⟨hend.units y hy, fun hb => hy (Option.some.inj (hb.symm.trans hu.bound))⟩
    · intro r
      rw [hc.tables]
      exact (h.filled r).settle t o

end Steps

end InCustody

end Shop

end Transactor
