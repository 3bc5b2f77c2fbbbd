import Transactor.Proofs.Bindings
import Transactor.Proofs.Shop.Working

namespace Transactor

open Relation

/-- Units of work and transactions that have been there are still there. -/
structure Persists {P S : Type} (w v : World P S) : Prop where
  units : ∀ y, w.units.get? y ≠ none → v.units.get? y ≠ none
  known : ∀ x, w.Knows x → v.Knows x

namespace Persists

variable {P S : Type} {w m v : World P S}

theorem refl (w : World P S) : Persists w w := ⟨fun _ h => h, fun _ h => h⟩

theorem trans (h : Persists w m) (g : Persists m v) : Persists w v :=
  ⟨fun y hy => g.units y (h.units y hy), fun x hx => g.known x (h.known x hx)⟩

theorem of_eq (hu : v.units = w.units) (ht : v.transactions = w.transactions) : Persists w v := by
  refine ⟨fun y hy => by rwa [hu], fun x hx => ?_⟩
  rwa [World.Knows, ht]

theorem setUnit (w : World P S) (u : UnitRef) (x : UnitOfWork P) : Persists w (w.setUnit u x) := by
  refine ⟨fun y hy => ?_, fun _ h => h⟩
  rw [World.setUnit, KeyedList.get?_insert]
  split
  · exact fun h => by cases h
  · exact hy

theorem setTransaction (w : World P S) (t : TransactionId) (x : Transaction P) :
    Persists w (w.setTransaction t x) :=
  ⟨fun _ h => h, fun _ hx => hx.setTransaction t x⟩

end Persists

namespace Shop

variable {Q H : Type} {t x : TransactionId} {u y : UnitRef} {w m v : ShopWorld Q H}

theorem Change.persists (h : Change u w v) : Persists w v := by
  cases h with
  | add r ho => exact .setUnit _ _ _
  | enlist q ho => exact .setUnit _ _ _
  | own hs => exact .of_eq hs.units hs.transactions
  | stage r id row ho =>
    rw [r.stage_open (accepts_ne_completed ho)]
    unfold TableRef.enlisting
    split
    · exact .of_eq rfl rfl
    · exact (Persists.setUnit w u _).trans (.of_eq rfl rfl)

/-- Since a world, only a unit of work and what it has staged for its transaction have changed. -/
structure Carried (t : TransactionId) (u : UnitRef) (w v : ShopWorld Q H) : Prop where
  aside : Aside u w v
  persists : Persists w v
  rows : SameRows t w v
  holding : Holding t u v

namespace Carried

theorem refl (h : Holding t u w) : Carried t u w w :=
  ⟨⟨rfl, rfl, fun _ _ => rfl⟩, .refl w, .of_tables t fun _ => rfl, h⟩

theorem trans (h : Carried t u w m) (g : Carried t u m v) : Carried t u w v :=
  ⟨⟨g.aside.transactions.trans h.aside.transactions, g.aside.bound.trans h.aside.bound,
    fun x hx => (g.aside.units x hx).trans (h.aside.units x hx)⟩, h.persists.trans g.persists,
    h.rows.trans g.rows, g.holding⟩

theorem sameRecords (h : Carried t u w m) (hs : SameRecords m v) : Carried t u w v :=
  h.trans ⟨⟨hs.transactions, hs.bound, fun x _ => hs.unit x⟩, .of_eq hs.units hs.transactions,
    .of_tables t hs.table, h.holding.sameRecords hs⟩

theorem setUnit (h : Carried t u w m) {x : UnitOfWork (Party Q)}
    (ht : x.transaction = (m.unit u).transaction) (hp : x.participants = (m.unit u).participants) :
    Carried t u w (m.setUnit u x) :=
  h.trans ⟨⟨rfl, rfl, fun _ hx => World.unit_setUnit_of_ne _ _ hx⟩, .setUnit m u x,
    .of_tables t fun _ => rfl, h.holding.setUnit ht hp⟩

theorem change (h : Carried t u w m) (hs : Change u m v) : Carried t u w v := by
  have hr := hs.sameRows
  rw [h.holding.owner] at hr
  exact h.trans ⟨hs.aside, hs.persists, hr, h.holding.change hs⟩

theorem changes (h : Carried t u w m) (hs : ReflTransGen (Change u) m v) : Carried t u w v := by
  induction hs with
  | refl => exact h
  | tail _ hs ih => exact ih.change hs

end Carried

/-- An open transaction with a unit of work, which is the only one to have joined it. -/
structure Attached (t : TransactionId) (u : UnitRef) (w : ShopWorld Q H) : Prop where
  isActive : (w.transaction t).status.isActive = true
  joined : (w.transaction t).synchronizations = [.unit u]
  bound : w.bound.get? t = some u
  known : w.units.get? u ≠ none
  holding : Holding t u w

/-- A transaction that has nothing, be it open or not. -/
structure Unattached (t : TransactionId) (w : ShopWorld Q H) : Prop where
  joined : (w.transaction t).synchronizations = []
  bound : w.bound.get? t = none
  staged : ∀ r : TableRef, (r.table w).staged.get? t = none

/-- Other transactions have been left alone. -/
structure Apart (t : TransactionId) (w v : ShopWorld Q H) : Prop where
  persists : Persists w v
  transaction : ∀ x, x ≠ t → v.transaction x = w.transaction x
  bound : ∀ x, x ≠ t → v.bound.get? x = w.bound.get? x
  staged : ∀ x, x ≠ t → ∀ r : TableRef, (r.table v).staged.get? x = (r.table w).staged.get? x
  units : ∀ y, (w.unit y).transaction ≠ t → w.units.get? y ≠ none → v.unit y = w.unit y
  live : ∀ y, (v.unit y).transaction ≠ t → (v.unit y).status ≠ .completed → v.unit y = w.unit y

theorem Apart.trans (h : Apart t w m) (g : Apart t m v) : Apart t w v where
  persists := h.persists.trans g.persists
  transaction x hx := (g.transaction x hx).trans (h.transaction x hx)
  bound x hx := (g.bound x hx).trans (h.bound x hx)
  staged x hx r := (g.staged x hx r).trans (h.staged x hx r)
  units y ht hk := by
    have hm := h.units y ht hk
    rw [← hm] at ht
    exact (g.units y ht (h.persists.units y hk)).trans hm
  live y ht hs := by
    have hv := g.live y ht hs
    rw [hv] at ht hs
    exact hv.trans (h.live y ht hs)

theorem Apart.of_sameRecords (h : SameRecords w v) : Apart t w v :=
  ⟨.of_eq h.units h.transactions, fun x _ => h.transaction x, fun x _ => by rw [h.bound],
    fun x _ r => by rw [h.table], fun y _ _ => h.unit y, fun y _ _ => h.unit y⟩

theorem Apart.setTransaction (w : ShopWorld Q H) (t : TransactionId)
    (z : Transaction (Party Q)) : Apart t w (w.setTransaction t z) :=
  ⟨.setTransaction w t z, fun _ hx => World.transaction_setTransaction_of_ne w z hx,
    fun _ _ => rfl, fun _ _ _ => rfl, fun _ _ _ => rfl, fun _ _ _ => rfl⟩

theorem Apart.of_units (hp : Persists w v) (ht : ∀ x, x ≠ t → v.transaction x = w.transaction x)
    (hb : ∀ x, x ≠ t → v.bound.get? x = w.bound.get? x)
    (hr : ∀ x, x ≠ t → ∀ r : TableRef, (r.table v).staged.get? x = (r.table w).staged.get? x)
    (hu : ∀ y, y ≠ u → v.unit y = w.unit y)
    (hw : (w.unit u).transaction = t ∨ w.units.get? u = none) (hv : (v.unit u).transaction = t) :
    Apart t w v := by
  refine ⟨hp, ht, hb, hr, ?_, ?_⟩
  · intro y hy hk
    apply hu
    rintro rfl
    obtain hw | hw := hw
    · exact hy hw
    · exact hk hw
  · intro y hy _
    apply hu
    rintro rfl
    exact hy hv

theorem Carried.apart (h : Carried t u w v) (ho : (w.unit u).transaction = t) : Apart t w v := by
  refine .of_units h.persists ?_ ?_ ?_ h.aside.units (.inl ho) h.holding.owner
  · intro x _
    rw [World.transaction, h.aside.transactions, World.transaction]
  · intro x _
    rw [h.aside.bound]
  · exact fun x hx r => h.rows.staged r x hx

theorem Carried.attached (h : Carried t u w v) (ha : Attached t u w) : Attached t u v where
  isActive := by
    rw [World.transaction, h.aside.transactions]
    exact ha.isActive
  joined := by
    rw [World.transaction, h.aside.transactions]
    exact ha.joined
  bound := by
    rw [h.aside.bound]
    exact ha.bound
  known := h.persists.units u ha.known
  holding := h.holding

theorem Unattached.apart (h : Unattached x w) (ha : Apart t w v) (hx : x ≠ t) : Unattached x v where
  joined := by rw [ha.transaction x hx, h.joined]
  bound := by rw [ha.bound x hx, h.bound]
  staged r := by rw [ha.staged x hx, h.staged]

theorem Attached.apart (h : Attached x u w) (ha : Apart t w v) (hx : x ≠ t) : Attached x u v := by
  have hu : v.unit u = w.unit u := by
    apply ha.units u _ h.known
    rw [h.holding.owner]
    exact hx
  refine ⟨?_, ?_, ?_, ha.persists.units u h.known, ?_, ?_, ?_⟩
  · rw [ha.transaction x hx, h.isActive]
  · rw [ha.transaction x hx, h.joined]
  · rw [ha.bound x hx, h.bound]
  · rw [hu, h.holding.owner]
  · intro r
    rw [hu, ha.staged x hx]
    exact h.holding.enlisted r
  · rw [hu]
    exact h.holding.own

/-- Every transaction is one of the two kinds, and a unit that is not over is that of its
transaction. -/
structure Tidy (w : ShopWorld Q H) : Prop where
  tenure : ∀ t, Unattached t w ∨ ∃ u, Attached t u w
  live : ∀ y, (w.unit y).status ≠ .completed →
    (w.unit y).status = .active ∧ w.bound.get? (w.unit y).transaction = some y

/-- It is enough to look at the transaction that something is done for. -/
theorem Tidy.apart (h : Tidy w) (ha : Apart t w v) (ht : Unattached t v ∨ ∃ u, Attached t u v)
    (hl : ∀ y, (v.unit y).transaction = t → (v.unit y).status ≠ .completed →
      (v.unit y).status = .active ∧ v.bound.get? t = some y) : Tidy v where
  tenure x := by
    by_cases hx : x = t
    · rw [hx]
      exact ht
    · obtain hu | ⟨u, hu⟩ := h.tenure x
      · exact .inl (hu.apart ha hx)
      · exact .inr ⟨u, hu.apart ha hx⟩
  live y hs := by
    by_cases hy : (v.unit y).transaction = t
    · rw [hy]
      exact hl y hy hs
    · have hu := ha.live y hy hs
      rw [hu] at hs hy ⊢
      rw [ha.bound _ hy]
      exact h.live y hs

theorem Tidy.sameRecords (h : Tidy w) (hs : SameRecords w v) : Tidy v where
  tenure t := by
    obtain hu | ⟨u, hu⟩ := h.tenure t
    · left
      refine ⟨?_, ?_, fun r => ?_⟩
      · rw [hs.transaction, hu.joined]
      · rw [hs.bound, hu.bound]
      · rw [hs.table, hu.staged]
    · right
      refine ⟨u, ?_, ?_, ?_, ?_, hu.holding.sameRecords hs⟩
      · rw [hs.transaction, hu.isActive]
      · rw [hs.transaction, hu.joined]
      · rw [hs.bound, hu.bound]
      · rw [hs.units]
        exact hu.known
  live y := by
    rw [hs.unit, hs.bound]
    exact h.live y

theorem Tidy.attached (h : Tidy w) (hs : (w.unit u).status ≠ .completed) :
    Attached (w.unit u).transaction u w := by
  obtain ⟨-, hb⟩ := h.live u hs
  obtain ht | ⟨y, hy⟩ := h.tenure (w.unit u).transaction
  · cases ht.bound.symm.trans hb
  · obtain rfl := Option.some.inj (hy.bound.symm.trans hb)
    exact hy

section Steps

theorem Tidy.setTransaction (h : Tidy w) {z : Transaction (Party Q)}
    (hj : z.synchronizations = (w.transaction t).synchronizations)
    (ha : (w.transaction t).status.isActive = true → z.status.isActive = true) :
    Apart t w (w.setTransaction t z) ∧ Tidy (w.setTransaction t z) := by
  have hself := World.transaction_setTransaction_self w t z
  have hapart := Apart.setTransaction w t z
  refine ⟨hapart, h.apart hapart ?_ ?_⟩
  · obtain ht | ⟨u, hu⟩ := h.tenure t
    · exact .inl ⟨by rw [hself, hj, ht.joined], ht.bound, ht.staged⟩
    · exact .inr ⟨u, by rw [hself, ha hu.isActive], by rw [hself, hj, hu.joined], hu.bound,
        hu.known, hu.holding.owner, hu.holding.enlisted, hu.holding.own⟩
  · intro y hy hs
    rw [← hy]
    exact h.live y hs

theorem Tidy.begin (h : Tidy w) (hnew : ¬ w.Knows w.nextTransaction) :
    Apart w.nextTransaction w (begun w) ∧ Tidy (begun w) := by
  have ht : (w.transaction w.nextTransaction).synchronizations = [] := by
    obtain ht | ⟨u, hu⟩ := h.tenure w.nextTransaction
    · exact ht.joined
    · exact absurd (World.knows_of_isActive hu.isActive) hnew
  have hs : SameRecords w ({ w with supply := w.supply.advance }.record
      (.transactionBegun w.nextTransaction)) := ⟨rfl, rfl, rfl, rfl⟩
  obtain ⟨ha, hv⟩ := (h.sameRecords hs).setTransaction (t := w.nextTransaction) (z := .begin)
    ht.symm fun _ => rfl
  exact ⟨(Apart.of_sameRecords hs).trans ha, hv⟩

theorem Tidy.serve (h : Tidy w) (hs : ReflTransGen (UnitStep u) w v) :
    Apart (w.unit u).transaction w v ∧ Tidy v := by
  have hc := changes_of_steps hs
  by_cases hu : (w.unit u).status = .completed
  · have hr := sameRecords_of_changes hc hu
    exact ⟨.of_sameRecords hr, h.sameRecords hr⟩
  · have ha := h.attached hu
    have hcv := (Carried.refl ha.holding).changes hc
    have hapart := hcv.apart rfl
    refine ⟨hapart, h.apart hapart (.inr ⟨u, hcv.attached ha⟩) ?_⟩
    intro y hy hys
    by_cases hyu : y = u
    · subst hyu
      rw [status_of_changes hc, hcv.aside.bound]
      exact h.live y hu
    · rw [hcv.aside.units y hyu] at hy hys ⊢
      rw [hcv.aside.bound, ← hy]
      exact h.live y hys

theorem Tidy.setUnit (h : Tidy w) {z : UnitOfWork (Party Q)}
    (ht : z.transaction = (w.unit u).transaction) (hp : z.participants = (w.unit u).participants)
    (hs : z.status ≠ .completed → z.status = (w.unit u).status) :
    Apart (w.unit u).transaction w (w.setUnit u z) ∧ Tidy (w.setUnit u z) := by
  have hself := World.unit_setUnit_self w u z
  have hother : ∀ y, y ≠ u → (w.setUnit u z).unit y = w.unit y :=
    fun y hy => World.unit_setUnit_of_ne w z hy
  have ha : Apart (w.unit u).transaction w (w.setUnit u z) := by
    refine .of_units (.setUnit w u z) (fun _ _ => rfl) (fun _ _ => rfl) (fun _ _ _ => rfl) hother
      (.inl rfl) ?_
    rw [hself, ht]
  refine ⟨ha, h.apart ha ?_ ?_⟩
  · obtain ho | ⟨y, hy⟩ := h.tenure (w.unit u).transaction
    · exact .inl ⟨ho.joined, ho.bound, ho.staged⟩
    · refine .inr ⟨y, hy.isActive, hy.joined, hy.bound, ha.persists.units y hy.known, ?_⟩
      by_cases hyu : y = u
      · subst hyu
        exact hy.holding.setUnit ht hp
      · have hyv := hother y hyu
        exact ⟨by rw [hyv, hy.holding.owner], by rw [hyv]; exact hy.holding.enlisted,
          by rw [hyv]; exact hy.holding.own⟩
  · intro y hy hys
    by_cases hyu : y = u
    · subst hyu
      rw [hself] at hys ⊢
      have hst := hs hys
      rw [hst] at hys ⊢
      exact h.live y hys
    · rw [hother y hyu] at hy hys ⊢
      rw [← hy]
      exact h.live y hys

theorem Tidy.discard {ε : Type} (h : Tidy w) (u : UnitRef) :
    Apart (w.unit u).transaction w ((WorldAct.discard u : ShopAct Q H ε Unit) w).2 ∧
      Tidy ((WorldAct.discard u : ShopAct Q H ε Unit) w).2 := by
  let m := w.record (.unitDiscarded (w.unit u).transaction (w.unit u).queue.length)
  have hs : SameRecords w m := ⟨rfl, rfl, rfl, rfl⟩
  obtain ⟨ha, hv⟩ := (h.sameRecords hs).setUnit (u := u) (z := (w.unit u).discard) rfl rfl
    fun hd => absurd rfl hd
  exact ⟨(Apart.of_sameRecords hs).trans ha, hv⟩

/-- A transaction that is asked for its unit has it, gets one, or refuses. -/
inductive Current (t : TransactionId) (w : ShopWorld Q H) : ShopWorld Q H → Prop
  | same : Current t w w
  | fresh {v : ShopWorld Q H} (ha : (w.transaction t).status.isActive = true)
      (hb : w.bound.get? t = none)
      (hv : v = { (WorldAct.offering w t).setTransaction t { w.transaction t with
          synchronizations := (w.transaction t).synchronizations ++ [.unit w.freshUnit] } with
        bound := w.bound.insert t w.freshUnit }) : Current t w v

theorem current_cases (t : TransactionId) (w : ShopWorld Q H) :
    Current t w (WorldAct.currentUnit (.ofLocal t) w).2 := by
  cases ha : (w.transaction t).status.isActive with
  | false =>
    rw [WorldAct.currentUnit_over w ha]
    exact .same
  | true =>
    rw [WorldAct.currentUnit_active (t := .ofLocal t) w ha]
    cases hb : w.bound.get? t with
    | some u =>
      rw [WorldAct.startUnit_bound w u hb]
      exact .same
    | none =>
      rw [WorldAct.startUnit_joined (t := .ofLocal t) w hb
        (WorldAct.synchronize_open (WorldAct.offering w t) ha _)]
      exact .fresh ha hb rfl

namespace Current

theorem host (h : Current t w v) : v.host = w.host := by
  cases h with
  | same => rfl
  | fresh ha hb hv =>
    rw [hv]
    rfl

/-- A unit is the same as before, or it is new. -/
theorem unit (h : Current t w v) (y : UnitRef) :
    v.unit y = w.unit y ∨ w.units.get? y = none ∧ v.unit y = .begin t w.settings := by
  cases h with
  | same => exact .inl rfl
  | fresh ha hb hv =>
    rw [hv]
    by_cases hy : y = w.freshUnit
    · subst hy
      exact .inr ⟨w.get?_freshUnit, World.unit_setUnit_self _ _ _⟩
    · exact .inl (World.unit_setUnit_of_ne _ _ hy)

theorem apart (h : Current t w v) : Apart t w v := by
  cases h with
  | same => exact .of_sameRecords (.refl w)
  | fresh ha hb hv =>
    have hp : Persists w v := by
      rw [hv]
      exact (Persists.setUnit _ _ _).trans ((Persists.setTransaction _ _ _).trans (.of_eq rfl rfl))
    refine .of_units (u := w.freshUnit) hp ?_ ?_ ?_ ?_ (.inr w.get?_freshUnit) ?_
    · intro x hx
      rw [hv]
      exact World.transaction_setTransaction_of_ne _ _ hx
    · intro x hx
      rw [hv]
      exact KeyedList.get?_insert_of_ne _ _ hx
    · intro x _ r
      rw [hv]
      rfl
    · intro y hy
      rw [hv]
      exact World.unit_setUnit_of_ne _ _ hy
    · rw [hv]
      exact congrArg UnitOfWork.transaction (World.unit_setUnit_self _ _ _)

theorem eq_of_attached (h : Current t w v) (ha : Attached t u w) : v = w := by
  cases h with
  | same => rfl
  | fresh _ hb _ => cases hb.symm.trans ha.bound

/-- A transaction that has nothing keeps nothing, or gets a new unit that holds nothing yet. -/
theorem tenure (h : Current t w v) (ht : Unattached t w) :
    v = w ∨ Attached t w.freshUnit v ∧ v.unit w.freshUnit = .begin t w.settings ∧
      ∀ y, y ≠ w.freshUnit → v.unit y = w.unit y := by
  cases h with
  | same => exact .inl rfl
  | fresh ha hb hv =>
    have hself : v.unit w.freshUnit = .begin t w.settings := by
      rw [hv]
      exact World.unit_setUnit_self _ _ _
    have htx : v.transaction t = { w.transaction t with
        synchronizations := (w.transaction t).synchronizations ++ [.unit w.freshUnit] } := by
      rw [hv]
      exact World.transaction_setTransaction_self _ _ _
    have htable : ∀ r : TableRef, r.table v = r.table w := by
      intro r
      rw [hv]
      rfl
    refine .inr ⟨⟨?_, ?_, ?_, ?_, ?_, ?_, ?_⟩, hself, ?_⟩
    · rw [htx]
      exact ha
    · rw [htx, ht.joined]
      rfl
    · rw [hv]
      exact KeyedList.get?_insert_self _ _ _
    · rw [hv]
      change (w.units.insert w.freshUnit _).get? w.freshUnit ≠ none
      rw [KeyedList.get?_insert_self]
      exact fun he => by cases he
    · rw [hself]
      rfl
    · intro r hr
      rw [htable, ht.staged] at hr
      cases hr
    · intro r x hm
      rw [hself] at hm
      cases hm
    · intro y hy
      rw [hv]
      exact World.unit_setUnit_of_ne _ _ hy

end Current

theorem Tidy.current (h : Tidy w) (hc : Current t w v) : Apart t w v ∧ Tidy v := by
  obtain ht | ⟨u, hu⟩ := h.tenure t
  · obtain rfl | ⟨ha, hself, hother⟩ := hc.tenure ht
    · exact ⟨hc.apart, h⟩
    · refine ⟨hc.apart, h.apart hc.apart (.inr ⟨_, ha⟩) ?_⟩
      intro y hy hs
      by_cases hyf : y = w.freshUnit
      · subst hyf
        rw [hself]
        exact ⟨rfl, ha.bound⟩
      · rw [hother y hyf] at hy hs
        cases ht.bound.symm.trans (hy ▸ (h.live y hs).2)
  · rw [hc.eq_of_attached hu]
    exact ⟨.of_sameRecords (.refl w), h⟩

end Steps

/-- A transaction is over. What it had is gone: a unit that the registry has forgotten is completed,
and every table has settled what was staged. -/
structure Concluded (t : TransactionId) (o : Outcome) (d v : ShopWorld Q H) : Prop where
  apart : Apart t d v
  unattached : Unattached t v
  status : (v.transaction t).status = .completed o
  units : ∀ y, v.unit y = d.unit y ∧ d.bound.get? t ≠ some y ∨ (v.unit y).status = .completed
  tables : ∀ r : TableRef, r.table v = (r.table d).settle t o
  host : v.host.host = d.host.host

theorem Concluded.sameRecords {o : Outcome} (h : Concluded t o m v) (hs : SameRecords w m)
    (hh : m.host.host = w.host.host) : Concluded t o w v where
  apart := (Apart.of_sameRecords hs).trans h.apart
  unattached := h.unattached
  status := h.status
  units y := by
    rw [← hs.unit, ← hs.bound]
    exact h.units y
  tables r := by rw [h.tables, hs.table]
  host := h.host.trans hh

theorem Concluded.isOver {o : Outcome} (h : Concluded t o m v) (hk : m.Knows t) : v.Over t :=
  ⟨h.apart.persists.known t hk, by rw [h.status]; rfl⟩

/-- What has been left of a transaction's units before it ends is known to the registry. -/
theorem Concluded.tidy {o : Outcome} (h : Concluded t o m v) (hw : Tidy w) (ha : Apart t w m)
    (hl : ∀ y, (m.unit y).transaction = t → (m.unit y).status ≠ .completed →
      m.bound.get? t = some y) : Apart t w v ∧ Tidy v := by
  have hapart := ha.trans h.apart
  refine ⟨hapart, hw.apart hapart (.inl h.unattached) ?_⟩
  intro y hy hs
  obtain ⟨hu, hb⟩ | hc := h.units y
  · rw [hu] at hy hs
    exact absurd (hl y hy hs) hb
  · exact absurd hc hs

theorem Concluded.undone {o : Outcome} (h : Concluded t o w v) (hw : Tidy w) :
    Apart t w v ∧ Tidy v := by
  apply h.tidy hw (.of_sameRecords (.refl w))
  intro y hy hs
  rw [← hy]
  exact (hw.live y hs).2

section Ends

variable [Chronicle H (Party Empty)] {deliver : Dispatcher (Party Empty) (Premises H)}
  {patience : Nat} {o : Outcome} {w d v : ShopWorld Empty H}

theorem complete_persists (t : TransactionId) (o : Outcome)
    (hv : (dealing deliver patience).complete t o d = (.done (), v)) :
    Persists d v ∧ v.host.host = d.host.host := by
  let I (m : ShopWorld Empty H) := Persists d m ∧ m.host.host = d.host.host
  have hi : Host.Indifferent I :=
    ⟨fun m _ h => ⟨h.1.trans (.of_eq rfl rfl), h.2⟩,
      fun m u x h => ⟨h.1.trans (.setUnit m u x), h.2⟩,
      fun m _ h => ⟨h.1.trans (.of_eq rfl rfl), h.2⟩⟩
  have hafter : ∀ p, ((dealing deliver patience).after p o).Keeps I := by
    intro p
    cases p with
    | other q => exact q.elim
    | stagedWrites r x =>
      exact Task.Keeps.atOnce (settle_keeps (fun m _ h => ⟨h.1.trans (.of_eq rfl rfl), h.2⟩)
        (fun m _ _ h => ⟨h.1.trans (.of_eq rfl rfl), h.2⟩) r x o)
  have hc := Host.complete_state _ t hi hafter ⟨.setTransaction d t _, rfl⟩
  rwa [hv] at hc

theorem Attached.complete (h : Attached t u d)
    (hv : (dealing deliver patience).complete t o d = (.done (), v)) : Concluded t o d v := by
  obtain ⟨m, hm, hc⟩ := complete_unit (h := dealing deliver patience) (fun _ _ _ => rfl) o
    (fun q _ => q.elim) h.joined h.holding.owner h.bound h.holding.own
  obtain rfl : m = v := (Prod.mk.inj (hm.symm.trans hv)).2
  obtain ⟨hp, hhost⟩ := complete_persists t o hv
  have htables : ∀ r : TableRef, r.table m = (r.table d).settle t o :=
    fun r => hc.tables r (h.holding.enlisted r)
  refine ⟨.of_units hp hc.transactions ?_ ?_ hc.units (.inl h.holding.owner) ?_, ⟨?_, ?_, ?_⟩, ?_,
    ?_, htables, hhost⟩
  · intro x hx
    rw [hc.bound, KeyedList.get?_erase, if_neg hx]
  · intro x hx r
    rw [htables, Table.staged_settle_of_ne _ o hx]
  · rw [hc.unit]
    exact h.holding.owner
  · rw [hc.transaction]
    rfl
  · rw [hc.bound, KeyedList.get?_erase_self]
  · intro r
    rw [htables, Table.staged_settle]
  · rw [hc.transaction]
    rfl
  · intro y
    by_cases hy : y = u
    · right
      rw [hy, hc.unit]
      rfl
    · left
      refine ⟨hc.units y hy, fun hb => hy ?_⟩
      exact (Option.some.inj (h.bound.symm.trans hb)).symm

theorem Unattached.complete (h : Unattached t d)
    (hv : (dealing deliver patience).complete t o d = (.done (), v)) : Concluded t o d v := by
  have hc := Host.complete_alone (dealing deliver patience) t (o := o) h.joined
  obtain rfl := (Prod.mk.inj (hc.symm.trans hv)).2
  have hself := World.transaction_setTransaction_self d t ((d.transaction t).complete o)
  refine ⟨(Apart.setTransaction d t _).trans (.of_sameRecords ⟨rfl, rfl, rfl, rfl⟩),
    ⟨congrArg Transaction.synchronizations hself, h.bound, h.staged⟩,
    congrArg Transaction.status hself, ?_, fun r => (Table.settle_of_none (h.staged r) o).symm, rfl⟩
  intro y
  left
  refine ⟨rfl, ?_⟩
  rw [h.bound]
  exact fun he => by cases he

theorem Tidy.complete (h : Tidy d)
    (hv : (dealing deliver patience).complete t o d = (.done (), v)) : Concluded t o d v := by
  obtain ht | ⟨u, hu⟩ := h.tenure t
  · exact ht.complete hv
  · exact hu.complete hv

section Drain

variable (patience) (hd : ∀ batch u, (deliver batch u).Within (UnitStep u))

include hd

theorem Holding.drain (h : Holding t u w) :
    Carried t u w ((dealing deliver patience).drain u w).2 := by
  refine Host.drain_keeps _ u (fun m _ hm => hm.sameRecords ⟨rfl, rfl, rfl, rfl⟩)
    (fun _ _ _ hm => hm.setUnit rfl rfl) ?_ w (.refl h)
  intro batch
  apply Task.Keeps.bind
  · exact Task.Keeps.modify fun m hm => hm.sameRecords ⟨rfl, rfl, rfl, rfl⟩
  · intro _ m hm
    exact hm.changes (changes_of_steps ((hd batch u).steps m))

theorem drain_returns (u : UnitRef) (w : ShopWorld Empty H) :
    ∃ r d, (dealing deliver patience).drain u w = (.ofExcept r, d) := by
  apply Host.drain_exit
  intro batch m
  obtain ⟨r, hr⟩ := (hd batch u).exit (m.note (.dispatched u batch))
  exact ⟨r, _, hr⟩

/-- Tables agree at once, so the drain decides. -/
theorem Attached.askAll (h : Attached t u w) {answer : Except UnitOfWorkError Unit}
    (hv : (dealing deliver patience).askAll t patience 0 w = (.ofExcept answer, d)) :
    (dealing deliver patience).drain u w = (.ofExcept answer, d) ∧ Carried t u w d := by
  have hcarried := h.holding.drain patience hd
  have hagree (n place : Nat) (m : ShopWorld Empty H) :
      (dealing deliver patience).askParticipants u n place m = (.done (), m) ∨
        ∃ i, (dealing deliver patience).askParticipants u n place m = (.interrupted i, m) := by
    induction n generalizing place with
    | zero => exact .inr ⟨.exhausted, rfl⟩
    | succ n ih =>
      unfold Host.askParticipants
      rw [Task.bind_done (Task.gets_apply _ m)]
      cases (m.unit u).participants[place]? with
      | none => exact .inl rfl
      | some p =>
        cases p with
        | other q => exact q.elim
        | stagedWrites r x => exact ih (place + 1)
  obtain ⟨r, m, hr⟩ := drain_returns patience hd u w
  have hm := hcarried
  rw [hr] at hm
  have hdrain := Host.askAll_unit _ u t h.joined ⟨r, m, hr, (hm.attached h).joined⟩
    (hagree _ 0) hv
  rw [hdrain] at hcarried
  exact ⟨hdrain, hcarried⟩

end Drain

/-- The ways of a commit. -/
inductive Commitment (h : Host (Party Empty) (Premises H)) (t : TransactionId)
    (w : ShopWorld Empty H) : Except TransactionError Unit → ShopWorld Empty H → Prop
  | closed {e : TransactionError} (hc : (w.transaction t).status.isActive = false) :
      Commitment h t w (.error e) w
  | marked {e : TransactionError} {v : ShopWorld Empty H}
      (hm : (w.transaction t).status = .markedRollback) (hv : Concluded t .rolledBack w v) :
      Commitment h t w (.error e) v
  | alone {v : ShopWorld Empty H} (ha : (w.transaction t).status = .active) (ht : Unattached t w)
      (hv : Concluded t .committed w v) : Commitment h t w (.ok ()) v
  | agreed {u : UnitRef} {d v : ShopWorld Empty H} (ha : (w.transaction t).status = .active)
      (ht : Attached t u w) (hd : h.drain u w = (.done (), d)) (hc : Carried t u w d)
      (hv : Concluded t .committed d v) : Commitment h t w (.ok ()) v
  | refused {e : TransactionError} {f : UnitOfWorkError} {u : UnitRef} {d v : ShopWorld Empty H}
      (ha : (w.transaction t).status = .active) (ht : Attached t u w)
      (hd : h.drain u w = (.failed f, d)) (hc : Carried t u w d)
      (hv : Concluded t .rolledBack d v) : Commitment h t w (.error e) v

theorem Tidy.commit (h : Tidy w) (hd : ∀ batch u, (deliver batch u).Within (UnitStep u))
    {result : Except TransactionError Unit}
    (hv : (dealing deliver patience).commit t w = (.ofExcept result, v)) :
    Commitment (dealing deliver patience) t w result v := by
  cases ha : (w.transaction t).status.isActive with
  | false =>
    rw [Host.commit_closed _ t ha] at hv
    obtain ⟨hr, rfl⟩ := Prod.mk.inj hv
    rw [Exit.eq_error_of_failed hr]
    exact .closed ha
  | true =>
    cases Host.commit_return _ t ha hv with
    | marked hm hcomplete => exact .marked hm (h.complete hcomplete)
    | @refused e m _ hactive hask hcomplete =>
      have hask : (dealing deliver patience).askAll t patience 0 w = (.ofExcept (.error e), m) :=
        hask
      obtain ht | ⟨u, hu⟩ := h.tenure t
      · cases (Host.askAll_alone _ t ht.joined hask).1
      · obtain ⟨hdrain, hc⟩ := hu.askAll patience hd hask
        have hs : SameRecords m (m.record (.beforeCompletionFailed t e.message)) :=
          ⟨rfl, rfl, rfl, rfl⟩
        have hcv := ((hc.sameRecords hs).attached hu).complete hcomplete
        exact .refused hactive hu hdrain hc (hcv.sameRecords hs rfl)
    | @agreed m _ hactive hask hcomplete =>
      have hask : (dealing deliver patience).askAll t patience 0 w = (.ofExcept (.ok ()), m) := hask
      obtain ht | ⟨u, hu⟩ := h.tenure t
      · obtain ⟨-, rfl⟩ := Host.askAll_alone _ t ht.joined hask
        exact .alone hactive ht (ht.complete hcomplete)
      · obtain ⟨hdrain, hc⟩ := hu.askAll patience hd hask
        exact .agreed hactive hu hdrain hc ((hc.attached hu).complete hcomplete)

/-- What has joined a transaction decides how it ends; other transactions are left alone. -/
theorem Commitment.tidy {result : Except TransactionError Unit}
    (hc : Commitment (dealing deliver patience) t w result v) (h : Tidy w) :
    Apart t w v ∧ Tidy v := by
  have hdrained {u : UnitRef} {d : ShopWorld Empty H} {o : Outcome} (ht : Attached t u w)
      (hcd : Carried t u w d) (hv : Concluded t o d v) : Apart t w v ∧ Tidy v := by
    apply hv.tidy h (hcd.apart ht.holding.owner)
    intro y hy hs
    rw [hcd.aside.bound]
    by_cases hyu : y = u
    · rw [hyu]
      exact ht.bound
    · rw [hcd.aside.units y hyu] at hy hs
      rw [← hy]
      exact (h.live y hs).2
  cases hc with
  | closed hc => exact ⟨.of_sameRecords (.refl w), h⟩
  | marked hm hv => exact hv.undone h
  | alone ha ht hv => exact hv.undone h
  | agreed ha ht hd hcd hv => exact hdrained ht hcd hv
  | refused ha ht hd hcd hv => exact hdrained ht hcd hv

omit [Chronicle H (Party Empty)] in
theorem Commitment.isOver {h : Host (Party Empty) (Premises H)}
    {result : Except TransactionError Unit} (hc : Commitment h t w result v) (hk : w.Knows t) :
    v = w ∨ (w.transaction t).status.isActive = true ∧ v.Over t := by
  cases hc with
  | closed hc => exact .inl rfl
  | marked hm hv => exact .inr ⟨by rw [hm]; rfl, hv.isOver hk⟩
  | alone ha ht hv => exact .inr ⟨by rw [ha]; rfl, hv.isOver hk⟩
  | agreed ha ht hd hcd hv => exact .inr ⟨by rw [ha]; rfl, hv.isOver (hcd.persists.known t hk)⟩
  | refused ha ht hd hcd hv => exact .inr ⟨by rw [ha]; rfl, hv.isOver (hcd.persists.known t hk)⟩

theorem Tidy.rollback (h : Tidy w) {result : Except TransactionError Unit}
    (hv : (dealing deliver patience).rollback t w = (.ofExcept result, v)) :
    (∃ e, result = .error e ∧ v = w) ∨
      result = .ok () ∧ (w.transaction t).status.isActive = true ∧ Concluded t .rolledBack w v := by
  obtain ⟨e, hr, -, hw⟩ | ⟨hr, ha, hc⟩ := Host.rollback_return _ t hv
  · exact .inl ⟨e, hr, hw⟩
  · exact .inr ⟨hr, ha, h.complete hc⟩

end Ends

end Shop

end Transactor
