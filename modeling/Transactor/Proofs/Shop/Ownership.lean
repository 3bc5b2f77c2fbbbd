import Mathlib.Data.List.Dedup
import Transactor.Proofs.Shop.Custody
import Transactor.Proofs.Shop.Overlay

namespace Transactor.Shop

open Relation

deriving instance DecidableEq for Party

variable {D : Type} {t x : TransactionId} {u : UnitRef} {w v : Floor D}

/-- One thing that is done to a world, also while a unit is drained and its handlers are called. -/
inductive Stroke : Floor D → Floor D → Prop
  | served {u : UnitRef} {w v : Floor D} (hs : Service u w v) : Stroke w v
  | aside {w v : Floor D} (hs : SameRecords w v) (hw : written v = written w) : Stroke w v
  | begin {w : Floor D} (hnew : ¬ w.Knows w.nextTransaction) : Stroke w (begun w)
  | current (t : TransactionId) (w : Floor D) :
      Stroke w (WorldAct.currentUnit (.ofLocal t) w).2
  | discard (u : UnitRef) (w : Floor D) :
      Stroke w ((WorldAct.discard u : ShopAct Empty (Annals D) OrderingError Unit) w).2
  | mark (t : TransactionId) (w : Floor D) : Stroke w (WorldAct.markRollback t w).2
  | startDrain (u : UnitRef) (w : Floor D) :
      Stroke w (WorldAct.updateUnit u UnitOfWork.startDrain w).2
  | clearQueue (u : UnitRef) (w : Floor D) : Stroke w (w.setUnit u (w.unit u).clearQueue)
  | endDrain (u : UnitRef) (failed : Bool) (w : Floor D) :
      Stroke w (w.setUnit u ((w.unit u).endDrain failed))
  | complete (deliver : Dispatcher (Party Empty) (Premises (Annals D))) (patience : Nat)
      (t : TransactionId) (o : Outcome) (w : Floor D) :
      Stroke w ((dealing deliver patience).complete t o w).2

theorem markRollback_cases (t : TransactionId) (w : Floor D) :
    (WorldAct.markRollback t w).2 = w ∨ (w.transaction t).status.isActive = true ∧
      (WorldAct.markRollback t w).2 =
        w.setTransaction t { w.transaction t with status := .markedRollback } := by
  cases ha : (w.transaction t).status.isActive with
  | true => exact .inr ⟨rfl, by rw [WorldAct.markRollback_open w ha]⟩
  | false => exact .inl (by rw [WorldAct.markRollback_closed w ha])

namespace Stroke

theorem inCustody (h : Stroke w v) (hw : InCustody w) : InCustody v := by
  cases h with
  | served hs =>
    have hc := changes_of_steps hs.steps
    exact Task.keeps_of_steps (I := InCustody) (fun _ _ hs hm => hm.change hs) hc hw
  | aside hs _ => exact hw.sameHoldings (.of_sameRecords hs)
  | begin hnew => exact hw.begin hnew
  | current t w => exact hw.current (current_cases t w)
  | discard u w => exact hw.discard u
  | mark t w =>
    obtain h | ⟨-, h⟩ := markRollback_cases t w
    · rwa [h]
    · rw [h]
      exact hw.sameHoldings (.setTransaction w t (fun _ => rfl) rfl)
  | startDrain u w =>
    obtain h | ⟨ha, h⟩ := Host.startDrain_cases u w
    · rwa [h]
    · rw [h]
      exact hw.sameHoldings (.setUnit w u rfl rfl fun _ => by rw [ha]; rfl)
  | clearQueue u w => exact hw.sameHoldings (.setUnit w u rfl rfl id)
  | endDrain u failed w => exact hw.sameHoldings (.setUnit w u rfl rfl fun ha => by cases ha)
  | complete deliver patience t o w =>
    obtain ⟨v, hv, -, -, hc⟩ := hw.complete deliver patience t o
    rwa [hv]

theorem staysOver (h : Stroke w v) (hw : InCustody w) (ho : w.Over x) : v.Over x := by
  have hsame {m : Floor D} (hm : m.transactions = w.transactions) : m.Over x := by
    rwa [World.Over, World.Knows, World.transaction, hm]
  cases h with
  | served hs => exact hsame (aside_of_changes (changes_of_steps hs.steps)).transactions
  | aside hs _ => exact hsame hs.transactions
  | begin hnew =>
    refine World.Over.setTransaction (hsame rfl) ?_
    rintro rfl
    exact absurd ho.1 hnew
  | current t w =>
    have hc := current_cases t w
    generalize (WorldAct.currentUnit (.ofLocal t) w).2 = v at hc
    cases hc with
    | same => exact ho
    | fresh ha hb hv =>
      rw [hv]
      refine World.Over.setTransaction (hsame rfl) ?_
      rintro rfl
      exact ho.2
  | discard u w => exact hsame rfl
  | mark t w =>
    obtain h | ⟨ha, h⟩ := markRollback_cases t w
    · rwa [h]
    · rw [h]
      refine ho.setTransaction ?_
      rintro rfl
      cases ho.2.symm.trans ha
  | startDrain u w =>
    obtain h | ⟨-, h⟩ := Host.startDrain_cases u w
    · rwa [h]
    · rw [h]
      exact ho
  | clearQueue u w => exact ho
  | endDrain u failed w => exact ho
  | complete deliver patience t o w =>
    obtain ⟨v, hv, hc, hover, -⟩ := hw.complete deliver patience t o
    rw [hv]
    by_cases hx : x = t
    · rwa [hx]
    · refine ⟨hc.apart.persists.known x ho.1, ?_⟩
      rw [hc.apart.transaction x hx]
      exact ho.2

theorem mirrors (h : Stroke w v) (hw : InCustody w) (hx : ¬ v.Over x) (hm : Mirrors x w) :
    Mirrors x v := by
  have hsame {m : Floor D} (hm' : m.host = w.host) : Mirrors x m := by
    refine hm.congr (fun r => TableRef.table_congr hm' r) ?_
    rw [written, hm']
  cases h with
  | served hs => exact hs.staging.mirrors hm
  | aside hs heq => exact hm.congr hs.table heq
  | begin hnew => exact hsame rfl
  | current t w => exact hsame (current_cases t w).host
  | discard u w => exact hsame rfl
  | mark t w =>
    obtain h | ⟨-, h⟩ := markRollback_cases t w
    · rwa [h]
    · exact hsame (by rw [h]; rfl)
  | startDrain u w =>
    obtain h | ⟨-, h⟩ := Host.startDrain_cases u w
    · rwa [h]
    · exact hsame (by rw [h]; rfl)
  | clearQueue u w => exact hsame rfl
  | endDrain u failed w => exact hsame rfl
  | complete deliver patience t o w =>
    obtain ⟨v, hv, hc, hover, -⟩ := hw.complete deliver patience t o
    rw [hv] at hx ⊢
    apply hc.mirrors _ hm
    rintro rfl
    exact hx hover

end Stroke

/-- What every stroke keeps. -/
structure Accounted (w : Floor D) : Prop where
  inCustody : InCustody w
  mirrored : Mirrored w

theorem Accounted.strokes (h : Accounted w) (hs : ReflTransGen Stroke w v) : Accounted v := by
  refine Task.keeps_of_steps (I := Accounted) ?_ hs h
  intro w v hs hw
  refine ⟨hs.inCustody hw.inCustody, fun x hx => ?_⟩
  exact hs.mirrors hw.inCustody hx (hw.mirrored x fun ho => hx (hs.staysOver hw.inCustody ho))

section Operations

variable {deliver : Dispatcher (Party Empty) (Premises (Annals D))} (patience : Nat)

section Strokes

variable (hd : ∀ batch u w, ReflTransGen Stroke w (deliver batch u w).2)

include hd

theorem drain_strokes (u : UnitRef) (w : Floor D) :
    ((dealing deliver patience).drain u).Keeps (ReflTransGen Stroke w) := by
  have hrecord (m : Floor D) (e : TraceEvent) (h : ReflTransGen Stroke w m) :
      ReflTransGen Stroke w (m.record e) := h.tail (.aside ⟨rfl, rfl, rfl, rfl⟩ rfl)
  have hdispatch (batch : List Message) :
      ((dealing deliver patience).dispatch batch u).Keeps (ReflTransGen Stroke w) := by
    apply Task.Keeps.bind
    · exact Task.Keeps.modify fun m h => h.tail (.aside ⟨rfl, rfl, rfl, rfl⟩ rfl)
    · exact fun _ m h => h.trans (hd batch u m)
  exact Host.drain_keeps_of_parts _ u hrecord (fun m h => h.tail (.startDrain u m))
    (fun m h => h.tail (.clearQueue u m)) (fun m failed h => h.tail (.endDrain u failed m))
    hdispatch

theorem askAll_strokes (t : TransactionId) (w : Floor D) :
    ((dealing deliver patience).askAll t patience 0).Keeps (ReflTransGen Stroke w) := by
  have hbefore (p : Party Empty) :
      ((dealing deliver patience).before p).Keeps (ReflTransGen Stroke w) := by
    cases p with
    | stagedWrites r x => exact Task.Keeps.pure ()
    | other q => exact q.elim
  apply Host.askAll_keeps
  intro m hm s _
  cases s with
  | party p => exact hbefore p m hm
  | unit u =>
    have hu := (drain_strokes patience hd u w).bind fun _ =>
      Host.askParticipants_keeps _ u hbefore patience 0
    exact hu m hm

end Strokes

theorem complete_strokes (t : TransactionId) (o : Outcome) (w : Floor D) :
    ((dealing deliver patience).complete t o).Keeps (ReflTransGen Stroke w) :=
  fun m hm => hm.tail (.complete deliver patience t o m)

theorem rollback_strokes (t : TransactionId) (w : Floor D) :
    ((dealing deliver patience).rollback t).Keeps (ReflTransGen Stroke w) :=
  Host.rollback_keeps_of_complete _ t (complete_strokes patience t .rolledBack w)

theorem commit_strokes (hd : ∀ batch u w, ReflTransGen Stroke w (deliver batch u w).2)
    (t : TransactionId) (w : Floor D) :
    ((dealing deliver patience).commit t).Keeps (ReflTransGen Stroke w) :=
  Host.commit_keeps_of_parts _ t (fun _ _ h => h.tail (.aside ⟨rfl, rfl, rfl, rfl⟩ rfl))
    (askAll_strokes patience hd t w) fun o => complete_strokes patience t o w

/-- Each operation comes down to strokes, whether it succeeds, fails or is given up. -/
theorem Action.strokes (hd : ∀ batch u w, ReflTransGen Stroke w (deliver batch u w).2) (a : Action)
    (w : Floor D) (hnew : a = .begin → ¬ w.Knows w.nextTransaction) :
    ReflTransGen Stroke w (a.run (dealing deliver patience) w).2 := by
  cases a with
  | begin => exact .single (.begin (hnew rfl))
  | current t =>
    have hstate : ((Action.current t).run (dealing deliver patience) w).2 =
        (WorldAct.currentUnit (.ofLocal t) w).2 := congrArg Prod.snd (Act.bind_pure_apply _ _ w)
    rw [hstate]
    exact .single (.current t w)
  | register u r => exact .single (.served (.register r w))
  | access u x => exact .single (.served (.access x w))
  | discard u => exact .single (.discard u w)
  | mark t => exact .single (.mark t w)
  | commit t => exact (commit_strokes patience hd t w).mapError _ w .refl
  | rollback t => exact (rollback_strokes patience t w).mapError _ w .refl

end Operations

theorem lastWrite_isSome {r : TableRef} {id : Uuid} {ys : List Write} :
    (lastWrite t r id ys).isSome ↔ ∃ y ∈ ys, y.table = r ∧ y.transaction = t ∧ y.id = id := by
  have hrow (y : Write) :
      y.row? t r id ≠ none ↔ y.table = r ∧ y.transaction = t ∧ y.id = id := by
    unfold Write.row?
    by_cases hr : y.table = r
    · rw [dif_pos hr]
      by_cases ht : y.transaction = t ∧ y.id = id
      · rw [if_pos ht]
        exact ⟨fun _ => ⟨hr, ht⟩, fun _ he => by cases he⟩
      · rw [if_neg ht]
        exact ⟨fun hn => absurd rfl hn, fun h => absurd h.2 ht⟩
    · rw [dif_neg hr]
      exact ⟨fun hn => absurd rfl hn, fun h => absurd h.1 hr⟩
  rw [lastWrite, List.getLast?_isSome, ne_eq, List.filterMap_eq_nil_iff]
  simp only [not_forall, exists_prop]
  exact exists_congr fun y => and_congr_right fun _ => hrow y

/-- The tables that a transaction has written, each as often as it has. -/
def tablesWritten (t : TransactionId) (w : Floor D) : List TableRef :=
  ((written w).filter fun y => y.transaction = t).map Write.table

theorem mem_tablesWritten {r : TableRef} :
    r ∈ tablesWritten t w ↔ ∃ y ∈ written w, y.table = r ∧ y.transaction = t := by
  simp only [tablesWritten, List.mem_map, List.mem_filter, decide_eq_true_eq]
  grind

/-- A table has an entry for an open transaction if the transaction has written it. -/
theorem Accounted.entry_iff_written (h : Accounted w)
    (ha : (w.transaction t).status.isActive = true) (r : TableRef) :
    ((r.table w).staged.get? t).isSome ↔ r ∈ tablesWritten t w := by
  have hm := h.mirrored.mirrors ha
  have hwritten (id : Uuid) : ((r.table w).stagedRow t id).isSome ↔
      ∃ y ∈ written w, y.table = r ∧ y.transaction = t ∧ y.id = id := by
    rw [hm r id, lastWrite_isSome]
  rw [mem_tablesWritten]
  constructor
  · intro he
    obtain ⟨rows, hrows⟩ := Option.isSome_iff_exists.mp he
    have hne := h.inCustody.filled r t rows hrows
    rw [ne_eq, KeyedList.eq_empty_iff, not_forall] at hne
    obtain ⟨id, hid⟩ := hne
    have hrow : ((r.table w).stagedRow t id).isSome := by
      rw [Table.stagedRow, hrows]
      exact Option.isSome_iff_ne_none.mpr hid
    obtain ⟨y, hy, hr, ht, -⟩ := (hwritten id).mp hrow
    exact ⟨y, hy, hr, ht⟩
  · rintro ⟨y, hy, hr, ht⟩
    have hrow := (hwritten y.id).mpr ⟨y, hy, hr, ht, rfl⟩
    obtain ⟨row, hrow⟩ := Option.isSome_iff_exists.mp hrow
    obtain ⟨rows, hrows, -⟩ := Option.bind_eq_some_iff.mp hrow
    rw [hrows]
    rfl

/-- The participants of a unit are the tables that its transaction has written, each once. -/
theorem Accounted.participants (h : Accounted w) (hc : Custodian t u w) :
    (w.unit u).participants.Perm
      ((tablesWritten t w).dedup.map fun r => .stagedWrites r t) := by
  have hn : ((tablesWritten t w).dedup.map fun r => (.stagedWrites r t : Party Empty)).Nodup := by
    refine (List.nodup_dedup _).map ?_
    intro r q hrq
    cases hrq
    rfl
  rw [List.perm_ext_iff_of_nodup hc.once hn]
  intro p
  rw [List.mem_map]
  constructor
  · intro hp
    cases p with
    | other q => exact q.elim
    | stagedWrites r y =>
      obtain rfl := hc.holding.own r y hp
      refine ⟨r, ?_, rfl⟩
      rw [List.mem_dedup, ← h.entry_iff_written hc.isActive]
      exact hc.staged r hp
  · rintro ⟨r, hr, rfl⟩
    rw [List.mem_dedup, ← h.entry_iff_written hc.isActive] at hr
    exact hc.holding.enlisted r hr

/-- Each staged row has one owner that will settle it. -/
structure Owned (w : Floor D) : Prop where
  /-- A table has an entry for a transaction if and only if the transaction is open and its unit has
  enlisted the table for it, once. -/
  entry : ∀ (r : TableRef) t, ((r.table w).staged.get? t).isSome ↔
    (w.transaction t).status.isActive = true ∧
      ∃ u, w.bound.get? t = some u ∧ (w.unit u).participants.count (.stagedWrites r t) = 1
  filled : ∀ (r : TableRef) t rows, (r.table w).staged.get? t = some rows → rows ≠ ∅
  /-- Nobody else has enlisted it. -/
  sole : ∀ (r : TableRef) t y, .stagedWrites r t ∈ (w.unit y).participants →
    w.bound.get? t = some y
  /-- The unit is what the transaction tells its outcome. -/
  joined : ∀ t u, w.bound.get? t = some u → (w.transaction t).synchronizations = [.unit u]
  count : ∀ t u, w.bound.get? t = some u →
    (w.unit u).participants.length = (tablesWritten t w).dedup.length
  settled : (∀ t, (w.transaction t).status.isActive = false) →
    ∀ r : TableRef, (r.table w).staged = ∅

theorem Accounted.owned (h : Accounted w) : Owned w := by
  have hentry (r : TableRef) (t : TransactionId) : ((r.table w).staged.get? t).isSome ↔
      (w.transaction t).status.isActive = true ∧
        ∃ u, w.bound.get? t = some u ∧ (w.unit u).participants.count (.stagedWrites r t) = 1 := by
    constructor
    · intro he
      obtain ht | ⟨u, hu⟩ := h.inCustody.transactions t
      · rw [ht.staged] at he
        cases he
      · have hmem := hu.holding.enlisted r he
        exact ⟨hu.isActive, u, hu.bound, List.count_eq_one_of_mem hu.once hmem⟩
    · rintro ⟨-, u, hb, hcount⟩
      apply (h.inCustody.custodian_of_bound hb).staged r
      rw [← List.count_pos_iff, hcount]
      exact Nat.one_pos
  refine ⟨hentry, h.inCustody.filled, ?_, ?_, ?_, ?_⟩
  · intro r t y hm
    obtain hc | hi := h.inCustody.units y
    · rw [hc.holding.own r t hm]
      exact hc.bound
    · rw [hi.2] at hm
      cases hm
  · exact fun t u hb => (h.inCustody.custodian_of_bound hb).joined
  · intro t u hb
    rw [(h.participants (h.inCustody.custodian_of_bound hb)).length_eq, List.length_map]
  · intro hover r
    rw [KeyedList.eq_empty_iff]
    intro t
    by_contra hne
    have ha := ((hentry r t).mp (Option.isSome_iff_ne_none.mpr hne)).1
    cases (hover t).symm.trans ha

/-- Nobody has done anything yet, and no unit has participants. -/
structure Fallow (w : Floor D) : Prop extends Opening w where
  participants : ∀ y, (w.unit y).participants = []

theorem Fallow.accounted (h : Fallow w) : Accounted w where
  inCustody := by
    refine ⟨fun t => .inl (h.unattached t), fun y => .inr ⟨?_, h.participants y⟩, ?_⟩
    · rw [h.completed]
      rfl
    · intro r t rows hr
      rw [(h.unattached t).staged] at hr
      cases hr
  mirrored := h.toOpening.mirrored

/-- Something is done: an operation, which may end in any way, the drain of a unit on its own, or a
stroke, as in the middle of a drain. Only identifiers that are new begin transactions. -/
inductive Proceeding (h : Host (Party Empty) (Premises (Annals D))) : Floor D → Floor D → Prop
  | action (a : Action) {w : Floor D} (hnew : a = .begin → ¬ w.Knows w.nextTransaction) :
      Proceeding h w (a.run h w).2
  | drain (u : UnitRef) (w : Floor D) : Proceeding h w (h.drain u w).2
  | stroke {w v : Floor D} (hs : Stroke w v) : Proceeding h w v

section Proceedings

variable {deliver : Dispatcher (Party Empty) (Premises (Annals D))} {patience : Nat} {w₀ : Floor D}

theorem proceedings_of_actions {h : Host (Party Empty) (Premises (Annals D))} (as : List Action)
    (ha : ∀ a ∈ as, a ≠ .begin) (w : Floor D) :
    ReflTransGen (Proceeding h) w (Action.outcome h w as) := by
  induction as generalizing w with
  | nil => exact .refl
  | cons a as ih =>
    have hnew : a = .begin → ¬ w.Knows w.nextTransaction :=
      fun he => absurd he (ha a List.mem_cons_self)
    exact .head (.action a hnew) (ih (fun b hb => ha b (List.mem_cons_of_mem a hb)) _)

theorem Proceeding.strokes (h : Proceeding (dealing deliver patience) w v)
    (hd : ∀ batch u w, ReflTransGen Stroke w (deliver batch u w).2) : ReflTransGen Stroke w v := by
  cases h with
  | action a hnew => exact a.strokes patience hd w hnew
  | drain u w => exact drain_strokes patience hd u w w .refl
  | stroke hs => exact .single hs

/-- Whatever is done in whatever order, and whatever handlers do stroke by stroke to any units and
transactions. Strokes may follow anything, so this is also said of the middle of a drain. -/
theorem staged_owned (hd : ∀ batch u w, ReflTransGen Stroke w (deliver batch u w).2)
    (hw₀ : Fallow w₀) (hr : ReflTransGen (Proceeding (dealing deliver patience)) w₀ w) :
    Owned w := by
  have hs : Accounted w := by
    refine Task.keeps_of_steps (I := Accounted) ?_ hr hw₀.accounted
    exact fun m v hm ha => ha.strokes (hm.strokes hd)
  exact hs.owned

end Proceedings

/-- Inserts into a second table on behalf of whatever unit it is called for, and does not mind if
that fails. -/
def restocking : Dispatcher (Party Empty) (Premises (Annals Unit)) := fun _ u =>
  Task.modify fun w => ((Access.insert ⟨.stockItem, 1⟩ (.fresh tenWidgets)).perform u w).2

/-- Two transactions write the same tables; one tries to insert twice and commits, and the other's
unit is discarded. -/
def refilling : List Action :=
  let shelf : TableRef := ⟨.stockItem, 0⟩
  [.current firstBuyer, .current secondBuyer, .access ⟨0⟩ (.insert shelf (.fresh tenWidgets)),
    .access ⟨0⟩ (.insert shelf (.fresh tenWidgets)),
    .access ⟨1⟩ (.insert shelf (.fresh tenWidgets)), .commit firstBuyer, .discard ⟨1⟩]

theorem staged_owned_refilling :
    let h := dealing restocking 3
    let w := Action.outcome h (twoBegun ()) refilling
    (∀ batch u w, ReflTransGen Stroke w (restocking batch u w).2) ∧ Fallow (twoBegun ()) ∧
      ReflTransGen (Proceeding h) (twoBegun ()) w ∧
      ((TableRef.table ⟨.stockItem, 0⟩ w).staged.get? secondBuyer).isSome = true ∧
      ((TableRef.table ⟨.stockItem, 1⟩ w).committed.get? widget).isSome = true ∧ Owned w := by
  intro h w
  have hd (batch : List Message) (u : UnitRef) (w : Floor Unit) :
      ReflTransGen Stroke w (restocking batch u w).2 := .single (.served (.access _ w))
  have hw₀ : Fallow (twoBegun ()) := ⟨opening_twoBegun (), fun _ => rfl⟩
  have hr : ReflTransGen (Proceeding h) (twoBegun ()) w := by
    apply proceedings_of_actions
    simp [refilling]
  exact ⟨hd, hw₀, hr, by decide +kernel, by decide +kernel, staged_owned hd hw₀ hr⟩

end Transactor.Shop
