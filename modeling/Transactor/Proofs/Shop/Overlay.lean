import Transactor.Proofs.Shop.Traffic

namespace Transactor

namespace KeyedList

variable {κ α : Type} [DecidableEq κ]

theorem find?_of_perm {l l' : List (κ × α)} (h : l.Perm l') (hn : (l.map Prod.fst).Nodup) (k : κ) :
    l.find? (fun e => e.1 = k) = l'.find? fun e => e.1 = k := by
  induction h with
  | nil => rfl
  | cons e _ ih =>
    rw [List.map_cons, List.nodup_cons] at hn
    rw [List.find?_cons, List.find?_cons, ih hn.2]
  | swap e f l =>
    rw [List.map_cons, List.map_cons, List.nodup_cons] at hn
    have hne : f.1 ≠ e.1 := fun he => hn.1 (he ▸ List.mem_cons_self)
    by_cases hf : f.1 = k
    · have he : e.1 ≠ k := fun he => hne (hf.trans he.symm)
      simp [hf, he]
    · simp [List.find?_cons, hf]
  | trans h₁ _ ih₁ ih₂ => rw [ih₁ hn, ih₂ ((h₁.map Prod.fst).nodup_iff.mp hn)]

end KeyedList

namespace Shop

open Relation

namespace Table

variable {E : Type}

theorem stagedRow_stage_of_ne (T : Table E) {t x : TransactionId} (id : Uuid) (row : Option E)
    (h : x ≠ t) : (T.stage t id row).stagedRow x = T.stagedRow x := by
  funext j
  simp only [stagedRow, stage, KeyedList.get?_insert_of_ne _ _ h]

/-- Rows may be committed in any order. -/
theorem get?_foldl_applyRow_of_perm {rows rows' : List (Uuid × Option E)} (h : rows'.Perm rows)
    (hn : (rows.map Prod.fst).Nodup) (m : KeyedList Uuid E) (id : Uuid) :
    (rows'.foldl applyRow m).get? id = (rows.foldl applyRow m).get? id := by
  have hn' := (h.map Prod.fst).nodup_iff.mpr hn
  rw [get?_foldl_applyRow hn', get?_foldl_applyRow hn, KeyedList.find?_of_perm h hn']

end Table

variable {D : Type} {u : UnitRef} {t x : TransactionId} {w m v : Floor D}

namespace Write

/-- What it leaves under an identifier of a table for a transaction, if it is about that. -/
def row? (t : TransactionId) (r : TableRef) (id : Uuid) (y : Write) : Option (Option r.Row) :=
  if h : y.table = r then if y.transaction = t ∧ y.id = id then some (h ▸ y.row) else none else none

/-- The world in which it is staged. -/
def staged (y : Write) (w : Floor D) : Floor D :=
  y.table.setTable w ((y.table.table w).stage y.transaction y.id y.row)

theorem stagedRow_staged (y : Write) (w : Floor D) (t : TransactionId) (r : TableRef) (id : Uuid) :
    (r.table (y.staged w)).stagedRow t id = (y.row? t r id).or ((r.table w).stagedRow t id) := by
  obtain ⟨q, z, i, row⟩ := y
  unfold staged row?
  by_cases hr : q = r
  · subst hr
    rw [TableRef.table_setTable_self, dif_pos rfl]
    by_cases hz : z = t
    · subst hz
      rw [Table.stagedRow_stage, Function.update_apply]
      by_cases hi : id = i
      · rw [if_pos hi, if_pos ⟨rfl, hi.symm⟩]
        rfl
      · rw [if_neg hi, if_neg fun h => hi h.2.symm]
        rfl
    · rw [Table.stagedRow_stage_of_ne _ _ _ fun h => hz h.symm, if_neg fun h => hz h.1]
      rfl
  · rw [q.table_setTable_of_ne _ fun h => hr h.symm, dif_neg hr]
    rfl

end Write

/-- What a transaction has written last under an identifier of a table: a row, or nothing if it has
removed the row. -/
def lastWrite (t : TransactionId) (r : TableRef) (id : Uuid) (ys : List Write) :
    Option (Option r.Row) :=
  (ys.filterMap (Write.row? t r id)).getLast?

theorem lastWrite_snoc (t : TransactionId) (r : TableRef) (id : Uuid) (ys : List Write)
    (y : Write) : lastWrite t r id (ys ++ [y]) = (y.row? t r id).or (lastWrite t r id ys) := by
  unfold lastWrite
  rw [List.filterMap_append, List.getLast?_append]
  cases h : y.row? t r id <;> simp [h]

/-- All that the host knows to have been written. -/
abbrev written (w : Floor D) : List Write := w.host.host.writes

/-- What is staged for a transaction is what it has written last. -/
def Mirrors (t : TransactionId) (w : Floor D) : Prop :=
  ∀ (r : TableRef) id, (r.table w).stagedRow t id = lastWrite t r id (written w)

theorem Mirrors.congr (h : Mirrors t w) (hr : ∀ r : TableRef, r.table v = r.table w)
    (hw : written v = written w) : Mirrors t v := by
  intro r id
  rw [hr, hw]
  exact h r id

theorem Mirrors.write (h : Mirrors t w) {y : Write}
    (hr : ∀ r : TableRef, r.table v = r.table (y.staged w)) (hw : written v = written w ++ [y]) :
    Mirrors t v := by
  intro r id
  rw [hr, hw, lastWrite_snoc, y.stagedRow_staged, h r id]

theorem Mirrors.visible (h : Mirrors t w) (r : TableRef) (id : Uuid) :
    (r.table w).visible t id =
      (lastWrite t r id (written w)).getD ((r.table w).committed.get? id) := by
  rw [Table.visible_eq, h r id]

namespace Access

theorem write?_transaction {x : Access} {y : Write} (h : x.write? t = some y) :
    y.transaction = t := by
  cases x <;> cases h <;> rfl

theorem perform_written (x : Access) (u : UnitRef) (w : Floor D) :
    let v := (x.perform u w).2
    written v = written w ++ x.writes (w.unit u).transaction (x.perform u w).1 := by
  have hhost := x.keeps (upheld_host u w.host.host) w rfl
  change (x.act u w).2.host.host.writes ++ _ = _
  rw [hhost]
  rfl

end Access

/-- A service leaves all tables alone, or something has been written. -/
inductive Staging (u : UnitRef) (w v : Floor D) : Prop
  | nothing (hr : ∀ r : TableRef, r.table v = r.table w) (hw : written v = written w)
  | wrote {y : Write} (hy : y.transaction = (w.unit u).transaction)
      (hr : ∀ r : TableRef, r.table v = r.table (y.staged w)) (hw : written v = written w ++ [y])

theorem Service.staging (h : Service u w v) : Staging u w v := by
  cases h with
  | register r =>
    cases ha : (w.unit u).status.accepts with
    | true =>
      rw [WorldAct.noting_ok (WorldAct.register_open w u ha)]
      exact .nothing (fun _ => rfl) rfl
    | false =>
      rw [WorldAct.noting_error (WorldAct.register_closed w u ha)]
      exact .nothing (fun _ => rfl) rfl
  | own hs hp hw => exact .nothing hs.table hw
  | access x =>
    have hw := x.perform_written u w
    have hx := x.ends w (u := u)
    have hfirst : (x.perform u w).1 = (x.act u w).1 := rfl
    have htable : ∀ r : TableRef, r.table (x.perform u w).2 = r.table (x.act u w).2 :=
      fun _ => rfl
    generalize x.act u w = s at hx hfirst htable
    cases hx with
    | wrote hy hv =>
      rw [hfirst, Access.writes, hy] at hw
      refine .wrote (Access.write?_transaction hy) (fun r => ?_) hw
      rw [htable]
      exact TableRef.table_congr hv r
    | @nothing result _ hv hr =>
      have hnone : x.writes (w.unit u).transaction result = [] := by
        cases result with
        | ok _ => rw [Access.writes, hr rfl]; rfl
        | error e => rfl
      rw [hfirst, hnone, List.append_nil] at hw
      refine .nothing (fun r => ?_) hw
      rw [htable, TableRef.table_congr hv]

theorem Staging.mirrors (h : Staging u w v) (hm : Mirrors t w) : Mirrors t v := by
  cases h with
  | nothing hr hw => exact hm.congr hr hw
  | wrote hy hr hw => exact hm.write hr hw

/-- Only a given transaction has written. -/
def WritesOf (t : TransactionId) (w v : Floor D) : Prop :=
  ∃ ys, written v = written w ++ ys ∧ ∀ y ∈ ys, y.transaction = t

theorem WritesOf.refl (t : TransactionId) (w : Floor D) : WritesOf t w w :=
  ⟨[], (List.append_nil _).symm, fun _ hy => absurd hy List.not_mem_nil⟩

theorem WritesOf.of_eq (t : TransactionId) (h : written v = written w) : WritesOf t w v :=
  ⟨[], by rw [h, List.append_nil], fun _ hy => absurd hy List.not_mem_nil⟩

theorem WritesOf.trans (h : WritesOf t w m) (g : WritesOf t m v) : WritesOf t w v := by
  obtain ⟨ys, hw, hy⟩ := h
  obtain ⟨zs, hm, hz⟩ := g
  refine ⟨ys ++ zs, by rw [hm, hw, List.append_assoc], ?_⟩
  intro y hmem
  obtain hmem | hmem := List.mem_append.mp hmem
  · exact hy y hmem
  · exact hz y hmem

theorem Staging.writesOf (h : Staging u w v) : WritesOf (w.unit u).transaction w v := by
  cases h with
  | nothing hr hw => exact .of_eq _ hw
  | @wrote y hy hr hw =>
    refine ⟨[y], hw, fun z hz => ?_⟩
    rw [List.mem_singleton.mp hz]
    exact hy

theorem committed_of_changes (h : ReflTransGen (Change u) w v) (r : TableRef) :
    (r.table v).committed = (r.table w).committed := by
  induction h with
  | refl => rfl
  | tail _ hs ih => exact (hs.sameRows.committed r).trans ih

section Drain

variable {deliver : Dispatcher (Party Empty) (Premises (Annals D))} (patience : Nat)
  (hd : ∀ batch u, (deliver batch u).Within (Service u))

include hd

/-- What is kept by each service of a dispatcher is kept by a drain, as long as neither the status
nor the queue of a unit matters to it. -/
theorem drain_keeps_of_services {I : Floor D → Prop} (hrecord : ∀ w e, I w → I (w.record e))
    (hnote : ∀ w e, I w → I (w.note e))
    (hunit : ∀ w s q, I w → I (w.setUnit u { w.unit u with status := s, queue := q }))
    (hservice : ∀ w v, Service u w v → I w → I v) :
    ((dealing deliver patience).drain u).Keeps I := by
  refine Host.drain_keeps _ u hrecord hunit fun batch => ?_
  apply Task.Keeps.bind
  · exact Task.Keeps.modify fun w => hnote w _
  · exact fun _ => (hd batch u).keeps hservice

theorem Mirrors.drain (h : Mirrors t w) (u : UnitRef) :
    Mirrors t ((dealing deliver patience).drain u w).2 :=
  drain_keeps_of_services patience hd (fun _ _ hw => hw.congr (fun _ => rfl) rfl)
    (fun _ _ hw => hw.congr (fun _ => rfl) rfl) (fun _ _ _ hw => hw.congr (fun _ => rfl) rfl)
    (fun _ _ hs => hs.staging.mirrors) w h

theorem Holding.writesOf (h : Holding t u w) :
    WritesOf t w ((dealing deliver patience).drain u w).2 := by
  let I (m : Floor D) := Holding t u m ∧ WritesOf t w m
  have hI : ((dealing deliver patience).drain u).Keeps I := by
    refine drain_keeps_of_services patience hd ?_ ?_ ?_ ?_
    · exact fun m e hm => ⟨hm.1.sameRecords ⟨rfl, rfl, rfl, rfl⟩, hm.2.trans (.of_eq t rfl)⟩
    · exact fun m e hm => ⟨hm.1.sameRecords ⟨rfl, rfl, rfl, rfl⟩, hm.2.trans (.of_eq t rfl)⟩
    · exact fun m s q hm => ⟨hm.1.setUnit rfl rfl, hm.2.trans (.of_eq t rfl)⟩
    · intro m v hs hm
      have hw := hs.staging.writesOf
      rw [hm.1.owner] at hw
      exact ⟨((Carried.refl hm.1).changes (changes_of_steps hs.steps)).holding, hm.2.trans hw⟩
  exact (hI w ⟨h, .refl t w⟩).2

end Drain

theorem Concluded.mirrors {o : Outcome} (h : Concluded t o w v) (hx : x ≠ t) (hm : Mirrors x w) :
    Mirrors x v := by
  intro r id
  have hrow : (r.table v).stagedRow x id = (r.table w).stagedRow x id := by
    rw [Table.stagedRow, h.apart.staged x hx, Table.stagedRow]
  rw [hrow, written, h.host]
  exact hm r id

theorem Concluded.written_eq {o : Outcome} (h : Concluded t o w v) : written v = written w :=
  congrArg Annals.writes h.host

theorem Concluded.committed_rolledBack (h : Concluded t .rolledBack w v) (r : TableRef) :
    (r.table v).committed = (r.table w).committed := by
  rw [h.tables]
  rfl

/-- What a commit goes through before the transaction ends: its unit is drained, or nothing is done.
-/
inductive Eve (h : Host (Party Empty) (Premises (Annals D))) (t : TransactionId) (w : Floor D) :
    Floor D → Prop
  | still (hk : w.Knows t) : Eve h t w w
  | drained {u : UnitRef} {r : Exit UnitOfWorkError Unit} {d : Floor D} (ht : Attached t u w)
      (hc : Carried t u w d) (hd : h.drain u w = (r, d)) : Eve h t w d

section Happening

variable {deliver : Dispatcher (Party Empty) (Premises (Annals D))} {patience : Nat} {a : Action}
  {result : Except OrderingError Unit}

namespace Eve

variable (h : Eve (dealing deliver patience) t w m)

include h

theorem knows : m.Knows t := by
  cases h with
  | still hk => exact hk
  | drained ht hc hd => exact hc.persists.known t (World.knows_of_isActive ht.isActive)

theorem committed (r : TableRef) : (r.table m).committed = (r.table w).committed := by
  cases h with
  | still hk => rfl
  | drained ht hc hd => exact hc.rows.committed r

theorem mirrors (hd : ∀ batch u, (deliver batch u).Within (Service u)) (hm : Mirrors x w) :
    Mirrors x m := by
  cases h with
  | still hk => exact hm
  | @drained u _ _ ht hc hdr =>
    have hdm := hm.drain patience hd u
    rwa [hdr] at hdm

theorem writesOf (hd : ∀ batch u, (deliver batch u).Within (Service u)) : WritesOf t w m := by
  cases h with
  | still hk => exact .refl t w
  | drained ht hc hdr =>
    have hw := ht.holding.writesOf patience hd
    rwa [hdr] at hw

end Eve

/-- What an operation comes to, as far as tables go. -/
inductive Outline (h : Host (Party Empty) (Premises (Annals D))) (a : Action)
    (result : Except OrderingError Unit) (w v : Floor D) : Prop
  | idle (hh : v.host = w.host)
  | served {u : UnitRef} (ha : a.served? = some u) (hs : Service u w v)
  | concluded {o : Outcome} {d : Floor D} (hd : Eve h (a.subject w) w d)
      (hc : Concluded (a.subject w) o d v)
      (ho : o = .committed → ∃ t, a = .commit t ∧ result = .ok ())

namespace Happening

variable (h : Happening (dealing deliver patience) w a result v)

include h

theorem outline : Outline (dealing deliver patience) a result w v := by
  have hknows {t : TransactionId} {s : TransactionStatus} (hs : (w.transaction t).status = s)
      (ha : s.isActive = true) : w.Knows t := by
    apply World.knows_of_isActive
    rw [hs]
    exact ha
  cases h with
  | begun hnew => exact .idle rfl
  | current hc => exact .idle hc.host
  | served ha hs _ => exact .served ha hs
  | discarded u => exact .idle rfl
  | marked ha => exact .idle rfl
  | unmarked => exact .idle rfl
  | undone ha hc =>
    exact .concluded (.still (World.knows_of_isActive ha)) hc fun he => by cases he
  | refused => exact .idle rfl
  | ended hc =>
    cases hc with
    | closed hc => exact .idle rfl
    | marked hs hv => exact .concluded (.still (hknows hs rfl)) hv fun he => by cases he
    | alone hs ht hv => exact .concluded (.still (hknows hs rfl)) hv fun _ => ⟨_, rfl, rfl⟩
    | agreed hs ht hdr hc hv => exact .concluded (.drained ht hc hdr) hv fun _ => ⟨_, rfl, rfl⟩
    | refused hs ht hdr hc hv => exact .concluded (.drained ht hc hdr) hv fun he => by cases he

theorem mirrors (hd : ∀ batch u, (deliver batch u).Within (Service u)) (hx : ¬ v.Over x)
    (hm : Mirrors x w) : Mirrors x v := by
  cases h.outline with
  | idle hh =>
    refine hm.congr (fun r => TableRef.table_congr hh r) ?_
    rw [written, hh]
  | served ha hs => exact hs.staging.mirrors hm
  | concluded he hc ho =>
    apply hc.mirrors _ (he.mirrors hd hm)
    rintro rfl
    exact hx (hc.isOver he.knows)

theorem writesOf (hd : ∀ batch u, (deliver batch u).Within (Service u)) :
    WritesOf (a.subject w) w v := by
  cases h.outline with
  | idle hh => exact .of_eq _ (by rw [written, hh])
  | served ha hs =>
    rw [Action.subject_of_served ha]
    exact hs.staging.writesOf
  | concluded he hc ho => exact (he.writesOf hd).trans (.of_eq _ hc.written_eq)

/-- Nothing but a commit that succeeds changes committed rows. -/
theorem committed (hno : ∀ t, a = .commit t → result ≠ .ok ()) (r : TableRef) :
    (r.table v).committed = (r.table w).committed := by
  cases h.outline with
  | idle hh => rw [TableRef.table_congr hh]
  | served ha hs => exact committed_of_changes (changes_of_steps hs.steps) r
  | @concluded o d he hc ho =>
    cases o with
    | committed =>
      obtain ⟨t, ha, hr⟩ := ho rfl
      exact absurd hr (hno t ha)
    | rolledBack => exact (hc.committed_rolledBack r).trans (he.committed r)

end Happening

end Happening

/-- The world in which a commit that succeeds is decided: the unit of the transaction, if it has
one, has been drained. -/
inductive Decision (h : Host (Party Empty) (Premises (Annals D))) (t : TransactionId)
    (w : Floor D) : Floor D → Prop
  | alone (hb : w.bound.get? t = none) : Decision h t w w
  | drained {u : UnitRef} {d : Floor D} (hb : w.bound.get? t = some u)
      (hd : h.drain u w = (.done (), d)) : Decision h t w d

/-- A commit changes the rows that the transaction has written, and no others: each becomes what the
transaction has seen of it last, in whatever order they are taken. -/
structure Published (h : Host (Party Empty) (Premises (Annals D))) (t : TransactionId)
    (w v : Floor D) : Prop where
  rows : ∀ (r : TableRef) id, (r.table v).committed.get? id =
    (lastWrite t r id (written v)).getD ((r.table w).committed.get? id)
  view : ∃ d, Decision h t w d ∧ ∀ r : TableRef,
    (∀ id, (r.table v).committed.get? id = (r.table d).visible t id) ∧
      ∀ rows : List (Uuid × Option r.Row), rows.Perm ((r.table d).staged.getD t ∅).entries →
        ∀ id, (rows.foldl Table.applyRow (r.table w).committed).get? id =
          (r.table v).committed.get? id

theorem Concluded.published {h : Host (Party Empty) (Premises (Annals D))}
    (hc : Concluded t .committed m v) (hd : Decision h t w m) (hm : Mirrors t m)
    (hr : ∀ r : TableRef, (r.table m).committed = (r.table w).committed) : Published h t w v := by
  have hview (r : TableRef) (id : Uuid) :
      (r.table v).committed.get? id = (r.table m).visible t id := by
    rw [hc.tables, Table.get?_settle_committed]
  refine ⟨fun r id => ?_, m, hd, fun r => ⟨hview r, fun rows hp id => ?_⟩⟩
  · rw [hview, hm.visible, hc.written_eq, hr]
  · rw [hc.tables, ← hr,
      Table.get?_foldl_applyRow_of_perm hp ((r.table m).staged.getD t ∅).nodup]
    rfl

/-- What everybody knows between two operations about the rows that are staged. -/
def Mirrored (w : Floor D) : Prop := ∀ x, ¬ w.Over x → Mirrors x w

theorem Mirrored.mirrors (h : Mirrored w) (ha : (w.transaction t).status.isActive = true) :
    Mirrors t w := by
  apply h
  rintro ⟨-, hc⟩
  cases hc.symm.trans ha

theorem Opening.mirrored (h : Opening w) : Mirrored w := by
  intro x _ r id
  rw [Table.stagedRow, (h.unattached x).staged, written, h.writes]
  rfl

section Traffic

variable {deliver : Dispatcher (Party Empty) (Premises (Annals D))} {patience : Nat}
  {a : Action} {result : Except OrderingError Unit} {log : List (Episode D)} {w₀ : Floor D}

theorem Happening.published (h : Happening (dealing deliver patience) w (.commit t) (.ok ()) v)
    (hd : ∀ batch u, (deliver batch u).Within (Service u)) (hm : Mirrored w) :
    Published (dealing deliver patience) t w v := by
  have hmirrors (hs : (w.transaction t).status = .active) : Mirrors t w :=
    hm.mirrors (by rw [hs]; rfl)
  generalize hr : Except.ok () = result at h
  cases h with
  | served ha hs _ => cases ha
  | @ended _ r _ hc =>
    cases hc with
    | closed hc => cases hr
    | marked hs hv => cases hr
    | refused hs ht hdr hc hv => cases hr
    | alone hs ht hv => exact hv.published (.alone ht.bound) (hmirrors hs) fun _ => rfl
    | @agreed u d _ hs ht hdr hc hv =>
      have hdm := (hmirrors hs).drain patience hd u
      rw [hdr] at hdm
      exact hv.published (.drained ht.bound hdr) hdm hc.rows.committed

theorem Happening.noted {y : Access}
    (h : Happening (dealing deliver patience) w (.access u y) result v) :
    written v = written w ++ y.writes (w.unit u).transaction result := by
  cases h with
  | served ha _ hx =>
    cases ha
    have hw := y.perform_written u w
    rw [← hx y rfl] at hw
    exact hw

/-- An operation that is not a successful commit leaves what units of other transactions see. -/
theorem Happening.peek (h : Happening (dealing deliver patience) w a result v) (hw : Tidy w)
    (hno : ∀ t, a = .commit t → result ≠ .ok ()) (hx : x ≠ a.subject w) (hu : w.Owns x u)
    (r : TableRef) (id : Uuid) :
    ((r.peek u id : ShopAct Empty (Annals D) OrderingError _) v).1 =
      ((r.peek u id : ShopAct Empty (Annals D) OrderingError _) w).1 := by
  have hapart := (h.tidy hw).1
  have hxu := hu.transaction_eq
  have hunit : v.unit u = w.unit u := by
    apply hapart.units u
    · rwa [hxu]
    · obtain ⟨y, hy, -⟩ := hu
      rw [hy]
      exact fun he => by cases he
  change Except.ok ((r.table v).visible (v.unit u).transaction id) =
    Except.ok ((r.table w).visible (w.unit u).transaction id)
  rw [hunit, hxu, Table.visible_eq, Table.visible_eq, Table.stagedRow, hapart.staged x hx,
    h.committed hno, Table.stagedRow]

/-- The rows of transactions that share tables. `kept` is about all that is not a commit that
succeeds, `published` about commits that do. -/
structure Overlaid (h : Host (Party Empty) (Premises (Annals D))) (log : List (Episode D))
    (v : Floor D) : Prop where
  /-- The units of a transaction that is open see what it has written on top of what is committed.
  -/
  peek : ∀ t u, (v.transaction t).status.isActive = true → (v.unit u).transaction = t →
    ∀ (r : TableRef) id, (r.peek u id : ShopAct Empty (Annals D) OrderingError _) v =
      (.ok ((lastWrite t r id (written v)).getD ((r.table v).committed.get? id)), v)
  /-- What is written is what the uses of tables that succeed write. -/
  noted : ∀ e ∈ log, ∀ u x, e.action = .access u x → written e.after =
    written e.before ++ x.writes (e.before.unit u).transaction e.result
  own : ∀ e ∈ log, WritesOf (e.action.subject e.before) e.before e.after
  kept : ∀ e ∈ log, (∀ t, e.action = .commit t → e.result ≠ .ok ()) → ∀ r : TableRef,
    (r.table e.after).committed = (r.table e.before).committed ∧
      ∀ x u id, x ≠ e.action.subject e.before → e.before.Owns x u →
        ((r.peek u id : ShopAct Empty (Annals D) OrderingError _) e.after).1 =
          ((r.peek u id : ShopAct Empty (Annals D) OrderingError _) e.before).1
  published : ∀ e ∈ log, ∀ t, e.action = .commit t → e.result = .ok () →
    Published h t e.before e.after

theorem Traffic.mirrored (ht : Traffic (dealing deliver patience) w₀ log w) (hw₀ : Opening w₀)
    (hd : ∀ batch u, (deliver batch u).Within (Service u)) :
    Mirrored w ∧ ∀ e ∈ log, Tidy e.before ∧ Mirrored e.before ∧
      Happening (dealing deliver patience) e.before e.action e.result e.after := by
  apply ht.induction hw₀ hd (I := fun log w => Mirrored w ∧ ∀ e ∈ log, Tidy e.before ∧
    Mirrored e.before ∧ Happening (dealing deliver patience) e.before e.action e.result e.after)
  · exact ⟨hw₀.mirrored, fun _ hm => absurd hm List.not_mem_nil⟩
  · intro log w a result v hw ⟨hm, hlog⟩ h
    refine ⟨fun x hx => h.mirrors hd hx (hm x fun ho => hx (h.staysOver hw ho)), ?_⟩
    intro e he
    obtain he | he := List.mem_append.mp he
    · exact hlog e he
    · rw [List.mem_singleton.mp he]
      exact ⟨hw, hm, h⟩

/-- Whatever is written, committed and rolled back in whatever order, and whatever the dispatcher
does with the units that are handed to it. -/
theorem rows_overlaid (hd : ∀ batch u, (deliver batch u).Within (Service u)) (hw₀ : Opening w₀)
    (ht : Traffic (dealing deliver patience) w₀ log w) :
    Overlaid (dealing deliver patience) log w := by
  obtain ⟨hm, hlog⟩ := ht.mirrored hw₀ hd
  refine ⟨?_, ?_, ?_, ?_, ?_⟩
  · intro t u ha hu r id
    rw [← (hm.mirrors ha).visible, ← hu]
    rfl
  · intro e he u x hx
    obtain ⟨-, -, h⟩ := hlog e he
    rw [hx] at h
    exact h.noted
  · exact fun e he => (hlog e he).2.2.writesOf hd
  · intro e he hno r
    obtain ⟨hw, -, h⟩ := hlog e he
    exact ⟨h.committed hno r, fun x u id hx hu => h.peek hw hno hx hu r id⟩
  · intro e he t ha hr
    obtain ⟨-, hme, h⟩ := hlog e he
    rw [ha, hr] at h
    exact h.published hd hme

end Traffic

/-- Two transactions insert the same item; one commits, and the other removes it again and is rolled
back. -/
def contending : List Action :=
  let shelf : TableRef := ⟨.stockItem, 0⟩
  [.current firstBuyer, .current secondBuyer, .access ⟨0⟩ (.insert shelf (.fresh tenWidgets)),
    .access ⟨1⟩ (.insert shelf (.fresh tenWidgets)), .commit firstBuyer,
    .access ⟨1⟩ (.load shelf widget), .access ⟨1⟩ (.remove shelf ⟨tenWidgets, .loaded, []⟩),
    .rollback secondBuyer]

theorem rows_overlaid_contending :
    let deliver : Dispatcher (Party Empty) (Premises (Annals Unit)) := fun _ _ => pure ()
    let h := dealing deliver 3
    (∀ batch u, (deliver batch u).Within (Service u)) ∧ Opening (twoBegun ()) ∧
      Traffic h (twoBegun ()) (Action.episodes h (twoBegun ()) contending)
        (Action.outcome h (twoBegun ()) contending) ∧
      Overlaid h (Action.episodes h (twoBegun ()) contending)
        (Action.outcome h (twoBegun ()) contending) := by
  intro deliver h
  have hd : ∀ batch u, (deliver batch u).Within (Service u) := fun _ _ => .pure ()
  have hs : Action.succeed h (twoBegun ()) contending = true := by decide +kernel
  have ht : Traffic h (twoBegun ()) (Action.episodes h (twoBegun ()) contending)
      (Action.outcome h (twoBegun ()) contending) := Traffic.start.succeed hs
  exact ⟨hd, opening_twoBegun (), ht, rows_overlaid hd (opening_twoBegun ()) ht⟩

end Shop

end Transactor
