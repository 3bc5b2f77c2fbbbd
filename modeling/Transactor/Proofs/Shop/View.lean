import Mathlib.Data.List.Perm.Subperm
import Mathlib.Logic.Function.Basic
import Transactor.Proofs.Shop.Settlement

namespace Transactor.Shop

variable {Q H : Type}

/-- Rows of each kind under their identifiers. -/
abbrev Rows : Type := (k : Kind) → Uuid → Option k.Entity

/-- Puts a row under an identifier, or removes the one that is there. -/
def Rows.put (rows : Rows) (k : Kind) (id : Uuid) (row : Option k.Entity) : Rows :=
  Function.update rows k (Function.update (rows k) id row)

@[simp] theorem Rows.put_self (rows : Rows) (k : Kind) (id : Uuid) (row : Option k.Entity) :
    rows.put k id row k = Function.update (rows k) id row := Function.update_self _ _ _

theorem Rows.put_of_ne (rows : Rows) {k j : Kind} (id : Uuid) (row : Option k.Entity) (h : j ≠ k) :
    rows.put k id row j = rows j := Function.update_of_ne h _ _

theorem Table.visible_stage {E : Type} (t : Table E) (x : TransactionId) (id : Uuid)
    (row : Option E) : (t.stage x id row).visible x = Function.update (t.visible x) id row := by
  funext j
  simp only [visible, stage, KeyedList.get?_insert_self, Option.bind_some, KeyedList.get?_insert,
    Function.update_apply]
  by_cases hj : j = id
  · simp only [hj, ↓reduceIte]
  · simp only [hj, ↓reduceIte, KeyedList.getD]
    cases t.staged.get? x <;> rfl

theorem Table.contains_stage {E : Type} (t : Table E) (x : TransactionId) (id : Uuid)
    (row : Option E) : (t.stage x id row).staged.contains x = true := by
  rw [KeyedList.contains_eq_isSome, stage, KeyedList.get?_insert_self, Option.isSome_some]

/-- What a unit holds, the rows that its transaction sees, and the journal. -/
structure View where
  settings : Settings
  status : UnitStatus
  queue : List Message
  rows : Rows
  journal : List String

/-- The view of a unit on the tables of a number. No participants are enlisted but those tables that
hold staged rows of its transaction. -/
structure Sees (shelf : Nat) (t : TransactionId) (u : UnitRef) (x : View) (w : ShopWorld Q H) :
    Prop where
  owner : (w.unit u).transaction = t
  settings : w.settings = x.settings
  limit : (w.unit u).limit = max x.settings.maxCycles 1
  status : (w.unit u).status = x.status
  queue : (w.unit u).queue = x.queue
  rows : ∀ k id, ((TableRef.mk k shelf).table w).visible t id = (x.rows k id).map .fresh
  journal : w.host.journal = x.journal
  enlisted : ∃ ks : List Kind, ks.Nodup ∧
    (w.unit u).participants = ks.map (fun k => .stagedWrites ⟨k, shelf⟩ t) ∧
    ∀ k, ((TableRef.mk k shelf).table w).staged.contains t = true ↔ k ∈ ks

namespace Sees

variable {shelf : Nat} {t : TransactionId} {u : UnitRef} {x : View} {w v : ShopWorld Q H}

theorem sameRecords (h : Sees shelf t u x w) (hs : SameRecords w v)
    (hsettings : v.settings = w.settings) (hjournal : v.host.journal = w.host.journal) :
    Sees shelf t u x v where
  owner := by rw [hs.unit]; exact h.owner
  settings := hsettings.trans h.settings
  limit := by rw [hs.unit]; exact h.limit
  status := by rw [hs.unit]; exact h.status
  queue := by rw [hs.unit]; exact h.queue
  rows k id := by rw [hs.table]; exact h.rows k id
  journal := hjournal.trans h.journal
  enlisted := by
    simp only [hs.unit, hs.table]
    exact h.enlisted

theorem stamp {ε : Type} (h : Sees shelf t u x w) :
    ∃ s v, (WorldAct.stamp : ShopAct Q H ε Stamp) w = (.ok s, v) ∧ Sees shelf t u x v :=
  ⟨_, _, WorldAct.stamp_apply w, h.sameRecords ⟨rfl, rfl, rfl, rfl⟩ rfl rfl⟩

theorem setJournal (h : Sees shelf t u x w) (j : List String) : Sees shelf t u
    { x with journal := j } { w with host := { w.host with journal := j } } where
  owner := h.owner
  settings := h.settings
  limit := h.limit
  status := h.status
  queue := h.queue
  rows := h.rows
  journal := rfl
  enlisted := h.enlisted

theorem setUnit (h : Sees shelf t u x w) (s : UnitStatus) (q : List Message)
    (r : List (String × Uuid)) : Sees shelf t u { x with status := s, queue := q }
      (w.setUnit u { w.unit u with status := s, queue := q, registered := r }) where
  owner := by rw [World.unit_setUnit_self]; exact h.owner
  settings := h.settings
  limit := by rw [World.unit_setUnit_self]; exact h.limit
  status := by rw [World.unit_setUnit_self]
  queue := by rw [World.unit_setUnit_self]
  rows := h.rows
  journal := h.journal
  enlisted := by rw [World.unit_setUnit_self]; exact h.enlisted

/-- No more participants than there are kinds. -/
theorem participants_length (h : Sees shelf t u x w) : (w.unit u).participants.length ≤ 2 := by
  obtain ⟨ks, hn, hp, -⟩ := h.enlisted
  rw [hp, List.length_map]
  have hsub : ks ⊆ [.order, .stockItem] := by
    intro k _
    cases k <;> simp
  exact (hn.subperm hsub).length_le

theorem accepts (h : Sees shelf t u x w) (ha : x.status.accepts = true) :
    (w.unit u).status.accepts = true := by
  rw [h.status]
  exact ha

variable {k : Kind} {a : Tracked k.Entity}

/-- A report that is taken hands over to the unit what the aggregate gives away. -/
theorem report (h : Sees shelf t u x w) (ha : x.status.accepts = true) {event : PersistenceEvent}
    (hm : a.state.canMove event.target = true)
    (hh : Tracked.hook event.target a.body = (.ok (), a.body)) :
    ∃ (m : Message) (v : ShopWorld Q H), m.type = event.target.messageType ∧ m.isDomain = false ∧
      (TableRef.mk k shelf).report event u (a, w) = (.ok (), a.reported event.target m, v) ∧
      Sees shelf t u { x with queue := x.queue ++ a.handedOver event.target m } v := by
  let m := a.announcement a.body event.target ⟨w.supply.current, w.clock⟩
  have hreport := Act.mapError_ok (f := OrderingError.unitOfWork)
    (PersistenceEvent.report_taken (h.accepts ha) hm hh)
  refine ⟨m, event.taken u a a.body w, rfl, rfl, hreport, ?_⟩
  have hc : Sees shelf t u x ({ w with supply := w.supply.advance }.record
      (.aggregateMoved (w.unit u).transaction (Aggregate.aggregateId a.body) a.state
        event.target)) := h.sameRecords ⟨rfl, rfl, rfl, rfl⟩ rfl rfl
  have hs := hc.setUnit x.status (x.queue ++ a.handedOver event.target m)
    (UnitOfWork.track (Aggregate.aggregateType a.body, Aggregate.aggregateId a.body)
      (w.unit u).registered)
  rw [← h.status, ← h.queue] at hs ⊢
  exact hs

theorem report_pre (h : Sees shelf t u x w) (ha : x.status.accepts = true)
    {event : PersistenceEvent} (hp : event.target.isPost = false)
    (hm : a.state.canMove event.target = true)
    (hh : Tracked.hook event.target a.body = (.ok (), a.body)) :
    ∃ m v, (TableRef.mk k shelf).report event u (a, w) = (.ok (), a.enter event.target m, v) ∧
      m.isDomain = false ∧ Sees shelf t u x v := by
  obtain ⟨m, v, -, hd, hr, hs⟩ := h.report ha hm hh
  simp only [Tracked.reported, Tracked.handedOver, hp, Bool.false_eq_true, ↓reduceIte,
    List.append_nil] at hr hs
  exact ⟨m, v, hr, hd, hs⟩

theorem report_post (h : Sees shelf t u x w) (ha : x.status.accepts = true)
    {event : PersistenceEvent} (hp : event.target.isPost = true)
    (hm : a.state.canMove event.target = true) :
    ∃ m v, (TableRef.mk k shelf).report event u (a, w) =
        (.ok (), (a.enter event.target m).dropRaised, v) ∧ m.type = event.target.messageType ∧
      Sees shelf t u { x with queue := x.queue ++ m :: a.raised } v := by
  have hh := Tracked.hook_of_not_isPre (Lifecycle.isPre_eq_false_of_isPost hp) a.body
  obtain ⟨m, v, ht, -, hr, hs⟩ := h.report ha hm hh
  simp only [Tracked.reported, Tracked.handedOver, hp, ↓reduceIte] at hr hs
  exact ⟨m, v, hr, ht, hs⟩

theorem report_rejected (h : Sees shelf t u x w) (ha : x.status.accepts = true)
    {event : PersistenceEvent} {e : DomainError} {b : k.Entity}
    (hm : a.state.canMove event.target = true)
    (hh : Tracked.hook event.target a.body = (.error e, b)) :
    ∃ s, (TableRef.mk k shelf).report event u (a, w) = (.error (.unitOfWork
        (.preHookRejected (Aggregate.aggregateId a.body) event.target e)), s) ∧
      Sees shelf t u x s.2 := by
  have hmove := Tracked.move_rejected hm hh ⟨w.supply.current, w.clock⟩
  have hs : Sees shelf t u x { w with supply := w.supply.advance } :=
    h.sameRecords ⟨rfl, rfl, rfl, rfl⟩ rfl rfl
  exact ⟨_, Act.mapError_error (PersistenceEvent.report_failed (h.accepts ha) hmove), hs⟩

theorem peek {ε : Type} (h : Sees shelf t u x w) (k : Kind) (id : Uuid) :
    ((TableRef.mk k shelf).peek u id : ShopAct Q H ε _) w =
      (.ok ((x.rows k id).map .fresh), w) := by
  rw [TableRef.peek, Act.gets_apply, h.owner, h.rows]

theorem enlisted_stage (h : Sees shelf t u x w) (id : Uuid) (row : Option (Tracked k.Entity)) :
    let r := TableRef.mk k shelf
    let v := r.setTable (r.enlisting u w) ((r.table w).stage t id row)
    ∃ ks : List Kind, ks.Nodup ∧
      (v.unit u).participants = ks.map (fun j => .stagedWrites ⟨j, shelf⟩ t) ∧
      ∀ j, ((TableRef.mk j shelf).table v).staged.contains t = true ↔ j ∈ ks := by
  intro r v
  obtain ⟨ks, hn, hp, hks⟩ := h.enlisted
  have hself : (r.table v).staged.contains t = true := by
    rw [r.table_setTable_self]
    exact Table.contains_stage _ t id row
  have hother : ∀ j, j ≠ k → (TableRef.mk j shelf).table v = (TableRef.mk j shelf).table w := by
    intro j hj
    have hne : TableRef.mk j shelf ≠ r := fun he => hj (TableRef.mk.inj he).1
    exact (r.table_setTable_of_ne _ hne).trans (r.table_enlisting _)
  by_cases hk : k ∈ ks
  · refine ⟨ks, hn, ?_, ?_⟩
    · have hu : r.enlisting u w = w := by
        rw [TableRef.enlisting, h.owner, if_pos ((hks k).mpr hk)]
      rw [TableRef.unit_setTable, hu, hp]
    · intro j
      by_cases hj : j = k
      · subst hj
        exact iff_of_true hself hk
      · rw [hother j hj]
        exact hks j
  · have hn' : (ks ++ [k]).Nodup := by
      rw [List.nodup_append]
      refine ⟨hn, by simp, ?_⟩
      intro j hj l hl he
      rw [he, List.mem_singleton.mp hl] at hj
      exact hk hj
    refine ⟨ks ++ [k], hn', ?_, ?_⟩
    · have hc : ¬(r.table w).staged.contains t = true := fun hc => hk ((hks k).mp hc)
      rw [TableRef.unit_setTable, TableRef.enlisting, h.owner, if_neg hc, World.unit_setUnit_self,
        hp, List.map_append]
      rfl
    · intro j
      rw [List.mem_append, List.mem_singleton]
      by_cases hj : j = k
      · subst hj
        exact iff_of_true hself (.inr rfl)
      · rw [hother j hj, hks j]
        exact (or_iff_left hj).symm

theorem rows_stage (h : Sees shelf t u x w) (id : Uuid) (row : Option k.Entity) (j : Kind)
    (i : Uuid) :
    let r := TableRef.mk k shelf
    ((TableRef.mk j shelf).table (r.setTable (r.enlisting u w)
      ((r.table w).stage t id (row.map .fresh)))).visible t i =
        (x.rows.put k id row j i).map .fresh := by
  intro r
  by_cases hj : j = k
  · subst hj
    rw [r.table_setTable_self, Table.visible_stage, Rows.put_self]
    by_cases hi : i = id
    · rw [hi, Function.update_self, Function.update_self]
    · rw [Function.update_of_ne hi, Function.update_of_ne hi, h.rows]
  · have hne : TableRef.mk j shelf ≠ r := fun he => hj (TableRef.mk.inj he).1
    rw [r.table_setTable_of_ne _ hne, r.table_enlisting, h.rows, x.rows.put_of_ne id row hj]

theorem stage (h : Sees shelf t u x w) (ha : x.status.accepts = true) (id : Uuid)
    (row : Option k.Entity) :
    ∃ v, (TableRef.mk k shelf).stage u id (row.map .fresh) w = (.ok (), v) ∧
      Sees shelf t u { x with rows := x.rows.put k id row } v := by
  let r := TableRef.mk k shelf
  have hstage := r.stage_open (accepts_ne_completed (h.accepts ha)) id (row.map .fresh)
  rw [h.owner] at hstage
  have hunit : (r.enlisting u w).unit u = { w.unit u with
      participants := ((r.enlisting u w).unit u).participants } := by
    unfold TableRef.enlisting
    split
    · rfl
    · rw [World.unit_setUnit_self]
  have hworld : (r.enlisting u w).settings = w.settings ∧ (r.enlisting u w).host = w.host := by
    unfold TableRef.enlisting
    split <;> exact ⟨rfl, rfl⟩
  refine ⟨_, hstage, ?_, ?_, ?_, ?_, ?_, ?_, ?_, h.enlisted_stage id _⟩
  · rw [TableRef.unit_setTable, hunit]
    exact h.owner
  · exact hworld.1.trans h.settings
  · rw [TableRef.unit_setTable, hunit]
    exact h.limit
  · rw [TableRef.unit_setTable, hunit]
    exact h.status
  · rw [TableRef.unit_setTable, hunit]
    exact h.queue
  · exact h.rows_stage id row
  · change (r.enlisting u w).host.journal = x.journal
    rw [hworld.2]
    exact h.journal

end Sees

/-- The reports before and after the writing of a row. -/
inductive Writing : PersistenceEvent → PersistenceEvent → Prop
  | insert : Writing .prePersist .postPersist
  | update : Writing .preUpdate .postUpdate

namespace Sees

variable {shelf : Nat} {t : TransactionId} {u : UnitRef} {x : View} {w v : ShopWorld Q H} {k : Kind}
  {a : Tracked k.Entity}

/-- A write whose hook agrees stages the row, and the unit takes what the aggregate has raised. -/
theorem write (h : Sees shelf t u x w) (ha : x.status.accepts = true) (id : Uuid)
    {pre post : PersistenceEvent} (hw : Writing pre post)
    (hm : a.state.canMove pre.target = true) (hh : Aggregate.beforeSave a.body = (.ok (), a.body)) :
    ∃ m a' v, (TableRef.mk k shelf).writing some u id pre post (a, w) = (.ok (), a', v) ∧
      a'.body = a.body ∧ m.type = post.target.messageType ∧
      Sees shelf t u { x with
        rows := x.rows.put k id (some a.body), queue := x.queue ++ m :: a.raised } v := by
  have hhook : Tracked.hook pre.target a.body = (.ok (), a.body) := by cases hw <;> exact hh
  have hpre : pre.target.isPost = false := by cases hw <;> rfl
  have hpost : post.target.isPost = true := by cases hw <;> rfl
  have hmove : pre.target.canMove post.target = true := by cases hw <;> rfl
  have hl : pre.target ≠ .loaded := by cases hw <;> exact fun he => by cases he
  obtain ⟨m, c, hc, hd, hs⟩ := h.report_pre ha hpre hm hhook
  obtain ⟨d, hstage, hs⟩ : ∃ d, (TableRef.mk k shelf).stage u id (some (.fresh a.body)) c =
      (.ok (), d) ∧ Sees shelf t u { x with rows := x.rows.put k id (some a.body) } d :=
    hs.stage ha id (some a.body)
  obtain ⟨n, v, hv, ht, hs⟩ := hs.report_post (a := a.enter pre.target m) ha hpost hmove
  rw [Tracked.raised_enter hl hd] at hs
  have hstaged : Act.onSecond ((TableRef.mk k shelf).stage u id (some (.fresh a.body)))
      (a.enter pre.target m, c) = (.ok (), a.enter pre.target m, d) := by
    rw [Act.onSecond_apply, hstage]
  refine ⟨n, ((a.enter pre.target m).enter post.target n).dropRaised, v, ?_, rfl, ht, hs⟩
  rw [TableRef.writing, Act.bind_ok hc, Act.bind_ok (Act.gets_apply _ _)]
  exact (Act.bind_ok hstaged).trans hv

theorem write_rejected (h : Sees shelf t u x w) (ha : x.status.accepts = true) (id : Uuid)
    {pre post : PersistenceEvent} (hw : Writing pre post) {e : DomainError} {b : k.Entity}
    (hm : a.state.canMove pre.target = true) (hh : Aggregate.beforeSave a.body = (.error e, b)) :
    ∃ s, (TableRef.mk k shelf).writing some u id pre post (a, w) = (.error (.unitOfWork
        (.preHookRejected (Aggregate.aggregateId a.body) pre.target e)), s) ∧
      Sees shelf t u x s.2 := by
  have hhook : Tracked.hook pre.target a.body = (.error e, b) := by cases hw <;> exact hh
  obtain ⟨s, hr, hs⟩ := h.report_rejected ha hm hhook
  exact ⟨s, Act.bind_error hr, hs⟩

theorem insert_free (h : Sees shelf t u x w)
    (hfree : x.rows k (Aggregate.aggregateId a.body) = none) :
    (TableRef.mk k shelf).insert u (a, w) = (TableRef.mk k shelf).writing some u
      (Aggregate.aggregateId a.body) .prePersist .postPersist (a, w) := by
  rw [TableRef.insert_apply, h.owner, h.rows, hfree]
  rfl

theorem insert_taken (h : Sees shelf t u x w) (a : Tracked k.Entity) {id : Uuid}
    (hid : Aggregate.aggregateId a.body = id) (htaken : (x.rows k id).isSome = true) :
    Act.carrying a ((TableRef.mk k shelf).insert u) w =
      (.error (.alreadyExists k.typeName id), w) := by
  subst hid
  have hseen : ((x.rows k (Aggregate.aggregateId a.body)).map Tracked.fresh).isSome = true := by
    rwa [Option.isSome_map]
  rw [Act.carrying_apply, TableRef.insert_apply, h.owner, h.rows, if_pos hseen]
  rfl

theorem insert (h : Sees shelf t u x w) (ha : x.status.accepts = true) (a : Tracked k.Entity)
    {id : Uuid} (hid : Aggregate.aggregateId a.body = id) (hfree : x.rows k id = none)
    (hm : a.state.canMove .prePersist = true)
    (hh : Aggregate.beforeSave a.body = (.ok (), a.body)) :
    ∃ (m : Message) (b : Tracked k.Entity) (v : ShopWorld Q H),
      Act.carrying a ((TableRef.mk k shelf).insert u) w = (.ok b, v) ∧ b.body = a.body ∧
      m.type = "aggregate.post_persisted" ∧ Sees shelf t u { x with
        rows := x.rows.put k id (some a.body), queue := x.queue ++ m :: a.raised } v := by
  subst hid
  obtain ⟨m, b, v, hv, hb, ht, hs⟩ := h.write ha (Aggregate.aggregateId a.body) .insert hm hh
  refine ⟨m, b, v, ?_, hb, ht, hs⟩
  rw [Act.carrying_apply, h.insert_free hfree, hv]
  rfl

theorem insert_rejected (h : Sees shelf t u x w) (ha : x.status.accepts = true)
    (a : Tracked k.Entity) {id : Uuid} (hid : Aggregate.aggregateId a.body = id)
    (hfree : x.rows k id = none) (hm : a.state.canMove .prePersist = true) {e : DomainError}
    {b : k.Entity} (hh : Aggregate.beforeSave a.body = (.error e, b)) :
    ∃ v, Act.carrying a ((TableRef.mk k shelf).insert u) w =
        (.error (.unitOfWork (.preHookRejected id .prePersist e)), v) ∧
      Sees shelf t u x v := by
  subst hid
  obtain ⟨s, hr, hs⟩ := h.write_rejected ha (Aggregate.aggregateId a.body) .insert hm hh
  refine ⟨s.2, ?_, hs⟩
  rw [Act.carrying_apply, h.insert_free hfree, hr]
  rfl

theorem update (h : Sees shelf t u x w) (ha : x.status.accepts = true) (a : Tracked k.Entity)
    {id : Uuid} (hid : Aggregate.aggregateId a.body = id) (hknown : (x.rows k id).isSome = true)
    (hm : a.state.canMove .preUpdate = true)
    (hh : Aggregate.beforeSave a.body = (.ok (), a.body)) :
    ∃ (m : Message) (b : Tracked k.Entity) (v : ShopWorld Q H),
      Act.carrying a ((TableRef.mk k shelf).update u) w = (.ok b, v) ∧ b.body = a.body ∧
      m.type = "aggregate.post_updated" ∧ Sees shelf t u { x with
        rows := x.rows.put k id (some a.body), queue := x.queue ++ m :: a.raised } v := by
  subst hid
  have hw : (TableRef.mk k shelf).update u (a, w) = (TableRef.mk k shelf).writing some u
      (Aggregate.aggregateId a.body) .preUpdate .postUpdate (a, w) := by
    obtain ⟨row, hrow⟩ := Option.isSome_iff_exists.mp hknown
    rw [TableRef.update_apply, h.owner, h.rows, hrow]
    rfl
  obtain ⟨m, b, v, hv, hb, ht, hs⟩ := h.write ha (Aggregate.aggregateId a.body) .update hm hh
  refine ⟨m, b, v, ?_, hb, ht, hs⟩
  rw [Act.carrying_apply, hw, hv]
  rfl

theorem update_changed (h : Sees shelf t u x w) (ha : x.status.accepts = true) {id : Uuid}
    (hrow : x.rows k id = some a.body) (hstate : a.state = .loaded) (hraised : a.raised = [])
    (row : k.Entity) (hid : Aggregate.aggregateId row = id)
    (hh : Aggregate.beforeSave row = (.ok (), row)) {m : Message} (hd : m.isDomain = true) :
    ∃ (n : Message) (b : Tracked k.Entity) (v : ShopWorld Q H),
      Act.carrying (Tracked.raise { a with body := row } m) ((TableRef.mk k shelf).update u) w =
        (.ok b, v) ∧ b.body = row ∧ n.type = "aggregate.post_updated" ∧ Sees shelf t u { x with
          rows := x.rows.put k id (some row), queue := x.queue ++ [n, m] } v := by
  let c : Tracked k.Entity := Tracked.raise { a with body := row } m
  have hknown : (x.rows k id).isSome = true := by
    rw [hrow]
    rfl
  have hmove : c.state.canMove .preUpdate = true := by
    change a.state.canMove .preUpdate = true
    rw [hstate]
    rfl
  obtain ⟨n, b, v, hv, hb, hn, hs⟩ := h.update ha c hid hknown hmove hh
  have hc : c.raised = [m] := by
    rw [Tracked.raised_raise _ hd]
    exact congrArg (· ++ [m]) hraised
  rw [hc] at hs
  exact ⟨n, b, v, hv, hb, hn, hs⟩

theorem load_unknown (h : Sees shelf t u x w) {id : Uuid} (hnone : x.rows k id = none) :
    (TableRef.mk k shelf).load u id w = (.error (.domain (.notFound id)), w) := by
  apply TableRef.load_unseen
  rw [h.owner, h.rows, hnone]
  rfl

theorem load_known (h : Sees shelf t u x w) (ha : x.status.accepts = true) {id : Uuid}
    {row : k.Entity} (hrow : x.rows k id = some row) :
    ∃ (a : Tracked k.Entity) (v : ShopWorld Q H), (TableRef.mk k shelf).load u id w = (.ok a, v) ∧
      a.body = row ∧ a.state = .loaded ∧ a.raised = [] ∧ Sees shelf t u x v := by
  have hp : ((TableRef.mk k shelf).peek u id : ShopAct Q H OrderingError _) w =
      (.ok (some (.fresh row)), w) := by
    rw [h.peek, hrow]
    rfl
  obtain ⟨m, v, hv, -, hs⟩ : ∃ (m : Message) (v : ShopWorld Q H),
      (TableRef.mk k shelf).report .postLoad u (.fresh row, w) =
        (.ok (), (Tracked.fresh row).enter .loaded m, v) ∧ m.isDomain = false ∧
        Sees shelf t u x v := h.report_pre ha rfl rfl rfl
  refine ⟨(Tracked.fresh row).enter .loaded m, v, ?_, rfl, rfl, rfl, hs⟩
  rw [TableRef.load, Act.bind_ok hp]
  dsimp only
  rw [Act.carrying_apply, hv]
  rfl

end Sees

end Transactor.Shop
