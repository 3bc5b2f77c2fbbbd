import Transactor.Proofs.Shop.TableUse

namespace Transactor.Shop

variable {Q H : Type}

theorem Table.get?_staged_stage {E : Type} (t : Table E) (x : TransactionId) (id j : Uuid)
    (row : Option E) : ((t.stage x id row).staged.getD x ∅).get? j =
      if j = id then some row else (t.staged.getD x ∅).get? j := by
  rw [stage, KeyedList.getD, KeyedList.get?_insert_self, Option.getD_some, KeyedList.get?_insert]

theorem Table.get?_stage_of_ne {E : Type} (t : Table E) {x y : TransactionId} (id : Uuid)
    (row : Option E) (h : y ≠ x) : (t.stage x id row).staged.get? y = t.staged.get? y :=
  KeyedList.get?_insert_of_ne _ _ h

theorem UnitOfWork.receive_twice {P : Type} (x : UnitOfWork P) (key : String × Uuid) (ps : List P)
    (ms : List Message) :
    UnitOfWork.receive { x.receive key [] with participants := ps } key ms =
      { x with
        queue := x.queue ++ ms
        registered := UnitOfWork.track key x.registered
        participants := ps } := by
  simp only [UnitOfWork.receive, List.append_nil, UnitOfWork.track_track]

namespace TableRef

variable (r : TableRef) (u : UnitRef) (w : ShopWorld Q H)

/-- The participants of a unit once a table is enlisted with it. -/
def participants : List (Party Q) :=
  if (r.table w).staged.contains (w.unit u).transaction then (w.unit u).participants
  else (w.unit u).participants ++ [.stagedWrites r (w.unit u).transaction]

theorem unit_enlisting_self :
    (r.enlisting u w).unit u = { w.unit u with participants := r.participants u w } := by
  unfold enlisting participants
  split
  · rfl
  · rw [World.unit_setUnit_self]

theorem unit_enlisting_of_ne {v : UnitRef} (h : v ≠ u) :
    (r.enlisting u w).unit v = w.unit v := by
  unfold enlisting
  split
  · rfl
  · exact World.unit_setUnit_of_ne _ _ h

theorem units_enlisting : ∃ units, r.enlisting u w = { w with units := units } := by
  unfold enlisting
  split
  · exact ⟨_, rfl⟩
  · exact ⟨_, rfl⟩

end TableRef

/-- The writes to a table. -/
inductive RowWrite where
  | insert
  | update
  | remove

namespace RowWrite

variable (r : TableRef) (u : UnitRef)

def run : RowWrite → Act (Tracked r.Entity × ShopWorld Q H) OrderingError Unit
  | insert => r.insert u
  | update => r.update u
  | remove => r.remove u

def pre : RowWrite → PersistenceEvent
  | insert => .prePersist
  | update => .preUpdate
  | remove => .preRemove

def post : RowWrite → PersistenceEvent
  | insert => .postPersist
  | update => .postUpdate
  | remove => .postRemove

/-- What the write stages for a row. -/
def staged {E : Type} (e : E) : RowWrite → Option E
  | insert | update => some e
  | remove => none

/-- What is wrong with a write of a row under an identifier, given the row that is there. -/
def conflict? (id : Uuid) (seen : Option r.Row) : RowWrite → Option OrderingError
  | insert => if seen.isSome then some (.alreadyExists r.kind.typeName id) else none
  | update | remove => if seen.isNone then some (.domain (.notFound id)) else none

variable {r u} {a : Tracked r.Entity} {w : ShopWorld Q H}

theorem run_apply (wr : RowWrite) (a : Tracked r.Entity) (w : ShopWorld Q H) : wr.run r u (a, w) =
    match wr.conflict? r (Aggregate.aggregateId a.body) ((r.table w).visible
      (w.unit u).transaction (Aggregate.aggregateId a.body)) with
    | some e => (.error e, a, w)
    | none => r.writing wr.staged u (Aggregate.aggregateId a.body) wr.pre wr.post (a, w) := by
  cases wr with
  | insert =>
    rw [run, r.insert_apply, conflict?]
    split <;> rfl
  | update =>
    rw [run, r.update_apply, conflict?]
    split <;> rfl
  | remove =>
    rw [run, r.remove_apply, conflict?]
    split <;> rfl

theorem isPost_pre (wr : RowWrite) : wr.pre.target.isPost = false := by cases wr <;> rfl

theorem isPost_post (wr : RowWrite) : wr.post.target.isPost = true := by cases wr <;> rfl

theorem pre_ne_loaded (wr : RowWrite) : wr.pre.target ≠ .loaded := by
  cases wr <;> exact fun h => by cases h

theorem canMove_post (wr : RowWrite) : wr.pre.target.canMove wr.post.target = true := by
  cases wr <;> rfl

variable (r u)

/-- The record of the step before the write. -/
def preRecord (wr : RowWrite) (a : Tracked r.Entity) (w : ShopWorld Q H) : Message :=
  a.announcement a.body wr.pre.target ⟨w.supply.current, w.clock⟩

/-- The record of the step after it. -/
def postRecord (wr : RowWrite) (a : Tracked r.Entity) (w : ShopWorld Q H) : Message :=
  a.announcement a.body wr.post.target ⟨w.supply.advance.current, w.clock⟩

/-- The aggregate after the first step. -/
def between (wr : RowWrite) (a : Tracked r.Entity) (w : ShopWorld Q H) : Tracked r.Entity :=
  a.enter wr.pre.target (wr.preRecord r a w)

/-- The world after the first step and the staging. -/
def staging (wr : RowWrite) (a : Tracked r.Entity) (w : ShopWorld Q H) : ShopWorld Q H :=
  let v := wr.pre.taken u a a.body w
  r.setTable (r.enlisting u v) ((r.table w).stage (w.unit u).transaction
    (Aggregate.aggregateId a.body) (wr.staged a.detached))

/-- The aggregate after a write that succeeds. -/
def done (wr : RowWrite) (a : Tracked r.Entity) (w : ShopWorld Q H) : Tracked r.Entity :=
  ((wr.between r a w).enter wr.post.target (wr.postRecord r a w)).dropRaised

/-- The world after a write that succeeds. -/
def after (wr : RowWrite) (a : Tracked r.Entity) (w : ShopWorld Q H) : ShopWorld Q H :=
  wr.post.taken u (wr.between r a w) a.body (wr.staging r u a w)

variable {r u}

section After

variable (wr : RowWrite) (a : Tracked r.Entity) (w : ShopWorld Q H)

theorem raised_between : (wr.between r a w).raised = a.raised :=
  Tracked.raised_enter wr.pre_ne_loaded rfl

theorem messages_done : (wr.done r a w).messages =
    (a.messages.filter fun m => !m.isDomain) ++ [wr.preRecord r a w, wr.postRecord r a w] := by
  have hpost : wr.post.target ≠ .loaded := Lifecycle.ne_loaded_of_isPost wr.isPost_post
  have hmessages : (wr.done r a w).messages = ((a.messages ++ [wr.preRecord r a w]) ++
      [wr.postRecord r a w]).filter fun m => !m.isDomain := by
    simp only [done, between, Tracked.dropRaised, Tracked.enter, wr.pre_ne_loaded, hpost,
      ↓reduceIte]
  rw [hmessages, List.append_assoc, List.filter_append]
  rfl

theorem unit_staging_self : (wr.staging r u a w).unit u = { (w.unit u).receive
    (Aggregate.aggregateType a.body, Aggregate.aggregateId a.body) [] with
      participants := r.participants u w } := by
  have htaken : (wr.pre.taken u a a.body w).unit u = (w.unit u).receive
      (Aggregate.aggregateType a.body, Aggregate.aggregateId a.body) [] := by
    rw [PersistenceEvent.unit_taken_self, Tracked.handedOver, wr.isPost_pre]
    rfl
  have hparticipants : r.participants u (wr.pre.taken u a a.body w) = r.participants u w := by
    rw [TableRef.participants, htaken]
    rfl
  rw [staging, TableRef.unit_setTable, r.unit_enlisting_self, hparticipants, htaken]

theorem staging_world : ∃ units, wr.staging r u a w = r.setTable
    { wr.pre.taken u a a.body w with units := units } ((r.table w).stage (w.unit u).transaction
      (Aggregate.aggregateId a.body) (wr.staged a.detached)) := by
  obtain ⟨units, hunits⟩ := r.units_enlisting u (wr.pre.taken u a a.body w)
  refine ⟨units, ?_⟩
  rw [staging, hunits]

theorem postRecord_staging : (wr.between r a w).announcement a.body wr.post.target
    ⟨(wr.staging r u a w).supply.current, (wr.staging r u a w).clock⟩ =
      wr.postRecord r a w := by
  obtain ⟨units, hstaging⟩ := wr.staging_world (u := u) a w
  rw [hstaging]
  rfl

theorem unit_after_self : (wr.after r u a w).unit u = { w.unit u with
    queue := (w.unit u).queue ++ wr.postRecord r a w :: a.raised
    registered := UnitOfWork.track
      (Aggregate.aggregateType a.body, Aggregate.aggregateId a.body) (w.unit u).registered
    participants := r.participants u w } := by
  rw [after, PersistenceEvent.unit_taken_self, Tracked.handedOver, if_pos wr.isPost_post,
    postRecord_staging, raised_between, unit_staging_self]
  exact UnitOfWork.receive_twice ..

theorem unit_after_of_ne {q : UnitRef} (h : q ≠ u) : (wr.after r u a w).unit q = w.unit q := by
  rw [after, PersistenceEvent.unit_taken_of_ne h, staging, TableRef.unit_setTable,
    r.unit_enlisting_of_ne _ _ h, PersistenceEvent.unit_taken_of_ne h]

/-- Of the host a write changes nothing but the row that it stages. -/
theorem host_after : (wr.after r u a w).host =
    (r.setTable w ((r.table w).stage (w.unit u).transaction (Aggregate.aggregateId a.body)
      (wr.staged a.detached))).host := by
  have hhost : (r.enlisting u (wr.pre.taken u a a.body w)).host = w.host := r.host_enlisting
  exact r.host_setTable hhost _

/-- The aggregate moves twice, through the state in which the row is written. -/
theorem trace_after : (wr.after r u a w).trace =
    .aggregateMoved (w.unit u).transaction (Aggregate.aggregateId a.body) wr.pre.target
      wr.post.target ::
    .aggregateMoved (w.unit u).transaction (Aggregate.aggregateId a.body) a.state
      wr.pre.target :: w.trace := by
  have howner : ((wr.staging r u a w).unit u).transaction = (w.unit u).transaction := by
    rw [unit_staging_self]
    rfl
  have htrace : (wr.after r u a w).trace = .aggregateMoved
      ((wr.staging r u a w).unit u).transaction (Aggregate.aggregateId a.body) wr.pre.target
        wr.post.target :: (wr.staging r u a w).trace := rfl
  obtain ⟨units, hstaging⟩ := wr.staging_world (u := u) a w
  rw [htrace, howner, hstaging]
  rfl

/-- The steps of a write that nothing stands in the way of. -/
theorem writing_taken (ha : (w.unit u).status.accepts = true)
    (hm : a.state.canMove wr.pre.target = true)
    (hh : Tracked.hook wr.pre.target a.body = (.ok (), a.body)) :
    r.writing wr.staged u (Aggregate.aggregateId a.body) wr.pre wr.post (a, w) =
      (.ok (), wr.done r a w, wr.after r u a w) := by
  let c := wr.pre.taken u a a.body w
  have hpre : r.report wr.pre u (a, w) = (.ok (), wr.between r a w, c) := by
    have hreport := PersistenceEvent.report_taken ha hm hh
    rw [Tracked.reported, wr.isPost_pre] at hreport
    exact Act.mapError_ok hreport
  have hunit : c.unit u = (w.unit u).receive
      (Aggregate.aggregateType a.body, Aggregate.aggregateId a.body) [] := by
    rw [PersistenceEvent.unit_taken_self, Tracked.handedOver, wr.isPost_pre]
    rfl
  have hopen : (c.unit u).status ≠ .completed := by
    rw [hunit]
    exact accepts_ne_completed ha
  have hstage : Act.onSecond (r.stage u (Aggregate.aggregateId a.body) (wr.staged a.detached))
      (wr.between r a w, c) = (.ok (), wr.between r a w, wr.staging r u a w) := by
    rw [Act.onSecond_apply, r.stage_open hopen, hunit]
    rfl
  have hpost : r.report wr.post u (wr.between r a w, wr.staging r u a w) =
      (.ok (), wr.done r a w, wr.after r u a w) := by
    have hopen : ((wr.staging r u a w).unit u).status.accepts = true := by
      rw [unit_staging_self]
      exact ha
    have hnone := Tracked.hook_of_not_isPre (Lifecycle.isPre_eq_false_of_isPost wr.isPost_post)
      a.body
    have hreport : wr.post.report u (wr.between r a w, wr.staging r u a w) = _ :=
      PersistenceEvent.report_taken hopen wr.canMove_post hnone
    rw [postRecord_staging, Tracked.reported, if_pos wr.isPost_post] at hreport
    exact Act.mapError_ok hreport
  rw [TableRef.writing, Act.bind_ok hpre, Act.bind_ok (Act.gets_apply _ _)]
  exact (Act.bind_ok hstage).trans hpost

theorem run_of_free (hfree : wr.conflict? r (Aggregate.aggregateId a.body) ((r.table w).visible
      (w.unit u).transaction (Aggregate.aggregateId a.body)) = none)
    (ha : (w.unit u).status.accepts = true) (hm : a.state.canMove wr.pre.target = true)
    (hh : Tracked.hook wr.pre.target a.body = (.ok (), a.body)) :
    wr.run r u (a, w) = (.ok (), wr.done r a w, wr.after r u a w) := by
  rw [run_apply, hfree]
  exact wr.writing_taken a w ha hm hh

end After

/-- Why a write fails. -/
inductive Refusal (wr : RowWrite) (r : TableRef) (u : UnitRef) (a : Tracked r.Entity)
    (w : ShopWorld Q H) : OrderingError → Prop
  | conflict {e : OrderingError} (h : wr.conflict? r (Aggregate.aggregateId a.body)
      ((r.table w).visible (w.unit u).transaction (Aggregate.aggregateId a.body)) = some e) :
      Refusal wr r u a w e
  | closed (hc : (w.unit u).status.accepts = false) :
      Refusal wr r u a w (.unitOfWork (.closed (w.unit u).transaction))
  | hindered {e : UnitOfWorkError} {b : r.Entity} (h : a.Hindrance wr.pre.target e b) :
      Refusal wr r u a w (.unitOfWork e)

/-- What has come of a write that succeeds. -/
structure Written (wr : RowWrite) (r : TableRef) (u : UnitRef) (a : Tracked r.Entity)
    (w : ShopWorld Q H) (b : Tracked r.Entity) (v : ShopWorld Q H) : Prop where
  body : b.body = a.body
  state : b.state = wr.post.target
  messages : b.messages = (a.messages.filter fun m => !m.isDomain) ++
    [wr.preRecord r a w, wr.postRecord r a w]
  path : v.trace =
    .aggregateMoved (w.unit u).transaction (Aggregate.aggregateId a.body) wr.pre.target
      wr.post.target ::
    .aggregateMoved (w.unit u).transaction (Aggregate.aggregateId a.body) a.state
      wr.pre.target :: w.trace
  unit : v.unit u = { w.unit u with
    queue := (w.unit u).queue ++ wr.postRecord r a w :: a.raised
    registered := UnitOfWork.track
      (Aggregate.aggregateType a.body, Aggregate.aggregateId a.body) (w.unit u).registered
    participants := r.participants u w }
  units : ∀ q, q ≠ u → v.unit q = w.unit q
  row : ∀ j, ((r.table v).staged.getD (w.unit u).transaction ∅).get? j =
    if j = Aggregate.aggregateId a.body then some (wr.staged a.detached)
    else ((r.table w).staged.getD (w.unit u).transaction ∅).get? j
  transactions : ∀ y, y ≠ (w.unit u).transaction →
    (r.table v).staged.get? y = (r.table w).staged.get? y
  committed : (r.table v).committed = (r.table w).committed
  tables : ∀ q, q ≠ r → q.table v = q.table w

/-- How a write ends. One that is refused has taken an identifier at most. -/
inductive Ending (wr : RowWrite) (r : TableRef) (u : UnitRef) (a : Tracked r.Entity)
    (w : ShopWorld Q H) : Except OrderingError Unit × Tracked r.Entity × ShopWorld Q H → Prop
  | refused {e : OrderingError} (supply : Supply) (h : wr.Refusal r u a w e) :
      Ending wr r u a w (.error e, a, { w with supply := supply })
  | written {b : Tracked r.Entity} {v : ShopWorld Q H} (hfree : ∀ e, ¬wr.Refusal r u a w e)
      (h : wr.Written r u a w b v) : Ending wr r u a w (.ok (), b, v)

theorem written_after (wr : RowWrite) (a : Tracked r.Entity) (w : ShopWorld Q H) :
    wr.Written r u a w (wr.done r a w) (wr.after r u a w) where
  body := rfl
  state := rfl
  messages := wr.messages_done a w
  path := wr.trace_after a w
  unit := wr.unit_after_self a w
  units _ hq := wr.unit_after_of_ne a w hq
  row j := by
    rw [TableRef.table_congr (wr.host_after a w), TableRef.table_setTable_self]
    exact Table.get?_staged_stage ..
  transactions y hy := by
    rw [TableRef.table_congr (wr.host_after a w), TableRef.table_setTable_self]
    exact Table.get?_stage_of_ne _ _ _ hy
  committed := by
    rw [TableRef.table_congr (wr.host_after a w), TableRef.table_setTable_self]
    rfl
  tables q hq := by
    rw [TableRef.table_congr (wr.host_after a w)]
    exact r.table_setTable_of_ne _ hq

theorem run_ending (wr : RowWrite) (a : Tracked r.Entity) (w : ShopWorld Q H) :
    wr.Ending r u a w (wr.run r u (a, w)) := by
  rw [run_apply]
  split
  · rename_i e hconflict
    exact .refused w.supply (.conflict hconflict)
  · rename_i hfree
    cases ha : (w.unit u).status.accepts with
    | false =>
      rw [TableRef.writing, Act.bind_error (r.report_closed ha wr.pre a)]
      exact .refused w.supply (.closed ha)
    | true =>
      obtain ⟨hm, e, hh⟩ | ⟨e, b, h⟩ := a.move_cases wr.pre.target
      · have hb := hook_body wr.pre.target a.body
        rw [hh] at hb
        obtain rfl : e = a.body := hb
        rw [wr.writing_taken a w ha hm hh]
        refine .written ?_ (wr.written_after a w)
        intro e h
        cases h with
        | conflict hconflict => cases hfree.symm.trans hconflict
        | closed hc => cases hc.symm.trans ha
        | hindered h => exact h.elim hm hh
      · obtain rfl := hindrance_body h
        rw [TableRef.writing, Act.bind_error (TableRef.report_failed ha (h.move _))]
        exact .refused _ (.hindered h)

end RowWrite

end Transactor.Shop
