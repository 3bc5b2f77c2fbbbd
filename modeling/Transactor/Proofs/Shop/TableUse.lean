import Transactor.Proofs.Reports
import Transactor.Shop.Store

namespace Transactor.Shop

variable {Q H : Type} {u : UnitRef} {w v : ShopWorld Q H}

theorem hook_body {k : Kind} (target : Lifecycle) (e : k.Entity) :
    (Tracked.hook target e).2 = e := by
  cases k with
  | order =>
    cases target <;> first | rfl | skip
    all_goals
      change (if _ then _ else _ : Except DomainError Unit × Order).2 = e
      split <;> rfl
  | stockItem =>
    cases target <;> first | rfl | skip
    all_goals
      change (if _ then _ else _ : Except DomainError Unit × StockItem).2 = e
      split <;> rfl

theorem hindrance_body {k : Kind} {a : Tracked k.Entity} {target : Lifecycle} {e : UnitOfWorkError}
    {b : k.Entity} (h : a.Hindrance target e b) : b = a.body := by
  cases h with
  | violation hm => rfl
  | rejected hm hh =>
    have hb := hook_body target a.body
    rw [hh] at hb
    exact hb

theorem accepts_ne_completed {s : UnitStatus} (h : s.accepts = true) : s ≠ .completed := by
  intro he
  rw [he] at h
  exact absurd h (by decide)

namespace TableRef

variable (r : TableRef)

/-- The two reports of a write, with a row staged in between. -/
def writing (row : r.Row → Option r.Row) (u : UnitRef) (id : Uuid) (pre post : PersistenceEvent) :
    Act (Tracked r.Entity × ShopWorld Q H) OrderingError Unit := do
  r.report pre u
  let e ← Act.gets fun s => s.1.detached
  Act.onSecond (r.stage u id (row e))
  r.report post u

@[simp] theorem unit_setTable (t : Table r.Row) (u : UnitRef) :
    (r.setTable w t).unit u = w.unit u := rfl

@[simp] theorem table_setTable_self (t : Table r.Row) : r.table (r.setTable w t) = t :=
  Tables.get_set_self _ r t

theorem table_setTable_of_ne {q : TableRef} (t : Table r.Row) (h : q ≠ r) :
    q.table (r.setTable w t) = q.table w := Tables.get_set_of_ne _ t h

@[simp] theorem table_record (e : TraceEvent) : r.table (w.record e) = r.table w := rfl

theorem table_congr (h : v.host = w.host) (q : TableRef) : q.table v = q.table w := by
  rw [table, h, table]

theorem host_setTable (h : v.host = w.host) (t : Table r.Row) :
    (r.setTable v t).host = (r.setTable w t).host := by
  simp only [setTable, h]

/-- The world in which a table is enlisted with a unit that stages a row. -/
def enlisting (u : UnitRef) (w : ShopWorld Q H) : ShopWorld Q H :=
  if (r.table w).staged.contains (w.unit u).transaction then w
  else w.setUnit u { w.unit u with
    participants := (w.unit u).participants ++ [.stagedWrites r (w.unit u).transaction] }

@[simp] theorem host_enlisting : (r.enlisting u w).host = w.host := by
  unfold enlisting
  split <;> rfl

theorem table_enlisting (q : TableRef) : q.table (r.enlisting u w) = q.table w :=
  table_congr r.host_enlisting q

theorem stage_open (ho : (w.unit u).status ≠ .completed) (id : Uuid) (row : Option r.Row) :
    r.stage u id row w = (.ok (),
      r.setTable (r.enlisting u w) ((r.table w).stage (w.unit u).transaction id row)) := by
  unfold stage enlisting
  by_cases hs : (r.table w).staged.contains (w.unit u).transaction = true
  · simp only [Act.bind_apply, Act.get_apply, hs, ↓reduceIte, Act.modify_apply]
  · simp only [Act.bind_apply, Act.get_apply, hs, Bool.false_eq_true, ↓reduceIte,
      Act.mapError_ok (WorldAct.enlist_open w u ho), Act.modify_apply]
    rfl

theorem unit_stage (ho : (w.unit u).status ≠ .completed) (id : Uuid) (row : Option r.Row) :
    ((r.stage u id row w).2.unit u).status = (w.unit u).status := by
  rw [r.stage_open ho]
  change ((r.enlisting u w).unit u).status = _
  unfold enlisting
  split
  · rfl
  · rw [World.unit_setUnit_self]

theorem report_closed (hc : (w.unit u).status.accepts = false) (event : PersistenceEvent)
    (a : Tracked r.Entity) :
    r.report event u (a, w) = (.error (.unitOfWork (.closed (w.unit u).transaction)), (a, w)) :=
  Act.mapError_error (PersistenceEvent.report_closed hc event a)

theorem accepts_of_report {s s' : Tracked r.Entity × ShopWorld Q H} {event : PersistenceEvent}
    (h : r.report event u s = (.ok (), s')) : (s.2.unit u).status.accepts = true := by
  cases hc : (s.2.unit u).status.accepts with
  | true => rfl
  | false =>
    have hr := h.symm.trans (r.report_closed hc event s.1)
    cases hr

section Report

variable {r} {event : PersistenceEvent} {a : Tracked r.Entity}

theorem report_ok (ha : (w.unit u).status.accepts = true)
    (hm : a.state.canMove event.target = true)
    (hh : Tracked.hook event.target a.body = (.ok (), a.body)) :
    ∃ b v, r.report event u (a, w) = (.ok (), b, v) ∧ b.body = a.body ∧ b.state = event.target := by
  have hreport := Act.mapError_ok (f := OrderingError.unitOfWork)
    (PersistenceEvent.report_taken ha hm hh)
  exact ⟨_, _, hreport, Tracked.body_reported .., Tracked.state_reported ..⟩

theorem report_failed {b : Tracked r.Entity} {e : UnitOfWorkError}
    (ha : (w.unit u).status.accepts = true)
    (hmove : Tracked.move event.target ⟨w.supply.current, w.clock⟩ a = (.error e, b)) :
    r.report event u (a, w) =
      (.error (.unitOfWork e), b, { w with supply := w.supply.advance }) :=
  Act.mapError_error (PersistenceEvent.report_failed ha hmove)

/-- A unit that takes registrations takes the report, unless the lifecycle has no such step or the
hook refuses it. -/
theorem report_cases (ha : (w.unit u).status.accepts = true) (event : PersistenceEvent)
    (a : Tracked r.Entity) :
    (∃ b v, r.report event u (a, w) = (.ok (), b, v) ∧ b.body = a.body ∧ b.state = event.target) ∨
      ∃ e s, r.report event u (a, w) = (.error e, s) := by
  cases hm : a.state.canMove event.target with
  | false => exact .inr ⟨_, _, report_failed ha (Tracked.move_violation hm _)⟩
  | true =>
    have hb := hook_body event.target a.body
    cases hh : Tracked.hook event.target a.body with
    | mk answer b =>
      rw [hh] at hb
      obtain rfl : b = a.body := hb
      cases answer with
      | error e => exact .inr ⟨_, _, report_failed ha (Tracked.move_rejected hm hh _)⟩
      | ok _ => exact .inl (report_ok ha hm hh)

theorem hook_of_report {s : Tracked r.Entity × ShopWorld Q H}
    (h : r.report event u (a, w) = (.ok (), s)) :
    (Tracked.hook event.target a.body).1 = .ok () := by
  have ha := r.accepts_of_report h
  cases hm : a.state.canMove event.target with
  | false =>
    rw [report_failed ha (Tracked.move_violation hm _)] at h
    cases h
  | true =>
    cases hh : Tracked.hook event.target a.body with
    | mk answer b =>
      cases answer with
      | ok _ => rfl
      | error e =>
        rw [report_failed ha (Tracked.move_rejected hm hh _)] at h
        cases h

end Report

section Load

variable {r} {id : Uuid}

/-- What loads in a unit is the row that its transaction sees, loaded and with no messages. -/
theorem load_seen {e : r.Entity} (ha : (w.unit u).status.accepts = true)
    (hrow : (r.table w).visible (w.unit u).transaction id = some (.fresh e)) : r.load u id w =
      (.ok ⟨e, .loaded, []⟩, PersistenceEvent.postLoad.taken u (.fresh e) e w) := by
  have hpeek : (r.peek u id : ShopAct Q H OrderingError _) w = (.ok (some (.fresh e)), w) := by
    rw [peek, Act.gets_apply, hrow]
  have hreport : PersistenceEvent.postLoad.report u (Tracked.fresh e, w) = _ :=
    PersistenceEvent.report_taken ha rfl rfl
  rw [load, Act.bind_ok hpeek]
  dsimp only
  rw [Act.carrying_apply, report, Act.mapError_ok hreport]
  rfl

theorem load_unseen (hrow : (r.table w).visible (w.unit u).transaction id = none) :
    r.load u id w = (.error (.domain (.notFound id)), w) := by
  have hpeek : (r.peek u id : ShopAct Q H OrderingError _) w = (.ok none, w) := by
    rw [peek, Act.gets_apply, hrow]
  rw [load, Act.bind_ok hpeek]
  rfl

theorem load_cases (ha : (w.unit u).status.accepts = true)
    (hrow : ∀ row, (r.table w).visible (w.unit u).transaction id = some row → row.IsDetached) :
    (∃ e v, (r.table w).visible (w.unit u).transaction id = some (.fresh e) ∧
      r.load u id w = (.ok ⟨e, .loaded, []⟩, v)) ∨
    (r.table w).visible (w.unit u).transaction id = none ∧
      r.load u id w = (.error (.domain (.notFound id)), w) := by
  cases hv : (r.table w).visible (w.unit u).transaction id with
  | none => exact .inr ⟨rfl, load_unseen hv⟩
  | some row =>
    obtain ⟨e, rfl⟩ : ∃ e, row = .fresh e := ⟨row.body, (hrow row hv).eq_fresh⟩
    exact .inl ⟨e, _, rfl, load_seen ha hv⟩

theorem seen_of_load {a : Tracked r.Entity} (hl : r.load u id w = (.ok a, v)) :
    ∃ row, (r.table w).visible (w.unit u).transaction id = some row ∧
      a = ⟨row.body, .loaded, []⟩ := by
  obtain ⟨row, m, hp, hrow⟩ := Act.bind_eq_ok.mp hl
  cases row with
  | none => cases hrow
  | some row =>
    obtain rfl : w = m := (Prod.mk.inj hp).2
    have hv : (r.table w).visible (w.unit u).transaction id = some row :=
      Except.ok.inj (Prod.mk.inj hp).1
    have hreport : r.report .postLoad u (row, w) = (.ok (), a, v) := Act.carrying_eq_ok hrow
    have ha : (w.unit u).status.accepts = true := r.accepts_of_report hreport
    refine ⟨row, hv, ?_⟩
    cases hm : row.state.canMove .loaded with
    | false =>
      have hfailed : r.report .postLoad u (row, w) = (.error _, row, _) :=
        report_failed ha (Tracked.move_violation hm _)
      cases hreport.symm.trans hfailed
    | true =>
      have htaken : r.report .postLoad u (row, w) = (.ok (), _, _) :=
        Act.mapError_ok (PersistenceEvent.report_taken ha hm rfl)
      cases hreport.symm.trans htaken
      rfl

end Load

section Apply

variable (u w) (a : Tracked r.Entity)

theorem insert_apply : r.insert u (a, w) =
    if ((r.table w).visible (w.unit u).transaction (Aggregate.aggregateId a.body)).isSome then
      (.error (.alreadyExists r.kind.typeName (Aggregate.aggregateId a.body)), a, w)
    else r.writing some u (Aggregate.aggregateId a.body) .prePersist .postPersist (a, w) := by
  simp only [insert, entityId, peek, Act.bind_apply, Act.gets_apply, Act.onSecond_apply]
  split <;> rfl

theorem update_apply : r.update u (a, w) =
    if ((r.table w).visible (w.unit u).transaction (Aggregate.aggregateId a.body)).isNone then
      (.error (.domain (.notFound (Aggregate.aggregateId a.body))), a, w)
    else r.writing some u (Aggregate.aggregateId a.body) .preUpdate .postUpdate (a, w) := by
  simp only [update, entityId, peek, Act.bind_apply, Act.gets_apply, Act.onSecond_apply]
  split <;> rfl

theorem remove_apply : r.remove u (a, w) =
    if ((r.table w).visible (w.unit u).transaction (Aggregate.aggregateId a.body)).isNone then
      (.error (.domain (.notFound (Aggregate.aggregateId a.body))), a, w)
    else r.writing (fun _ => none) u (Aggregate.aggregateId a.body) .preRemove .postRemove
      (a, w) := by
  simp only [remove, entityId, peek, Act.bind_apply, Act.gets_apply, Act.onSecond_apply]
  split <;> rfl

end Apply

end TableRef

/-- What is not undone by anything that a report does on behalf of a unit. -/
structure Stable (u : UnitRef) (I : ShopWorld Q H → Prop) : Prop where
  record : ∀ w e, I w → I (w.record e)
  supply : ∀ w, I w → I { w with supply := w.supply.advance }
  add : ∀ w r, (w.unit u).status.accepts = true → I w → I (w.setUnit u ((w.unit u).add r))

namespace Stable

variable {I : ShopWorld Q H → Prop} (h : Stable u I)

include h

theorem register (x : Registration) : (WorldAct.register u x : ShopAct Q H _ _).Keeps I := by
  intro w hw
  cases ha : (w.unit u).status.accepts with
  | true =>
    rw [WorldAct.register_open w u ha]
    exact h.add w x ha hw
  | false =>
    rw [WorldAct.register_closed w u ha]
    exact hw

theorem report (r : TableRef) (event : PersistenceEvent) :
    (r.report event u : Act (Tracked r.Entity × ShopWorld Q H) OrderingError Unit).Keeps
      fun s => I s.2 :=
  Act.Keeps.mapError _ (PersistenceEvent.report_keeps h.record h.supply h.register event)

theorem load (r : TableRef) (id : Uuid) :
    (r.load u id : ShopAct Q H OrderingError (Tracked r.Entity)).Keeps I := by
  unfold TableRef.load
  apply Act.Keeps.bind
  · exact Act.Keeps.gets _
  intro row
  cases row with
  | none => exact Act.Keeps.fail _
  | some row => exact Act.Keeps.carrying _ (h.report r .postLoad)

end Stable

/-- The host has been left alone since a world, and so have a unit's transaction and status. -/
structure Unheard (u : UnitRef) (w v : ShopWorld Q H) : Prop where
  host : v.host = w.host
  owner : (v.unit u).transaction = (w.unit u).transaction
  status : (v.unit u).status = (w.unit u).status

theorem unheard_stable (u : UnitRef) (w : ShopWorld Q H) : Stable u (Unheard u w) where
  record _ _ hv := ⟨hv.host, hv.owner, hv.status⟩
  supply _ hv := ⟨hv.host, hv.owner, hv.status⟩
  add v r _ hv := by
    refine ⟨hv.host, ?_, ?_⟩
    · rw [World.unit_setUnit_self]
      exact hv.owner
    · rw [World.unit_setUnit_self]
      exact hv.status

namespace TableRef

variable (r : TableRef)

theorem report_unheard {event : PersistenceEvent} {a b : Tracked r.Entity}
    {res : Except OrderingError Unit} (h : r.report event u (a, w) = (res, b, v)) :
    Unheard u w v := by
  have hs := (unheard_stable u w).report r event (a, w) ⟨rfl, rfl, rfl⟩
  rwa [h] at hs

theorem load_unheard {id : Uuid} {res : Except OrderingError (Tracked r.Entity)}
    (h : r.load u id w = (res, v)) : Unheard u w v := by
  have hs := (unheard_stable u w).load r id w ⟨rfl, rfl, rfl⟩
  rwa [h] at hs

/-- The events that a write reports before and after it. -/
inductive Reports : PersistenceEvent → PersistenceEvent → Prop
  | insert : Reports .prePersist .postPersist
  | update : Reports .preUpdate .postUpdate
  | remove : Reports .preRemove .postRemove

/-- How a write ends: it has done nothing to the host but stage a row, or nothing at all. -/
inductive WriteEnd (r : TableRef) (u : UnitRef) (id : Uuid) (row : Option r.Row)
    (w : ShopWorld Q H) : Except OrderingError Unit × Tracked r.Entity × ShopWorld Q H → Prop
  | staged {b : Tracked r.Entity} {v : ShopWorld Q H} (hv : v.host =
      (r.setTable w ((r.table w).stage (w.unit u).transaction id row)).host) :
      WriteEnd r u id row w (.ok (), b, v)
  | refused {e : OrderingError} {b : Tracked r.Entity} {v : ShopWorld Q H} (hv : v.host = w.host) :
      WriteEnd r u id row w (.error e, b, v)

theorem WriteEnd.host {r : TableRef} {id : Uuid} {row : Option r.Row}
    {s : Except OrderingError Unit × Tracked r.Entity × ShopWorld Q H} (h : WriteEnd r u id row w s)
    (hs : s.1 = .ok ()) :
    s.2.2.host = (r.setTable w ((r.table w).stage (w.unit u).transaction id row)).host := by
  cases h with
  | staged hv => exact hv
  | refused hv => cases hs

section Writing

variable (u w) (a : Tracked r.Entity)

theorem writing_end {pre post : PersistenceEvent} (hp : Reports pre post) (id : Uuid)
    (row : r.Row → Option r.Row) :
    WriteEnd r u id (row a.detached) w (r.writing row u id pre post (a, w)) := by
  cases ha : (w.unit u).status.accepts with
  | false =>
    rw [writing, Act.bind_error (r.report_closed ha pre a)]
    exact .refused rfl
  | true =>
    obtain ⟨b, c, hc, hbody, hstate⟩ | ⟨e, s, hs⟩ := r.report_cases ha pre a
    · have hm : b.state.canMove post.target = true := by
        rw [hstate]
        cases hp <;> rfl
      have hh : Tracked.hook post.target b.body = (.ok (), b.body) := by cases hp <;> rfl
      have hu := r.report_unheard hc
      have hac : (c.unit u).status.accepts = true := by rw [hu.status, ha]
      let d := r.setTable (r.enlisting u c)
        ((r.table c).stage (c.unit u).transaction id (row b.detached))
      have hd : r.stage u id (row b.detached) c = (.ok (), d) :=
        r.stage_open (accepts_ne_completed hac) id _
      have had : (d.unit u).status.accepts = true := by
        have hstage := r.unit_stage (accepts_ne_completed hac) id (row b.detached)
        rw [hd] at hstage
        rw [hstage, hac]
      obtain ⟨b', v, hv, -, -⟩ := report_ok (r := r) had hm hh
      have hstaged : Act.onSecond (r.stage u id (row b.detached)) (b, c) = (.ok (), b, d) := by
        rw [Act.onSecond_apply, hd]
      rw [writing, Act.bind_ok hc, Act.bind_ok (Act.gets_apply _ _), Act.bind_ok hstaged, hv]
      apply WriteEnd.staged
      rw [(r.report_unheard hv).host, r.host_setTable (r.host_enlisting.trans hu.host),
        table_congr hu.host, hu.owner, Tracked.detached_congr hbody]
    · rw [writing, Act.bind_error hs]
      exact .refused (r.report_unheard hs).host

theorem insert_end :
    WriteEnd r u (Aggregate.aggregateId a.body) (some a.detached) w (r.insert u (a, w)) := by
  rw [insert_apply]
  split
  · exact .refused rfl
  · exact r.writing_end u w a .insert _ some

theorem update_end :
    WriteEnd r u (Aggregate.aggregateId a.body) (some a.detached) w (r.update u (a, w)) := by
  rw [update_apply]
  split
  · exact .refused rfl
  · exact r.writing_end u w a .update _ some

theorem remove_end :
    WriteEnd r u (Aggregate.aggregateId a.body) none w (r.remove u (a, w)) := by
  rw [remove_apply]
  split
  · exact .refused rfl
  · exact r.writing_end u w a .remove _ fun _ => none

end Writing

end TableRef

/-- What is not undone by writing on behalf of a unit either. -/
structure Upheld (u : UnitRef) (I : ShopWorld Q H → Prop) : Prop extends Stable u I where
  stage : ∀ w (r : TableRef) (id : Uuid) (row : Option r.Row),
    (w.unit u).status.accepts = true → I w → I (r.stage u id row w).2

namespace Upheld

variable {I : ShopWorld Q H → Prop} (h : Upheld u I) (r : TableRef)

include h

theorem writing (row : r.Row → Option r.Row) (id : Uuid) (pre post : PersistenceEvent) :
    (r.writing row u id pre post).Keeps fun s => I s.2 := by
  apply (h.report r pre).bind_of_ok
  rintro ⟨a, w⟩ _ ⟨b, v⟩ hw hr
  have hv := h.report r pre (a, w) hw
  rw [hr] at hv
  have ha : (v.unit u).status.accepts = true := by
    rw [(r.report_unheard hr).status]
    exact r.accepts_of_report hr
  rw [Act.bind_ok (Act.gets_apply _ _)]
  have hd : r.stage u id (row b.detached) v = (.ok (), (r.stage u id (row b.detached) v).2) := by
    rw [r.stage_open (accepts_ne_completed ha)]
  have hstaged : Act.onSecond (r.stage u id (row b.detached)) (b, v) =
      (.ok (), b, (r.stage u id (row b.detached) v).2) := by
    rw [Act.onSecond_apply, hd]
  rw [Act.bind_ok hstaged]
  exact h.report r post _ (h.stage v r id _ ha hv)

theorem insert : (r.insert u).Keeps fun s => I s.2 := by
  rintro ⟨a, w⟩ hw
  rw [r.insert_apply]
  split
  · exact hw
  · exact h.writing r some _ _ _ (a, w) hw

theorem update : (r.update u).Keeps fun s => I s.2 := by
  rintro ⟨a, w⟩ hw
  rw [r.update_apply]
  split
  · exact hw
  · exact h.writing r some _ _ _ (a, w) hw

theorem remove : (r.remove u).Keeps fun s => I s.2 := by
  rintro ⟨a, w⟩ hw
  rw [r.remove_apply]
  split
  · exact hw
  · exact h.writing r _ _ _ _ (a, w) hw

end Upheld

theorem upheld_host (u : UnitRef) (a : H) :
    Upheld u fun v : ShopWorld Q H => v.host.host = a where
  record _ _ hv := hv
  supply _ hv := hv
  add _ _ _ hv := hv
  stage w r id row ha hv := by
    rw [r.stage_open (accepts_ne_completed ha)]
    change (r.enlisting u w).host.host = a
    rw [r.host_enlisting]
    exact hv

end Transactor.Shop
