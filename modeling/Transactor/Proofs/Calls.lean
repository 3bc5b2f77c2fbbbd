import Transactor.Instant.Text
import Transactor.Registry

namespace Transactor

/-- The start of the year 1970. -/
def Instant.epoch : Instant := (ofParts? ⟨1970, 1, 1, by decide, by decide⟩ 0 0 0 0).get rfl

variable {P S ε α : Type}

/-- The first world of a host, at the epoch. -/
def World.first (settings : Settings) (host : S) : World P S :=
  .start settings ⟨0, 0⟩ .epoch host

@[simp] theorem Task.atOnce_apply {σ : Type} (x : Act σ ε α) (s : σ) :
    Task.atOnce x s = (.ofExcept (x s).1, (x s).2) := rfl

@[simp] theorem Task.ofExcept_apply {σ : Type} (r : Except ε α) (s : σ) :
    Task.ofExcept r s = (.ofExcept r, s) := rfl

theorem Task.attempt_ofExcept {σ ε' : Type} {x : Task σ ε α} {s t : σ} {r : Except ε α}
    (h : x s = (.ofExcept r, t)) : (x.attempt : Task σ ε' (Except ε α)) s = (.done r, t) := by
  unfold Task.attempt
  rw [h]
  cases r <;> rfl

theorem Task.bind_done {σ β : Type} {x : Task σ ε α} {f : α → Task σ ε β} {s t : σ} {a : α}
    (h : x s = (.done a, t)) : (x >>= f) s = f a t := by
  rw [Task.bind_apply, h]

theorem Task.bind_failed {σ β : Type} {x : Task σ ε α} {f : α → Task σ ε β} {s t : σ} {e : ε}
    (h : x s = (.failed e, t)) : (x >>= f) s = (.failed e, t) := by
  rw [Task.bind_apply, h]

theorem Task.bind_interrupted {σ β : Type} {x : Task σ ε α} {f : α → Task σ ε β} {s t : σ}
    {i : Interrupt} (h : x s = (.interrupted i, t)) : (x >>= f) s = (.interrupted i, t) := by
  rw [Task.bind_apply, h]

theorem Task.attempt_interrupted {σ ε' : Type} {x : Task σ ε α} {s t : σ} {i : Interrupt}
    (h : x s = (.interrupted i, t)) :
    (x.attempt : Task σ ε' (Except ε α)) s = (.interrupted i, t) := by
  unfold Task.attempt
  rw [h]

theorem Task.mapError_done {σ ε' : Type} {f : ε → ε'} {x : Task σ ε α} {s t : σ} {a : α}
    (h : x s = (.done a, t)) : x.mapError f s = (.done a, t) := by
  unfold Task.mapError
  rw [h]

theorem Task.widen_done {σ : Type} {x : Task σ Empty α} {s t : σ} {a : α}
    (h : x s = (.done a, t)) : (x.widen : Task σ ε α) s = (.done a, t) := Task.mapError_done h

theorem Task.mapError_failed {σ ε' : Type} {f : ε → ε'} {x : Task σ ε α} {s t : σ} {e : ε}
    (h : x s = (.failed e, t)) : x.mapError f s = (.failed (f e), t) := by
  unfold Task.mapError
  rw [h]

theorem Task.mapError_interrupted {σ ε' : Type} {f : ε → ε'} {x : Task σ ε α} {s t : σ}
    {i : Interrupt} (h : x s = (.interrupted i, t)) : x.mapError f s = (.interrupted i, t) := by
  unfold Task.mapError
  rw [h]

theorem Task.widen_interrupted {σ : Type} {x : Task σ Empty α} {s t : σ} {i : Interrupt}
    (h : x s = (.interrupted i, t)) : (x.widen : Task σ ε α) s = (.interrupted i, t) :=
  Task.mapError_interrupted h

theorem Exit.ofExcept_ne_interrupted {r : Except ε α} {i : Interrupt} :
    (Exit.ofExcept r : Exit ε α) ≠ .interrupted i := by
  cases r with
  | ok a => exact fun h => by cases h
  | error e => exact fun h => by cases h

theorem Exit.ofExcept_inj {r q : Except ε α} (h : (Exit.ofExcept r : Exit ε α) = .ofExcept q) :
    r = q := by
  cases r <;> cases q <;> cases h <;> rfl

theorem Exit.eq_error_of_failed {r : Except ε α} {e : ε}
    (h : (Exit.failed e : Exit ε α) = .ofExcept r) : r = .error e := by
  cases r with
  | ok a => cases h
  | error e' =>
    cases h
    rfl

theorem Task.mapError_return {σ ε' : Type} {f : ε → ε'} {x : Task σ ε α} {s t : σ}
    {r : Except ε' α} (h : x.mapError f s = (.ofExcept r, t)) :
    ∃ q, x s = (.ofExcept q, t) ∧ r = q.mapError f := by
  cases hx : x s with
  | mk e m =>
    cases e with
    | done a =>
      rw [Task.mapError_done hx] at h
      obtain ⟨hr, rfl⟩ := Prod.mk.inj h
      exact ⟨.ok a, rfl, (Exit.ofExcept_inj (r := .ok a) hr).symm⟩
    | failed e =>
      rw [Task.mapError_failed hx] at h
      obtain ⟨hr, rfl⟩ := Prod.mk.inj h
      exact ⟨.error e, rfl, Exit.eq_error_of_failed hr⟩
    | interrupted i =>
      rw [Task.mapError_interrupted hx] at h
      exact absurd (Prod.mk.inj h).1.symm Exit.ofExcept_ne_interrupted

theorem Act.bind_ok {σ β : Type} {x : Act σ ε α} {f : α → Act σ ε β} {s t : σ} {a : α}
    (h : x s = (.ok a, t)) : (x >>= f) s = f a t := by
  rw [Act.bind_apply, h]

theorem Act.bind_error {σ β : Type} {x : Act σ ε α} {f : α → Act σ ε β} {s t : σ} {e : ε}
    (h : x s = (.error e, t)) : (x >>= f) s = (.error e, t) := by
  rw [Act.bind_apply, h]

theorem Act.bind_pure_apply {σ β : Type} (x : Act σ ε α) (b : β) (s : σ) :
    (x >>= fun _ => (Pure.pure b : Act σ ε β)) s = ((x s).1.map fun _ => b, (x s).2) := by
  cases h : x s with
  | mk r t =>
    cases r with
    | ok a => rw [Act.bind_ok h]; rfl
    | error e => rw [Act.bind_error h]; rfl

@[simp] theorem Act.get_apply {σ : Type} (s : σ) : (Act.get : Act σ ε σ) s = (.ok s, s) := rfl

@[simp] theorem Act.mapError_apply {σ ε' : Type} (f : ε → ε') (x : Act σ ε α) (s : σ) :
    x.mapError f s = ((x s).1.mapError f, (x s).2) := rfl

theorem Act.mapError_ok {σ ε' : Type} {f : ε → ε'} {x : Act σ ε α} {s t : σ} {a : α}
    (h : x s = (.ok a, t)) : x.mapError f s = (.ok a, t) := by
  rw [mapError_apply, h]
  rfl

theorem Act.mapError_error {σ ε' : Type} {f : ε → ε'} {x : Act σ ε α} {s t : σ} {e : ε}
    (h : x s = (.error e, t)) : x.mapError f s = (.error (f e), t) := by
  rw [mapError_apply, h]
  rfl

@[simp] theorem Act.onFirst_apply {σ τ : Type} (x : Act σ ε α) (s : σ × τ) :
    (Act.onFirst x : Act (σ × τ) ε α) s = ((x s.1).1, (x s.1).2, s.2) := rfl

@[simp] theorem Act.onSecond_apply {σ τ : Type} (x : Act τ ε α) (s : σ × τ) :
    (Act.onSecond x : Act (σ × τ) ε α) s = ((x s.2).1, s.1, (x s.2).2) := rfl

@[simp] theorem Act.carrying_apply {σ τ : Type} (a : τ) (x : Act (τ × σ) ε Unit) (s : σ) :
    Act.carrying a x s = ((x (a, s)).1.map fun _ => (x (a, s)).2.1, (x (a, s)).2.2) := rfl

theorem Act.carrying_eq_ok {σ τ : Type} {a b : τ} {x : Act (τ × σ) ε Unit} {s t : σ}
    (h : Act.carrying a x s = (.ok b, t)) : x (a, s) = (.ok (), b, t) := by
  rw [carrying_apply] at h
  cases hx : x (a, s) with
  | mk r s' =>
    rw [hx] at h
    cases r with
    | error e => cases h
    | ok _ =>
      cases h
      rfl

theorem Act.carrying_onFirst_ok {σ τ ε' : Type} {x : Act τ ε Unit} {a b : τ}
    (h : x a = (.ok (), b)) (f : ε → ε') (s : σ) :
    Act.carrying a ((Act.onFirst x).mapError f) s = (.ok b, s) := by
  rw [carrying_apply, mapError_apply, onFirst_apply, h]
  rfl

theorem Act.carrying_onFirst_error {σ τ ε' : Type} {x : Act τ ε Unit} {a b : τ} {e : ε}
    (h : x a = (.error e, b)) (f : ε → ε') (s : σ) :
    Act.carrying a ((Act.onFirst x).mapError f) s = (.error (f e), s) := by
  rw [carrying_apply, mapError_apply, onFirst_apply, h]
  rfl

theorem UnitRef.index_lt_of_mem {us : List UnitRef} {u : UnitRef} (hu : u ∈ us) :
    u.index < us.foldr (fun u n => max (u.index + 1) n) 0 := by
  induction us with
  | nil => cases hu
  | cons v us ih =>
    rw [List.foldr_cons]
    obtain _ | ⟨_, hu⟩ := hu
    · omega
    · have hlt := ih hu
      omega

theorem World.freshUnit_notMem (w : World P S) : w.freshUnit ∉ w.units.keys := fun h =>
  Nat.lt_irrefl _ (UnitRef.index_lt_of_mem h)

theorem World.get?_freshUnit (w : World P S) : w.units.get? w.freshUnit = none := by
  rw [KeyedList.get?, Option.map_eq_none_iff, List.find?_eq_none]
  intro e he hname
  apply w.freshUnit_notMem
  rw [← of_decide_eq_true hname]
  exact List.mem_map_of_mem he

theorem World.unit_unknown {w : World P S} {u : UnitRef} (h : w.units.get? u = none) :
    w.unit u = .ended ⟨.ofNat 0⟩ := by
  rw [World.unit, KeyedList.getD, h]
  rfl

theorem World.unit_freshUnit (w : World P S) : (w.unit w.freshUnit).status = .completed := by
  rw [World.unit_unknown w.get?_freshUnit]
  rfl

namespace WorldAct

variable (w : World P S) (u : UnitRef)

@[simp] theorem record_apply (e : TraceEvent) :
    (record e : WorldAct P S ε Unit) w = (.ok (), w.record e) := rfl

theorem register_open {r : Registration} (h : (w.unit u).status.accepts = true) :
    register u r w = (.ok (), w.setUnit u ((w.unit u).add r)) := by
  simp only [register, updateUnit, UnitOfWork.register, h, ↓reduceIte]

theorem register_closed {r : Registration} (h : (w.unit u).status.accepts = false) :
    register u r w = (.error (.closed (w.unit u).transaction), w) := by
  simp only [register, updateUnit, UnitOfWork.register, h, Bool.false_eq_true, ↓reduceIte]

theorem enlist_open {p : P} (h : (w.unit u).status ≠ .completed) :
    enlist u p w = (.ok (), w.setUnit u
      { w.unit u with participants := (w.unit u).participants ++ [p] }) := by
  simp only [enlist, updateUnit, UnitOfWork.enlist, h, ↓reduceIte]

theorem enlist_closed {p : P} (h : (w.unit u).status = .completed) :
    enlist u p w = (.error (.closed (w.unit u).transaction), w) := by
  simp only [enlist, updateUnit, UnitOfWork.enlist, h, ↓reduceIte]

@[simp] theorem modifyUnit_apply (f : UnitOfWork P → UnitOfWork P) :
    (modifyUnit u f : WorldAct P S ε Unit) w = (.ok (), w.setUnit u (f (w.unit u))) := rfl

@[simp] theorem modifyTransaction_apply (t : TransactionId) (f : Transaction P → Transaction P) :
    (modifyTransaction t f : WorldAct P S ε Unit) w =
      (.ok (), w.setTransaction t (f (w.transaction t))) := rfl

/-- Whatever is reported, a completed unit holds nothing. -/
theorem completeUnit_apply (o : Outcome) :
    ∃ trace, (completeUnit u o : WorldAct P S ε Unit) w =
      (.ok (), { w.setUnit u (w.unit u).discard with trace }) := by
  unfold completeUnit discard
  by_cases h : o = .committed ∧ 0 < (w.unit u).queue.length
  · simp only [Act.bind_apply, Act.gets_apply, h, and_self, ↓reduceIte, record_apply,
      World.unit_record, modifyUnit_apply]
    exact ⟨_, rfl⟩
  · simp only [Act.bind_apply, Act.gets_apply, h, ↓reduceIte, record_apply,
      World.unit_record, modifyUnit_apply]
    exact ⟨_, rfl⟩

theorem record_bind {β : Type} (e : TraceEvent) (f : Unit → WorldTask P S ε β) :
    (Task.atOnce (record e) >>= f) w = f () (w.record e) := rfl

theorem synchronize_open {t : TransactionId} (h : (w.transaction t).status.isActive = true)
    (s : Synchronization P) :
    (synchronize t s : WorldAct P S TransactionError Unit) w =
      (.ok (), w.setTransaction t { w.transaction t with
        synchronizations := (w.transaction t).synchronizations ++ [s] }) := by
  simp only [synchronize, updateTransaction, Transaction.synchronize, h, ↓reduceIte]

theorem synchronize_closed {t : TransactionId} (h : (w.transaction t).status.isActive = false)
    (s : Synchronization P) :
    (synchronize t s : WorldAct P S TransactionError Unit) w = (.error (.notActive t), w) := by
  simp only [synchronize, updateTransaction, Transaction.synchronize, h, Bool.false_eq_true,
    ↓reduceIte]

theorem markRollback_open {t : TransactionId} (h : (w.transaction t).status.isActive = true) :
    (markRollback t : WorldAct P S TransactionError Unit) w =
      (.ok (), w.setTransaction t { w.transaction t with status := .markedRollback }) := by
  simp only [markRollback, updateTransaction, Transaction.markRollback, h, ↓reduceIte]

theorem markRollback_closed {t : TransactionId} (h : (w.transaction t).status.isActive = false) :
    (markRollback t : WorldAct P S TransactionError Unit) w = (.error (.notActive t), w) := by
  simp only [markRollback, updateTransaction, Transaction.markRollback, h, Bool.false_eq_true,
    ↓reduceIte]

theorem synchronize_begin {t : TransactionId} (hb : w.transaction t = .begin)
    (s : Synchronization P) :
    (synchronize t s : WorldAct P S TransactionError Unit) w =
      (.ok (), w.setTransaction t ⟨.active, [s]⟩) := by
  simp only [synchronize, updateTransaction, Transaction.synchronize, hb, Transaction.begin,
    TransactionStatus.isActive, ↓reduceIte, List.nil_append]

/-- The world in which a new unit is offered to a transaction. -/
def offering (t : TransactionId) : World P S :=
  (w.record (.unitBegun t)).setUnit w.freshUnit (.begin t w.settings)

section Handle

variable {t : TransactionHandle P S}

theorem startUnit_bound (hb : w.bound.get? t.id = some u) : startUnit t w = (.ok u, w) := by
  simp only [startUnit, findUnit, Act.bind_apply, Act.gets_apply, hb, Act.pure_apply]

theorem startUnit_joined {m : World P S} (hb : w.bound.get? t.id = none)
    (hs : t.synchronize (.unit w.freshUnit) (offering w t.id) = (.ok (), m)) :
    startUnit t w = (.ok w.freshUnit, { m with bound := m.bound.insert t.id w.freshUnit }) := by
  have hf : (w.record (.unitBegun t.id)).freshUnit = w.freshUnit := rfl
  unfold offering at hs
  simp only [startUnit, findUnit, newUnit, Act.bind_apply, Act.get_apply, Act.gets_apply, hb,
    record_apply, Act.modify_apply, Act.pure_apply, Act.attempt, hf, hs]

theorem startUnit_refused {m : World P S} {e : TransactionError} (hb : w.bound.get? t.id = none)
    (hs : t.synchronize (.unit w.freshUnit) (offering w t.id) = (.error e, m)) :
    startUnit t w = (.error (.transaction e), { m with units := m.units.erase w.freshUnit }) := by
  have hf : (w.record (.unitBegun t.id)).freshUnit = w.freshUnit := rfl
  unfold offering at hs
  simp only [startUnit, findUnit, newUnit, Act.bind_apply, Act.get_apply, Act.gets_apply, hb,
    record_apply, Act.modify_apply, Act.pure_apply, Act.attempt, hf, hs, Act.fail_apply]

theorem currentUnit_active (ha : (t.status w).isActive = true) :
    currentUnit t w = startUnit t w := by
  simp only [currentUnit, Act.bind_apply, Act.get_apply, ha, ↓reduceIte]

theorem currentUnit_ended (hc : (t.status w).isActive = false) :
    currentUnit t w = (.error .noActiveTransaction, w) := by
  simp only [currentUnit, Act.bind_apply, Act.get_apply, hc, Bool.false_eq_true, ↓reduceIte,
    Act.fail_apply]

end Handle

theorem currentUnit_bound {t : TransactionId} {u : UnitRef}
    (ha : (w.transaction t).status = .active) (hb : w.bound.get? t = some u) :
    (currentUnit (.ofLocal t) : WorldAct P S UnitOfWorkError UnitRef) w = (.ok u, w) := by
  have hactive : ((TransactionHandle.ofLocal t).status w).isActive = true := by
    change (w.transaction t).status.isActive = true
    rw [ha]
    rfl
  rw [currentUnit_active w hactive]
  exact startUnit_bound w u hb

theorem currentUnit_over {t : TransactionId}
    (hc : (w.transaction t).status.isActive = false) :
    (currentUnit (.ofLocal t) : WorldAct P S UnitOfWorkError UnitRef) w =
      (.error .noActiveTransaction, w) := currentUnit_ended w hc

theorem currentUnit_begin {t : TransactionId} (hb : w.transaction t = .begin)
    (hfree : w.bound.get? t = none) :
    (currentUnit (.ofLocal t) : WorldAct P S UnitOfWorkError UnitRef) w = (.ok w.freshUnit,
      { ((w.record (.unitBegun t)).setUnit w.freshUnit (.begin t w.settings)).setTransaction t
          ⟨.active, [.unit w.freshUnit]⟩ with bound := w.bound.insert t w.freshUnit }) := by
  have hactive : ((TransactionHandle.ofLocal t).status w).isActive = true := by
    change (w.transaction t).status.isActive = true
    rw [hb]
    rfl
  have hs : (TransactionHandle.ofLocal t).synchronize (.unit w.freshUnit) (offering w t) =
      (.ok (), (offering w t).setTransaction t ⟨.active, [.unit w.freshUnit]⟩) :=
    synchronize_begin (offering w t) hb (.unit w.freshUnit)
  rw [currentUnit_active w hactive]
  exact startUnit_joined w hfree hs

end WorldAct

theorem Host.release_bound (w : World P S) {t : TransactionId} {u : UnitRef}
    (h : w.bound.get? t = some u) :
    (Host.release t : WorldAct P S ε (Option UnitRef)) w =
      (.ok (some u), { w with bound := w.bound.erase t }.record (.unitReleased t)) := by
  simp only [release, Act.bind_apply, Act.get_apply, h, Act.modify_apply, WorldAct.record_apply,
    Act.pure_apply]

@[simp] theorem Host.takeQueue_apply (w : World P S) (u : UnitRef) :
    (Host.takeQueue u : WorldAct P S ε (List Message)) w =
      (.ok (w.unit u).queue, w.setUnit u (w.unit u).clearQueue) := rfl

end Transactor
