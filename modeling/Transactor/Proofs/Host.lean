import Transactor.Proofs.Calls
import Transactor.Proofs.Steps

namespace Transactor

namespace Host

variable {P S : Type} (h : Host P S) (u : UnitRef) (t : TransactionId)

section Drain

variable (limit : Nat) {left cycles : Nat} {w : World P S}

/-- The world in which a batch is handed over. -/
def handing (w : World P S) (cycles : Nat) : World P S :=
  (w.setUnit u (w.unit u).clearQueue).record (.dispatching t (cycles + 1) (w.unit u).queue.length)

theorem drainCycles_empty (hq : (w.unit u).queue = []) :
    h.drainCycles u t limit left cycles w = (.done (), w.setUnit u (w.unit u).clearQueue) := by
  cases left <;> simp [drainCycles, Task.bind_apply, hq, Exit.ofExcept]

theorem drainCycles_zero (hq : (w.unit u).queue ≠ []) :
    h.drainCycles u t limit 0 cycles w = (.failed (.cascadeLimit t limit),
      (w.setUnit u (w.unit u).clearQueue).record
        (.cascadeDiverged t limit (w.unit u).queue.length)) := by
  simp [drainCycles, Task.bind_apply, hq, Exit.ofExcept]

theorem drainCycles_ok {v : World P S} (hq : (w.unit u).queue ≠ [])
    (hd : h.dispatch (w.unit u).queue u (handing u t w cycles) = (.done (), v)) :
    h.drainCycles u t limit (left + 1) cycles w = h.drainCycles u t limit left (cycles + 1) v := by
  unfold handing at hd
  simp [drainCycles, Task.bind_apply, hq, Exit.ofExcept, Task.attempt, hd]

theorem drainCycles_failed {v : World P S} {e : DeliveryError} (hq : (w.unit u).queue ≠ [])
    (hd : h.dispatch (w.unit u).queue u (handing u t w cycles) = (.failed e, v)) :
    h.drainCycles u t limit (left + 1) cycles w =
      (.failed (.dispatch t e), v.record (.dispatchFailed t (cycles + 1) e.message)) := by
  unfold handing at hd
  simp [drainCycles, Task.bind_apply, hq, Exit.ofExcept, Task.attempt, hd]

/-- A unit in the middle of its drain. -/
def draining (w : World P S) : World P S := w.setUnit u { w.unit u with status := .draining }

theorem drain_active {v : World P S} {r : Except UnitOfWorkError Unit}
    (ha : (w.unit u).status = .active)
    (hd : h.drainCycles u (w.unit u).transaction (w.unit u).limit (w.unit u).limit 0
      (draining u w) = (.ofExcept r, v)) :
    h.drain u w = (.ofExcept r, v.setUnit u ((v.unit u).endDrain (isFailure r))) := by
  have hs : WorldAct.updateUnit u UnitOfWork.startDrain w = (.ok (), draining u w) := by
    simp only [WorldAct.updateUnit, UnitOfWork.startDrain, ha, ↓reduceIte, draining]
  simp only [drain, Task.bind_apply, Task.atOnce_apply, hs, Exit.ofExcept, Task.gets_apply,
    draining, World.unit_setUnit_self, Task.ofExcept_apply] at hd ⊢
  rw [Task.attempt_ofExcept hd]
  rfl

end Drain

section Keeps

variable {I : World P S → Prop}

theorem drainCycles_keeps (hrecord : ∀ w e, I w → I (w.record e))
    (hqueue : ∀ w, I w → I (w.setUnit u (w.unit u).clearQueue))
    (hdispatch : ∀ batch, (h.dispatch batch u).Keeps I) (limit left cycles : Nat) :
    (h.drainCycles u t limit left cycles).Keeps I := by
  induction left generalizing cycles with
  | zero =>
    apply Task.Keeps.bind
    · exact hqueue
    intro batch
    split
    · exact Task.Keeps.pure ()
    · exact (Task.Keeps.modify fun w => hrecord w _).bind fun _ => Task.Keeps.fail _
  | succ left ih =>
    apply Task.Keeps.bind
    · exact hqueue
    intro batch
    split
    · exact Task.Keeps.pure ()
    · apply (Task.Keeps.modify fun w => hrecord w _).bind
      intro _
      apply (hdispatch batch).attempt.bind
      intro r
      cases r with
      | ok _ => exact ih (cycles + 1)
      | error e => exact (Task.Keeps.modify fun w => hrecord w _).bind fun _ => Task.Keeps.fail _

theorem startDrain_cases (w : World P S) :
    (WorldAct.updateUnit u UnitOfWork.startDrain w).2 = w ∨ (w.unit u).status = .active ∧
      (WorldAct.updateUnit u UnitOfWork.startDrain w).2 = draining u w := by
  simp only [WorldAct.updateUnit, UnitOfWork.startDrain]
  by_cases ha : (w.unit u).status = .active
  · rw [if_pos ha]
    exact .inr ⟨ha, rfl⟩
  · rw [if_neg ha]
    exact .inl rfl

theorem drain_keeps_of_parts (hrecord : ∀ w e, I w → I (w.record e))
    (hstart : ∀ w, I w → I (WorldAct.updateUnit u UnitOfWork.startDrain w).2)
    (hqueue : ∀ w, I w → I (w.setUnit u (w.unit u).clearQueue))
    (hend : ∀ w failed, I w → I (w.setUnit u ((w.unit u).endDrain failed)))
    (hdispatch : ∀ batch, (h.dispatch batch u).Keeps I) : (h.drain u).Keeps I := by
  apply Task.Keeps.bind
  · exact hstart
  intro _
  apply Task.Keeps.bind
  · exact Task.Keeps.gets _
  intro x
  apply Task.Keeps.bind
  · exact (drainCycles_keeps h u _ hrecord hqueue hdispatch _ _ _).attempt
  intro r
  apply (Task.Keeps.modify fun w => hend w (isFailure r)).bind
  intro _
  exact Task.Keeps.ofExcept r

theorem drain_keeps (hrecord : ∀ w e, I w → I (w.record e))
    (hunit : ∀ w s q, I w → I (w.setUnit u { w.unit u with status := s, queue := q }))
    (hdispatch : ∀ batch, (h.dispatch batch u).Keeps I) : (h.drain u).Keeps I := by
  refine drain_keeps_of_parts h u hrecord ?_ (fun w => hunit w _ [])
    (fun w _ => hunit w .drained _) hdispatch
  intro w hw
  obtain hs | ⟨-, hs⟩ := startDrain_cases u w
  · rwa [hs]
  · rw [hs]
    exact hunit w .draining (w.unit u).queue hw

theorem askParticipants_keeps (hbefore : ∀ p, (h.before p).Keeps I) (patience place : Nat) :
    (h.askParticipants u patience place).Keeps I := by
  induction patience generalizing place with
  | zero => exact Task.Keeps.interrupt _
  | succ patience ih =>
    apply Task.Keeps.bind
    · exact Task.Keeps.gets _
    intro x
    split
    · exact Task.Keeps.pure ()
    · exact (hbefore _).bind fun _ => ih (place + 1)

/-- The pass over all that joined may look at what it keeps to know who has joined. -/
theorem askAll_keeps
    (hbefore : ∀ w, I w → ∀ s ∈ (w.transaction t).synchronizations, I (h.before? s w).2)
    (patience place : Nat) : (h.askAll t patience place).Keeps I := by
  induction patience generalizing place with
  | zero => exact Task.Keeps.interrupt _
  | succ patience ih =>
    intro w hw
    unfold askAll
    rw [Task.bind_done (Task.gets_apply _ w)]
    cases hs : (w.transaction t).synchronizations[place]? with
    | none => exact hw
    | some s =>
      have hv := hbefore w hw s (List.mem_of_getElem? hs)
      dsimp only
      rw [Task.bind_apply]
      cases hr : h.before? s w with
      | mk r v =>
        rw [hr] at hv
        cases r with
        | done _ => exact ih (place + 1) v hv
        | failed e => exact hv
        | interrupted i => exact hv

/-- Nothing of it hangs on the units of work, the registry and the trace. -/
structure Indifferent (I : World P S → Prop) : Prop where
  trace : ∀ w es, I w → I { w with trace := es }
  unit : ∀ w u x, I w → I (w.setUnit u x)
  bound : ∀ w b, I w → I { w with bound := b }

theorem Indifferent.record (hi : Indifferent I) (w : World P S) (e : TraceEvent) (hw : I w) :
    I (w.record e) := hi.trace w _ hw

theorem before?_keeps_of_unit (hrecord : ∀ w e, I w → I (w.record e))
    (hunit : ∀ w u s q, I w → I (w.setUnit u { w.unit u with status := s, queue := q }))
    (hbefore : ∀ p, (h.before p).Keeps I) (s : Synchronization P)
    (hdispatch : ∀ u, s = .unit u → ∀ batch, (h.dispatch batch u).Keeps I) :
    (h.before? s).Keeps I := by
  cases s with
  | party p => exact hbefore p
  | unit u =>
    apply Task.Keeps.bind
    · exact drain_keeps h u hrecord (fun w s q => hunit w u s q) (hdispatch u rfl)
    intro _
    exact askParticipants_keeps h u hbefore h.patience 0

theorem before?_keeps (hi : Indifferent I) (hbefore : ∀ p, (h.before p).Keeps I)
    (hdispatch : ∀ batch u, (h.dispatch batch u).Keeps I) (s : Synchronization P) :
    (h.before? s).Keeps I :=
  before?_keeps_of_unit h hi.record (fun w u _ _ => hi.unit w u _) hbefore s
    fun u _ batch => hdispatch batch u

theorem tellAll_keeps {o : Outcome} (hafter : ∀ p, (h.after p o).Keeps I) (ps : List P) :
    (h.tellAll o ps).Keeps I := by
  induction ps with
  | nil => exact Task.Keeps.pure ()
  | cons p ps ih => exact (hafter p).bind fun _ => ih

theorem after_unit_keeps {o : Outcome} (hunit : ∀ w x, I w → I (w.setUnit u x))
    (htrace : ∀ w es, I w → I { w with trace := es })
    (hbound : ∀ w b, I w → I { w with bound := b }) (hafter : ∀ p, (h.after p o).Keeps I) :
    (h.after? o (.unit u)).Keeps I := by
  apply Task.Keeps.bind
  · exact Task.Keeps.gets _
  intro x
  apply Task.Keeps.bind
  · exact fun w hw => hunit w _ hw
  intro _
  apply Task.Keeps.bind
  · intro w hw
    have hc : ∃ trace, (WorldAct.completeUnit u o : WorldAct P S Empty Unit) w =
        (.ok (), { w.setUnit u (w.unit u).discard with trace }) :=
      WorldAct.completeUnit_apply w u o
    obtain ⟨trace, hc⟩ := hc
    rw [Task.atOnce_apply, hc]
    exact htrace _ trace (hunit w _ hw)
  intro _
  apply (tellAll_keeps h hafter x.participants).bind
  intro _
  apply Task.Keeps.bind
  · intro w hw
    rw [Task.atOnce_apply]
    cases hb : w.bound.get? x.transaction with
    | none =>
      simp only [release, Act.bind_apply, Act.get_apply, hb, Act.pure_apply]
      exact hw
    | some u =>
      rw [release_bound w hb]
      exact htrace _ _ (hbound w _ hw)
  intro _
  exact Task.Keeps.pure ()

theorem after?_keeps (hi : Indifferent I) {o : Outcome} (hafter : ∀ p, (h.after p o).Keeps I)
    (s : Synchronization P) : (h.after? o s).Keeps I := by
  cases s with
  | party p => exact hafter p
  | unit u => exact after_unit_keeps h u (fun w => hi.unit w u) hi.trace hi.bound hafter

theorem tellSynchronizations_keeps {o : Outcome} (hafter : ∀ s, (h.after? o s).Keeps I)
    (ss : List (Synchronization P)) : (h.tellSynchronizations o ss).Keeps I := by
  induction ss with
  | nil => exact Task.Keeps.pure ()
  | cons s ss ih => exact (hafter s).bind fun _ => ih

theorem complete_state (hi : Indifferent I) {o : Outcome} (hafter : ∀ p, (h.after p o).Keeps I)
    {w : World P S} (hw : I (w.setTransaction t ((w.transaction t).complete o))) :
    I (h.complete t o w).2 :=
  tellSynchronizations_keeps h (after?_keeps h hi hafter) (w.transaction t).synchronizations _
    (hi.record _ _ hw)

theorem complete_keeps (hi : Indifferent I) (ht : ∀ w x, I w → I (w.setTransaction t x))
    (hafter : ∀ p o, (h.after p o).Keeps I) (o : Outcome) : (h.complete t o).Keeps I :=
  fun w hw => complete_state h t hi (fun p => hafter p o) (ht w _ hw)

theorem rollback_keeps_of_complete (hcomplete : (h.complete t .rolledBack).Keeps I) :
    (h.rollback t).Keeps I := by
  apply Task.Keeps.bind
  · exact Task.Keeps.gets _
  intro x
  split
  · exact hcomplete.widen
  · exact Task.Keeps.fail _

theorem commit_keeps_of_parts (hrecord : ∀ w e, I w → I (w.record e))
    (hasks : (h.askAll t h.patience 0).Keeps I) (hcomplete : ∀ o, (h.complete t o).Keeps I) :
    (h.commit t).Keeps I := by
  apply Task.Keeps.bind
  · exact Task.Keeps.gets _
  intro x
  split
  · exact Task.Keeps.fail _
  · exact (hcomplete .rolledBack).widen.bind fun _ => Task.Keeps.fail _
  · apply hasks.attempt.bind
    intro r
    cases r with
    | ok _ => exact (hcomplete .committed).widen
    | error e =>
      apply Task.Keeps.bind
      · exact fun w hw => hrecord w _ hw
      · exact fun _ => (hcomplete .rolledBack).widen.bind fun _ => Task.Keeps.fail _

theorem rollback_keeps (hi : Indifferent I) (ht : ∀ w x, I w → I (w.setTransaction t x))
    (hafter : ∀ p o, (h.after p o).Keeps I) : (h.rollback t).Keeps I :=
  rollback_keeps_of_complete h t (complete_keeps h t hi ht hafter .rolledBack)

theorem commit_keeps (hi : Indifferent I) (ht : ∀ w x, I w → I (w.setTransaction t x))
    (hbefore : ∀ p, (h.before p).Keeps I) (hafter : ∀ p o, (h.after p o).Keeps I)
    (hdispatch : ∀ batch u, (h.dispatch batch u).Keeps I) : (h.commit t).Keeps I := by
  have hasks : (h.askAll t h.patience 0).Keeps I :=
    askAll_keeps h t (fun w hw s _ => before?_keeps h hi hbefore hdispatch s w hw) h.patience 0
  exact commit_keeps_of_parts h t hi.record hasks (complete_keeps h t hi ht hafter)

end Keeps

section Exit

/-- What is to be shown of the loop, by induction on the batches that it may still hand over: `I`
holds from one batch to the next, and `J` of the end. -/
theorem drainCycles_rule {I : World P S → Prop} {J : Except UnitOfWorkError Unit → World P S → Prop}
    (limit : Nat)
    (hempty : ∀ w, I w → (w.unit u).queue = [] → J (.ok ()) (w.setUnit u (w.unit u).clearQueue))
    (hlimit : ∀ w, I w → J (.error (.cascadeLimit t limit))
      ((w.setUnit u (w.unit u).clearQueue).record
        (.cascadeDiverged t limit (w.unit u).queue.length)))
    (hdispatch : ∀ w cycles, I w → (w.unit u).queue ≠ [] → ∃ r v,
      h.dispatch (w.unit u).queue u (handing u t w cycles) = (.ofExcept r, v) ∧ I v ∧
        ∀ e, J (.error (.dispatch t e)) (v.record (.dispatchFailed t (cycles + 1) e.message)))
    (left cycles : Nat) {w : World P S} (hw : I w) :
    ∃ r v, h.drainCycles u t limit left cycles w = (.ofExcept r, v) ∧ J r v := by
  induction left generalizing cycles w with
  | zero =>
    by_cases hq : (w.unit u).queue = []
    · exact ⟨.ok (), _, drainCycles_empty h u t limit hq, hempty w hw hq⟩
    · exact ⟨.error _, _, drainCycles_zero h u t limit hq, hlimit w hw⟩
  | succ left ih =>
    by_cases hq : (w.unit u).queue = []
    · exact ⟨.ok (), _, drainCycles_empty h u t limit hq, hempty w hw hq⟩
    · obtain ⟨r, v, hr, hv, he⟩ := hdispatch w cycles hw hq
      cases r with
      | ok _ =>
        rw [drainCycles_ok h u t limit hq hr]
        exact ih (cycles + 1) hv
      | error e => exact ⟨.error _, _, drainCycles_failed h u t limit hq hr, he e⟩

theorem drain_closed {w : World P S} (hc : (w.unit u).status ≠ .active) :
    h.drain u w = (.failed (.closed (w.unit u).transaction), w) := by
  have hs : WorldAct.updateUnit u UnitOfWork.startDrain w =
      (.error (.closed (w.unit u).transaction), w) := by
    simp only [WorldAct.updateUnit, UnitOfWork.startDrain, hc, ↓reduceIte]
  unfold drain
  apply Task.bind_failed
  rw [Task.atOnce_apply, hs]
  rfl

/-- A drain ends if each delivery does: its bound sees to the rest. -/
theorem drain_exit (hdispatch : ∀ batch w, ∃ r v, h.dispatch batch u w = (.ofExcept r, v))
    (w : World P S) : ∃ r v, h.drain u w = (.ofExcept r, v) := by
  by_cases ha : (w.unit u).status = .active
  · have hnext : ∀ m cycles, True → (m.unit u).queue ≠ [] → ∃ r v,
        h.dispatch (m.unit u).queue u (handing u (w.unit u).transaction m cycles) =
          (.ofExcept r, v) ∧ True ∧ ∀ _ : DeliveryError, True := by
      intro m cycles _ _
      obtain ⟨r, v, hr⟩ := hdispatch (m.unit u).queue (handing u (w.unit u).transaction m cycles)
      exact ⟨r, v, hr, trivial, fun _ => trivial⟩
    obtain ⟨r, v, hr, -⟩ := drainCycles_rule h u (w.unit u).transaction (I := fun _ => True)
      (J := fun _ _ => True) (w.unit u).limit (fun _ _ _ => trivial) (fun _ _ => trivial) hnext
      (w.unit u).limit 0 (w := draining u w) trivial
    exact ⟨r, _, drain_active h u ha hr⟩
  · exact ⟨.error _, w, drain_closed h u ha⟩

theorem before_unit :
    h.before? (.unit u) = h.drain u >>= fun _ => h.askParticipants u h.patience 0 :=
  rfl

/-- Asking participants ends unless they bring in ever more of them. -/
theorem askParticipants_exit (hbefore : ∀ p w, ∃ r v, h.before p w = (.ofExcept r, v))
    (hgrow : ∀ p k, (h.before p).Keeps fun w => k ≤ (w.unit u).participants.length)
    (patience place : Nat) (w : World P S) (hp : place ≤ (w.unit u).participants.length) :
    (∃ r v, h.askParticipants u patience place w = (.ofExcept r, v)) ∨
      ∃ v, h.askParticipants u patience place w = (.interrupted .exhausted, v) ∧
        place + patience ≤ (v.unit u).participants.length := by
  induction patience generalizing place w with
  | zero => exact .inr ⟨w, rfl, hp⟩
  | succ patience ih =>
    unfold askParticipants
    rw [Task.bind_done (Task.gets_apply _ w)]
    cases hx : (w.unit u).participants[place]? with
    | none => exact .inl ⟨.ok (), w, rfl⟩
    | some p =>
      obtain ⟨r, v, hr⟩ := hbefore p w
      dsimp only
      cases r with
      | error e => exact .inl ⟨.error e, v, Task.bind_failed hr⟩
      | ok _ =>
        rw [Task.bind_done hr]
        have hlt : place + 1 ≤ (w.unit u).participants.length := (List.getElem?_eq_some_iff.mp hx).1
        have hv := hgrow p _ w hlt
        rw [hr] at hv
        have hi := ih (place + 1) v hv
        rwa [Nat.add_right_comm] at hi

theorem tellAll_returns {o : Outcome} (hafter : ∀ p w, ∃ v, h.after p o w = (.done (), v))
    (ps : List P) (w : World P S) : ∃ v, h.tellAll o ps w = (.done (), v) := by
  induction ps generalizing w with
  | nil => exact ⟨w, rfl⟩
  | cons p ps ih =>
    obtain ⟨m, hm⟩ := hafter p w
    obtain ⟨v, hv⟩ := ih m
    exact ⟨v, (Task.bind_done hm).trans hv⟩

/-- A synchronization returns from being told if all who are told through it do. -/
theorem after?_returns {o : Outcome} (hafter : ∀ p w, ∃ v, h.after p o w = (.done (), v))
    (s : Synchronization P) (w : World P S) : ∃ v, h.after? o s w = (.done (), v) := by
  cases s with
  | party p => exact hafter p w
  | unit u =>
    let c := w.setUnit u (w.unit u).clearParticipants
    have hc : ∃ trace, (WorldAct.completeUnit u o : WorldAct P S Empty Unit) c =
        (.ok (), { c.setUnit u (c.unit u).discard with trace }) := WorldAct.completeUnit_apply c u o
    obtain ⟨trace, hc⟩ := hc
    obtain ⟨v, hv⟩ := tellAll_returns h hafter (w.unit u).participants
      { c.setUnit u (c.unit u).discard with trace }
    simp only [after?, Task.bind_apply, Task.gets_apply, Task.atOnce_apply,
      WorldAct.modifyUnit_apply, Exit.ofExcept]
    rw [hc]
    simp only [hv, Task.pure_apply]
    cases hb : v.bound.get? (w.unit u).transaction with
    | none =>
      simp only [release, Act.bind_apply, Act.get_apply, hb, Act.pure_apply]
      exact ⟨_, rfl⟩
    | some u =>
      rw [release_bound v hb]
      exact ⟨_, rfl⟩

end Exit

section Ask

variable {w d : World P S} {patience : Nat}

theorem askParticipants_agreed {place : Nat}
    (hb : ∀ p ∈ (w.unit u).participants, h.before p w = (.done (), w))
    (hp : (w.unit u).participants.length < place + patience)
    (hplace : place ≤ (w.unit u).participants.length) :
    h.askParticipants u patience place w = (.done (), w) := by
  induction patience generalizing place with
  | zero => omega
  | succ patience ih =>
    unfold askParticipants
    rw [Task.bind_done (Task.gets_apply _ w)]
    cases hx : (w.unit u).participants[place]? with
    | none => rfl
    | some p =>
      have hlt := (List.getElem?_eq_some_iff.mp hx).1
      dsimp only
      rw [Task.bind_done (hb p (List.mem_of_getElem? hx))]
      exact ih (by omega) hlt

/-- Whoever is the only one to have joined decides alone. -/
theorem askAll_single {s : Synchronization P} {r : Exit UnitOfWorkError Unit}
    (hj : (w.transaction t).synchronizations = [s]) (hb : h.before? s w = (r, d))
    (hj' : (d.transaction t).synchronizations = [s]) : h.askAll t (patience + 2) 0 w = (r, d) := by
  unfold askAll
  rw [Task.bind_done (Task.gets_apply _ w), hj]
  cases r with
  | done _ =>
    refine (Task.bind_done hb).trans ?_
    unfold askAll
    rw [Task.bind_done (Task.gets_apply _ d), hj']
    rfl
  | failed e => exact Task.bind_failed hb
  | interrupted i => exact Task.bind_interrupted hb

theorem askAll_single_return {s : Synchronization P} {r : Exit UnitOfWorkError Unit}
    {answer : Except UnitOfWorkError Unit} {v : World P S}
    (hj : (w.transaction t).synchronizations = [s]) (hb : h.before? s w = (r, d))
    (hj' : (d.transaction t).synchronizations = [s])
    (hv : h.askAll t patience 0 w = (.ofExcept answer, v)) :
    h.before? s w = (.ofExcept answer, v) := by
  match patience with
  | 0 => exact absurd (Prod.mk.inj hv).1.symm Exit.ofExcept_ne_interrupted
  | 1 =>
    have hone : h.askAll t 1 0 w = (h.before? s >>= fun _ => Task.interrupt .exhausted) w := by
      rw [askAll, Task.bind_done (Task.gets_apply _ w), hj]
      rfl
    rw [hone] at hv
    cases r with
    | done _ =>
      rw [Task.bind_done hb] at hv
      exact absurd (Prod.mk.inj hv).1.symm Exit.ofExcept_ne_interrupted
    | failed e =>
      rw [Task.bind_failed hb] at hv
      exact hb.trans hv
    | interrupted i =>
      rw [Task.bind_interrupted hb] at hv
      exact hb.trans hv
  | patience + 2 =>
    rw [askAll_single h t hj hb hj'] at hv
    exact hb.trans hv

theorem askAll_refused {e : UnitOfWorkError} (hj : (w.transaction t).synchronizations = [.unit u])
    (hd : h.drain u w = (.failed e, d)) : h.askAll t (patience + 1) 0 w = (.failed e, d) := by
  unfold askAll
  rw [Task.bind_done (Task.gets_apply _ w), hj]
  exact Task.bind_failed (Task.bind_failed hd)

theorem askAll_agreed (hj : (w.transaction t).synchronizations = [.unit u])
    (hd : h.drain u w = (.done (), d)) (ha : h.askParticipants u h.patience 0 d = (.done (), d))
    (hj' : (d.transaction t).synchronizations = [.unit u]) :
    h.askAll t (patience + 2) 0 w = (.done (), d) := by
  have hb : h.before? (.unit u) w = (.done (), d) := (Task.bind_done hd).trans ha
  exact askAll_single h t hj hb hj'

theorem askAll_alone {answer : Except UnitOfWorkError Unit} {v : World P S}
    (hj : (w.transaction t).synchronizations = [])
    (hv : h.askAll t patience 0 w = (.ofExcept answer, v)) : answer = .ok () ∧ v = w := by
  cases patience with
  | zero => exact absurd (Prod.mk.inj hv).1.symm Exit.ofExcept_ne_interrupted
  | succ patience =>
    unfold askAll at hv
    rw [Task.bind_done (Task.gets_apply _ w), hj] at hv
    obtain ⟨hr, rfl⟩ := Prod.mk.inj hv
    cases answer with
    | ok _ => exact ⟨rfl, rfl⟩
    | error e => cases hr

/-- A unit that is the only one to have joined, and whose participants agree at once, decides by its
drain. -/
theorem askAll_unit {answer : Except UnitOfWorkError Unit} {v : World P S}
    (hj : (w.transaction t).synchronizations = [.unit u])
    (hdrain : ∃ r d, h.drain u w = (.ofExcept r, d) ∧
      (d.transaction t).synchronizations = [.unit u])
    (hagree : ∀ d, h.askParticipants u h.patience 0 d = (.done (), d) ∨
      ∃ i, h.askParticipants u h.patience 0 d = (.interrupted i, d))
    (hv : h.askAll t patience 0 w = (.ofExcept answer, v)) :
    h.drain u w = (.ofExcept answer, v) := by
  obtain ⟨r, d, hr, hj'⟩ := hdrain
  cases r with
  | error e =>
    have hb : h.before? (.unit u) w = (.failed e, d) := Task.bind_failed hr
    have hv := askAll_single_return h t hj hb hj' hv
    exact hr.trans (hb.symm.trans hv)
  | ok _ =>
    obtain ha | ⟨i, ha⟩ := hagree d
    · have hb : h.before? (.unit u) w = (.done (), d) := (Task.bind_done hr).trans ha
      have hv := askAll_single_return h t hj hb hj' hv
      exact hr.trans (hb.symm.trans hv)
    · have hb : h.before? (.unit u) w = (.interrupted i, d) := (Task.bind_done hr).trans ha
      have hv := hb.symm.trans (askAll_single_return h t hj hb hj' hv)
      exact absurd (Prod.mk.inj hv).1.symm Exit.ofExcept_ne_interrupted

end Ask

section Commit

variable {w d v : World P S}

theorem commit_agreed (ha : (w.transaction t).status = .active)
    (hd : h.askAll t h.patience 0 w = (.done (), d))
    (hv : h.complete t .committed d = (.done (), v)) :
    h.commit t w = (.done (), v) := by
  unfold commit
  rw [Task.bind_done (Task.gets_apply _ w)]
  simp only [ha]
  rw [Task.bind_done (Task.attempt_ofExcept (r := .ok ()) hd)]
  exact Task.widen_done hv

theorem commit_refused {e : UnitOfWorkError} (ha : (w.transaction t).status = .active)
    (hd : h.askAll t h.patience 0 w = (.failed e, d))
    (hv : h.complete t .rolledBack (d.record (.beforeCompletionFailed t e.message)) =
      (.done (), v)) :
    h.commit t w = (.failed (.rolledBackBy t e), v) := by
  unfold commit
  rw [Task.bind_done (Task.gets_apply _ w)]
  simp only [ha]
  rw [Task.bind_done (Task.attempt_ofExcept (r := .error e) hd)]
  dsimp only
  rw [WorldAct.record_bind, Task.bind_done (Task.widen_done hv)]
  rfl

theorem commit_interrupted {i : Interrupt} (ha : (w.transaction t).status = .active)
    (hd : h.askAll t h.patience 0 w = (.interrupted i, d)) :
    h.commit t w = (.interrupted i, d) := by
  unfold commit
  rw [Task.bind_done (Task.gets_apply _ w)]
  simp only [ha]
  exact Task.bind_interrupted (Task.attempt_interrupted hd)

theorem commit_marked (hm : (w.transaction t).status = .markedRollback)
    (hv : h.complete t .rolledBack w = (.done (), v)) :
    h.commit t w = (.failed (.rolledBack t), v) := by
  unfold commit
  rw [Task.bind_done (Task.gets_apply _ w)]
  simp only [hm]
  rw [Task.bind_done (Task.widen_done hv)]
  rfl

theorem commit_closed (hc : (w.transaction t).status.isActive = false) :
    h.commit t w = (.failed (.notActive t), w) := by
  unfold commit
  rw [Task.bind_done (Task.gets_apply _ w)]
  cases hs : (w.transaction t).status with
  | active =>
    rw [hs] at hc
    cases hc
  | markedRollback =>
    rw [hs] at hc
    cases hc
  | completed o => rfl

theorem rollback_closed (hc : (w.transaction t).status.isActive = false) :
    h.rollback t w = (.failed (.notActive t), w) := by
  unfold rollback
  rw [Task.bind_done (Task.gets_apply _ w)]
  simp only [hc, Bool.false_eq_true, ↓reduceIte]
  rfl

theorem rollback_open (ha : (w.transaction t).status.isActive = true)
    (hv : h.complete t .rolledBack w = (.done (), v)) : h.rollback t w = (.done (), v) := by
  unfold rollback
  rw [Task.bind_done (Task.gets_apply _ w)]
  simp only [ha, ↓reduceIte]
  exact Task.widen_done hv

theorem complete_cases (o : Outcome) (w : World P S) :
    h.complete t o w = (.done (), (h.complete t o w).2) ∨
      ∃ i, h.complete t o w = (.interrupted i, (h.complete t o w).2) := by
  cases hc : h.complete t o w with
  | mk e m =>
    cases e with
    | done _ => exact .inl rfl
    | failed e => exact e.elim
    | interrupted i => exact .inr ⟨i, rfl⟩

theorem complete_fail {ε : Type} {e : ε} {o : Outcome} {r : Except ε Unit}
    (hv : ((h.complete t o).widen >>= fun _ => Task.fail e) w = (.ofExcept r, v)) :
    r = .error e ∧ h.complete t o w = (.done (), v) := by
  obtain hc | ⟨i, hc⟩ := complete_cases h t o w
  · rw [Task.bind_done (Task.widen_done hc)] at hv
    obtain ⟨hr, hm⟩ := Prod.mk.inj hv
    exact ⟨Exit.eq_error_of_failed hr, hm ▸ hc⟩
  · rw [Task.bind_interrupted (Task.widen_interrupted hc)] at hv
    exact absurd (Prod.mk.inj hv).1.symm Exit.ofExcept_ne_interrupted

theorem complete_widen {ε : Type} {o : Outcome} {r : Except ε Unit}
    (hv : (h.complete t o).widen w = (.ofExcept r, v)) :
    r = .ok () ∧ h.complete t o w = (.done (), v) := by
  obtain hc | ⟨i, hc⟩ := complete_cases h t o w
  · rw [Task.widen_done hc] at hv
    obtain ⟨hr, hm⟩ := Prod.mk.inj hv
    cases r with
    | ok _ => exact ⟨rfl, hm ▸ hc⟩
    | error e => cases hr
  · rw [Task.widen_interrupted hc] at hv
    exact absurd (Prod.mk.inj hv).1.symm Exit.ofExcept_ne_interrupted

/-- A commit of an open transaction returns in three ways. -/
inductive CommitReturn (h : Host P S) (t : TransactionId) (w : World P S) :
    Except TransactionError Unit → World P S → Prop
  | marked {v : World P S} (hm : (w.transaction t).status = .markedRollback)
      (hv : h.complete t .rolledBack w = (.done (), v)) :
      CommitReturn h t w (.error (.rolledBack t)) v
  | refused {e : UnitOfWorkError} {d v : World P S} (ha : (w.transaction t).status = .active)
      (hd : h.askAll t h.patience 0 w = (.failed e, d))
      (hv : h.complete t .rolledBack (d.record (.beforeCompletionFailed t e.message)) =
        (.done (), v)) : CommitReturn h t w (.error (.rolledBackBy t e)) v
  | agreed {d v : World P S} (ha : (w.transaction t).status = .active)
      (hd : h.askAll t h.patience 0 w = (.done (), d))
      (hv : h.complete t .committed d = (.done (), v)) : CommitReturn h t w (.ok ()) v

theorem commit_return {result : Except TransactionError Unit}
    (hopen : (w.transaction t).status.isActive = true)
    (hv : h.commit t w = (.ofExcept result, v)) : CommitReturn h t w result v := by
  unfold commit at hv
  rw [Task.bind_done (Task.gets_apply _ w)] at hv
  cases hs : (w.transaction t).status with
  | completed o =>
    rw [hs] at hopen
    cases hopen
  | markedRollback =>
    simp only [hs] at hv
    obtain ⟨rfl, hc⟩ := complete_fail h t hv
    exact .marked hs hc
  | active =>
    simp only [hs] at hv
    cases hd : h.askAll t h.patience 0 w with
    | mk e d =>
      cases e with
      | done _ =>
        rw [Task.bind_done (Task.attempt_ofExcept (r := .ok ()) hd)] at hv
        obtain ⟨rfl, hc⟩ := complete_widen h t hv
        exact .agreed hs hd hc
      | failed e =>
        rw [Task.bind_done (Task.attempt_ofExcept (r := .error e) hd)] at hv
        dsimp only at hv
        rw [WorldAct.record_bind] at hv
        obtain ⟨rfl, hc⟩ := complete_fail h t hv
        exact .refused hs hd hc
      | interrupted i =>
        rw [Task.bind_interrupted (Task.attempt_interrupted hd)] at hv
        exact absurd (Prod.mk.inj hv).1.symm Exit.ofExcept_ne_interrupted

theorem rollback_return {result : Except TransactionError Unit}
    (hv : h.rollback t w = (.ofExcept result, v)) :
    (∃ e, result = .error e ∧ (w.transaction t).status.isActive = false ∧ v = w) ∨
      (result = .ok () ∧ (w.transaction t).status.isActive = true ∧
        h.complete t .rolledBack w = (.done (), v)) := by
  cases ha : (w.transaction t).status.isActive with
  | false =>
    rw [rollback_closed h t ha] at hv
    obtain ⟨hr, hm⟩ := Prod.mk.inj hv
    exact .inl ⟨_, Exit.eq_error_of_failed hr, rfl, hm.symm⟩
  | true =>
    unfold rollback at hv
    rw [Task.bind_done (Task.gets_apply _ w)] at hv
    simp only [ha, ↓reduceIte] at hv
    obtain ⟨hr, hc⟩ := complete_widen h t hv
    exact .inr ⟨hr, rfl, hc⟩

theorem rollback_returns (hafter : ∀ p o w, ∃ v, h.after p o w = (.done (), v)) (w : World P S) :
    ∃ r v, h.rollback t w = (.ofExcept r, v) := by
  have htell (ss : List (Synchronization P)) (w : World P S) :
      ∃ v, h.tellSynchronizations .rolledBack ss w = (.done (), v) := by
    induction ss generalizing w with
    | nil => exact ⟨w, rfl⟩
    | cons s ss ih =>
      obtain ⟨m, hm⟩ := after?_returns h (fun p w => hafter p .rolledBack w) s w
      obtain ⟨v, hv⟩ := ih m
      exact ⟨v, (Task.bind_done hm).trans hv⟩
  cases ha : (w.transaction t).status.isActive with
  | false => exact ⟨.error (.notActive t), w, rollback_closed h t ha⟩
  | true =>
    obtain ⟨v, hv⟩ := htell (w.transaction t).synchronizations
      ((w.setTransaction t ((w.transaction t).complete .rolledBack)).record
        (.transactionCompleted t Outcome.rolledBack.name))
    exact ⟨.ok (), v, rollback_open h t ha hv⟩

/-- The three ends of a commit that begins with an open transaction. -/
inductive CommitEnd (h : Host P S) (t : TransactionId) (w : World P S) :
    Except TransactionError Unit → World P S → Prop
  | marked (hm : (w.transaction t).status = .markedRollback) :
      CommitEnd h t w (.error (.rolledBack t)) (h.complete t .rolledBack w).2
  | refused {e : UnitOfWorkError} {d : World P S} (ha : (w.transaction t).status = .active)
      (hd : h.askAll t h.patience 0 w = (.failed e, d)) :
      CommitEnd h t w (.error (.rolledBackBy t e))
        (h.complete t .rolledBack (d.record (.beforeCompletionFailed t e.message))).2
  | agreed {d : World P S} (ha : (w.transaction t).status = .active)
      (hd : h.askAll t h.patience 0 w = (.done (), d)) :
      CommitEnd h t w (.ok ()) (h.complete t .committed d).2

theorem commit_end {result : Except TransactionError Unit}
    (hopen : (w.transaction t).status.isActive = true)
    (hv : h.commit t w = (.ofExcept result, v)) : CommitEnd h t w result v := by
  cases commit_return h t hopen hv with
  | marked hm hc =>
    have he := CommitEnd.marked (h := h) hm
    rwa [hc] at he
  | refused ha hd hc =>
    have he := CommitEnd.refused ha hd
    rwa [hc] at he
  | agreed ha hd hc =>
    have he := CommitEnd.agreed ha hd
    rwa [hc] at he

end Commit

theorem complete_single {o : Outcome} {w v : World P S} {s : Synchronization P}
    (hs : (w.transaction t).synchronizations = [s])
    (hv : h.after? o s ((w.setTransaction t ((w.transaction t).complete o)).record
      (.transactionCompleted t o.name)) = (.done (), v)) :
    h.complete t o w = (.done (), v) := by
  simp only [complete, Task.bind_apply, Task.gets_apply, Task.atOnce_apply, Exit.ofExcept,
    WorldAct.modifyTransaction_apply, WorldAct.record_apply, hs, tellSynchronizations, hv,
    Task.pure_apply]

theorem complete_alone {o : Outcome} {w : World P S}
    (hs : (w.transaction t).synchronizations = []) :
    h.complete t o w = (.done (), (w.setTransaction t ((w.transaction t).complete o)).record
      (.transactionCompleted t o.name)) := by
  simp only [complete, Task.bind_apply, Task.gets_apply, Task.atOnce_apply, Exit.ofExcept,
    WorldAct.modifyTransaction_apply, WorldAct.record_apply, hs, tellSynchronizations,
    Task.pure_apply]

/-- The world in which a unit has just ended: it holds nothing any more. -/
def closing (w : World P S) : World P S :=
  let c := w.setUnit u (w.unit u).clearParticipants
  c.setUnit u (c.unit u).discard

@[simp] theorem unit_closing_self (w : World P S) :
    (closing u w).unit u = (w.unit u).clearParticipants.discard := by
  simp [closing]

theorem unit_closing_of_ne (w : World P S) {x : UnitRef} (hx : x ≠ u) :
    (closing u w).unit x = w.unit x := by
  simp [closing, World.unit_setUnit_of_ne _ _ hx]

/-- A unit that is told an outcome ends first, then tells its participants, and is let go of last.
-/
theorem after_unit_closing (o : Outcome) (w : World P S) :
    ∃ trace, h.after? o (.unit u) w = (h.tellAll o (w.unit u).participants >>= fun _ =>
      Task.atOnce (release (w.unit u).transaction) >>= fun _ => pure ())
        { closing u w with trace } := by
  have hd : ∃ trace, (WorldAct.completeUnit u o : WorldAct P S Empty Unit)
      (w.setUnit u (w.unit u).clearParticipants) = (.ok (), { closing u w with trace }) :=
    WorldAct.completeUnit_apply (w.setUnit u (w.unit u).clearParticipants) u o
  obtain ⟨trace, hd⟩ := hd
  refine ⟨trace, ?_⟩
  simp only [after?, Task.bind_apply, Task.gets_apply, Task.atOnce_apply,
    WorldAct.modifyUnit_apply, Exit.ofExcept]
  rw [hd]

theorem after_unit_apply (o : Outcome) (w : World P S) :
    ∃ m : World P S, m.unit u = (w.unit u).clearParticipants.discard ∧
      (∀ x, x ≠ u → m.unit x = w.unit x) ∧ m.transactions = w.transactions ∧ m.bound = w.bound ∧
      m.host = w.host ∧ h.after? o (.unit u) w =
        (h.tellAll o (w.unit u).participants >>= fun _ =>
          Task.atOnce (release (w.unit u).transaction) >>= fun _ => pure ()) m := by
  obtain ⟨trace, ha⟩ := after_unit_closing h u o w
  exact ⟨{ closing u w with trace }, unit_closing_self u w,
    fun x hx => unit_closing_of_ne u w hx, rfl, rfl, rfl, ha⟩

theorem after_unit (o : Outcome) (w : World P S) (ht : (w.unit u).transaction = t) :
    ∃ m : World P S, m.unit u = (w.unit u).clearParticipants.discard ∧
      (∀ x, x ≠ u → m.unit x = w.unit x) ∧ m.transactions = w.transactions ∧ m.bound = w.bound ∧
      m.host = w.host ∧
      ∀ v, h.tellAll o (w.unit u).participants m = (.done (), v) → v.bound.get? t = some u →
        h.after? o (.unit u) w =
          (.done (), { v with bound := v.bound.erase t }.record (.unitReleased t)) := by
  obtain ⟨m, hu, hx, htx, hb, hhost, ha⟩ := after_unit_apply h u o w
  refine ⟨m, hu, hx, htx, hb, hhost, ?_⟩
  intro v hv hbound
  have hr : (release t : WorldAct P S Empty (Option UnitRef)) v =
      (.ok (some u), { v with bound := v.bound.erase t }.record (.unitReleased t)) :=
    release_bound v hbound
  rw [ha, ht, Task.bind_done hv]
  simp only [Task.bind_apply, Task.atOnce_apply, hr, Exit.ofExcept, Task.pure_apply]

theorem release_state {ε : Type} (w : World P S) :
    ∃ bound trace, ((release t : WorldAct P S ε (Option UnitRef)) w).2 =
      { w with bound := bound, trace := trace } := by
  cases hb : w.bound.get? t with
  | none =>
    simp only [release, Act.bind_apply, Act.get_apply, hb, Act.pure_apply]
    exact ⟨w.bound, w.trace, rfl⟩
  | some u =>
    rw [release_bound w hb]
    exact ⟨_, _, rfl⟩

theorem release_get? {ε : Type} (w : World P S) (r : TransactionId) :
    ((release t : WorldAct P S ε (Option UnitRef)) w).2.bound.get? r =
      if r = t then none else w.bound.get? r := by
  cases hb : w.bound.get? t with
  | none =>
    simp only [release, Act.bind_apply, Act.get_apply, hb, Act.pure_apply]
    by_cases hr : r = t
    · subst hr
      rw [if_pos rfl, hb]
    · rw [if_neg hr]
  | some u =>
    rw [release_bound w hb]
    exact KeyedList.get?_erase w.bound t r

/-- A unit that has been told had ended before it told its participants, and the registry let go of
it last. -/
theorem after_unit_return {o : Outcome} {w v : World P S}
    (hv : h.after? o (.unit u) w = (.done (), v)) :
    ∃ trace m, h.tellAll o (w.unit u).participants { closing u w with trace } = (.done (), m) ∧
      v = ((release (w.unit u).transaction : WorldAct P S Empty (Option UnitRef)) m).2 := by
  obtain ⟨trace, ha⟩ := after_unit_closing h u o w
  rw [ha] at hv
  obtain ⟨_, m, hm, hv⟩ := Task.bind_eq_done.mp hv
  obtain ⟨_, n, hn, hv⟩ := Task.bind_eq_done.mp hv
  have hvn : v = n := (Prod.mk.inj hv).2.symm
  exact ⟨trace, m, hm, hvn.trans (congrArg Prod.snd hn).symm⟩

theorem after_unit_done {o : Outcome} {w v : World P S}
    (hv : h.after? o (.unit u) w = (.done (), v)) :
    ∃ (d m : World P S) (bound : KeyedList TransactionId UnitRef) (trace : List TraceEvent),
      d.unit u = (w.unit u).clearParticipants.discard ∧ (∀ x, x ≠ u → d.unit x = w.unit x) ∧
      d.transactions = w.transactions ∧ d.host = w.host ∧
      h.tellAll o (w.unit u).participants d = (.done (), m) ∧
      v = { m with bound := bound, trace := trace } := by
  obtain ⟨trace, m, hm, hvm⟩ := after_unit_return h u hv
  obtain ⟨bound, log, hr⟩ := release_state (ε := Empty) (w.unit u).transaction m
  exact ⟨{ closing u w with trace }, m, bound, log, unit_closing_self u w,
    fun x hx => unit_closing_of_ne u w hx, rfl, rfl, hm, hvm.trans hr⟩

end Host

end Transactor
