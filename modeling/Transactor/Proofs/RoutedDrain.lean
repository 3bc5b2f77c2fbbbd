import Transactor.Proofs.BreadthFirst
import Transactor.Proofs.Routing

namespace Transactor

open Relation

variable {P S : Type}

/-- Rounds of a drain. Each hands over the whole queue, and there is another one only if that goes
well. -/
inductive Host.Rounds (h : Host P S) (u : UnitRef) (t : TransactionId) :
    World P S → List (List Message) → Exit DeliveryError Unit → World P S → Prop
  | none (w : World P S) : Rounds h u t w [] (.done ()) w
  | next {w m v : World P S} {cycles : ℕ} {batches : List (List Message)}
      {exit : Exit DeliveryError Unit}
      (hd : h.dispatch (w.unit u).queue u (handing u t w cycles) = (.done (), m))
      (hr : Rounds h u t m batches exit v) :
      Rounds h u t w ((w.unit u).queue :: batches) exit v
  | last {w v : World P S} {cycles : ℕ} {exit : Exit DeliveryError Unit}
      (hd : h.dispatch (w.unit u).queue u (handing u t w cycles) = (exit, v))
      (he : exit ≠ .done ()) : Rounds h u t w [(w.unit u).queue] exit v

/-- What comes of a drain, given what has come of its rounds. -/
inductive Concluded (t : TransactionId) (limit : ℕ) :
    Exit DeliveryError Unit → Exit UnitOfWorkError Unit → Prop
  | drained : Concluded t limit (.done ()) (.done ())
  | diverged : Concluded t limit (.done ()) (.failed (.cascadeLimit t limit))
  | failed (e : DeliveryError) : Concluded t limit (.failed e) (.failed (.dispatch t e))
  | interrupted (i : Interrupt) : Concluded t limit (.interrupted i) (.interrupted i)

namespace Host

variable (h : Host P S) (u : UnitRef)

theorem drainCycles_interrupted (t : TransactionId) (limit : ℕ) {left cycles : ℕ}
    {w v : World P S} {i : Interrupt} (hq : (w.unit u).queue ≠ [])
    (hd : h.dispatch (w.unit u).queue u (handing u t w cycles) = (.interrupted i, v)) :
    h.drainCycles u t limit (left + 1) cycles w = (.interrupted i, v) := by
  unfold handing at hd
  simp [drainCycles, Task.bind_apply, hq, Exit.ofExcept, Task.attempt, hd]

theorem drainCycles_inRounds (t : TransactionId) (limit left cycles : ℕ) (w : World P S) :
    ∃ batches exit m, h.Rounds u t w batches exit m ∧
      (h.drainCycles u t limit left cycles w).2.host = m.host ∧
      Concluded t limit exit (h.drainCycles u t limit left cycles w).1 ∧
      ((w.unit u).queue ≠ [] → 0 < left → batches.head? = some (w.unit u).queue) := by
  -- by induction on the rounds that are still allowed
  induction left generalizing cycles w with
  | zero =>
    by_cases hq : (w.unit u).queue = []
    · rw [h.drainCycles_empty u t limit hq]
      exact ⟨[], _, w, .none w, rfl, .drained, fun hn => absurd hq hn⟩
    · rw [h.drainCycles_zero u t limit hq]
      exact ⟨[], _, w, .none w, rfl, .diverged, fun _ hl => absurd hl (Nat.lt_irrefl 0)⟩
  | succ left ih =>
    by_cases hq : (w.unit u).queue = []
    · rw [h.drainCycles_empty u t limit hq]
      exact ⟨[], _, w, .none w, rfl, .drained, fun hn => absurd hq hn⟩
    cases hr : h.dispatch (w.unit u).queue u (handing u t w cycles) with
    | mk e m =>
      cases e with
      | done _ =>
        rw [h.drainCycles_ok u t limit hq hr]
        obtain ⟨batches, exit, v, hv, hhost, hc, -⟩ := ih (cycles + 1) m
        exact ⟨_, exit, v, .next hr hv, hhost, hc, fun _ _ => rfl⟩
      | failed e =>
        rw [h.drainCycles_failed u t limit hq hr]
        exact ⟨_, _, m, .last hr (fun he => by cases he), rfl, .failed e, fun _ _ => rfl⟩
      | interrupted i =>
        rw [h.drainCycles_interrupted u t limit hq hr]
        exact ⟨_, _, m, .last hr (fun he => by cases he), rfl, .interrupted i, fun _ _ => rfl⟩

theorem drain_loop {w : World P S} (ha : (w.unit u).status = .active) :
    (h.drain u w).1 = (h.drainCycles u (w.unit u).transaction (w.unit u).limit (w.unit u).limit 0
        (draining u w)).1 ∧
      (h.drain u w).2.host = (h.drainCycles u (w.unit u).transaction (w.unit u).limit
        (w.unit u).limit 0 (draining u w)).2.host := by
  cases hr : h.drainCycles u (w.unit u).transaction (w.unit u).limit (w.unit u).limit 0
    (draining u w) with
  | mk e v =>
    cases e with
    | done a =>
      have hd := h.drain_active u (r := .ok a) ha hr
      rw [hd]
      exact ⟨rfl, rfl⟩
    | failed e =>
      have hd := h.drain_active u (r := .error e) ha hr
      rw [hd]
      exact ⟨rfl, rfl⟩
    | interrupted i =>
      have hs : WorldAct.updateUnit u UnitOfWork.startDrain w = (.ok (), draining u w) := by
        simp only [WorldAct.updateUnit, UnitOfWork.startDrain, ha, ↓reduceIte, draining]
      simp only [drain, Task.bind_apply, Task.atOnce_apply, hs, Exit.ofExcept, Task.gets_apply,
        draining, World.unit_setUnit_self] at hr ⊢
      rw [Task.attempt_interrupted hr]
      exact ⟨rfl, rfl⟩

theorem drain_inRounds {w : World P S} (ha : (w.unit u).status = .active) :
    ∃ batches exit m, h.Rounds u (w.unit u).transaction (draining u w) batches exit m ∧
      (h.drain u w).2.host = m.host ∧
      Concluded (w.unit u).transaction (w.unit u).limit exit (h.drain u w).1 ∧
      ((w.unit u).queue ≠ [] → batches.head? = some (w.unit u).queue) := by
  obtain ⟨batches, exit, m, hm, hhost, hc, hhead⟩ := h.drainCycles_inRounds u (w.unit u).transaction
    (w.unit u).limit (w.unit u).limit 0 (draining u w)
  obtain ⟨hexit, hstate⟩ := h.drain_loop u ha
  rw [draining, World.unit_setUnit_self] at hhead
  refine ⟨batches, exit, m, hm, ?_, ?_, fun hq => hhead hq (w.unit u).limit_pos⟩
  · rw [hstate, hhost]
  · rw [hexit]
    exact hc

end Host

section Lifts

variable {R : Type} {h : Host P (S × R)} {g : Host P S} {u : UnitRef}
  (hd : ∀ batch, Lifts (h.dispatch batch u) (g.dispatch batch u))

include hd

theorem Lifts.drainCycles (t : TransactionId) (limit left cycles : ℕ) :
    Lifts (h.drainCycles u t limit left cycles) (g.drainCycles u t limit left cycles) := by
  induction left generalizing cycles with
  | zero =>
    apply Lifts.bind (fun _ => rfl)
    intro batch
    split
    · exact fun _ => rfl
    · exact fun _ => rfl
  | succ left ih =>
    apply Lifts.bind (fun _ => rfl)
    intro batch
    split
    · exact fun _ => rfl
    apply Lifts.bind (fun _ => rfl)
    intro _
    apply (hd batch).attempt.bind
    intro r
    cases r with
    | ok _ => exact ih (cycles + 1)
    | error e => exact fun _ => rfl

theorem Lifts.drain : Lifts (h.drain u) (g.drain u) := by
  apply Lifts.bind
  · intro w
    have hu : w.bare.unit u = w.unit u := rfl
    simp only [Task.atOnce_apply, WorldAct.updateUnit, UnitOfWork.startDrain, hu]
    by_cases ha : (w.unit u).status = .active
    · rw [if_pos ha]
      rfl
    · rw [if_neg ha]
  intro _
  apply Lifts.bind (fun _ => rfl)
  intro x
  apply (drainCycles hd x.transaction x.limit x.limit 0).attempt.bind
  intro r
  apply Lifts.bind (fun _ => rfl)
  intro _
  exact fun _ => rfl

end Lifts

/-- The rounds of a drain make the calls that their batches are to be routed by, one round after the
other. -/
theorem Host.Rounds.made {u : UnitRef} {h : Host P (S × List Invocation)}
    {subscriptions : List (Subscription (Handler P S))}
    (hd : ∀ batch, Makes (due subscriptions batch) (h.dispatch batch u))
    {t : TransactionId} {w v : World P (S × List Invocation)} {batches : List (List Message)}
    {exit : Exit DeliveryError Unit} (hr : h.Rounds u t w batches exit v) :
    ∃ calls, v.host.2 = w.host.2 ++ calls ∧
      Made (due subscriptions batches.flatten) calls exit := by
  induction hr with
  | none w => exact ⟨[], (List.append_nil _).symm, .none⟩
  | @next w m v cycles batches exit hround _ ih =>
    obtain ⟨calls, hn, hm⟩ := hd _ (handing u t w cycles)
    rw [hround] at hn hm
    obtain ⟨calls', hn', hm'⟩ := ih
    refine ⟨calls ++ calls', ?_, ?_⟩
    · rw [hn', hn, List.append_assoc]
      rfl
    · rw [List.flatten_cons, due_append]
      exact hm.append hm'
  | @last w v cycles exit hround he =>
    obtain ⟨calls, hn, hm⟩ := hd _ (handing u t w cycles)
    rw [hround] at hn hm
    refine ⟨calls, hn, ?_⟩
    rw [List.flatten_singleton]
    exact hm

instance {R : Type} [Chronicle S P] : Chronicle (S × R) P where
  past s := Chronicle.past s.1
  note e s := (Chronicle.note e s.1, s.2)
  past_note e s := Chronicle.past_note e s.1

variable [Chronicle S P] {u : UnitRef}

/-- What is noted beside makes no difference to what code does with a unit. -/
theorem Reentry.beside {R : Type} {w v : World P S} (h : Reentry u w v) (r : R) :
    Reentry u (w.beside r) (v.beside r) := by
  cases h with
  | register g =>
    have h := Reentry.register (u := u) g (w.beside r)
    cases ha : (w.unit u).status.accepts with
    | true =>
      rw [WorldAct.noting_ok (WorldAct.register_open (w.beside r) u ha)] at h
      rwa [WorldAct.noting_ok (WorldAct.register_open w u ha)]
    | false =>
      rw [WorldAct.noting_error (WorldAct.register_closed w u ha)]
      exact .other rfl rfl
  | enlist p =>
    have h := Reentry.enlist (u := u) p (w.beside r)
    by_cases hs : (w.unit u).status = .completed
    · rw [WorldAct.noting_error (WorldAct.enlist_closed w u hs)]
      exact .other rfl rfl
    · rw [WorldAct.noting_ok (WorldAct.enlist_open (w.beside r) u hs)] at h
      rwa [WorldAct.noting_ok (WorldAct.enlist_open w u hs)]
  | other hu hp => exact .other hu hp

theorem sent_dispatched {batch : List Message} {es : List (Call P)} (hes : sent u es = []) :
    sent u (.dispatched u batch :: es) = [batch] := by
  rw [sent, List.filterMap_cons, ← sent, hes]
  simp [Call.batch?]

theorem Host.Rounds.sent {h : Host P S} (hd : ∀ batch, (h.dispatch batch u).Within (Reentry u))
    {t : TransactionId} {w v : World P S} {batches : List (List Message)}
    {exit : Exit DeliveryError Unit} (hr : h.noted.Rounds u t w batches exit v) :
    ∃ es, v.past = w.past ++ es ∧ Transactor.sent u es = batches := by
  have hround : ∀ w cycles, ∃ es,
      (h.noted.dispatch (w.unit u).queue u (handing u t w cycles)).2.past =
        w.past ++ .dispatched u (w.unit u).queue :: es ∧ Transactor.sent u es = [] := by
    intro w cycles
    let m := (handing u t w cycles).note (.dispatched u (w.unit u).queue)
    obtain ⟨es, ht, hes⟩ := Reentry.trails ((hd (w.unit u).queue).steps m)
    refine ⟨es, ?_, hes⟩
    have hpast : m.past = w.past ++ [.dispatched u (w.unit u).queue] := World.past_note _ _
    change (h.dispatch (w.unit u).queue u m).2.past = _
    rw [ht.past, hpast, List.append_assoc]
    rfl
  induction hr with
  | none w => exact ⟨[], (List.append_nil _).symm, rfl⟩
  | @next w m v cycles batches exit hm _ ih =>
    obtain ⟨es, hpast, hes⟩ := hround w cycles
    rw [hm] at hpast
    obtain ⟨fs, hpast', hfs⟩ := ih
    refine ⟨.dispatched u (w.unit u).queue :: es ++ fs, ?_, ?_⟩
    · rw [hpast', hpast, List.append_assoc]
    · rw [sent_append, sent_dispatched hes, hfs]
      rfl
  | @last w v cycles exit hm he =>
    obtain ⟨es, hpast, hes⟩ := hround w cycles
    rw [hm] at hpast
    exact ⟨_, hpast, sent_dispatched hes⟩

end Transactor
