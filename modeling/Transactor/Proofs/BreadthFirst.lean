import Transactor.Proofs.Host
import Transactor.Proofs.Past

namespace Transactor

open Relation

variable {P S : Type}

namespace Call

def batch? (u : UnitRef) : Call P → Option (List Message)
  | .dispatched v batch => if v = u then some batch else none
  | _ => none

/-- What a unit has accepted into its queue. -/
def accepted (u : UnitRef) : Call P → List Message
  | .registered v r => if v = u then r.message?.toList else []
  | _ => []

/-- The aggregate that a unit has accepted a transition of. -/
def aggregate? (u : UnitRef) : Call P → Option (String × Uuid)
  | .registered v r => if v = u then r.aggregate? else none
  | _ => none

end Call

def sent (u : UnitRef) (es : List (Call P)) : List (List Message) := es.filterMap (Call.batch? u)

def accepted (u : UnitRef) (es : List (Call P)) : List Message := es.flatMap (Call.accepted u)

/-- The aggregates that a unit has accepted transitions of, as often as it has. -/
def moved (u : UnitRef) (es : List (Call P)) : List (String × Uuid) :=
  es.filterMap (Call.aggregate? u)

theorem sent_append (u : UnitRef) (es fs : List (Call P)) :
    sent u (es ++ fs) = sent u es ++ sent u fs := List.filterMap_append

theorem accepted_append (u : UnitRef) (es fs : List (Call P)) :
    accepted u (es ++ fs) = accepted u es ++ accepted u fs := List.flatMap_append

/-- The calls lead from one queue to another: registrations lengthen it, and a dispatch takes all
of it. -/
def Follows (u : UnitRef) : List Message → List (Call P) → List Message → Prop
  | q, [], r => r = q
  | q, e :: es, r =>
    match e.batch? u with
    | some batch => batch = q ∧ q ≠ [] ∧ Follows u [] es r
    | none => Follows u (q ++ e.accepted u) es r

section Follows

variable {u : UnitRef} {q r : List Message} {es fs : List (Call P)}

theorem Call.accepted_of_batch {e : Call P} {batch : List Message}
    (h : e.batch? u = some batch) : e.accepted u = [] := by
  cases e with
  | dispatched v b => rfl
  | registered v r => cases h
  | enlisted v p => cases h
  | joined t s => cases h
  | marked t => cases h
  | rolledBack t => cases h
  | agreed p => cases h
  | told p o => cases h

theorem follows_append :
    Follows u q (es ++ fs) r ↔ ∃ m, Follows u q es m ∧ Follows u m fs r := by
  induction es generalizing q with
  | nil => simp [Follows]
  | cons e es ih =>
    simp only [List.cons_append, Follows]
    cases e.batch? u with
    | none => exact ih
    | some batch =>
      simp only [ih]
      constructor
      · rintro ⟨hb, hq, m, hm, hr⟩
        exact ⟨m, ⟨hb, hq, hm⟩, hr⟩
      · rintro ⟨m, ⟨hb, hq, hm⟩, hr⟩
        exact ⟨hb, hq, m, hm, hr⟩

/-- Nothing is lost and nothing is doubled: what was sent and what is left are what there was and
what came in. -/
theorem Follows.balance (h : Follows u q es r) : (sent u es).flatten ++ r = q ++ accepted u es := by
  induction es generalizing q with
  | nil =>
    cases h
    simp [sent, accepted]
  | cons e es ih =>
    simp only [Follows] at h
    cases hb : e.batch? u with
    | none =>
      rw [hb] at h
      have hi := ih h
      simp only [sent, accepted, List.filterMap_cons, hb, List.flatMap_cons] at hi ⊢
      rw [hi, List.append_assoc]
    | some batch =>
      rw [hb] at h
      obtain ⟨rfl, -, h⟩ := h
      have hi := ih h
      have ha := Call.accepted_of_batch hb
      simp only [sent, accepted, List.filterMap_cons, hb, List.flatMap_cons, ha, List.flatten_cons,
        List.nil_append, List.append_assoc] at hi ⊢
      rw [hi]

theorem Follows.quiet (h : Follows u q es r) (hs : sent u es = []) : r = q ++ accepted u es := by
  have hb := h.balance
  rwa [hs, List.flatten_nil, List.nil_append] at hb

/-- Calls among which there is no dispatch lead from any queue to a longer one. -/
theorem follows_of_unsent (q : List Message) (h : sent u es = []) :
    Follows u q es (q ++ accepted u es) := by
  induction es generalizing q with
  | nil => exact List.append_nil q
  | cons e es ih =>
    simp only [Follows]
    cases hb : e.batch? u with
    | some batch =>
      rw [sent, List.filterMap_cons, hb] at h
      cases h
    | none =>
      rw [sent, List.filterMap_cons, hb] at h
      have hi := ih (q ++ e.accepted u) h
      rwa [List.append_assoc] at hi

theorem follows_dispatched {batch : List Message} :
    Follows u q (.dispatched u batch :: es : List (Call P)) r ↔
      batch = q ∧ q ≠ [] ∧ Follows u [] es r := by
  simp [Follows, Call.batch?]

theorem Follows.batch {before after : List (Call P)} {batch : List Message}
    (h : Follows u q (before ++ .dispatched u batch :: after) r) :
    Follows u q before batch ∧ Follows u [] after r := by
  obtain ⟨m, hm, ha⟩ := follows_append.mp h
  obtain ⟨rfl, -, ha⟩ := follows_dispatched.mp ha
  exact ⟨hm, ha⟩

end Follows

variable [Chronicle S P]

/-- What code may do with a unit that is handed to it: register, enlist, and anything that is none
of the unit's business. -/
inductive Reentry (u : UnitRef) : World P S → World P S → Prop
  | register (r : Registration) (w : World P S) :
      Reentry u w (WorldAct.noting (.registered u r) (WorldAct.register u r) w).2
  | enlist (p : P) (w : World P S) :
      Reentry u w (WorldAct.noting (.enlisted u p) (WorldAct.enlist u p) w).2
  | other {w v : World P S} (hu : v.unit u = w.unit u) (hp : v.past = w.past) : Reentry u w v

/-- The host that notes which batches it dispatches. -/
def Host.noted (h : Host P S) : Host P S :=
  { h with
    dispatch := fun batch u => do
      Task.modify (World.note (.dispatched u batch))
      h.dispatch batch u }

/-- The tracked aggregates after some more have been accepted. -/
def trackAll (keys known : List (String × Uuid)) : List (String × Uuid) :=
  keys.foldl (fun known key => UnitOfWork.track key known) known

theorem trackAll_append (u : UnitRef) (es fs : List (Call P)) (known : List (String × Uuid)) :
    trackAll (moved u (es ++ fs)) known = trackAll (moved u fs) (trackAll (moved u es) known) := by
  rw [moved, moved, moved, List.filterMap_append, trackAll, trackAll, trackAll, List.foldl_append]

/-- The calls that lead a unit from one world to another. -/
structure Trail (u : UnitRef) (w : World P S) (es : List (Call P)) (v : World P S) : Prop where
  past : v.past = w.past ++ es
  follows : Follows u (w.unit u).queue es (v.unit u).queue
  registered : (v.unit u).registered = trackAll (moved u es) (w.unit u).registered
  status : (v.unit u).status = (w.unit u).status

namespace Trail

variable {u : UnitRef} {w v m : World P S} {es fs : List (Call P)}

theorem refl (u : UnitRef) (w : World P S) : Trail u w [] w :=
  ⟨(List.append_nil _).symm, rfl, rfl, rfl⟩

theorem trans (h : Trail u w es m) (g : Trail u m fs v) : Trail u w (es ++ fs) v where
  past := by rw [g.past, h.past, List.append_assoc]
  follows := follows_append.mpr ⟨_, h.follows, g.follows⟩
  registered := by rw [g.registered, h.registered, trackAll_append]
  status := g.status.trans h.status

end Trail

theorem Reentry.trail {u : UnitRef} {w v : World P S} (h : Reentry u w v) :
    ∃ es, Trail u w es v ∧ sent u es = [] := by
  cases h with
  | register r =>
    cases ha : (w.unit u).status.accepts with
    | true =>
      refine ⟨[.registered u r], ?_, rfl⟩
      rw [WorldAct.noting_ok (WorldAct.register_open w u ha)]
      refine ⟨by simp, ?_, ?_, by simp [UnitOfWork.add]⟩
      · simp [Follows, Call.batch?, Call.accepted, UnitOfWork.add]
      · cases r <;> simp [moved, Call.aggregate?, UnitOfWork.add, trackAll, Registration.aggregate?]
    | false =>
      refine ⟨[], ?_, rfl⟩
      rw [WorldAct.noting_error (WorldAct.register_closed w u ha)]
      exact .refl u w
  | enlist p =>
    by_cases hs : (w.unit u).status = .completed
    · refine ⟨[], ?_, rfl⟩
      rw [WorldAct.noting_error (WorldAct.enlist_closed w u hs)]
      exact .refl u w
    · refine ⟨[.enlisted u p], ?_, rfl⟩
      rw [WorldAct.noting_ok (WorldAct.enlist_open w u hs)]
      refine ⟨by simp, ?_, ?_, by simp⟩
      · simp [Follows, Call.batch?, Call.accepted]
      · simp only [World.unit_note, World.unit_setUnit_self]
        rfl
  | other hu hp =>
    refine ⟨[], ⟨?_, ?_, ?_, by rw [hu]⟩, rfl⟩
    · rw [hp, List.append_nil]
    · rw [hu]; rfl
    · rw [hu]; rfl

theorem Reentry.trails {u : UnitRef} {w v : World P S} (h : ReflTransGen (Reentry u) w v) :
    ∃ es, Trail u w es v ∧ sent u es = [] := by
  induction h with
  | refl => exact ⟨[], .refl u w, rfl⟩
  | tail _ hs ih =>
    obtain ⟨es, he, hes⟩ := ih
    obtain ⟨fs, hf, hfs⟩ := hs.trail
    exact ⟨es ++ fs, he.trans hf, by rw [sent_append, hes, hfs, List.append_nil]⟩

/-- What the loop of a drain has done when it ends. What it has taken out of the queue without
dispatching it is lost, but only if it fails. -/
structure Drained (u : UnitRef) (w : World P S) (es : List (Call P))
    (result : Except UnitOfWorkError Unit) (v : World P S) : Prop where
  past : v.past = w.past ++ es
  follows : ∃ q, Follows u (w.unit u).queue es q ∧ (result = .ok () → q = [])
  registered : (v.unit u).registered = trackAll (moved u es) (w.unit u).registered

theorem Trail.drained {u : UnitRef} {w m v : World P S} {es fs : List (Call P)}
    {result : Except UnitOfWorkError Unit} (h : Trail u w es m) (g : Drained u m fs result v) :
    Drained u w (es ++ fs) result v := by
  obtain ⟨q, hq, hr⟩ := g.follows
  refine ⟨?_, ⟨q, follows_append.mpr ⟨_, h.follows, hq⟩, hr⟩, ?_⟩
  · rw [g.past, h.past, List.append_assoc]
  · rw [g.registered, h.registered, trackAll_append]

theorem trail_handing {u : UnitRef} {t : TransactionId} {w : World P S} {cycles : Nat}
    (hq : (w.unit u).queue ≠ []) :
    Trail u w [.dispatched u (w.unit u).queue]
      ((Host.handing u t w cycles).note (.dispatched u (w.unit u).queue)) where
  past := by simp [Host.handing]
  follows := by simp [Follows, Call.batch?, Host.handing, UnitOfWork.clearQueue, hq]
  registered := by
    simp only [Host.handing, World.unit_note, World.unit_record, World.unit_setUnit_self]
    rfl
  status := by simp [Host.handing, UnitOfWork.clearQueue]

section Drain

variable {h : Host P S} {u : UnitRef} (hd : ∀ batch, (h.dispatch batch u).Within (Reentry u))

include hd

end Drain

/-- A world with a new unit, before and after the transition has been registered with it. -/
def begun : World Nat (List (Call Nat)) :=
  (World.first ⟨2⟩ []).setUnit ⟨0⟩ (.begin ⟨.ofNat 0⟩ ⟨2⟩)

end Transactor
