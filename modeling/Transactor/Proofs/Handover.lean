import Mathlib.Data.List.DropRight
import Transactor.Proofs.Course
import Transactor.Proofs.Reports

namespace Transactor

/-- What may happen to an aggregate. -/
inductive Moment (A P S : Type) where
  | raise (m : Message)
  | report (event : PersistenceEvent) (u : UnitRef)
  /-- Other code changes the fields of the aggregate, the units and everything else. -/
  | meanwhile (f : A → A) (g : World P S → World P S)

variable {A P S : Type}

namespace Moment

variable [Aggregate A]

def play : Moment A P S → Act (Tracked A × World P S) UnitOfWorkError Unit
  | raise m => Act.onFirst (Act.modify fun a => a.raise m)
  | report event u => event.report u
  | meanwhile f g => Act.modify fun s => ({ s.1 with body := f s.1.body }, g s.2)

end Moment

/-- A moment in the life of an aggregate, with the world around it before and after. -/
abbrev Incident (A P S : Type) : Type :=
  Played (Moment A P S) (Tracked A × World P S) UnitOfWorkError Unit

namespace Incident

/-- The domain message that is raised. -/
def raised? (x : Incident A P S) : Option Message :=
  match x.op with
  | .raise m => if m.isDomain then some m else none
  | _ => none

/-- Ends the time of what was raised before: with the end of a write, and with a load. -/
def clears (x : Incident A P S) : Bool :=
  match x.op, x.answer with
  | .report event _, .ok _ => event.target.isPost || event = .postLoad
  | _, _ => false

/-- The domain messages that come to the unit that is reported to. -/
def handedOver (x : Incident A P S) : List Message :=
  match x.op with
  | .report _ u =>
    ((x.left.2.unit u).queue.drop (x.found.2.unit u).queue.length).filter Message.isDomain
  | _ => []

/-- The domain messages raised since the last incident that clears, in the order in which they were
raised. -/
def owed (past : List (Incident A P S)) : List Message :=
  (past.rtakeWhile fun x => !x.clears).filterMap raised?

section Owed

variable {past : List (Incident A P S)} {x : Incident A P S}

theorem owed_of_clears (hx : x.clears = true) : owed (past ++ [x]) = [] := by
  have hnot : ¬(!x.clears) = true := by simp [hx]
  rw [owed, List.rtakeWhile_concat, if_neg hnot]
  rfl

theorem owed_of_stays (hx : x.clears = false) :
    owed (past ++ [x]) = owed past ++ x.raised?.toList := by
  have hyes : (!x.clears) = true := by simp [hx]
  rw [owed, List.rtakeWhile_concat, if_pos hyes, List.filterMap_append]
  cases hr : x.raised? <;> simp [owed, hr]

theorem isDomain_of_raised? {m : Message} (h : x.raised? = some m) : m.isDomain = true := by
  unfold raised? at h
  split at h
  · split at h
    · rename_i hm
      cases h
      exact hm
    · cases h
  · cases h

theorem filter_isDomain_owed : (owed past).filter Message.isDomain = owed past := by
  rw [List.filter_eq_self]
  intro m hm
  obtain ⟨x, -, hx⟩ := List.mem_filterMap.mp hm
  exact isDomain_of_raised? hx

theorem handedOver_report {event : PersistenceEvent} {u : UnitRef} {a b : Tracked A}
    {w v : World P S} {r : Except UnitOfWorkError Unit} {ms : List Message}
    (h : (v.unit u).queue = (w.unit u).queue ++ ms) :
    handedOver ⟨.report event u, (a, w), r, b, v⟩ = ms.filter Message.isDomain := by
  rw [handedOver]
  dsimp only
  rw [h, List.drop_left]

theorem handedOver_report_nil {event : PersistenceEvent} {u : UnitRef} {a b : Tracked A}
    {w v : World P S} {r : Except UnitOfWorkError Unit}
    (h : (v.unit u).queue = (w.unit u).queue) :
    handedOver ⟨.report event u, (a, w), r, b, v⟩ = [] :=
  handedOver_report (h.trans (List.append_nil _).symm)

end Owed

variable [Aggregate A]

/-- What a moment comes to, given all that there was before it. -/
inductive Lawful (past : List (Incident A P S)) : Incident A P S → Prop
  | raise (m : Message) (a : Tracked A) (w : World P S) :
      Lawful past ⟨.raise m, (a, w), .ok (), a.raise m, w⟩
  | meanwhile (f : A → A) (g : World P S → World P S) (a : Tracked A) (w : World P S) :
      Lawful past ⟨.meanwhile f g, (a, w), .ok (), { a with body := f a.body }, g w⟩
  | closed {event : PersistenceEvent} {u : UnitRef} {a : Tracked A} {w : World P S}
      (hc : (w.unit u).status.accepts = false) : Lawful past
        ⟨.report event u, (a, w), .error (.closed (w.unit u).transaction), a, w⟩
  /-- A hook that refuses may have changed fields of the aggregate, but nothing else. -/
  | hindered {event : PersistenceEvent} {u : UnitRef} {a : Tracked A} {w v : World P S}
      {e : UnitOfWorkError} {b : A} (h : a.Hindrance event.target e b)
      (hunits : ∀ q, v.unit q = w.unit q) : Lawful past
        ⟨.report event u, (a, w), .error e, { a with body := b }, v⟩
  | written {event : PersistenceEvent} {u : UnitRef} {a b : Tracked A} {w v : World P S}
      {stamp : Stamp} (hp : event.target.isPost = true)
      (hqueue : (v.unit u).queue = (w.unit u).queue ++
        a.announcement a.body event.target stamp :: owed past)
      (hothers : ∀ q, q ≠ u → v.unit q = w.unit q) : Lawful past
        ⟨.report event u, (a, w), .ok (), b, v⟩
  | noted {event : PersistenceEvent} {u : UnitRef} {a b : Tracked A} {w v : World P S}
      (hp : event.target.isPost = false) (hqueue : (v.unit u).queue = (w.unit u).queue)
      (hothers : ∀ q, q ≠ u → v.unit q = w.unit q) : Lawful past
        ⟨.report event u, (a, w), .ok (), b, v⟩

/-- Of what was raised, each message is handed over, still owed or dropped. -/
theorem Lawful.conserved {past : List (Incident A P S)} {x : Incident A P S} (h : Lawful past x) :
    (x.handedOver ++ owed (past ++ [x])).Sublist (owed past ++ x.raised?.toList) := by
  cases h with
  | raise m a w =>
    rw [owed_of_stays rfl]
    exact .refl _
  | meanwhile f g a w =>
    rw [owed_of_stays rfl]
    exact .refl _
  | closed hc =>
    rw [owed_of_stays rfl, handedOver_report_nil rfl]
    exact .refl _
  | hindered h hunits =>
    rw [owed_of_stays rfl, handedOver_report_nil (by rw [hunits])]
    exact .refl _
  | @written event u a b w v stamp hp hqueue hothers =>
    have hclears : clears ⟨.report event u, (a, w), .ok (), b, v⟩ = true := by
      simp [clears, hp]
    rw [owed_of_clears hclears, handedOver_report hqueue,
      List.filter_cons_of_neg Bool.false_ne_true, filter_isDomain_owed]
    exact .refl _
  | @noted event u a b w v hp hqueue hothers =>
    rw [handedOver_report_nil hqueue]
    cases hc : clears ⟨.report event u, (a, w), .ok (), b, v⟩ with
    | true =>
      rw [owed_of_clears hc]
      exact List.nil_sublist _
    | false =>
      rw [owed_of_stays hc]
      exact .refl _

end Incident

open Incident

variable [Aggregate A]

namespace Moment

theorem play_lawful (past : List (Incident A P S)) (m : Moment A P S) (s : Tracked A × World P S)
    (hs : s.1.raised = owed past) : Lawful past (.of play m s) ∧
      (Played.of play m s).left.1.raised = owed (past ++ [.of play m s]) := by
  obtain ⟨a, w⟩ := s
  have hstays {x : Incident A P S} (hx : x.clears = false) (hnone : x.raised? = none) :
      a.raised = owed (past ++ [x]) := by
    rw [owed_of_stays hx, hnone, Option.toList_none, List.append_nil]
    exact hs
  cases m with
  | raise m =>
    refine ⟨.raise m a w, ?_⟩
    rw [owed_of_stays rfl, ← hs]
    cases hm : m.isDomain with
    | true => simp [Played.of, play, raised?, hm, a.raised_raise hm]
    | false => simp [Played.of, play, raised?, hm, Tracked.raised, Tracked.raise]
  | meanwhile f g => exact ⟨.meanwhile f g a w, hstays rfl rfl⟩
  | report event u =>
    have hend := PersistenceEvent.report_ending event u a w
    unfold Played.of play
    dsimp only
    generalize event.report u (a, w) = r at hend
    cases hend with
    | closed hc => exact ⟨.closed hc, hstays rfl rfl⟩
    | hindered ha h => exact ⟨.hindered h fun q => rfl, hstays rfl rfl⟩
    | @taken e ha hm hh =>
      let stamp : Stamp := ⟨w.supply.current, w.clock⟩
      let b := { a with body := e }.reported event.target (a.announcement e event.target stamp)
      let x : Incident A P S := ⟨.report event u, (a, w), .ok (), b, event.taken u a e w⟩
      change Lawful past x ∧ b.raised = owed (past ++ [x])
      have hothers : ∀ q, q ≠ u → (event.taken u a e w).unit q = w.unit q :=
        fun q hq => PersistenceEvent.unit_taken_of_ne hq
      have hqueue : ((event.taken u a e w).unit u).queue = (w.unit u).queue ++
          a.handedOver event.target (a.announcement e event.target stamp) := by
        rw [PersistenceEvent.unit_taken_self]
        rfl
      refine ⟨?_, ?_⟩
      · rw [Tracked.handedOver] at hqueue
        cases hp : event.target.isPost with
        | true =>
          have hnone := Tracked.hook_of_not_isPre (Lifecycle.isPre_eq_false_of_isPost hp) a.body
          obtain rfl : e = a.body := congrArg Prod.snd (hh.symm.trans hnone)
          rw [if_pos hp, hs] at hqueue
          exact .written hp hqueue hothers
        | false =>
          rw [hp, if_neg Bool.false_ne_true, List.append_nil] at hqueue
          exact .noted hp hqueue hothers
      · have hclears : x.clears = (event.target.isPost || event.target = .loaded) := by
          cases event <;> rfl
        rw [Tracked.raised_reported _ rfl, ← hclears]
        cases hc : x.clears with
        | true => exact (owed_of_clears hc).symm
        | false => exact hstays hc rfl

end Moment

open scoped List in
/-- Along lawful incidents no more is handed over than was owed before or is raised in them. -/
theorem Incident.handedOver_sublist {past es : List (Incident A P S)}
    (h : ∀ before x later, es = before ++ x :: later → Lawful (past ++ before) x) :
    (es.flatMap handedOver).Sublist (owed past ++ es.filterMap raised?) := by
  induction es generalizing past with
  | nil => exact List.nil_sublist _
  | cons x es ih =>
    have hx : Lawful past x := by
      have hfirst := h [] x es rfl
      rwa [List.append_nil] at hfirst
    have hes : (es.flatMap handedOver).Sublist
        (owed (past ++ [x]) ++ es.filterMap raised?) := by
      apply ih
      intro before y later he
      have hlater := h (x :: before) y later (congrArg (x :: ·) he)
      rwa [List.append_assoc]
    have hraised : (x :: es).filterMap raised? = x.raised?.toList ++ es.filterMap raised? := by
      cases hr : x.raised? <;> simp [hr]
    calc (x :: es).flatMap handedOver
      _ = x.handedOver ++ es.flatMap handedOver := rfl
      _ <+ x.handedOver ++ (owed (past ++ [x]) ++ es.filterMap raised?) :=
        (List.Sublist.refl _).append hes
      _ = (x.handedOver ++ owed (past ++ [x])) ++ es.filterMap raised? :=
        (List.append_assoc ..).symm
      _ <+ (owed past ++ x.raised?.toList) ++ es.filterMap raised? :=
        hx.conserved.append (.refl _)
      _ = owed past ++ (x :: es).filterMap raised? := by
        rw [hraised, List.append_assoc]

/-- How the messages that an aggregate raises are handed over along a course. Each message raised
comes to at most one unit and once, and after a load nothing comes that was raised before it. -/
structure HandsOverOnce (es : List (Incident A P S)) : Prop where
  lawful : ∀ past x later, es = past ++ x :: later → Lawful past x
  once : (es.flatMap handedOver).Sublist (es.filterMap raised?)
  cleared : ∀ past x later, es = past ++ x :: later → x.clears = true →
    (later.flatMap handedOver).Sublist (later.filterMap raised?)

/-- Whatever happens to an aggregate from its making on, what it raises is handed over once. -/
theorem raised_handed_over_once (ms : List (Moment A P S)) (e : A) (w : World P S) :
    HandsOverOnce (Played.course Moment.play ms (.fresh e, w)) := by
  let s : Tracked A × World P S := (.fresh e, w)
  have hnone : s.1.raised = owed ([] : List (Incident A P S)) := rfl
  have hall (before : List (Incident A P S)) (x : Incident A P S) (later : List (Incident A P S))
      (hx : Played.course Moment.play ms s = before ++ x :: later) : Lawful ([] ++ before) x :=
    Played.course_lawful Moment.play_lawful ms hnone hx
  refine ⟨hall, handedOver_sublist hall, ?_⟩
  intro past x later hx hc
  have hlater : (later.flatMap handedOver).Sublist
      (owed (past ++ [x]) ++ later.filterMap raised?) := by
    apply handedOver_sublist
    intro before y rest he
    rw [List.append_assoc]
    apply hall (past ++ x :: before) y rest
    rw [hx, he, List.append_assoc]
    rfl
  rw [owed_of_clears hc] at hlater
  exact hlater

end Transactor
