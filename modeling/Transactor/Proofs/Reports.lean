import Transactor.Persistence
import Transactor.Proofs.Calls
import Transactor.Proofs.Steps

namespace Transactor

namespace Lifecycle

theorem isPre_eq_false_of_isPost {s : Lifecycle} (h : s.isPost = true) : s.isPre = false := by
  cases s <;> first | rfl | cases h

theorem ne_loaded_of_isPost {s : Lifecycle} (h : s.isPost = true) : s ≠ .loaded := by
  intro he
  rw [he] at h
  cases h

end Lifecycle

@[simp] theorem World.setUnit_setUnit {P S : Type} (w : World P S) (u : UnitRef)
    (x y : UnitOfWork P) : (w.setUnit u x).setUnit u y = w.setUnit u y := by
  simp only [setUnit, KeyedList.insert_insert]

namespace WorldAct

variable {P S ε : Type}

theorem stamp_apply (w : World P S) :
    (WorldAct.stamp : WorldAct P S ε Stamp) w =
      (.ok ⟨w.supply.current, w.clock⟩, { w with supply := w.supply.advance }) := rfl

/-- A unit that takes one message takes them all. -/
theorem registerAll_open {u : UnitRef} (ms : List Message) (w : World P S) {x : UnitOfWork P}
    (ha : x.status.accepts = true) : registerAll u ms (w.setUnit u x) =
      (.ok (), w.setUnit u { x with queue := x.queue ++ ms }) := by
  induction ms generalizing x with
  | nil =>
    rw [List.append_nil]
    rfl
  | cons m ms ih =>
    have hm : WorldAct.register u (.message m) (w.setUnit u x) =
        (.ok (), w.setUnit u (x.add (.message m))) := by
      have hopen : ((w.setUnit u x).unit u).status.accepts = true := by
        rw [World.unit_setUnit_self]
        exact ha
      rw [WorldAct.register_open _ u hopen, World.unit_setUnit_self, World.setUnit_setUnit]
    have hqueue : (x.add (.message m)).queue ++ ms = x.queue ++ m :: ms := List.append_assoc ..
    have hms := ih (x := x.add (.message m)) ha
    rw [hqueue] at hms
    exact (Act.bind_ok hm).trans hms

end WorldAct

namespace Tracked

section Detached

variable {A : Type} {a b : Tracked A}

/-- Nothing is recorded of the aggregate's lifecycle. -/
structure IsDetached (a : Tracked A) : Prop where
  state : a.state = .none
  messages : a.messages = []

theorem isDetached_fresh (body : A) : (fresh body).IsDetached := ⟨rfl, rfl⟩

theorem IsDetached.eq_fresh (h : a.IsDetached) : a = fresh a.body := by
  obtain ⟨body, state, messages⟩ := a
  obtain ⟨rfl, rfl⟩ := h
  rfl

theorem map_body_fresh (e : Option A) : (e.map fresh).map body = e := by
  rw [Option.map_map]
  exact Option.map_id'

theorem map_fresh_body {row : Option (Tracked A)} (h : ∀ a, row = some a → a.IsDetached) :
    (row.map body).map fresh = row := by
  cases row with
  | none => rfl
  | some a => exact congrArg some (h a rfl).eq_fresh.symm

theorem detached_eq_fresh (a : Tracked A) : a.detached = fresh a.body := rfl

theorem detached_congr (h : a.body = b.body) : a.detached = b.detached := by
  rw [detached_eq_fresh, detached_eq_fresh, h]

end Detached

section Messages

variable {A : Type}

theorem raised_raise (a : Tracked A) {m : Message} (hm : m.isDomain = true) :
    (a.raise m).raised = a.raised ++ [m] := by
  simp [raised, raise, hm]

theorem raised_enter {a : Tracked A} {target : Lifecycle} {m : Message}
    (hl : target ≠ .loaded) (hm : m.isDomain = false) : (a.enter target m).raised = a.raised := by
  simp [raised, enter, hl, hm]

theorem raised_enter_loaded (a : Tracked A) (m : Message) : (a.enter .loaded m).raised = [] := rfl

theorem raised_dropRaised (a : Tracked A) : a.dropRaised.raised = [] := by
  simp [raised, dropRaised]

/-- An aggregate after a step that was reported, given the record of the step. At the end of a write
it gives away what it has raised. -/
def reported (a : Tracked A) (target : Lifecycle) (m : Message) : Tracked A :=
  if target.isPost then (a.enter target m).dropRaised else a.enter target m

/-- What it gives away: at the end of a write the record, and then what it has raised. -/
def handedOver (a : Tracked A) (target : Lifecycle) (m : Message) : List Message :=
  if target.isPost then m :: a.raised else []

/-- The end of a write and a load leave nothing that is still to be given away. -/
theorem raised_reported (a : Tracked A) {target : Lifecycle} {m : Message}
    (hm : m.isDomain = false) : (a.reported target m).raised =
      if target.isPost || target = .loaded then [] else a.raised := by
  unfold reported
  cases hp : target.isPost with
  | true => exact raised_dropRaised _
  | false =>
    by_cases hl : target = .loaded
    · subst hl
      exact raised_enter_loaded a m
    · simp only [Bool.false_eq_true, ↓reduceIte, hl, decide_false, Bool.or_self]
      exact raised_enter hl hm

theorem body_reported (a : Tracked A) (target : Lifecycle) (m : Message) :
    (a.reported target m).body = a.body := by
  unfold reported
  split <;> rfl

theorem state_reported (a : Tracked A) (target : Lifecycle) (m : Message) :
    (a.reported target m).state = target := by
  unfold reported
  split <;> rfl

end Messages

section Move

variable {A : Type} [Aggregate A] {a : Tracked A} {target : Lifecycle}

theorem hook_of_not_isPre (h : target.isPre = false) (e : A) : hook target e = (.ok (), e) := by
  cases target <;> first | rfl | cases h

/-- The record of a step of an aggregate, which its hook may have changed. -/
def announcement (a : Tracked A) (e : A) (target : Lifecycle) (stamp : Stamp) : Message :=
  .announce stamp (Aggregate.aggregateId a.body) (Aggregate.aggregateType e) target

/-- The step itself. -/
def transition (a : Tracked A) (e : A) (target : Lifecycle) (stamp : Stamp) : Transition :=
  ⟨Aggregate.aggregateId a.body, Aggregate.aggregateType e, a.state, target,
    if target.isPost then some (a.announcement e target stamp) else none⟩

theorem move_ok {e : A} (hm : a.state.canMove target = true) (hh : hook target a.body = (.ok (), e))
    (stamp : Stamp) : move target stamp a = (.ok (a.transition e target stamp),
      { a with body := e }.enter target (a.announcement e target stamp)) := by
  have hbody : onBody (hook target) a = (.ok (), { a with body := e }) := by
    simp only [onBody, hh]
  simp only [move, Act.bind_apply, Act.get_apply, hm, ↓reduceIte, Act.mapError_ok hbody,
    Act.gets_apply, Act.modify_apply, Act.pure_apply]
  rfl

theorem move_rejected {e : DomainError} {b : A} (hm : a.state.canMove target = true)
    (hh : hook target a.body = (.error e, b)) (stamp : Stamp) : move target stamp a =
      (.error (.preHookRejected (Aggregate.aggregateId a.body) target e),
        { a with body := b }) := by
  have hbody : onBody (hook target) a = (.error e, { a with body := b }) := by
    simp only [onBody, hh]
  simp only [move, Act.bind_apply, Act.get_apply, hm, ↓reduceIte, Act.mapError_error hbody]

theorem move_violation (hm : a.state.canMove target = false) (stamp : Stamp) :
    move target stamp a =
      (.error (.lifecycleViolation (Aggregate.aggregateId a.body) a.state target), a) := by
  simp only [move, Act.bind_apply, Act.get_apply, hm, Bool.false_eq_true, ↓reduceIte,
    Act.fail_apply]

/-- Why an aggregate does not move. -/
inductive Hindrance (a : Tracked A) (target : Lifecycle) : UnitOfWorkError → A → Prop
  | violation (hm : a.state.canMove target = false) : Hindrance a target
      (.lifecycleViolation (Aggregate.aggregateId a.body) a.state target) a.body
  | rejected {e : DomainError} {b : A} (hm : a.state.canMove target = true)
      (hh : hook target a.body = (.error e, b)) : Hindrance a target
      (.preHookRejected (Aggregate.aggregateId a.body) target e) b

theorem Hindrance.move {e : UnitOfWorkError} {b : A} (h : Hindrance a target e b) (stamp : Stamp) :
    Tracked.move target stamp a = (.error e, { a with body := b }) := by
  cases h with
  | violation hm => exact move_violation hm stamp
  | rejected hm hh => exact move_rejected hm hh stamp

theorem Hindrance.elim {e : UnitOfWorkError} {b c : A} (h : Hindrance a target e b)
    (hm : a.state.canMove target = true) (hh : hook target a.body = (.ok (), c)) : False := by
  cases h with
  | violation hnot => cases hnot.symm.trans hm
  | rejected _ hnot => cases hnot.symm.trans hh

theorem move_cases (a : Tracked A) (target : Lifecycle) :
    (a.state.canMove target = true ∧ ∃ e, hook target a.body = (.ok (), e)) ∨
      ∃ e b, Hindrance a target e b := by
  cases hm : a.state.canMove target with
  | false => exact .inr ⟨_, _, .violation hm⟩
  | true =>
    cases hh : hook target a.body with
    | mk answer b =>
      cases answer with
      | ok _ => exact .inl ⟨rfl, b, rfl⟩
      | error e => exact .inr ⟨_, _, .rejected hm hh⟩

end Move

end Tracked

/-- A unit that has learnt of a step of an aggregate and been handed messages. -/
def UnitOfWork.receive {P : Type} (x : UnitOfWork P) (key : String × Uuid) (ms : List Message) :
    UnitOfWork P :=
  { x with queue := x.queue ++ ms, registered := track key x.registered }

theorem UnitOfWork.track_track (key : String × Uuid) (registered : List (String × Uuid)) :
    track key (track key registered) = track key registered := by
  unfold track
  by_cases h : key ∈ registered <;> simp [h]

namespace PersistenceEvent

variable {A P S : Type} [Aggregate A] {event : PersistenceEvent} {u : UnitRef} {a : Tracked A}
  {w : World P S}

/-- A report to the lifecycle does nothing to a world but record, take identifiers and register. -/
theorem report_keeps {I : World P S → Prop} (hrecord : ∀ w e, I w → I (w.record e))
    (hsupply : ∀ w, I w → I { w with supply := w.supply.advance })
    (hregister : ∀ r, (WorldAct.register u r).Keeps I) (event : PersistenceEvent) :
    (event.report u : Act (Tracked A × World P S) UnitOfWorkError Unit).Keeps fun s => I s.2 := by
  have hstamp : (WorldAct.stamp : WorldAct P S UnitOfWorkError Stamp).Keeps I := by
    apply Act.Keeps.bind
    · exact hsupply
    · intro id
      exact (Act.Keeps.gets _).bind fun _ => Act.Keeps.pure _
  have hall : ∀ ms, (WorldAct.registerAll u ms : WorldAct P S _ _).Keeps I := by
    intro ms
    induction ms with
    | nil => exact Act.Keeps.pure ()
    | cons m ms ih => exact (hregister (.message m)).bind fun _ => ih
  unfold report
  apply Act.Keeps.bind
  · exact Act.Keeps.onSecond (Act.Keeps.gets _)
  intro x
  split
  · apply (Act.Keeps.onSecond hstamp).bind
    intro stamp
    apply (Act.Keeps.onFirst _).bind
    intro step
    apply (Act.Keeps.onSecond (Act.Keeps.modify fun w hw => hrecord w _ hw)).bind
    intro _
    apply (Act.Keeps.onSecond (hregister _)).bind
    intro _
    split
    · apply (Act.Keeps.onFirst _).bind
      intro raised
      exact Act.Keeps.onSecond (hall raised)
    · exact Act.Keeps.pure ()
  · exact Act.Keeps.fail _

theorem report_closed (hc : (w.unit u).status.accepts = false) (event : PersistenceEvent)
    (a : Tracked A) :
    event.report u (a, w) = (.error (.closed (w.unit u).transaction), (a, w)) := by
  simp only [report, Act.bind_apply, Act.onSecond_apply, Act.gets_apply, hc, Bool.false_eq_true,
    ↓reduceIte, Act.fail_apply]

theorem report_failed {b : Tracked A} {e : UnitOfWorkError}
    (ha : (w.unit u).status.accepts = true)
    (hmove : Tracked.move event.target ⟨w.supply.current, w.clock⟩ a = (.error e, b)) :
    event.report u (a, w) = (.error e, b, { w with supply := w.supply.advance }) := by
  simp only [report, Act.bind_apply, Act.onSecond_apply, Act.gets_apply, ha, ↓reduceIte,
    WorldAct.stamp_apply, Act.onFirst_apply, hmove]

/-- The world after a report that was taken. -/
def taken (event : PersistenceEvent) (u : UnitRef) (a : Tracked A) (e : A) (w : World P S) :
    World P S :=
  ({ w with supply := w.supply.advance }.record (.aggregateMoved (w.unit u).transaction
    (Aggregate.aggregateId a.body) a.state event.target)).setUnit u
      ((w.unit u).receive (Aggregate.aggregateType e, Aggregate.aggregateId a.body)
        (a.handedOver event.target
          (a.announcement e event.target ⟨w.supply.current, w.clock⟩)))

theorem report_taken {e : A} (ha : (w.unit u).status.accepts = true)
    (hm : a.state.canMove event.target = true)
    (hh : Tracked.hook event.target a.body = (.ok (), e)) :
    event.report u (a, w) = (.ok (),
      { a with body := e }.reported event.target
        (a.announcement e event.target ⟨w.supply.current, w.clock⟩),
      event.taken u a e w) := by
  let m := a.announcement e event.target ⟨w.supply.current, w.clock⟩
  let step := a.transition e event.target ⟨w.supply.current, w.clock⟩
  let c := { w with supply := w.supply.advance }.record (.aggregateMoved (w.unit u).transaction
    step.aggregateId step.origin step.target)
  let x := (w.unit u).add (.transition step)
  have hmove : Tracked.move event.target ⟨w.supply.current, w.clock⟩ a =
      (.ok step, { a with body := e }.enter event.target m) := Tracked.move_ok hm hh _
  have hreg := WorldAct.register_open ({ w with supply := w.supply.advance }.record
    (.aggregateMoved (w.unit u).transaction step.aggregateId step.origin step.target)) u
    (r := .transition step) ha
  have hreport : event.report u (a, w) = (if event.target.isPost then do
        let raised ← Act.onFirst Tracked.takeRaised
        Act.onSecond (WorldAct.registerAll u raised)
      else pure ()) ({ a with body := e }.enter event.target m, c.setUnit u x) := by
    simp only [report, Act.bind_apply, Act.onSecond_apply, Act.gets_apply, ha, ↓reduceIte,
      WorldAct.stamp_apply, Act.onFirst_apply, hmove, WorldAct.record_apply, hreg]
    rfl
  have hx : x = (w.unit u).receive (step.aggregateType, step.aggregateId) step.message.toList := rfl
  have hmessage : step.message = if event.target.isPost then some m else none := rfl
  rw [hreport, taken, Tracked.handedOver, Tracked.reported]
  cases hp : event.target.isPost with
  | false =>
    rw [hp] at hmessage
    simp only [Bool.false_eq_true, ↓reduceIte, Act.pure_apply, hx, hmessage]
    rfl
  | true =>
    have hraised : ({ a with body := e }.enter event.target m).raised = a.raised :=
      Tracked.raised_enter (Lifecycle.ne_loaded_of_isPost hp) rfl
    have hall := WorldAct.registerAll_open a.raised c (u := u) (x := x) ha
    rw [hp] at hmessage
    simp only [↓reduceIte, Act.bind_apply, Act.onFirst_apply, Tracked.takeRaised,
      Act.onSecond_apply, hraised, hall]
    have hqueue : x.queue ++ a.raised = (w.unit u).queue ++ m :: a.raised := by
      rw [hx, hmessage]
      exact List.append_assoc ..
    rw [hqueue]
    rfl

@[simp] theorem unit_taken_self {e : A} : (event.taken u a e w).unit u =
    (w.unit u).receive (Aggregate.aggregateType e, Aggregate.aggregateId a.body)
      (a.handedOver event.target
        (a.announcement e event.target ⟨w.supply.current, w.clock⟩)) :=
  World.unit_setUnit_self ..

theorem unit_taken_of_ne {e : A} {v : UnitRef} (h : v ≠ u) :
    (event.taken u a e w).unit v = w.unit v := World.unit_setUnit_of_ne _ _ h

/-- How a report ends: the unit takes nothing more, the aggregate does not move, or the report is
taken. -/
inductive Ending (event : PersistenceEvent) (u : UnitRef) (a : Tracked A) (w : World P S) :
    Except UnitOfWorkError Unit × Tracked A × World P S → Prop
  | closed (hc : (w.unit u).status.accepts = false) :
      Ending event u a w (.error (.closed (w.unit u).transaction), a, w)
  | hindered {e : UnitOfWorkError} {b : A} (ha : (w.unit u).status.accepts = true)
      (h : a.Hindrance event.target e b) : Ending event u a w
        (.error e, { a with body := b }, { w with supply := w.supply.advance })
  | taken {e : A} (ha : (w.unit u).status.accepts = true)
      (hm : a.state.canMove event.target = true)
      (hh : Tracked.hook event.target a.body = (.ok (), e)) : Ending event u a w (.ok (),
        { a with body := e }.reported event.target
          (a.announcement e event.target ⟨w.supply.current, w.clock⟩),
        event.taken u a e w)

theorem report_ending (event : PersistenceEvent) (u : UnitRef) (a : Tracked A) (w : World P S) :
    Ending event u a w (event.report u (a, w)) := by
  cases ha : (w.unit u).status.accepts with
  | false =>
    rw [report_closed ha]
    exact .closed ha
  | true =>
    obtain ⟨hm, e, hh⟩ | ⟨e, b, h⟩ := a.move_cases event.target
    · rw [report_taken ha hm hh]
      exact .taken ha hm hh
    · rw [report_failed ha (h.move _)]
      exact .hindered ha h

end PersistenceEvent

end Transactor
