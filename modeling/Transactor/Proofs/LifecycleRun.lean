import Mathlib.Data.List.DropRight
import Transactor.Proofs.Course
import Transactor.Proofs.Reports

namespace Transactor

/-- The hooks of an aggregate. -/
inductive Hook where
  | save
  | removal

namespace Lifecycle

/-- The hook that is asked before a step. -/
def hook? : Lifecycle → Option Hook
  | .prePersist | .preUpdate => some .save
  | .preRemove => some .removal
  | _ => Option.none

theorem isPre_eq_isSome_hook? (s : Lifecycle) : s.isPre = s.hook?.isSome := by
  cases s <;> rfl

/-- The states before and after a write. -/
inductive Opens : Lifecycle → Lifecycle → Prop
  | persist : Opens .prePersist .postPersisted
  | update : Opens .preUpdate .postUpdated
  | remove : Opens .preRemove .postRemoved

variable {s t : Lifecycle}

theorem opens_of_canMove (hm : s.canMove t = true) (hp : t.isPost = true) : s.Opens t := by
  cases t <;> cases hp
  · cases s <;> first | exact .persist | cases hm
  · cases s <;> first | exact .update | cases hm
  · cases s <;> first | exact .remove | cases hm

theorem isPost_of_canMove (hs : s.isPre = true) (hm : s.canMove t = true) : t.isPost = true := by
  cases s <;> cases hs
  · cases t <;> first | rfl | cases hm
  · cases t <;> first | rfl | cases hm
  · cases t <;> first | rfl | cases hm

theorem loaded_of_canMove (hm : s.canMove t = true) (ht : t = .preUpdate ∨ t = .preRemove) :
    s = .loaded := by
  obtain rfl | rfl := ht
  · cases s <;> first | rfl | cases hm
  · cases s <;> first | rfl | cases hm

theorem Opens.exists_hook? (h : s.Opens t) : ∃ q, s.hook? = some q := by
  cases h <;> exact ⟨_, rfl⟩

theorem not_canMove_postRemoved : Lifecycle.postRemoved.canMove t = false := by cases t <;> rfl

end Lifecycle

/-- An aggregate, and which hooks it was asked, each with the answer. -/
structure Watched (A : Type) where
  inner : A
  asked : List (Hook × Except DomainError Unit)

variable {A : Type}

def Watched.ask (q : Hook) (hook : Act A DomainError Unit) : Act (Watched A) DomainError Unit :=
  fun a => ((hook a.inner).1, ⟨(hook a.inner).2, a.asked ++ [(q, (hook a.inner).1)]⟩)

instance [Aggregate A] : Aggregate (Watched A) where
  aggregateId a := Aggregate.aggregateId a.inner
  aggregateType a := Aggregate.aggregateType a.inner
  beforeSave := Watched.ask .save Aggregate.beforeSave
  beforeRemoval := Watched.ask .removal Aggregate.beforeRemoval

def Tracked.unwatched (a : Tracked (Watched A)) : Tracked A :=
  ⟨a.body.inner, a.state, a.messages⟩

section Watching

variable [Aggregate A]

theorem Watched.hook_inner (target : Lifecycle) (a : Watched A) :
    Tracked.hook target a.inner =
      ((Tracked.hook target a).1, (Tracked.hook target a).2.inner) := by
  cases target <;> rfl

theorem Watched.hook_asked (target : Lifecycle) (a : Watched A) :
    (Tracked.hook target a).2.asked =
      a.asked ++ (target.hook?.map fun q => (q, (Tracked.hook target a).1)).toList := by
  cases target <;> first | rfl | exact (List.append_nil _).symm

/-- Watching an aggregate changes nothing in how it moves. -/
theorem Tracked.move_unwatched (target : Lifecycle) (stamp : Stamp) (a : Tracked (Watched A)) :
    move target stamp a.unwatched =
      ((move target stamp a).1, (move target stamp a).2.unwatched) := by
  obtain ⟨hm, e, hh⟩ | ⟨e, b, h⟩ := a.move_cases target
  · have hinner : hook target a.unwatched.body = (.ok (), e.inner) := by
      rw [unwatched, Watched.hook_inner, hh]
    rw [move_ok hm hh, move_ok (a := a.unwatched) hm hinner]
    rfl
  · cases h with
    | violation hm =>
      rw [move_violation hm, move_violation (a := a.unwatched) hm]
      rfl
    | @rejected e b hm hh =>
      have hinner : hook target a.unwatched.body = (.error e, b.inner) := by
        rw [unwatched, Watched.hook_inner, hh]
      rw [move_rejected hm hh, move_rejected (a := a.unwatched) hm hinner]
      rfl

end Watching

/-- What may be done with an aggregate. -/
inductive Handling (A : Type) where
  | move (target : Lifecycle) (stamp : Stamp)
  | raise (m : Message)
  | takeRaised
  | clearMessages
  /-- The aggregate's own operations change its fields. -/
  | change (f : A → A)

inductive Yield where
  | moved (t : Transition)
  | taken (ms : List Message)
  | done

namespace Handling

variable [Aggregate A]

def play : Handling A → Act (Tracked A) UnitOfWorkError Yield
  | move target stamp => do return .moved (← Tracked.move target stamp)
  | raise m => do
    Act.modify fun a => a.raise m
    return .done
  | takeRaised => do return .taken (← Tracked.takeRaised)
  | clearMessages => do
    Act.modify Tracked.clearMessages
    return .done
  | change f => do
    Act.modify fun a => { a with body := f a.body }
    return .done

/-- The same with an aggregate that is watched. -/
def watched : Handling A → Handling (Watched A)
  | move target stamp => .move target stamp
  | raise m => .raise m
  | takeRaised => .takeRaised
  | clearMessages => .clearMessages
  | change f => .change fun a => { a with inner := f a.inner }

def watch (m : Handling A) : Act (Tracked (Watched A)) UnitOfWorkError Yield := m.watched.play

theorem watch_move {target : Lifecycle} {stamp : Stamp} {a b : Tracked (Watched A)} {t : Transition}
    (h : Tracked.move target stamp a = (.ok t, b)) :
    watch (.move target stamp) a = (.ok (.moved t), b) := Act.bind_ok h

theorem watch_refused {target : Lifecycle} {stamp : Stamp} {a b : Tracked (Watched A)}
    {e : UnitOfWorkError} (h : Tracked.move target stamp a = (.error e, b)) :
    watch (.move target stamp) a = (.error e, b) := Act.bind_error h

theorem play_unwatched (m : Handling A) (a : Tracked (Watched A)) :
    m.play a.unwatched = ((m.watch a).1, (m.watch a).2.unwatched) := by
  cases m with
  | move target stamp =>
    have hmove := Tracked.move_unwatched target stamp a
    rw [watch, watched, play, play, Act.bind_apply, Act.bind_apply, hmove]
    cases Tracked.move target stamp a with
    | mk r b => cases r <;> rfl
  | raise m => rfl
  | takeRaised => rfl
  | clearMessages => rfl
  | change f => rfl

end Handling

/-- One handling, with the aggregate before and after it. -/
abbrev Visit (A : Type) : Type :=
  Played (Handling A) (Tracked (Watched A)) UnitOfWorkError Yield

namespace Visit

/-- The step that was made. -/
def moved? (x : Visit A) : Option Transition :=
  match x.answer with
  | .ok (.moved t) => some t
  | _ => none

/-- The message that comes to the aggregate: the record of a step other than a load, or one that is
raised. -/
def noted? (x : Visit A) : Option Message :=
  match x.op, x.moved? with
  | .raise m, _ => some m
  | .move _ stamp, some t =>
    if t.target = .loaded then none
    else some (.announce stamp t.aggregateId t.aggregateType t.target)
  | _, _ => none

def takes (x : Visit A) : Bool :=
  match x.op with
  | .takeRaised => true
  | _ => false

/-- Loads the aggregate, or clears its messages. -/
def wipes (x : Visit A) : Bool :=
  match x.op with
  | .clearMessages => true
  | _ => x.moved?.any fun t => t.target = .loaded

/-- The last step that was made. -/
def last? (past : List (Visit A)) : Option (Visit A) :=
  (past.filter fun x => x.moved?.isSome).getLast?

/-- The messages that have come in a list of visits, less the domain messages that were taken later.
-/
def notes : List (Visit A) → List Message
  | [] => []
  | x :: xs => (x.noted?.toList.filter fun m => !(m.isDomain && xs.any takes)) ++ notes xs

/-- The messages that an aggregate is to hold after a run. -/
def kept (past : List (Visit A)) : List Message := notes (past.rtakeWhile fun x => !x.wipes)

section Past

variable {past : List (Visit A)} {x : Visit A}

theorem last?_of_moved {t : Transition} (h : x.moved? = some t) : last? (past ++ [x]) = some x := by
  simp [last?, List.filter_append, h]

theorem last?_of_stays (h : x.moved? = none) : last? (past ++ [x]) = last? past := by
  simp [last?, List.filter_append, h]

theorem notes_concat_of_takes (xs : List (Visit A)) (hx : x.takes = true) :
    notes (xs ++ [x]) = (notes xs).filter (fun m => !m.isDomain) ++ x.noted?.toList := by
  induction xs with
  | nil => simp [notes]
  | cons y xs ih =>
    have hboth (m : Message) : (!m.isDomain && (!m.isDomain || !xs.any takes)) = !m.isDomain := by
      cases m.isDomain <;> rfl
    simp [notes, hx, ih, List.filter_filter, hboth]

theorem notes_concat_of_leaves (xs : List (Visit A)) (hx : x.takes = false) :
    notes (xs ++ [x]) = notes xs ++ x.noted?.toList := by
  induction xs with
  | nil => simp [notes]
  | cons y xs ih => simp [notes, hx, ih]

theorem kept_of_wipes (hx : x.wipes = true) : kept (past ++ [x]) = [] := by
  have hnot : ¬(!x.wipes) = true := by simp [hx]
  rw [kept, List.rtakeWhile_concat, if_neg hnot]
  rfl

theorem kept_of_takes (hw : x.wipes = false) (hx : x.takes = true) :
    kept (past ++ [x]) = (kept past).filter (fun m => !m.isDomain) ++ x.noted?.toList := by
  have hyes : (!x.wipes) = true := by simp [hw]
  rw [kept, List.rtakeWhile_concat, if_pos hyes, notes_concat_of_takes _ hx, kept]

theorem kept_of_leaves (hw : x.wipes = false) (hx : x.takes = false) :
    kept (past ++ [x]) = kept past ++ x.noted?.toList := by
  have hyes : (!x.wipes) = true := by simp [hw]
  rw [kept, List.rtakeWhile_concat, if_pos hyes, notes_concat_of_leaves _ hx, kept]

end Past

/-- What holds of a step that is made, given all that there was before it. -/
structure Passed (past : List (Visit A)) (x : Visit A) (t : Transition) : Prop where
  departs : t.origin = x.found.state
  arrives : x.left.state = t.target
  recorded : t.target ≠ .loaded → ∃ m, x.left.messages = x.found.messages ++ [m] ∧
    t.message = if t.target.isPost then some m else none
  silent : t.target = .loaded → t.message = none
  /-- From before the opening step to here one hook was asked: that of the write, and it agreed. -/
  written : t.target.isPost = true → ∃ y s q, last? past = some y ∧ y.moved? = some s ∧
    s.target.Opens t.target ∧ s.target.hook? = some q ∧
    x.left.body.asked = y.found.body.asked ++ [(q, .ok ())]
  loaded : t.target = .preUpdate ∨ t.target = .preRemove →
    ∃ y s, last? past = some y ∧ y.moved? = some s ∧ s.target = .loaded
  alive : ∀ y ∈ past, ∀ s, y.moved? = some s → s.target ≠ .postRemoved

/-- What holds of a handling, given all that there was before it. -/
structure Lawful (past : List (Visit A)) (x : Visit A) : Prop where
  passed : ∀ t, x.moved? = some t → Passed past x t
  taken : ∀ ms, x.answer = .ok (.taken ms) → ms = (kept past).filter Message.isDomain
  found : x.found.messages = kept past
  left : x.left.messages = kept (past ++ [x])

/-- An aggregate stands where the last step has led. Since the beginning of a write no hook was
asked but that of the write. -/
inductive Stands (past : List (Visit A)) (a : Tracked (Watched A)) : Prop
  | start (hlast : last? past = none) (hstate : a.state = .none)
  | moved {y : Visit A} {t : Transition} (hlast : last? past = some y) (ht : y.moved? = some t)
      (hstate : a.state = t.target)
      (hasked : ∀ q, t.target.hook? = some q →
        a.body.asked = y.found.body.asked ++ [(q, .ok ())])

/-- What the past says of an aggregate. -/
structure Accords (past : List (Visit A)) (a : Tracked (Watched A)) : Prop where
  messages : a.messages = kept past
  stands : Stands past a
  removed : ∀ y ∈ past, ∀ t, y.moved? = some t → t.target = .postRemoved →
    a.state = .postRemoved

namespace Accords

variable {past : List (Visit A)} {x : Visit A}

theorem start (e : A) : Accords [] (.fresh ⟨e, []⟩) where
  messages := rfl
  stands := .start rfl rfl
  removed _ hy := absurd hy List.not_mem_nil

/-- A handling that makes no step leaves the aggregate where it stands. -/
theorem rests (h : Accords past x.found) (hx : x.moved? = none)
    (htaken : ∀ ms, x.answer = .ok (.taken ms) → ms = x.found.raised)
    (hstate : x.left.state = x.found.state)
    (hasked : x.found.state.isPre = true → x.left.body.asked = x.found.body.asked)
    (hmessages : x.left.messages = kept (past ++ [x])) :
    Lawful past x ∧ Accords (past ++ [x]) x.left := by
  refine ⟨⟨?_, ?_, h.messages, hmessages⟩, hmessages, ?_, ?_⟩
  · intro t ht
    cases hx.symm.trans ht
  · intro ms hms
    rw [htaken ms hms, ← h.messages]
    rfl
  · cases h.stands with
    | start hlast hs => exact .start ((last?_of_stays hx).trans hlast) (hstate.trans hs)
    | @moved y t hlast ht hs hsince =>
      refine .moved ((last?_of_stays hx).trans hlast) ht (hstate.trans hs) ?_
      intro q hq
      have hpre : x.found.state.isPre = true := by
        rw [hs, Lifecycle.isPre_eq_isSome_hook?, hq]
        rfl
      rw [hasked hpre]
      exact hsince q hq
  · intro y hy t ht hr
    obtain hy | hy := List.mem_append.mp hy
    · exact hstate.trans (h.removed y hy t ht hr)
    · obtain rfl := List.mem_singleton.mp hy
      cases hx.symm.trans ht

end Accords

end Visit

section Run

open Visit

variable [Aggregate A] {past : List (Visit A)} {a : Tracked (Watched A)} {target : Lifecycle}

/-- A step that is made. -/
theorem Visit.Accords.step (h : Accords past a) {e : Watched A} (hm : a.state.canMove target = true)
    (hh : Tracked.hook target a.body = (.ok (), e)) (stamp : Stamp) :
    let t := a.transition e target stamp
    let b := { a with body := e }.enter target (a.announcement e target stamp)
    let x : Visit A := ⟨.move target stamp, a, .ok (.moved t), b⟩
    Passed past x t ∧ Accords (past ++ [x]) b := by
  intro t b x
  have halive : ∀ y ∈ past, ∀ s, y.moved? = some s → s.target ≠ .postRemoved := by
    intro y hy s hs hr
    have hstate := h.removed y hy s hs hr
    rw [hstate, Lifecycle.not_canMove_postRemoved] at hm
    cases hm
  have hasked := Watched.hook_asked target a.body
  rw [hh] at hasked
  refine ⟨⟨rfl, rfl, ?_, ?_, ?_, ?_, halive⟩, ?_, ?_, ?_⟩
  · intro hl
    exact ⟨_, if_neg hl, rfl⟩
  · intro hl
    obtain rfl : target = .loaded := hl
    rfl
  · intro hp
    have hopens := Lifecycle.opens_of_canMove hm hp
    cases h.stands with
    | start hlast hs =>
      rw [hs] at hopens
      cases hopens
    | @moved y s hlast hs hstate hsince =>
      rw [hstate] at hopens
      obtain ⟨q, hq⟩ := hopens.exists_hook?
      have hnone := Tracked.hook_of_not_isPre (Lifecycle.isPre_eq_false_of_isPost hp) a.body
      obtain rfl : e = a.body := congrArg Prod.snd (hh.symm.trans hnone)
      exact ⟨y, s, q, hlast, hs, hopens, hq, hsince q hq⟩
  · intro ht
    have hloaded := Lifecycle.loaded_of_canMove hm ht
    cases h.stands with
    | start hlast hs => cases hs.symm.trans hloaded
    | moved hlast hs hstate hsince => exact ⟨_, _, hlast, hs, hstate.symm.trans hloaded⟩
  · by_cases hl : target = .loaded
    · have hwipes : x.wipes = true := decide_eq_true hl
      rw [kept_of_wipes hwipes]
      exact if_pos hl
    · have hwipes : x.wipes = false := decide_eq_false hl
      have hnoted : x.noted? = some (a.announcement e target stamp) := if_neg hl
      rw [kept_of_leaves hwipes rfl, hnoted, ← h.messages]
      exact if_neg hl
  · refine .moved (last?_of_moved rfl) rfl rfl ?_
    intro q hq
    obtain hq : target.hook? = some q := hq
    rw [hq] at hasked
    exact hasked
  · intro y hy s hs hr
    obtain hy | hy := List.mem_append.mp hy
    · exact absurd hr (halive y hy s hs)
    · obtain rfl := List.mem_singleton.mp hy
      obtain rfl : t = s := Option.some.inj hs
      exact hr

/-- An attempt that is refused. In the middle of a write no hook is asked. -/
theorem Visit.Accords.refused (h : Accords past a) {e : UnitOfWorkError} {b : Watched A}
    (hwhy : a.Hindrance target e b) (stamp : Stamp) :
    let x : Visit A := ⟨.move target stamp, a, .error e, { a with body := b }⟩
    Lawful past x ∧ Accords (past ++ [x]) x.left := by
  intro x
  have hasked : a.state.isPre = true → b.asked = a.body.asked := by
    intro hpre
    cases hwhy with
    | violation hm => rfl
    | rejected hm hh =>
      have hnone := Lifecycle.isPre_eq_false_of_isPost (Lifecycle.isPost_of_canMove hpre hm)
      rw [Tracked.hook_of_not_isPre hnone] at hh
      cases hh
  have hmessages : a.messages = kept (past ++ [x]) := by
    rw [kept_of_leaves rfl rfl, ← h.messages]
    exact (List.append_nil _).symm
  exact Accords.rests (x := x) h rfl (fun ms hms => by cases hms) rfl hasked hmessages

theorem Handling.watch_lawful (past : List (Visit A)) (m : Handling A) (a : Tracked (Watched A))
    (h : Accords past a) : Lawful past (.of watch m a) ∧
      Accords (past ++ [.of watch m a]) (Played.of watch m a).left := by
  cases m with
  | move target stamp =>
    obtain ⟨hm, e, hh⟩ | ⟨e, b, hwhy⟩ := a.move_cases target
    · obtain ⟨hpassed, hb⟩ := h.step hm hh stamp
      rw [Played.of_eq (watch_move (Tracked.move_ok hm hh stamp))]
      refine ⟨⟨?_, ?_, h.messages, hb.messages⟩, hb⟩
      · intro t ht
        obtain rfl := Option.some.inj ht
        exact hpassed
      · intro ms hms
        cases hms
    · rw [Played.of_eq (watch_refused (hwhy.move stamp))]
      exact h.refused hwhy stamp
  | raise m =>
    let x : Visit A := ⟨.raise m, a, .ok .done, a.raise m⟩
    have hmessages : (a.raise m).messages = kept (past ++ [x]) := by
      rw [kept_of_leaves rfl rfl, ← h.messages]
      rfl
    exact Accords.rests (x := x) h rfl (fun ms hms => by cases hms) rfl (fun _ => rfl) hmessages
  | takeRaised =>
    let x : Visit A := ⟨.takeRaised, a, .ok (.taken a.raised), a.dropRaised⟩
    have hmessages : a.dropRaised.messages = kept (past ++ [x]) := by
      rw [kept_of_takes rfl rfl, ← h.messages]
      exact (List.append_nil _).symm
    have htaken (ms : List Message) (hms : x.answer = .ok (.taken ms)) : ms = a.raised :=
      (Yield.taken.inj (Except.ok.inj hms)).symm
    exact Accords.rests (x := x) h rfl htaken rfl (fun _ => rfl) hmessages
  | clearMessages =>
    let x : Visit A := ⟨.clearMessages, a, .ok .done, a.clearMessages⟩
    have hmessages : a.clearMessages.messages = kept (past ++ [x]) := (kept_of_wipes rfl).symm
    exact Accords.rests (x := x) h rfl (fun ms hms => by cases hms) rfl (fun _ => rfl) hmessages
  | change f =>
    let b : Tracked (Watched A) := { a with body := { a.body with inner := f a.body.inner } }
    let x : Visit A := ⟨.change f, a, .ok .done, b⟩
    have hmessages : a.messages = kept (past ++ [x]) := by
      rw [kept_of_leaves rfl rfl, ← h.messages]
      exact (List.append_nil _).symm
    exact Accords.rests (x := x) h rfl (fun ms hms => by cases hms) rfl (fun _ => rfl) hmessages

/-- A run of an aggregate by the lifecycle: every handling is lawful, given those before it, and
that the aggregate was watched has made no difference. -/
structure LawfulRun (ms : List (Handling A)) (e : A) (es : List (Visit A)) : Prop where
  lawful : ∀ past x later, es = past ++ x :: later → Lawful past x
  unwatched : Played.course Handling.play ms (.fresh e) =
    es.map fun x => ⟨x.op, x.found.unwatched, x.answer, x.left.unwatched⟩

/-- Every run of every aggregate from its making on goes by the lifecycle, whatever its hooks do. -/
theorem lifecycle_run_lawful (ms : List (Handling A)) (e : A) :
    LawfulRun ms e (Played.course Handling.watch ms (.fresh ⟨e, []⟩)) where
  lawful _ _ _ hx := Played.course_lawful Handling.watch_lawful ms (Accords.start e) hx
  unwatched := Played.course_map Handling.play_unwatched ms (.fresh ⟨e, []⟩)

end Run

end Transactor
