import Transactor.Delivery
import Transactor.Proofs.Shop.RollbackOnly
import Transactor.Proofs.Shop.Writes

namespace Transactor

namespace Act

variable {σ τ ε ε' α β : Type} {f : σ → σ}

/-- The computation does not notice a change of the state: it answers the same, and what it does is
done beside the change. -/
def Blind (f : σ → σ) (x : Act σ ε α) : Prop := ∀ s, x (f s) = ((x s).1, f (x s).2)

theorem Blind.pure (a : α) : Blind f (Pure.pure a : Act σ ε α) := fun _ => rfl

theorem Blind.fail (e : ε) : Blind f (Act.fail e : Act σ ε α) := fun _ => rfl

theorem Blind.bind {x : Act σ ε α} {k : α → Act σ ε β} (hx : Blind f x)
    (hk : ∀ a, Blind f (k a)) : Blind f (x >>= k) := by
  intro s
  rw [bind_apply, bind_apply, hx s]
  cases x s with
  | mk r t =>
    cases r with
    | ok a => exact hk a t
    | error e => rfl

theorem Blind.get_bind {k : σ → Act σ ε β} (heq : ∀ s, k (f s) = k s)
    (hk : ∀ s, Blind f (k s)) : Blind f (Act.get >>= k) := by
  intro s
  change k (f s) (f s) = _
  rw [heq]
  exact hk s s

theorem Blind.gets {g : σ → α} (hg : ∀ s, g (f s) = g s) : Blind f (Act.gets g : Act σ ε α) := by
  intro s
  rw [gets_apply, gets_apply, hg]

theorem Blind.modify {g : σ → σ} (hg : ∀ s, g (f s) = f (g s)) :
    Blind f (Act.modify g : Act σ ε Unit) := by
  intro s
  rw [modify_apply, modify_apply, hg]

theorem Blind.mapError {x : Act σ ε α} (g : ε → ε') (hx : Blind f x) : Blind f (x.mapError g) := by
  intro s
  rw [mapError_apply, mapError_apply, hx s]

theorem Blind.onFirst (x : Act τ ε α) :
    Blind (fun s : τ × σ => (s.1, f s.2)) (Act.onFirst x) := fun _ => rfl

theorem Blind.onSecond {x : Act σ ε α} (hx : Blind f x) :
    Blind (fun s : τ × σ => (s.1, f s.2)) (Act.onSecond x) := by
  intro s
  rw [onSecond_apply, onSecond_apply, hx s.2]

theorem Blind.carrying {x : Act (τ × σ) ε Unit} (a : τ)
    (hx : Blind (fun s : τ × σ => (s.1, f s.2)) x) : Blind f (Act.carrying a x) := by
  intro s
  rw [carrying_apply, carrying_apply, hx (a, s)]

end Act

variable {P S ε α : Type}

/-- A world at another time, and under other deadlines. -/
def World.timed (now : Nat) (deadlines : List Nat) (w : World P S) : World P S :=
  { w with elapsed := now, deadlines := deadlines }

/-- The computation does not depend on the time, and does not change it. -/
abbrev WorldAct.Timeless (x : WorldAct P S ε α) : Prop :=
  ∀ now deadlines, x.Blind (World.timed now deadlines)

/-- The same of a computation that has something at hand. -/
abbrev WorldAct.TimelessWith {A : Type} (x : Act (A × World P S) ε α) : Prop :=
  ∀ now deadlines, x.Blind fun s => (s.1, World.timed now deadlines s.2)

namespace WorldAct

theorem record_timeless (e : TraceEvent) : (record e : WorldAct P S ε Unit).Timeless :=
  fun _ _ => .modify fun _ => rfl

theorem updateUnit_timeless (u : UnitRef) (f : UnitOfWork P → Except ε (UnitOfWork P)) :
    (updateUnit u f : WorldAct P S ε Unit).Timeless := by
  intro now deadlines w
  have hunit : (w.timed now deadlines).unit u = w.unit u := rfl
  simp only [updateUnit, hunit]
  cases f (w.unit u) with
  | ok x => rfl
  | error e => rfl

theorem registerAll_timeless (u : UnitRef) (ms : List Message) :
    (registerAll u ms : WorldAct P S UnitOfWorkError Unit).Timeless := by
  intro now deadlines
  induction ms with
  | nil => exact .pure ()
  | cons m ms ih => exact (updateUnit_timeless u _ now deadlines).bind fun _ => ih

end WorldAct

theorem PersistenceEvent.report_timeless {A : Type} [Aggregate A] (event : PersistenceEvent)
    (u : UnitRef) :
    WorldAct.TimelessWith (event.report u : Act (Tracked A × World P S) UnitOfWorkError Unit) := by
  intro now deadlines
  have hstamp : (WorldAct.stamp : WorldAct P S UnitOfWorkError Stamp).Timeless :=
    fun _ _ _ => rfl
  apply Act.Blind.bind
  · exact .onSecond (.gets fun _ => rfl)
  intro x
  split
  · apply Act.Blind.bind
    · exact .onSecond (hstamp now deadlines)
    intro stamp
    apply Act.Blind.bind
    · exact .onFirst _
    intro step
    apply Act.Blind.bind
    · exact .onSecond (WorldAct.record_timeless _ now deadlines)
    intro _
    apply Act.Blind.bind
    · exact .onSecond (WorldAct.updateUnit_timeless u _ now deadlines)
    intro _
    split
    · apply Act.Blind.bind
      · exact .onFirst _
      · exact fun raised => .onSecond (WorldAct.registerAll_timeless u raised now deadlines)
    · exact .pure ()
  · exact .fail _

namespace Shop

variable {Q H : Type}

namespace TableRef

variable (r : TableRef) (u : UnitRef)

theorem report_timeless (event : PersistenceEvent) : WorldAct.TimelessWith
    (r.report event u : Act (Tracked r.Entity × ShopWorld Q H) OrderingError Unit) :=
  fun now deadlines => .mapError _ (event.report_timeless u now deadlines)

theorem stage_timeless (id : Uuid) (row : Option r.Row) :
    WorldAct.Timeless (r.stage u id row : ShopAct Q H OrderingError Unit) := by
  intro now deadlines
  apply Act.Blind.get_bind
  · exact fun _ => rfl
  intro w
  apply Act.Blind.get_bind
  · exact fun _ => rfl
  intro v
  have hput (t : TransactionId) : (Act.modify fun w => r.setTable w ((r.table w).stage t id row) :
      ShopAct Q H OrderingError Unit).Blind (World.timed now deadlines) := .modify fun _ => rfl
  dsimp only
  split
  · exact hput _
  · apply Act.Blind.bind
    · exact .mapError _ (WorldAct.updateUnit_timeless u _ now deadlines)
    · exact fun _ => hput _

theorem writing_timeless (row : r.Row → Option r.Row) (id : Uuid) (pre post : PersistenceEvent) :
    WorldAct.TimelessWith (r.writing row u id pre post :
      Act (Tracked r.Entity × ShopWorld Q H) OrderingError Unit) := by
  intro now deadlines
  apply Act.Blind.bind
  · exact r.report_timeless u pre now deadlines
  intro _
  apply Act.Blind.bind
  · exact .gets fun _ => rfl
  intro e
  apply Act.Blind.bind
  · exact .onSecond (r.stage_timeless u id (row e) now deadlines)
  · exact fun _ => r.report_timeless u post now deadlines

theorem load_timeless (id : Uuid) :
    WorldAct.Timeless (r.load u id : ShopAct Q H OrderingError (Tracked r.Entity)) := by
  intro now deadlines
  apply Act.Blind.bind
  · exact .gets fun _ => rfl
  intro row
  cases row with
  | none => exact .fail _
  | some row => exact .carrying _ (r.report_timeless u .postLoad now deadlines)

end TableRef

theorem RowWrite.run_timeless (wr : RowWrite) (r : TableRef) (u : UnitRef) :
    WorldAct.TimelessWith
      (wr.run r u : Act (Tracked r.Entity × ShopWorld Q H) OrderingError Unit) := by
  rintro now deadlines ⟨a, w⟩
  have hvisible (id : Uuid) : (r.table (w.timed now deadlines)).visible
      ((w.timed now deadlines).unit u).transaction id =
        (r.table w).visible (w.unit u).transaction id := rfl
  simp only [wr.run_apply, hvisible]
  split
  · rfl
  · exact r.writing_timeless u _ _ _ _ now deadlines (a, w)

/-- What a delivery may do at once on behalf of a unit. -/
inductive Effect (Q : Type) where
  | register (r : Registration)
  | enlist (q : Q)
  | write (wr : RowWrite) (r : TableRef) (a : Tracked r.Entity)
  | load (r : TableRef) (id : Uuid)

namespace Effect

/-- What the caller learns from an effect: whether it has succeeded, and the aggregate. -/
def Answer : Effect Q → Type
  | register _ | enlist _ => Except UnitOfWorkError Unit
  | write _ r _ => Except OrderingError Unit × Tracked r.Entity
  | load r _ => Except OrderingError (Tracked r.Entity)

def perform (u : UnitRef) : (x : Effect Q) → ShopWorld Q H → x.Answer × ShopWorld Q H
  | register r => WorldAct.register u r
  | enlist q => WorldAct.enlist u (.other q)
  | write wr r a => fun w => let s := wr.run r u (a, w); ((s.1, s.2.1), s.2.2)
  | load r id => r.load u id

/-- Performs an effect for a caller who goes on with the answer, whatever it is. -/
def ask (x : Effect Q) (u : UnitRef) : ShopAct Q H DeliveryError x.Answer := fun w =>
  (.ok (x.perform u w).1, (x.perform u w).2)

variable (x : Effect Q) (u : UnitRef) (w : ShopWorld Q H)

theorem perform_timed (now : Nat) (deadlines : List Nat) :
    x.perform u (w.timed now deadlines) =
      ((x.perform u w).1, (x.perform u w).2.timed now deadlines) := by
  cases x with
  | register r => exact WorldAct.updateUnit_timeless u (fun x => x.register r) now deadlines w
  | enlist q => exact WorldAct.updateUnit_timeless u (fun x => x.enlist (.other q)) now deadlines w
  | write wr r a =>
    have hrun := wr.run_timeless r u now deadlines (a, w)
    simp only [perform]
    rw [hrun]
  | load r id => exact r.load_timeless u id now deadlines w

theorem ask_timed (now : Nat) (deadlines : List Nat) :
    (Task.atOnce (x.ask u) : ShopTask Q H DeliveryError x.Answer) (w.timed now deadlines) =
      (.done (x.perform u w).1, (x.perform u w).2.timed now deadlines) := by
  rw [Task.atOnce_apply, ask, x.perform_timed]
  rfl

theorem step : UnitStep u w (x.perform u w).2 := by
  cases x with
  | register r => exact .register r w
  | enlist q => exact .enlist q w
  | write wr r a =>
    cases wr with
    | insert => exact .insert r a w
    | update => exact .update r a w
    | remove => exact .remove r a w
  | load r id => exact .load r id w

theorem host_perform : (x.perform u w).2.host.host = w.host.host := by
  have hI := upheld_host u w.host.host (Q := Q)
  cases x with
  | register r => exact hI.register r w rfl
  | enlist q =>
    by_cases hc : (w.unit u).status = .completed
    · rw [perform, WorldAct.enlist_closed w u hc]
    · rw [perform, WorldAct.enlist_open w u hc]
      rfl
  | write wr r a =>
    cases wr with
    | insert => exact hI.insert r (a, w) rfl
    | update => exact hI.update r (a, w) rfl
    | remove => exact hI.remove r (a, w) rfl
  | load r id => exact hI.load r id w rfl

end Effect

/-- What a delivery does for one call: effects and waits, in an order that may hang on the answers,
and a result. -/
inductive Plan (Q : Type) where
  | ends (result : Except DeliveryError Unit)
  | waits (duration : Nat) (rest : Plan Q)
  | does (x : Effect Q) (next : x.Answer → Plan Q)

namespace Plan

/-- A plan at work. -/
def run (timer : Timer) (u : UnitRef) : Plan Q → ShopTask Q H DeliveryError Unit
  | ends result => Task.ofExcept result
  | waits duration rest => do
    WorldTask.wait timer duration
    run timer u rest
  | does x next => do
    let a ← Task.atOnce (x.ask u)
    run timer u (next a)

/-- How long a plan waits in all. -/
def duration (u : UnitRef) : Plan Q → ShopWorld Q H → Nat
  | ends _, _ => 0
  | waits duration rest, w => duration + rest.duration u w
  | does x next, w => (next (x.perform u w).1).duration u (x.perform u w).2

def result (u : UnitRef) : Plan Q → ShopWorld Q H → Except DeliveryError Unit
  | ends result, _ => result
  | waits _ rest, w => rest.result u w
  | does x next, w => (next (x.perform u w).1).result u (x.perform u w).2

/-- The world after all effects of a plan. -/
def effects (u : UnitRef) : Plan Q → ShopWorld Q H → ShopWorld Q H
  | ends _, w => w
  | waits _ rest, w => rest.effects u w
  | does x next, w => (next (x.perform u w).1).effects u (x.perform u w).2

/-- The world after the effects before the wait during which the waits exceed a budget. -/
def effectsWithin (u : UnitRef) (budget : Nat) : Plan Q → ShopWorld Q H → ShopWorld Q H
  | ends _, w => w
  | waits duration rest, w =>
    if duration ≤ budget then rest.effectsWithin u (budget - duration) w else w
  | does x next, w => (next (x.perform u w).1).effectsWithin u budget (x.perform u w).2

/-- The dispatcher that makes a plan for each call. -/
def dispatcher (timer : Timer) (plan : List Message → UnitRef → Plan Q) :
    Dispatcher (Party Q) (Premises H) :=
  fun batch u => (plan batch u).run timer u

/-- All waits of a plan are multiples of a grain. -/
def Grained (grain : Nat) : Plan Q → Prop
  | ends _ => True
  | waits duration rest => grain ∣ duration ∧ rest.Grained grain
  | does _ next => ∀ a, (next a).Grained grain

theorem grained_one (p : Plan Q) : p.Grained 1 := by
  induction p with
  | ends result => trivial
  | waits duration rest ih => exact ⟨Nat.one_dvd duration, ih⟩
  | does x next ih => exact ih

theorem dvd_duration {grain : Nat} {p : Plan Q} (hp : p.Grained grain) (u : UnitRef)
    (w : ShopWorld Q H) : grain ∣ p.duration u w := by
  induction p generalizing w with
  | ends result => exact Nat.dvd_zero grain
  | waits duration rest ih => exact Nat.dvd_add hp.1 (ih hp.2 w)
  | does x next ih => exact ih _ (hp _) _

end Plan

end Shop

theorem firstDeadline_mem {deadlines : List Nat} {d level : Nat}
    (h : firstDeadline deadlines = some (d, level)) : d ∈ deadlines := by
  induction deadlines generalizing level with
  | nil => cases h
  | cons e outer ih =>
    simp only [firstDeadline] at h
    grind

theorem firstDeadline_le {deadlines : List Nat} {d level : Nat}
    (h : firstDeadline deadlines = some (d, level)) : ∀ e ∈ deadlines, d ≤ e := by
  induction deadlines generalizing d level with
  | nil => cases h
  | cons e outer ih =>
    simp only [firstDeadline] at h
    cases ho : firstDeadline outer with
    | none =>
      cases outer with
      | nil => grind [firstDeadline]
      | cons _ _ => grind [firstDeadline]
    | some p => grind

namespace Timer

/-- What is due at a multiple of a grain is woken at that very time. With a grain of one, a timer is
exact. -/
def Exact (timer : Timer) (grain : Nat) : Prop := ∀ due, grain ∣ due → timer.wakes due = due

theorem exact_milliseconds : milliseconds.Exact 1000000 := by
  intro due hdue
  simp only [milliseconds]
  omega

end Timer

namespace WorldTask

variable {w : World P S} {timer : Timer} {now duration due : Nat} {deadlines : List Nat}

theorem wait_inTime (hdue : timer.wakes (now + duration) = due) (h : ∀ d ∈ deadlines, due ≤ d) :
    (wait timer duration : WorldTask P S ε Unit) (w.timed now deadlines) =
      (.done (), w.timed due deadlines) := by
  subst hdue
  cases hf : firstDeadline deadlines with
  | none => simp [wait, World.timed, hf]
  | some p =>
    have hle := h p.1 (firstDeadline_mem hf)
    simp [wait, World.timed, hf, Nat.not_lt.mpr hle]

theorem wait_late {d level : Nat} (hdue : timer.wakes (now + duration) = due)
    (hf : firstDeadline deadlines = some (d, level)) (h : d < due) :
    (wait timer duration : WorldTask P S ε Unit) (w.timed now deadlines) =
      (.interrupted (.deadline level), w.timed d deadlines) := by
  subst hdue
  simp [wait, World.timed, hf, h]

end WorldTask

namespace Shop.Plan

variable {Q H : Type} {timer : Timer} {grain : Nat} (htimer : timer.Exact grain) {p : Plan Q}
  (u : UnitRef)

include htimer

theorem run_inTime (hp : p.Grained grain) {w : ShopWorld Q H} {now : Nat} {deadlines : List Nat}
    (hnow : grain ∣ now) (h : ∀ d ∈ deadlines, now + p.duration u w ≤ d) :
    p.run timer u (w.timed now deadlines) = (.ofExcept (p.result u w),
      (p.effects u w).timed (now + p.duration u w) deadlines) := by
  induction p generalizing w now with
  | ends result => rfl
  | waits duration rest ih =>
    have hdue : grain ∣ now + duration := Nat.dvd_add hnow hp.1
    have hwait : ∀ d ∈ deadlines, now + duration ≤ d := by
      intro d hd
      have := h d hd
      simp only [Plan.duration] at this
      omega
    rw [run, Task.bind_done (WorldTask.wait_inTime (htimer _ hdue) hwait)]
    simp only [Plan.duration, ← Nat.add_assoc] at h
    rw [ih hp.2 hdue h]
    simp only [result, effects, Plan.duration, Nat.add_assoc]
  | does x next ih =>
    rw [run, Task.bind_done (x.ask_timed u w now deadlines)]
    exact ih _ (hp _) hnow h

/-- A plan that would end later is given up where it waits beyond the first deadline. -/
theorem run_late (hp : p.Grained grain) {w : ShopWorld Q H} {now d level : Nat}
    {deadlines : List Nat} (hnow : grain ∣ now)
    (hf : firstDeadline deadlines = some (d, level)) (hle : now ≤ d)
    (h : d < now + p.duration u w) :
    p.run timer u (w.timed now deadlines) =
      (.interrupted (.deadline level), (p.effectsWithin u (d - now) w).timed d deadlines) := by
  induction p generalizing w now with
  | ends result => exact absurd h (Nat.not_lt.mpr hle)
  | waits duration rest ih =>
    simp only [Plan.duration] at h
    have hdue : grain ∣ now + duration := Nat.dvd_add hnow hp.1
    by_cases hwait : now + duration ≤ d
    · have hall : ∀ e ∈ deadlines, now + duration ≤ e :=
        fun e he => Nat.le_trans hwait (firstDeadline_le hf e he)
      have hbudget : duration ≤ d - now := by omega
      rw [run, Task.bind_done (WorldTask.wait_inTime (htimer _ hdue) hall),
        ih hp.2 hdue hwait (by omega), effectsWithin, if_pos hbudget, Nat.sub_sub]
    · have hbudget : ¬ duration ≤ d - now := by omega
      rw [run, Task.bind_interrupted
        (WorldTask.wait_late (htimer _ hdue) hf (Nat.not_le.mp hwait)), effectsWithin,
        if_neg hbudget]
  | does x next ih =>
    rw [run, Task.bind_done (x.ask_timed u w now deadlines)]
    exact ih _ (hp _) hnow hle h

omit htimer

theorem run_keeps {I : ShopWorld Q H → Prop} (hstep : ∀ w x, I w → I (Effect.perform u x w).2)
    (htime : ∀ w now, I w → I { w with elapsed := now }) :
    (p.run timer u : ShopTask Q H DeliveryError Unit).Keeps I := by
  induction p with
  | ends result => exact Task.Keeps.ofExcept result
  | waits duration rest ih =>
    apply Task.Keeps.bind
    · intro w hw
      unfold WorldTask.wait
      cases firstDeadline w.deadlines with
      | none => exact htime w _ hw
      | some d =>
        dsimp only
        split
        · exact htime w _ hw
        · exact htime w _ hw
    · exact fun _ => ih
  | does x next ih =>
    apply Task.Keeps.bind
    · exact fun w hw => hstep w x hw
    · exact ih

end Shop.Plan

end Transactor
