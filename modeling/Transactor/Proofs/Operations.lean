import Transactor.Proofs.Host

namespace Transactor

open Relation

variable {P S ε : Type}

/-- What anybody who holds a unit of work may do with it. -/
inductive Operation (P : Type) where
  | register (r : Registration)
  | enlist (p : P)
  | drain
  | discard
  | complete (outcome : Outcome)

/-- A call of the dispatcher that has returned, with the unit as it was found and as it was left. -/
structure Delivery (P : Type) where
  batch : List Message
  found : UnitOfWork P
  result : Except DeliveryError Unit
  left : UnitOfWork P

/-- What has ended: an operation, with the unit as it was left, or a call of the dispatcher. Nested
operations are those of the dispatcher. -/
inductive Occurrence (P : Type) where
  | operation (o : Operation P) (nested : Bool) (result : Except UnitOfWorkError Unit)
      (left : UnitOfWork P)
  | delivery (d : Delivery P)

/-- Ends the life of a unit. -/
def Operation.closes : Operation P → Bool
  | .discard | .complete _ => true
  | .register _ | .enlist _ | .drain => false

namespace Occurrence

def left : Occurrence P → UnitOfWork P
  | .operation _ _ _ x => x
  | .delivery d => d.left

/-- Whether it is within a drain. -/
def nested : Occurrence P → Bool
  | .operation _ nested _ _ => nested
  | .delivery _ => true

def closes : Occurrence P → Bool
  | .operation o _ _ _ => o.closes
  | .delivery _ => false

def delivery? : Occurrence P → Option (Delivery P)
  | .operation _ _ _ _ => none
  | .delivery d => some d

end Occurrence

def deliveries (es : List (Occurrence P)) : List (Delivery P) :=
  es.filterMap Occurrence.delivery?

theorem deliveries_append (es fs : List (Occurrence P)) :
    deliveries (es ++ fs) = deliveries es ++ deliveries fs := List.filterMap_append

/-- A state that remembers what has happened to a unit of work, the latest last. -/
class Minutes (S : Type) (P : outParam Type) where
  items : S → List (Occurrence P)
  add : Occurrence P → S → S
  items_add : ∀ e s, items (add e s) = items s ++ [e]

instance : Minutes (List (Occurrence P)) P where
  items es := es
  add e es := es ++ [e]
  items_add _ _ := rfl

namespace UnitOfWork

/-- The unit is over and holds nothing that it could still deliver. -/
structure Blank (x : UnitOfWork P) : Prop where
  completed : x.status = .completed
  queue : x.queue = []
  registered : x.registered = []

theorem blank_discard (x : UnitOfWork P) : x.discard.Blank := ⟨rfl, rfl, rfl⟩

/-- The unit takes no more messages, and holds nothing that it could still deliver. -/
structure Hollow (x : UnitOfWork P) : Prop where
  shut : x.status.accepts = false
  queue : x.queue = []
  registered : x.registered = []

theorem Blank.hollow {x : UnitOfWork P} (h : x.Blank) : x.Hollow :=
  ⟨by rw [h.completed]; rfl, h.queue, h.registered⟩

theorem Hollow.endDrain {x : UnitOfWork P} (h : x.Hollow) (failed : Bool) :
    (x.endDrain failed).Hollow where
  shut := rfl
  queue := by cases failed with | false => exact h.queue | true => rfl
  registered := h.registered

end UnitOfWork

/-- What an operation does to a unit whose drain has begun. A second drain is refused. -/
def Operation.on : Operation P → UnitOfWork P → Except UnitOfWorkError Unit × UnitOfWork P
  | .register r, x => if x.status.accepts then (.ok (), x.add r)
    else (.error (.closed x.transaction), x)
  | .enlist p, x =>
    if x.status = .completed then (.error (.closed x.transaction), x)
    else (.ok (), { x with participants := x.participants ++ [p] })
  | .drain, x => (.error (.closed x.transaction), x)
  | .discard, x | .complete _, x => (.ok (), x.discard)

namespace Operation

variable (o : Operation P) (x : UnitOfWork P)

theorem on_transaction : (o.on x).2.transaction = x.transaction := by
  cases o with
  | register r => rw [on]; split <;> rfl
  | enlist p => rw [on]; split <;> rfl
  | drain => rfl
  | discard => rfl
  | complete outcome => rfl

theorem on_status (ho : o.closes = false) : (o.on x).2.status = x.status := by
  cases o with
  | register r => rw [on]; split <;> rfl
  | enlist p => rw [on]; split <;> rfl
  | drain => rfl
  | discard => cases ho
  | complete outcome => cases ho

theorem on_blank (ho : o.closes = true) : (o.on x).2.Blank := by
  cases o with
  | register r => cases ho
  | enlist p => cases ho
  | drain => cases ho
  | discard => exact x.blank_discard
  | complete outcome => exact x.blank_discard

variable {x}

/-- What is over stays over, and refuses all but to be closed again. -/
theorem on_of_blank (hx : x.Blank) : (o.on x).2.Blank ∧
    (o.closes = false → (o.on x).1 = .error (.closed x.transaction)) := by
  cases o with
  | register r =>
    have hr : on (.register r) x = (.error (.closed x.transaction), x) := by
      rw [on, hx.completed]
      rfl
    rw [hr]
    exact ⟨hx, fun _ => rfl⟩
  | enlist p =>
    have hr : on (.enlist p) x = (.error (.closed x.transaction), x) := by
      rw [on, if_pos hx.completed]
    rw [hr]
    exact ⟨hx, fun _ => rfl⟩
  | drain => exact ⟨hx, fun _ => rfl⟩
  | discard => exact ⟨x.blank_discard, fun h => by cases h⟩
  | complete outcome => exact ⟨x.blank_discard, fun h => by cases h⟩

theorem on_of_hollow (hx : x.Hollow) : (o.on x).2.Hollow ∧
    ∀ r, o = .register r → (o.on x).1 = .error (.closed x.transaction) := by
  cases o with
  | register r =>
    have hr : on (.register r) x = (.error (.closed x.transaction), x) := by
      rw [on, hx.shut]
      rfl
    rw [hr]
    exact ⟨hx, fun _ _ => rfl⟩
  | enlist p =>
    refine ⟨?_, fun _ he => by cases he⟩
    rw [on]
    split
    · exact hx
    · exact ⟨hx.shut, hx.queue, hx.registered⟩
  | drain => exact ⟨hx, fun _ he => by cases he⟩
  | discard => exact ⟨x.blank_discard.hollow, fun _ he => by cases he⟩
  | complete outcome => exact ⟨x.blank_discard.hollow, fun _ he => by cases he⟩

/-- Does the operation, for a host. -/
def act (h : Host P S) (u : UnitRef) : Operation P → WorldTask P S UnitOfWorkError Unit
  | .register r => Task.atOnce (WorldAct.register u r)
  | .enlist p => Task.atOnce (WorldAct.enlist u p)
  | .drain => h.drain u
  | .discard => Task.atOnce (WorldAct.discard u)
  | .complete outcome => Task.atOnce (WorldAct.completeUnit u outcome)

theorem act_exit (h : Host P S) (u : UnitRef)
    (hd : ∀ batch w, ∃ r v, h.dispatch batch u w = (.ofExcept r, v)) (w : World P S) :
    ∃ r v, o.act h u w = (.ofExcept r, v) := by
  cases o with
  | register r => exact ⟨_, _, rfl⟩
  | enlist p => exact ⟨_, _, rfl⟩
  | drain => exact h.drain_exit u hd w
  | discard => exact ⟨_, _, rfl⟩
  | complete outcome => exact ⟨_, _, rfl⟩

end Operation

namespace Occurrence

/-- A unit that is over was left so, and has refused all but to be closed again. -/
structure Shut (t : TransactionId) (e : Occurrence P) : Prop where
  blank : e.left.Blank
  refused : ∀ o nested result x, e = .operation o nested result x → o.closes = false →
    result = .error (.closed t)

/-- A unit that is hollow was left so, and has taken no message. -/
structure Void (t : TransactionId) (e : Occurrence P) : Prop where
  hollow : e.left.Hollow
  refused : ∀ r nested result x, e = .operation (.register r) nested result x →
    result = .error (.closed t)

end Occurrence

/-- To close a unit brings about `X`, and while it lasts only `Y` happens. -/
structure Seals (X : UnitOfWork P → Prop) (Y : Occurrence P → Prop) (u : UnitRef) (w : World P S)
    (es : List (Occurrence P)) (v : World P S) : Prop where
  lasts : X (w.unit u) → X (v.unit u) ∧ ∀ e ∈ es, Y e
  left : ∀ e ∈ es, e.closes = true → X e.left
  closed : es.Pairwise fun e f => e.closes = true → Y f
  ended : (∃ e ∈ es, e.closes = true) → X (v.unit u)

namespace Seals

variable {X : UnitOfWork P → Prop} {Y : Occurrence P → Prop} {u : UnitRef} {w m v : World P S}
  {es fs : List (Occurrence P)}

theorem nil (h : X (w.unit u) → X (v.unit u)) : Seals X Y u w [] v where
  lasts hx := ⟨h hx, fun _ he => by cases he⟩
  left _ he := by cases he
  closed := .nil
  ended := fun ⟨_, he, _⟩ => by cases he

theorem single {e : Occurrence P} (hleft : e.left = v.unit u)
    (h : X (w.unit u) → X (v.unit u) ∧ Y e) (he : e.closes = true → X (v.unit u)) :
    Seals X Y u w [e] v where
  lasts hx := ⟨(h hx).1, fun f hf => by rw [List.mem_singleton.mp hf]; exact (h hx).2⟩
  left f hf hc := by
    rw [List.mem_singleton.mp hf] at hc ⊢
    rw [hleft]
    exact he hc
  closed := List.pairwise_singleton _ e
  ended := by
    rintro ⟨f, hf, hc⟩
    rw [List.mem_singleton.mp hf] at hc
    exact he hc

theorem since (h : Seals X Y u m es v) (hx : X (w.unit u) → X (m.unit u)) :
    Seals X Y u w es v :=
  { h with lasts := fun hw => h.lasts (hx hw) }

theorem trans (h : Seals X Y u w es m) (g : Seals X Y u m fs v) : Seals X Y u w (es ++ fs) v where
  lasts hx := by
    obtain ⟨hm, hes⟩ := h.lasts hx
    obtain ⟨hv, hfs⟩ := g.lasts hm
    exact ⟨hv, fun e he => (List.mem_append.mp he).elim (hes e) (hfs e)⟩
  left e he := (List.mem_append.mp he).elim (h.left e) (g.left e)
  closed :=
    -- what comes after a closing finds it done
    List.pairwise_append.mpr
      ⟨h.closed, g.closed, fun e he f hf hc => (g.lasts (h.ended ⟨e, he, hc⟩)).2 f hf⟩
  ended := by
    rintro ⟨e, he, hc⟩
    obtain he | he := List.mem_append.mp he
    · exact (g.lasts (h.ended ⟨e, he, hc⟩)).1
    · exact g.ended ⟨e, he, hc⟩

end Seals

namespace Operation

variable {u : UnitRef} {w v : World P S} (o : Operation P) {nested : Bool}

theorem shuts (hv : v.unit u = (o.on (w.unit u)).2) :
    Seals UnitOfWork.Blank (Occurrence.Shut (w.unit u).transaction) u w
      [.operation o nested (o.on (w.unit u)).1 (o.on (w.unit u)).2] v := by
  refine .single hv.symm (fun hb => ?_) fun hc => hv ▸ o.on_blank _ hc
  obtain ⟨hblank, hrefused⟩ := o.on_of_blank hb
  refine ⟨hv ▸ hblank, hblank, ?_⟩
  rintro _ _ _ _ ⟨⟩ hc
  exact hrefused hc

theorem voids (hv : v.unit u = (o.on (w.unit u)).2) :
    Seals UnitOfWork.Hollow (Occurrence.Void (w.unit u).transaction) u w
      [.operation o nested (o.on (w.unit u)).1 (o.on (w.unit u)).2] v := by
  refine .single hv.symm (fun hb => ?_) fun hc => hv ▸ (o.on_blank _ hc).hollow
  obtain ⟨hhollow, hrefused⟩ := o.on_of_hollow hb
  refine ⟨hv ▸ hhollow, hhollow, ?_⟩
  rintro r _ _ _ ⟨⟩
  exact hrefused r rfl

end Operation

variable [Minutes S P]

namespace World

def minutes (w : World P S) : List (Occurrence P) := Minutes.items w.host

def enter (e : Occurrence P) (w : World P S) : World P S := { w with host := Minutes.add e w.host }

@[simp] theorem minutes_enter (e : Occurrence P) (w : World P S) :
    (w.enter e).minutes = w.minutes ++ [e] := Minutes.items_add e w.host

end World

namespace Operation

/-- Does the operation and notes how it has ended. -/
def perform (h : Host P S) (u : UnitRef) (nested : Bool) (o : Operation P) :
    WorldTask P S UnitOfWorkError Unit := do
  let result ← (o.act h u).attempt
  Task.modify fun w => w.enter (.operation o nested result (w.unit u))
  Task.ofExcept result

/-- Does operations one after another, whatever comes of each. -/
def performAll (h : Host P S) (u : UnitRef) (nested : Bool) :
    List (Operation P) → WorldTask P S ε Unit
  | [] => return ()
  | o :: os => do
    let _ ← (o.perform h u nested).attempt
    performAll h u nested os

variable {h : Host P S} {u : UnitRef} {o : Operation P} {w v : World P S}

theorem perform_eq {r : Except UnitOfWorkError Unit} (nested : Bool)
    (ha : o.act h u w = (.ofExcept r, v)) :
    o.perform h u nested w = (.ofExcept r, v.enter (.operation o nested r (v.unit u))) := by
  unfold perform
  rw [Task.bind_done (Task.attempt_ofExcept ha), Task.bind_done (Task.modify_apply _ v)]
  rfl

/-- Once a drain has begun, an operation needs no host. -/
theorem act_eq (h : Host P S) (hd : o = .drain → (w.unit u).status ≠ .active) :
    ∃ v, o.act h u w = (.ofExcept (o.on (w.unit u)).1, v) ∧ v.unit u = (o.on (w.unit u)).2 ∧
      v.minutes = w.minutes := by
  cases o with
  | register r =>
    cases ha : (w.unit u).status.accepts with
    | true =>
      have hr : on (.register r) (w.unit u) = (.ok (), (w.unit u).add r) := if_pos ha
      rw [act, Task.atOnce_apply, WorldAct.register_open w u ha, hr]
      exact ⟨_, rfl, World.unit_setUnit_self w u _, rfl⟩
    | false =>
      have hr : on (.register r) (w.unit u) = (.error (.closed (w.unit u).transaction), w.unit u) :=
        if_neg (Bool.eq_false_iff.mp ha)
      rw [act, Task.atOnce_apply, WorldAct.register_closed w u ha, hr]
      exact ⟨_, rfl, rfl, rfl⟩
  | enlist p =>
    by_cases hc : (w.unit u).status = .completed
    · rw [act, Task.atOnce_apply, WorldAct.enlist_closed w u hc, on, if_pos hc]
      exact ⟨_, rfl, rfl, rfl⟩
    · rw [act, Task.atOnce_apply, WorldAct.enlist_open w u hc, on, if_neg hc]
      exact ⟨_, rfl, World.unit_setUnit_self w u _, rfl⟩
  | drain => exact ⟨w, h.drain_closed u (hd rfl), rfl, rfl⟩
  | discard => exact ⟨_, rfl, World.unit_setUnit_self _ u _, rfl⟩
  | complete outcome =>
    obtain ⟨trace, hc⟩ := WorldAct.completeUnit_apply (ε := UnitOfWorkError) w u outcome
    refine ⟨{ w.setUnit u (w.unit u).discard with trace }, ?_, World.unit_setUnit_self w u _, rfl⟩
    rw [act, Task.atOnce_apply, hc]
    rfl

end Operation

/-- What a dispatcher may do with the unit that it is called for: the operations that are allowed,
which the host notes, and anything that is none of the unit's business. -/
inductive Serves (allowed : Operation P → Prop) (u : UnitRef) : World P S → World P S → Prop
  | operate (g : Host P S) {o : Operation P} (ho : allowed o) (w : World P S) :
      Serves allowed u w (o.perform g u true w).2
  | other {w v : World P S} (hu : v.unit u = w.unit u) (hm : v.minutes = w.minutes) :
      Serves allowed u w v

namespace Operation

variable {u : UnitRef} {w : World P S} (o : Operation P)

theorem perform_apply (h : Host P S) (nested : Bool)
    (hd : o = .drain → (w.unit u).status ≠ .active) :
    ∃ v, o.perform h u nested w = (.ofExcept (o.on (w.unit u)).1, v) ∧
      v.unit u = (o.on (w.unit u)).2 ∧ v.minutes = w.minutes ++
        [.operation o nested (o.on (w.unit u)).1 (o.on (w.unit u)).2] := by
  obtain ⟨v, ha, hv, hm⟩ := act_eq h hd
  refine ⟨_, perform_eq nested ha, hv, ?_⟩
  rw [World.minutes_enter, hm, hv]

end Operation

/-- What has happened to a unit whose drain had begun, until it has been left as it is now. -/
structure Passage (u : UnitRef) (w : World P S) (es : List (Occurrence P)) (v : World P S) :
    Prop where
  minutes : v.minutes = w.minutes ++ es
  transaction : (v.unit u).transaction = (w.unit u).transaction
  begun : (v.unit u).status ≠ .active
  nested : ∀ e ∈ es, e.nested = true
  calm : (∀ e ∈ es, e.closes = false) → (v.unit u).status = (w.unit u).status ∧
    ∀ e ∈ es, e.left.status = (w.unit u).status
  shuts : Seals UnitOfWork.Blank (Occurrence.Shut (w.unit u).transaction) u w es v
  voids : Seals UnitOfWork.Hollow (Occurrence.Void (w.unit u).transaction) u w es v

namespace Passage

variable {u : UnitRef} {w m v : World P S} {es fs : List (Occurrence P)}

theorem quiet (hs : (w.unit u).status ≠ .active) (hm : v.minutes = w.minutes)
    (hu : v.unit u = w.unit u ∨ v.unit u = (w.unit u).clearQueue) : Passage u w [] v where
  minutes := hm.trans (List.append_nil _).symm
  transaction := by
    obtain hu | hu := hu
    · rw [hu]
    · rw [hu]
      rfl
  begun := by
    obtain hu | hu := hu
    · rwa [hu]
    · rwa [hu]
  nested _ he := by cases he
  calm _ := by
    refine ⟨?_, fun _ he => by cases he⟩
    obtain hu | hu := hu
    · rw [hu]
    · rw [hu]
      rfl
  shuts := .nil fun hb => by
    obtain hu | hu := hu <;> rw [hu]
    · exact hb
    · exact ⟨hb.completed, rfl, hb.registered⟩
  voids := .nil fun hb => by
    obtain hu | hu := hu <;> rw [hu]
    · exact hb
    · exact ⟨hb.shut, rfl, hb.registered⟩

theorem operation {o : Operation P} (hs : (w.unit u).status ≠ .active)
    (hv : v.unit u = (o.on (w.unit u)).2) (hm : v.minutes = w.minutes ++
      [.operation o true (o.on (w.unit u)).1 (o.on (w.unit u)).2]) :
    Passage u w [.operation o true (o.on (w.unit u)).1 (o.on (w.unit u)).2] v where
  minutes := hm
  transaction := by rw [hv, o.on_transaction]
  begun := by
    rw [hv]
    cases hc : o.closes with
    | true =>
      rw [(o.on_blank _ hc).completed]
      exact fun he => by cases he
    | false => rwa [o.on_status _ hc]
  nested e he := by rw [List.mem_singleton.mp he]; rfl
  calm hc := by
    have ho := o.on_status (w.unit u) (hc _ (List.mem_singleton_self _))
    refine ⟨by rw [hv, ho], fun e he => ?_⟩
    rw [List.mem_singleton.mp he]
    exact ho
  shuts := o.shuts hv
  voids := o.voids hv

theorem delivery (hs : (w.unit u).status ≠ .active) (batch : List Message) (found : UnitOfWork P)
    (result : Except DeliveryError Unit) :
    Passage u w [.delivery ⟨batch, found, result, w.unit u⟩]
      (w.enter (.delivery ⟨batch, found, result, w.unit u⟩)) where
  minutes := World.minutes_enter _ w
  transaction := rfl
  begun := hs
  nested e he := by rw [List.mem_singleton.mp he]; rfl
  calm _ := ⟨rfl, fun e he => by rw [List.mem_singleton.mp he]; rfl⟩
  shuts := .single rfl (fun hb => ⟨hb, hb, fun _ _ _ _ he => by cases he⟩) fun hc => by cases hc
  voids := .single rfl (fun hb => ⟨hb, hb, fun _ _ _ _ he => by cases he⟩) fun hc => by cases hc

theorem trans (h : Passage u w es m) (g : Passage u m fs v) : Passage u w (es ++ fs) v where
  minutes := by rw [g.minutes, h.minutes, List.append_assoc]
  transaction := g.transaction.trans h.transaction
  begun := g.begun
  nested e he := (List.mem_append.mp he).elim (h.nested e) (g.nested e)
  calm hc := by
    obtain ⟨hm, hes⟩ := h.calm fun e he => hc e (List.mem_append_left _ he)
    obtain ⟨hv, hfs⟩ := g.calm fun e he => hc e (List.mem_append_right _ he)
    rw [hm] at hv hfs
    exact ⟨hv, fun e he => (List.mem_append.mp he).elim (hes e) (hfs e)⟩
  shuts := h.shuts.trans (h.transaction ▸ g.shuts)
  voids := h.voids.trans (h.transaction ▸ g.voids)

end Passage

/-- Only operations of a kind have been noted, all of them nested. -/
def Nested (allowed : Operation P → Prop) (es : List (Occurrence P)) : Prop :=
  ∀ e ∈ es, ∃ o result x, e = .operation o true result x ∧ allowed o

section Serves

variable {allowed : Operation P → Prop} {u : UnitRef} {w v : World P S}

theorem Serves.passage (h : Serves allowed u w v) (hs : (w.unit u).status ≠ .active) :
    ∃ es, Passage u w es v ∧ Nested allowed es := by
  cases h with
  | operate g ho =>
    obtain ⟨v, hr, hv, hm⟩ := Operation.perform_apply _ g true fun _ => hs
    rw [hr]
    exact ⟨_, .operation hs hv hm, fun e he => ⟨_, _, _, List.mem_singleton.mp he, ho⟩⟩
  | other hu hm => exact ⟨[], .quiet hs hm (.inl hu), fun _ he => by cases he⟩

theorem Serves.passages (h : ReflTransGen (Serves allowed u) w v)
    (hs : (w.unit u).status ≠ .active) : ∃ es, Passage u w es v ∧ Nested allowed es := by
  induction h with
  | refl => exact ⟨[], .quiet hs rfl (.inl rfl), fun _ he => by cases he⟩
  | tail _ hs ih =>
    obtain ⟨es, he, hes⟩ := ih
    obtain ⟨fs, hf, hfs⟩ := hs.passage he.begun
    exact ⟨es ++ fs, he.trans hf, fun e he => (List.mem_append.mp he).elim (hes e) (hfs e)⟩

end Serves

/-- A host that has nothing to do. -/
def Host.inert : Host P S where
  before _ := pure ()
  after _ _ := pure ()
  dispatch _ _ := pure ()
  patience := 0

/-- A host that answers each batch with the same operations. -/
def Host.answering (os : List (Operation P)) : Host P S :=
  { Host.inert with dispatch := fun _ u => Operation.performAll Host.inert u true os }

theorem Host.answering_within {allowed : Operation P → Prop} {os : List (Operation P)}
    (ho : ∀ o ∈ os, allowed o) (batch : List Message) (u : UnitRef) :
    ((answering os : Host P S).dispatch batch u).Within (Serves allowed u) := by
  change (Operation.performAll inert u true os).Within (Serves allowed u)
  induction os with
  | nil => exact .pure ()
  | cons o os ih =>
    have hfirst : ((o.perform (inert : Host P S) u true).attempt :
        WorldTask P S DeliveryError _).Within (Serves allowed u) := by
      constructor
      · intro w
        rw [Task.attempt_state]
        exact .single (.operate inert (ho o (List.mem_cons_self ..)) w)
      · intro w i
        obtain ⟨r, v, hr⟩ := o.act_exit (inert : Host P S) u (fun _ v => ⟨.ok (), v, rfl⟩) w
        rw [Task.attempt_ofExcept (Operation.perform_eq true hr)]
        exact fun he => by cases he
    exact hfirst.bind fun _ => ih fun o h => ho o (List.mem_cons_of_mem _ h)

/-- The host that notes the calls of its dispatcher. -/
def Host.minuted (h : Host P S) : Host P S :=
  { h with
    dispatch := fun batch u => do
      let found ← Task.gets (World.unit · u)
      let result ← (h.dispatch batch u).attempt
      Task.modify fun w => w.enter (.delivery ⟨batch, found, result, w.unit u⟩)
      Task.ofExcept result }

theorem Host.minuted_dispatch {h : Host P S} {batch : List Message} {u : UnitRef}
    {w v : World P S} {r : Except DeliveryError Unit}
    (hd : h.dispatch batch u w = (.ofExcept r, v)) : h.minuted.dispatch batch u w =
      (.ofExcept r, v.enter (.delivery ⟨batch, w.unit u, r, v.unit u⟩)) := by
  unfold minuted
  dsimp only
  rw [Task.bind_done (Task.gets_apply _ w), Task.bind_done (Task.attempt_ofExcept hd),
    Task.bind_done (Task.modify_apply _ v)]
  rfl

section Dispatch

variable {allowed : Operation P → Prop} {h : Host P S} {u : UnitRef}
  (hd : ∀ batch, (h.dispatch batch u).Within (Serves allowed u))

include hd

theorem Host.minuted_passage (t : TransactionId) (cycles : Nat) {w : World P S}
    (hs : (w.unit u).status ≠ .active) :
    ∃ es r v d, h.minuted.dispatch (w.unit u).queue u (Host.handing u t w cycles) =
        (.ofExcept r, v) ∧ Passage u w (es ++ [.delivery d]) v ∧ Nested allowed es ∧
      d = ⟨(w.unit u).queue, (w.unit u).clearQueue, r, v.unit u⟩ := by
  have hfound : (Host.handing u t w cycles).unit u = (w.unit u).clearQueue :=
    World.unit_setUnit_self w u _
  have hhanding : Passage u w [] (Host.handing u t w cycles) := .quiet hs rfl (.inr hfound)
  have hw := hd (w.unit u).queue
  obtain ⟨r, hr⟩ := hw.exit (Host.handing u t w cycles)
  obtain ⟨es, he, hes⟩ := Serves.passages (hw.steps _) hhanding.begun
  exact ⟨es, r, _, _, Host.minuted_dispatch hr,
    (hhanding.trans he).trans (.delivery he.begun _ _ r), hes, by rw [hfound]; rfl⟩

end Dispatch

end Transactor
