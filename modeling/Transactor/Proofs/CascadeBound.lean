import Transactor.Proofs.Operations

namespace Transactor

open Relation

variable {P S : Type}

/-- A unit that has been started under some settings, and not been drained since. -/
inductive UnitOfWork.Undrained (t : TransactionId) (settings : Settings) : UnitOfWork P → Prop
  | begin : Undrained t settings (.begin t settings)
  | register {x y : UnitOfWork P} {r : Registration} (h : Undrained t settings x)
      (hr : x.register r = .ok y) : Undrained t settings y
  | enlist {x y : UnitOfWork P} {p : P} (h : Undrained t settings x) (hp : x.enlist p = .ok y) :
      Undrained t settings y

theorem UnitOfWork.Undrained.fixed {t : TransactionId} {settings : Settings} {x : UnitOfWork P}
    (h : x.Undrained t settings) :
    x.transaction = t ∧ x.limit = max settings.maxCycles 1 ∧ x.status = .active := by
  induction h with
  | begin => exact ⟨rfl, rfl, rfl⟩
  | @register x y r _ hr ih =>
    unfold UnitOfWork.register at hr
    split at hr
    · cases hr
      exact ih
    · cases hr
  | @enlist x y p _ hp ih =>
    unfold UnitOfWork.enlist at hp
    split at hp
    · cases hp
    · cases hp
      exact ih

/-- What is pending after some calls of the dispatcher, if `q` was before them. -/
def pending (q : List Message) : List (Delivery P) → List Message
  | [] => q
  | d :: ds => pending d.left.queue ds

/-- How the calls of a dispatcher follow upon each other when a queue is drained, if `left` more
are allowed, and what comes of it. -/
inductive Cascade (t : TransactionId) (limit : Nat) :
    Nat → List Message → List (Delivery P) → Except UnitOfWorkError Unit → Prop
  | empty (left : Nat) : Cascade t limit left [] [] (.ok ())
  | diverged {q : List Message} (hq : q ≠ []) :
      Cascade t limit 0 q [] (.error (.cascadeLimit t limit))
  | failed {left : Nat} {q : List Message} {d : Delivery P} {e : DeliveryError} (hq : q ≠ [])
      (hb : d.batch = q) (he : d.result = .error e) :
      Cascade t limit (left + 1) q [d] (.error (.dispatch t e))
  | next {left : Nat} {q : List Message} {d : Delivery P} {calls : List (Delivery P)}
      {result : Except UnitOfWorkError Unit} (hq : q ≠ []) (hb : d.batch = q)
      (hd : d.result = .ok ()) (h : Cascade t limit left d.left.queue calls result) :
      Cascade t limit (left + 1) q (d :: calls) result

/-- The calls of one drain, of a queue `q` and under a bound, and what the drain gives back. -/
structure Bounded (t : TransactionId) (limit : Nat) (q : List Message) (calls : List (Delivery P))
    (result : Except UnitOfWorkError Unit) : Prop where
  length_le : calls.length ≤ limit
  last : ∀ before d after e, calls = before ++ d :: after → d.result = .error e → after = []
  dispatch_iff : ∀ e, result = .error (.dispatch t e) ↔ ∃ d ∈ calls, d.result = .error e
  limit_iff : result = .error (.cascadeLimit t limit) ↔
    calls.length = limit ∧ (∀ d ∈ calls, d.result = .ok ()) ∧ pending q calls ≠ []
  ok_iff : result = .ok () ↔ (∀ d ∈ calls, d.result = .ok ()) ∧ pending q calls = []
  otherwise : (∀ e, result ≠ .error (.dispatch t e)) → result ≠ .error (.cascadeLimit t limit) →
    result = .ok ()

namespace Cascade

variable {t : TransactionId} {limit left : Nat} {q : List Message} {calls : List (Delivery P)}
  {result : Except UnitOfWorkError Unit}

theorem length_le (h : Cascade t limit left q calls result) : calls.length ≤ left := by
  induction h with
  | empty left => exact Nat.zero_le left
  | diverged hq => exact Nat.le_refl 0
  | failed hq hb he => exact Nat.succ_le_succ (Nat.zero_le _)
  | next hq hb hd h ih => exact Nat.succ_le_succ ih

theorem last (h : Cascade t limit left q calls result) {before after : List (Delivery P)}
    {d : Delivery P} {e : DeliveryError} (hc : calls = before ++ d :: after)
    (he : d.result = .error e) : after = [] := by
  induction h generalizing before with
  | empty left => cases before <;> cases hc
  | diverged hq => cases before <;> cases hc
  | failed hq hb hf =>
    cases before with
    | nil =>
      cases hc
      rfl
    | cons b before => cases before <;> cases hc
  | next hq hb hd h ih =>
    cases before with
    | nil =>
      cases hc
      rw [hd] at he
      cases he
    | cons b before =>
      cases hc
      exact ih rfl

theorem dispatch_iff (h : Cascade t limit left q calls result) (e : DeliveryError) :
    result = .error (.dispatch t e) ↔ ∃ d ∈ calls, d.result = .error e := by
  induction h with
  | empty left => simp
  | diverged hq => simp
  | failed hq hb he => simp [he]
  | next hq hb hd h ih => simp [ih, hd]

theorem limit_iff (h : Cascade t limit left q calls result) :
    result = .error (.cascadeLimit t limit) ↔
      calls.length = left ∧ (∀ d ∈ calls, d.result = .ok ()) ∧ pending q calls ≠ [] := by
  induction h with
  | empty left => simp [pending]
  | diverged hq => simp [pending, hq]
  | failed hq hb he => simp [he]
  | next hq hb hd h ih => simp [ih, hd, pending]

theorem ok_iff (h : Cascade t limit left q calls result) :
    result = .ok () ↔ (∀ d ∈ calls, d.result = .ok ()) ∧ pending q calls = [] := by
  induction h with
  | empty left => simp [pending]
  | diverged hq => simp [pending, hq]
  | failed hq hb he => simp [he]
  | next hq hb hd h ih => simp [ih, hd, pending]

theorem otherwise (h : Cascade t limit left q calls result)
    (hd : ∀ e, result ≠ .error (.dispatch t e)) (hl : result ≠ .error (.cascadeLimit t limit)) :
    result = .ok () := by
  induction h with
  | empty left => rfl
  | diverged hq => exact absurd rfl hl
  | failed hq hb he => exact absurd rfl (hd _)
  | next hq hb hok h ih => exact ih hd hl

theorem bounded (h : Cascade t limit limit q calls result) : Bounded t limit q calls result where
  length_le := h.length_le
  last _ _ _ _ := h.last
  dispatch_iff := h.dispatch_iff
  limit_iff := h.limit_iff
  ok_iff := h.ok_iff
  otherwise := h.otherwise

end Cascade

theorem deliveries_nested {allowed : Operation P → Prop} {es : List (Occurrence P)}
    (h : Nested allowed es) : deliveries es = [] := by
  apply List.filterMap_eq_nil_iff.mpr
  intro e he
  obtain ⟨o, r, x, rfl, -⟩ := h e he
  rfl

variable [Minutes S P]

/-- Whatever is done with the unit from here on, another drain of it is refused, and leaves all as
it was. -/
def NoSecondDrain (t : TransactionId) (u : UnitRef) (w : World P S) : Prop :=
  ∀ (g : Host P S) (m : World P S), ReflTransGen (Serves (fun _ => True) u) w m →
    g.drain u m = (.failed (.closed t), m)

theorem noSecondDrain_of_begun {t : TransactionId} {u : UnitRef} {w : World P S}
    (hs : (w.unit u).status ≠ .active) (ht : (w.unit u).transaction = t) : NoSecondDrain t u w := by
  intro g m hm
  obtain ⟨es, he, -⟩ := Serves.passages hm hs
  rw [g.drain_closed u he.begun, he.transaction, ht]

/-- The rounds of a drain, as they have been noted: what happened to the unit, which calls of the
dispatcher there were, which operations it has used, and how it found the unit. -/
structure Rounds (allowed : Operation P → Prop) (t : TransactionId) (limit left : Nat)
    (u : UnitRef) (w : World P S) (es : List (Occurrence P)) (result : Except UnitOfWorkError Unit)
    (v : World P S) : Prop where
  passage : Passage u w es v
  cascade : Cascade t limit left (w.unit u).queue (deliveries es) result
  emptied : result = .ok () → (v.unit u).queue = []
  allowed : ∀ o nested r x, .operation o nested r x ∈ es → allowed o
  found : ∀ d ∈ deliveries es,
    d.found.status ≠ .active ∧ d.found.transaction = (w.unit u).transaction

namespace Rounds

variable {allowed : Operation P → Prop} {t : TransactionId} {limit left : Nat} {u : UnitRef}
  {w m v : World P S} {es fs : List (Occurrence P)} {d : Delivery P}
  {result : Except UnitOfWorkError Unit}

theorem still (hs : (w.unit u).status ≠ .active) (hm : v.minutes = w.minutes)
    (hu : v.unit u = (w.unit u).clearQueue)
    (hc : Cascade t limit left (w.unit u).queue ([] : List (Delivery P)) result) :
    Rounds allowed t limit left u w [] result v where
  passage := .quiet hs hm (.inr hu)
  cascade := hc
  emptied _ := by rw [hu]; rfl
  allowed _ _ _ _ he := by cases he
  found _ he := by cases he

theorem round (hs : (w.unit u).status ≠ .active) (hp : Passage u w (es ++ [.delivery d]) m)
    (hn : Nested allowed es) (hf : d.found = (w.unit u).clearQueue) (hv : Passage u m fs v)
    (hc : Cascade t limit left (w.unit u).queue (d :: deliveries fs) result)
    (he : result = .ok () → (v.unit u).queue = [])
    (hallowed : ∀ o nested r x, .operation o nested r x ∈ fs → allowed o)
    (hfound : ∀ d ∈ deliveries fs,
      d.found.status ≠ .active ∧ d.found.transaction = (m.unit u).transaction) :
    Rounds allowed t limit left u w (es ++ [.delivery d] ++ fs) result v := by
  have hds : deliveries (es ++ [.delivery d] ++ fs) = d :: deliveries fs := by
    rw [deliveries_append, deliveries_append, deliveries_nested hn]
    rfl
  refine ⟨hp.trans hv, hds ▸ hc, he, ?_, ?_⟩
  · intro o n r x he
    obtain he | he := List.mem_append.mp he
    · obtain he | he := List.mem_append.mp he
      · obtain ⟨_, _, _, hx, ho⟩ := hn _ he
        cases hx
        exact ho
      · cases List.mem_singleton.mp he
    · exact hallowed o n r x he
  · intro b hb
    rw [hds] at hb
    obtain rfl | hb := List.mem_cons.mp hb
    · rw [hf]
      exact ⟨hs, rfl⟩
    · rw [← hp.transaction]
      exact hfound b hb

theorem closes_eq_false
    (h : Rounds (fun o => o.closes = false) t limit left u w es result v) :
    ∀ e ∈ es, e.closes = false := by
  intro e he
  cases e with
  | operation o n r x => exact h.allowed o n r x he
  | delivery d => rfl

end Rounds

section Drain

variable {allowed : Operation P → Prop} {h : Host P S} {u : UnitRef}
  (hd : ∀ batch, (h.dispatch batch u).Within (Serves allowed u))

include hd

theorem Host.drainCycles_rounds (t : TransactionId) (limit left cycles : Nat) {w : World P S}
    (hs : (w.unit u).status ≠ .active) :
    ∃ es r v, h.minuted.drainCycles u t limit left cycles w = (.ofExcept r, v) ∧
      Rounds allowed t limit left u w es r v := by
  have hclear : (w.setUnit u (w.unit u).clearQueue).unit u = (w.unit u).clearQueue :=
    World.unit_setUnit_self w u _
  -- by induction on the calls that are still allowed
  induction left generalizing cycles w with
  | zero =>
    by_cases hq : (w.unit u).queue = []
    · exact ⟨[], .ok (), _, drainCycles_empty _ u t limit hq,
        .still hs rfl hclear (hq ▸ .empty 0)⟩
    · exact ⟨[], .error _, _, drainCycles_zero _ u t limit hq,
        .still hs rfl hclear (.diverged hq)⟩
  | succ left ih =>
    by_cases hq : (w.unit u).queue = []
    · exact ⟨[], .ok (), _, drainCycles_empty _ u t limit hq,
        .still hs rfl hclear (hq ▸ .empty _)⟩
    · obtain ⟨es, r, m, d, hr, hp, hn, rfl⟩ := minuted_passage hd t cycles hs
      cases r with
      | ok _ =>
        obtain ⟨fs, r, v, hv, hrest⟩ := ih (cycles + 1) hp.begun (World.unit_setUnit_self m u _)
        refine ⟨_, r, v, ?_, .round hs hp hn rfl hrest.passage (.next hq rfl rfl hrest.cascade)
          hrest.emptied hrest.allowed hrest.found⟩
        rw [drainCycles_ok _ u t limit hq hr]
        exact hv
      | error e =>
        exact ⟨_, .error _, _, drainCycles_failed _ u t limit hq hr, .round hs hp hn rfl
          (.quiet hp.begun rfl (.inl rfl)) (.failed hq rfl rfl) (fun he => by cases he)
          (fun _ _ _ _ he => by cases he) fun _ he => by cases he⟩

end Drain

/-- The code that batches are handed to registers, enlists and drains as it likes. Under any
settings and from any queue, the drain ends within its bound of calls: it fails with the error of a
call, which is the last one then, or because all that are allowed go well and leave a message; in
all other cases it succeeds. The unit is draining all the while; it ends drained, empty and closed
to messages, and no second drain of it, whether later or within a call, does anything. -/
theorem drain_bounded {h : Host P S} {u : UnitRef} {w : World P S} {t : TransactionId}
    {settings : Settings}
    (hd : ∀ batch, (h.dispatch batch u).Within (Serves (fun o => o.closes = false) u))
    (hx : (w.unit u).Undrained t settings) :
    ∃ es result v, h.minuted.drain u w = (.ofExcept result, v) ∧ v.minutes = w.minutes ++ es ∧
      Bounded t (max settings.maxCycles 1) (w.unit u).queue (deliveries es) result ∧
      (∀ e ∈ es, e.left.status = .draining) ∧ (v.unit u).status = .drained ∧ (v.unit u).queue = [] ∧
      (∀ r, WorldAct.register u r v = (.error (.closed t), v)) ∧
      NoSecondDrain t u v ∧ ∀ d ∈ deliveries es, ∀ m : World P S, m.unit u = d.found →
        NoSecondDrain t u m := by
  obtain ⟨ht, hlimit, hactive⟩ := hx.fixed
  have hunit : (Host.draining u w).unit u = { w.unit u with status := .draining } :=
    World.unit_setUnit_self w u _
  have hs : ((Host.draining u w).unit u).status ≠ .active := by
    rw [hunit]
    exact fun he => by cases he
  obtain ⟨es, r, m, hr, hrounds⟩ := Host.drainCycles_rounds hd (w.unit u).transaction
    (w.unit u).limit (w.unit u).limit 0 hs
  have hcascade := hrounds.cascade
  rw [hunit, ht, hlimit] at hcascade
  have hm : (m.unit u).transaction = t := by rw [hrounds.passage.transaction, hunit, ht]
  let v := m.setUnit u ((m.unit u).endDrain (Host.isFailure r))
  have hv : v.unit u = (m.unit u).endDrain (Host.isFailure r) := World.unit_setUnit_self m u _
  have hstatus : (v.unit u).status = .drained := by rw [hv]; rfl
  have htransaction : (v.unit u).transaction = t := by rw [hv]; exact hm
  refine ⟨es, r, v, Host.drain_active _ u hactive hr, hrounds.passage.minutes, hcascade.bounded,
    ?_, hstatus, ?_, ?_, ?_, ?_⟩
  · have hcalm := (hrounds.passage.calm hrounds.closes_eq_false).2
    rwa [hunit] at hcalm
  · rw [hv]
    cases r with
    | ok _ => exact hrounds.emptied rfl
    | error e => rfl
  · intro r
    rw [WorldAct.register_closed v u (by rw [hstatus]; rfl), htransaction]
  · exact noSecondDrain_of_begun (by rw [hstatus]; exact fun he => by cases he) htransaction
  · intro d hd m hm
    obtain ⟨hbegun, hfor⟩ := hrounds.found d hd
    rw [← hm] at hbegun hfor
    exact noSecondDrain_of_begun hbegun (hfor.trans (by rw [hunit, ht]))

/-- A message, and a unit that has accepted it under a bound of two batches. -/
def notice : Message := .announce ⟨.ofNat 1, .epoch⟩ (.ofNat 2) "order" .postPersisted

def laden : World Nat (List (Occurrence Nat)) :=
  (World.first ⟨2⟩ []).setUnit ⟨0⟩ ((UnitOfWork.begin ⟨.ofNat 0⟩ ⟨2⟩).add (.message notice))

theorem drain_bounded_insistent :
    let h : Host Nat (List (Occurrence Nat)) :=
      .answering [.register (.message notice), .enlist 0, .drain]
    (∀ batch, (h.dispatch batch ⟨0⟩).Within (Serves (fun o => o.closes = false) ⟨0⟩)) ∧
      (laden.unit ⟨0⟩).Undrained ⟨.ofNat 0⟩ ⟨2⟩ ∧
      ∃ es result v, h.minuted.drain ⟨0⟩ laden = (.ofExcept result, v) ∧
        v.minutes = laden.minutes ++ es ∧
        Bounded ⟨.ofNat 0⟩ (max 2 1) (laden.unit ⟨0⟩).queue (deliveries es) result ∧
        (∀ e ∈ es, e.left.status = .draining) ∧
        (v.unit ⟨0⟩).status = .drained ∧ (v.unit ⟨0⟩).queue = [] ∧
        (∀ r, WorldAct.register ⟨0⟩ r v = (.error (.closed ⟨.ofNat 0⟩), v)) ∧
        NoSecondDrain ⟨.ofNat 0⟩ ⟨0⟩ v ∧ ∀ d ∈ deliveries es,
          ∀ m : World Nat (List (Occurrence Nat)), m.unit ⟨0⟩ = d.found →
            NoSecondDrain ⟨.ofNat 0⟩ ⟨0⟩ m := by
  have hallowed : ∀ o ∈ [.register (.message notice), .enlist 0, .drain],
      (fun o : Operation Nat => o.closes = false) o := by
    simp [Operation.closes]
  have hx : (laden.unit ⟨0⟩).Undrained ⟨.ofNat 0⟩ ⟨2⟩ := by
    rw [laden, World.unit_setUnit_self]
    exact .register (r := .message notice) .begin rfl
  have hd := fun batch => Host.answering_within (S := List (Occurrence Nat)) hallowed batch ⟨0⟩
  exact ⟨hd, hx, drain_bounded hd hx⟩

end Transactor
