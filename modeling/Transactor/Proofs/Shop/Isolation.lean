import Transactor.Proofs.Shop.Traffic

namespace Transactor.Shop

open Relation

variable {D : Type} {u y : UnitRef} {t : TransactionId} {w m v : Floor D}
  {es fs : List (Call (Party Empty))}

/-- The calls have nothing to do with the messages of a unit. -/
def Silent (y : UnitRef) (es : List (Call (Party Empty))) : Prop :=
  sent y es = [] ∧ accepted y es = []

namespace Silent

theorem nil (y : UnitRef) : Silent y [] := ⟨rfl, rfl⟩

theorem append (h : Silent y es) (g : Silent y fs) : Silent y (es ++ fs) :=
  ⟨by rw [sent_append, h.1, g.1, List.append_nil],
    by rw [accepted_append, h.2, g.2, List.append_nil]⟩

theorem follows (h : Silent y es) (q : List Message) : Follows y q es q := by
  have hf := follows_of_unsent q h.1
  rwa [h.2, List.append_nil] at hf

theorem notMem (h : Silent y es) (batch : List Message) : .dispatched y batch ∉ es := by
  intro hm
  have hs : batch ∈ sent y es := List.mem_filterMap.mpr ⟨_, hm, if_pos rfl⟩
  rw [h.1] at hs
  cases hs

theorem registered (hy : y ≠ u) (ms : List Message) :
    Silent y (ms.map fun m => .registered u (.message m)) := by
  induction ms with
  | nil => exact nil y
  | cons m ms ih =>
    have hm : Silent y [.registered u (.message m)] :=
      ⟨rfl, by simp [accepted, Call.accepted, hy.symm]⟩
    exact hm.append ih

end Silent

/-- Calls on behalf of a unit lead from one world to another. -/
structure Flow (u : UnitRef) (w : Floor D) (es : List (Call (Party Empty))) (v : Floor D) :
    Prop where
  past : v.past = w.past ++ es
  follows : Follows u (w.unit u).queue es (v.unit u).queue
  others : ∀ y, y ≠ u → Silent y es

namespace Flow

theorem refl (u : UnitRef) (w : Floor D) : Flow u w [] w :=
  ⟨(List.append_nil _).symm, rfl, fun y _ => .nil y⟩

theorem trans (h : Flow u w es m) (g : Flow u m fs v) : Flow u w (es ++ fs) v where
  past := by rw [g.past, h.past, List.append_assoc]
  follows := follows_append.mpr ⟨_, h.follows, g.follows⟩
  others y hy := (h.others y hy).append (g.others y hy)

theorem silent (h : Flow u w es v) (hs : sent u es = []) (hu : v.unit u = w.unit u) (y : UnitRef) :
    Silent y es := by
  by_cases hy : y = u
  · subst hy
    have hq := h.follows.quiet hs
    rw [hu] at hq
    exact ⟨hs, List.self_eq_append_right.mp hq⟩
  · exact h.others y hy

end Flow

theorem Service.flow (h : Service u w v) : ∃ es, Flow u w es v ∧ sent u es = [] := by
  cases h with
  | register r =>
    cases ha : (w.unit u).status.accepts with
    | true =>
      rw [WorldAct.noting_ok (WorldAct.register_open w u ha)]
      refine ⟨[.registered u r], ⟨World.past_note _ _, ?_, ?_⟩, rfl⟩
      · simp [Follows, Call.batch?, Call.accepted, UnitOfWork.add]
      · intro y hy
        exact ⟨rfl, by simp [accepted, Call.accepted, hy.symm]⟩
    | false =>
      rw [WorldAct.noting_error (WorldAct.register_closed w u ha)]
      exact ⟨[], .refl u w, rfl⟩
  | access x =>
    obtain ⟨ms, hq, hp⟩ := x.perform_past w (u := u)
    let es : List (Call (Party Empty)) := ms.map fun m => .registered u (.message m)
    have hsent : sent u es = [] := by
      simp [es, sent, List.filterMap_map, Call.batch?]
    have haccepted : accepted u es = ms := by
      simp [es, accepted, List.flatMap_map, Call.accepted, Registration.message?]
    refine ⟨es, ⟨hp, ?_, fun y hy => .registered hy ms⟩, hsent⟩
    have hf := follows_of_unsent (w.unit u).queue hsent
    rw [haccepted] at hf
    rw [hq]
    exact hf
  | own hs hp hw =>
    refine ⟨[], ⟨?_, ?_, fun y _ => .nil y⟩, rfl⟩
    · rw [hp, List.append_nil]
    · rw [hs.unit]
      rfl

theorem flow_of_services (h : ReflTransGen (Service u) w v) :
    ∃ es, Flow u w es v ∧ sent u es = [] := by
  induction h with
  | refl => exact ⟨[], .refl u w, rfl⟩
  | tail _ hs ih =>
    obtain ⟨es, he, hes⟩ := ih
    obtain ⟨fs, hf, hfs⟩ := hs.flow
    exact ⟨es ++ fs, he.trans hf, by rw [sent_append, hes, hfs, List.append_nil]⟩

/-- What a drain has dispatched and what was registered meanwhile. If it fails, it may have lost
what it took out of the queue. -/
structure Poured (u : UnitRef) (w : Floor D) (es : List (Call (Party Empty)))
    (result : Except UnitOfWorkError Unit) (v : Floor D) : Prop where
  past : v.past = w.past ++ es
  follows : ∃ q, Follows u (w.unit u).queue es q ∧ (result = .ok () → q = [])
  others : ∀ y, y ≠ u → Silent y es

theorem Flow.poured {result : Except UnitOfWorkError Unit} (h : Flow u w es m)
    (hp : v.past = m.past) (hq : result = .ok () → (m.unit u).queue = []) :
    Poured u w es result v :=
  ⟨hp.trans h.past, ⟨_, h.follows, hq⟩, h.others⟩

section Drain

variable {deliver : Dispatcher (Party Empty) (Premises (Annals D))} {patience : Nat}
  (hd : ∀ batch u, (deliver batch u).Within (Service u))

include hd

theorem Flow.dispatch (h : Flow u w es m) (t : TransactionId) (cycles : Nat)
    (hq : (m.unit u).queue ≠ []) : ∃ fs r v,
    (dealing deliver patience).dispatch (m.unit u).queue u (Host.handing u t m cycles) =
      (.ofExcept r, v) ∧ Flow u w fs v := by
  have ht : Trail u m [.dispatched u (m.unit u).queue]
      ((Host.handing u t m cycles).note (.dispatched u (m.unit u).queue)) := trail_handing hq
  have hhand : Flow u m [.dispatched u (m.unit u).queue]
      ((Host.handing u t m cycles).note (.dispatched u (m.unit u).queue)) := by
    refine ⟨ht.past, ht.follows, fun y hy => ⟨?_, rfl⟩⟩
    simp [sent, Call.batch?, hy.symm]
  let n := (Host.handing u t m cycles).note (.dispatched u (m.unit u).queue)
  obtain ⟨r, hr⟩ := (hd (m.unit u).queue u).exit n
  obtain ⟨fs, hf, -⟩ := flow_of_services ((hd (m.unit u).queue u).steps n)
  exact ⟨_, r, _, hr, (h.trans hhand).trans hf⟩

theorem drain_poured (patience : Nat) (u : UnitRef) (w : Floor D) :
    ∃ es r v, (dealing deliver patience).drain u w = (.ofExcept r, v) ∧ Poured u w es r v ∧
      ((w.unit u).status ≠ .active → es = []) := by
  by_cases ha : (w.unit u).status = .active
  · have hstart : Flow u w [] (Host.draining u w) := by
      refine ⟨(List.append_nil _).symm, ?_, fun y _ => .nil y⟩
      rw [Host.draining, World.unit_setUnit_self]
      rfl
    obtain ⟨r, v, hv, es, he⟩ : ∃ r v, Host.drainCycles (dealing deliver patience) u
        (w.unit u).transaction (w.unit u).limit (w.unit u).limit 0 (Host.draining u w) =
          (.ofExcept r, v) ∧ ∃ es, Poured u w es r v := by
      refine Host.drainCycles_rule (dealing deliver patience) u (w.unit u).transaction
        (I := fun m => ∃ es, Flow u w es m) (w.unit u).limit ?_ ?_ ?_ (w.unit u).limit 0
        ⟨[], hstart⟩
      · rintro m ⟨es, hm⟩ hq
        exact ⟨es, hm.poured rfl fun _ => hq⟩
      · rintro m ⟨es, hm⟩
        exact ⟨es, hm.poured rfl fun he => by cases he⟩
      · rintro m cycles ⟨es, hm⟩ hq
        obtain ⟨fs, r, v, hr, hv⟩ := hm.dispatch hd (w.unit u).transaction cycles hq
        exact ⟨r, v, hr, ⟨fs, hv⟩, fun e => ⟨fs, hv.poured rfl fun he => by cases he⟩⟩
    exact ⟨es, r, _, Host.drain_active _ u ha hv, ⟨he.past, he.follows, he.others⟩,
      fun hn => absurd ha hn⟩
  · refine ⟨[], .error _, w, Host.drain_closed _ u ha, ?_, fun _ => rfl⟩
    exact (Flow.refl u w).poured rfl fun he => by cases he

end Drain

variable {a : Action} {result : Except OrderingError Unit}

/-- The calls of an operation, as far as messages go. Those of a dispatcher are made in a commit
that ends its transaction, on behalf of the unit that the registry has for it. -/
structure Exchange (a : Action) (result : Except OrderingError Unit) (w : Floor D)
    (es : List (Call (Party Empty))) (v : Floor D) : Prop where
  past : v.past = w.past ++ es
  idle : ∀ y, (w.unit y).status = .completed → Silent y es
  dispatched : ∀ y batch, .dispatched y batch ∈ es → ∃ t, a = .commit t ∧
    (w.transaction t).status = .active ∧ w.bound.get? t = some y ∧ (w.unit y).transaction = t ∧
    (w.unit y).status = .active ∧ v.Over t
  kept : ∀ y, (w.unit y).status = .active → ∃ q, Follows y (w.unit y).queue es q ∧
    ((v.unit y).status = .active → q = (v.unit y).queue ∧ sent y es = [])
  fresh : ∀ y, (w.unit y).status = .completed → (v.unit y).status ≠ .completed →
    w.units.get? y = none ∧ (v.unit y).queue = []
  delivered : ∀ t u, a = .commit t → result = .ok () → w.bound.get? t = some u →
    (w.unit u).status = .active ∧ Follows u (w.unit u).queue es [] ∧
      (v.unit u).status = .completed ∧ v.units.get? u ≠ none

theorem exchange_nil (hp : v.past = w.past)
    (hu : ∀ y, v.unit y = w.unit y ∨ (v.unit y).status = .completed ∨
      w.units.get? y = none ∧ (v.unit y).queue = [])
    (ha : ∀ t, a = .commit t → result = .ok () → w.bound.get? t = none) :
    Exchange a result w [] v where
  past := hp.trans (List.append_nil _).symm
  idle y _ := .nil y
  dispatched y batch hm := by cases hm
  kept y hy := by
    refine ⟨_, rfl, fun hv => ⟨?_, rfl⟩⟩
    obtain hs | hc | ⟨hn, -⟩ := hu y
    · rw [hs]
    · cases hc.symm.trans hv
    · rw [World.unit_unknown hn] at hy
      cases hy
  fresh y hc hn := by
    obtain hs | hc' | hf := hu y
    · rw [hs] at hn
      exact absurd hc hn
    · exact absurd hc' hn
    · exact hf
  delivered t u ht hr hb := by
    cases (ha t ht hr).symm.trans hb

theorem Concluded.past {o : Outcome} (h : Concluded t o w v) : v.past = w.past :=
  congrArg Annals.past h.host

theorem Concluded.completed {o : Outcome} (h : Concluded t o m v) (ht : Attached t u m) :
    (v.unit u).status = .completed := by
  obtain ⟨-, hb⟩ | hc := h.units u
  · exact absurd ht.bound hb
  · exact hc

theorem Concluded.exchange_nil {o : Outcome} (h : Concluded t o w v)
    (ha : ∀ t, a = .commit t → result = .ok () → w.bound.get? t = none) :
    Exchange a result w [] v := by
  apply Shop.exchange_nil h.past _ ha
  intro y
  obtain ⟨hu, -⟩ | hc := h.units y
  · exact .inl hu
  · exact .inr (.inl hc)

theorem Concluded.exchange {h : Host (Party Empty) (Premises (Annals D))} {d : Floor D}
    {o : Outcome} {r : Except UnitOfWorkError Unit} (hv : Concluded t o d v)
    (ha : (w.transaction t).status = .active) (ht : Attached t u w) (hc : Carried t u w d)
    (hd : h.drain u w = (.ofExcept r, d)) (hp : Poured u w es r d)
    (hidle : (w.unit u).status ≠ .active → es = []) (hr : result = .ok () → r = .ok ()) :
    Exchange (.commit t) result w es v where
  past := hv.past.trans hp.past
  idle y hy := by
    by_cases hyu : y = u
    · subst hyu
      rw [hidle (by rw [hy]; exact fun he => by cases he)]
      exact .nil y
    · exact hp.others y hyu
  dispatched y batch hm := by
    by_cases hyu : y = u
    · subst hyu
      refine ⟨t, rfl, ha, ht.bound, ht.holding.owner, ?_, hv.isOver ?_⟩
      · by_contra hs
        rw [hidle hs] at hm
        cases hm
      · exact hc.persists.known t (World.knows_of_isActive ht.isActive)
    · exact absurd hm ((hp.others y hyu).notMem batch)
  kept y hy := by
    by_cases hyu : y = u
    · subst hyu
      obtain ⟨q, hq, -⟩ := hp.follows
      refine ⟨q, hq, fun hs => ?_⟩
      cases (hv.completed (hc.attached ht)).symm.trans hs
    · have hsilent := hp.others y hyu
      refine ⟨_, hsilent.follows _, fun hs => ⟨?_, hsilent.1⟩⟩
      obtain ⟨hu, -⟩ | hcv := hv.units y
      · rw [hu, hc.aside.units y hyu]
      · cases hcv.symm.trans hs
  fresh y hy hn := by
    by_cases hyu : y = u
    · subst hyu
      exact absurd (hv.completed (hc.attached ht)) hn
    · obtain ⟨hu, -⟩ | hcv := hv.units y
      · rw [hu, hc.aside.units y hyu] at hn
        exact absurd hy hn
      · exact absurd hcv hn
  delivered x y hx hok hb := by
    obtain rfl : t = x := Action.commit.inj hx
    obtain rfl : u = y := Option.some.inj (ht.bound.symm.trans hb)
    obtain ⟨q, hq, hnone⟩ := hp.follows
    rw [hnone (hr hok)] at hq
    have hattached := hc.attached ht
    refine ⟨?_, hq, hv.completed hattached, hv.apart.persists.units u hattached.known⟩
    by_contra hs
    rw [Host.drain_closed h u hs, hr hok] at hd
    cases (Prod.mk.inj hd).1

theorem Service.exchange (h : Service u w v) (ha : a.served? = some u) :
    ∃ es, Exchange a result w es v := by
  obtain ⟨es, hf, hs⟩ := h.flow
  have hc := changes_of_steps h.steps
  have haside := aside_of_changes hc
  have hstatus := status_of_changes hc
  refine ⟨es, hf.past, ?_, ?_, ?_, ?_, ?_⟩
  · intro y hy
    by_cases hyu : y = u
    · subst hyu
      exact hf.silent hs ((sameRecords_of_changes hc hy).unit y) y
    · exact hf.others y hyu
  · intro y batch hm
    by_cases hyu : y = u
    · subst hyu
      have hmem : batch ∈ sent y es := List.mem_filterMap.mpr ⟨_, hm, if_pos rfl⟩
      rw [hs] at hmem
      cases hmem
    · exact absurd hm ((hf.others y hyu).notMem batch)
  · intro y _
    by_cases hyu : y = u
    · subst hyu
      exact ⟨_, hf.follows, fun _ => ⟨rfl, hs⟩⟩
    · have hsilent := hf.others y hyu
      exact ⟨_, hsilent.follows _, fun _ => ⟨by rw [haside.units y hyu], hsilent.1⟩⟩
  · intro y hy hn
    by_cases hyu : y = u
    · subst hyu
      rw [hstatus] at hn
      exact absurd hy hn
    · rw [haside.units y hyu] at hn
      exact absurd hy hn
  · intro t y ht
    subst ht
    cases ha

/-- A transaction for which nothing will be dispatched any more: it is bound to roll back or over,
or its unit has been discarded. -/
def Spent (t : TransactionId) (w : Floor D) : Prop :=
  w.Knows t ∧ (w.transaction t).status ≠ .active ∨
    ∃ u, w.bound.get? t = some u ∧ (w.unit u).status = .completed

theorem spent_of_over (h : w.Over t) : Spent t w := .inl ⟨h.1, h.status_ne⟩

/-- Somebody has given a transaction up: it has been rolled back or marked, or its unit has been
discarded before it was drained. -/
def Episode.GivesUp (t : TransactionId) (e : Episode D) : Prop :=
  (e.action = .rollback t ∨ e.action = .mark t) ∧ e.result = .ok () ∨
    ∃ u, e.action = .discard u ∧ (e.before.unit u).transaction = t ∧
      (e.before.unit u).status = .active

namespace Happening

variable {deliver : Dispatcher (Party Empty) (Premises (Annals D))} {patience : Nat}
  (h : Happening (dealing deliver patience) w a result v)

include h

theorem exchange (hd : ∀ batch u, (deliver batch u).Within (Service u)) :
    ∃ es, Exchange a result w es v := by
  have hdrained {t : TransactionId} {u : UnitRef} {r : Except UnitOfWorkError Unit} {o : Outcome}
      {d v : Floor D} {result : Except OrderingError Unit} (hv : Concluded t o d v)
      (ha : (w.transaction t).status = .active) (ht : Attached t u w) (hc : Carried t u w d)
      (hdr : (dealing deliver patience).drain u w = (.ofExcept r, d))
      (hr : result = .ok () → r = .ok ()) : ∃ es, Exchange (.commit t) result w es v := by
    obtain ⟨es, r', d', hdr', hp, hidle⟩ := drain_poured hd patience u w
    obtain ⟨he, rfl⟩ := Prod.mk.inj (hdr'.symm.trans hdr)
    obtain rfl := Exit.ofExcept_inj he
    exact ⟨es, hv.exchange ha ht hc hdr hp hidle hr⟩
  cases h with
  | begun hnew => exact ⟨[], exchange_nil rfl (fun _ => .inl rfl) fun t ht => by cases ht⟩
  | current hc =>
    refine ⟨[], exchange_nil ?_ ?_ fun t ht => by cases ht⟩
    · rw [World.past, hc.host, World.past]
    · intro y
      obtain hu | ⟨hn, hu⟩ := hc.unit y
      · exact .inl hu
      · exact .inr (.inr ⟨hn, by rw [hu]; rfl⟩)
  | served ha hs _ => exact hs.exchange ha
  | discarded u =>
    refine ⟨[], exchange_nil rfl ?_ fun t ht => by cases ht⟩
    intro y
    by_cases hy : y = u
    · right
      left
      rw [hy]
      exact congrArg UnitOfWork.status (World.unit_setUnit_self _ _ _)
    · exact .inl (World.unit_setUnit_of_ne _ _ hy)
  | marked ha => exact ⟨[], exchange_nil rfl (fun _ => .inl rfl) fun t ht => by cases ht⟩
  | unmarked => exact ⟨[], exchange_nil rfl (fun _ => .inl rfl) fun t ht => by cases ht⟩
  | undone ha hc => exact ⟨[], hc.exchange_nil fun t ht => by cases ht⟩
  | refused => exact ⟨[], exchange_nil rfl (fun _ => .inl rfl) fun t ht => by cases ht⟩
  | ended hc =>
    cases hc with
    | closed hc => exact ⟨[], exchange_nil rfl (fun _ => .inl rfl) fun _ _ hr => by cases hr⟩
    | marked hm hv => exact ⟨[], hv.exchange_nil fun _ _ hr => by cases hr⟩
    | alone ha ht hv =>
      refine ⟨[], hv.exchange_nil fun x hx _ => ?_⟩
      obtain rfl := Action.commit.inj hx
      exact ht.bound
    | agreed ha ht hdr hc hv => exact hdrained hv ha ht hc (r := .ok ()) hdr fun _ => rfl
    | @refused _ f _ _ _ ha ht hdr hc hv =>
      exact hdrained hv ha ht hc (r := .error f) hdr fun he => by cases he

theorem spent (hw : Tidy w) (hd : ∀ batch u, (deliver batch u).Within (Service u))
    (hs : Spent t w) : Spent t v := by
  obtain ⟨hk, hn⟩ | ⟨u, hb, hc⟩ := hs
  · have hkv := (h.tidy hw).1.persists.known t hk
    obtain hs | ⟨-, hs⟩ := h.status hw hk
    · rw [← hs] at hn
      exact .inl ⟨hkv, hn⟩
    · exact .inl ⟨hkv, hs⟩
  · obtain hb' | ho := h.bound hw hb
    · obtain ht | ⟨y, hy⟩ := hw.tenure t
      · cases ht.bound.symm.trans hb
      obtain rfl : y = u := Option.some.inj (hy.bound.symm.trans hb)
      obtain ⟨es, he⟩ := h.exchange hd
      refine .inr ⟨y, hb', ?_⟩
      by_contra hn
      exact hy.known (he.fresh y hc hn).1
    · exact spent_of_over ho

theorem givesUp (hw : Tidy w) (hg : Episode.GivesUp t ⟨w, a, result, v⟩) :
    (w.transaction t).status.isActive = true ∧ Spent t v := by
  obtain ⟨hact, rfl⟩ | ⟨u, rfl, ht, hs⟩ := hg
  · obtain rfl | rfl := hact
    · cases h with
      | served ha hs _ => cases ha
      | undone ha hc => exact ⟨ha, spent_of_over (hc.isOver (World.knows_of_isActive ha))⟩
    · cases h with
      | served ha hs _ => cases ha
      | marked ha =>
        refine ⟨ha, .inl ⟨World.knows_setTransaction_self _ _ _, ?_⟩⟩
        rw [World.transaction_setTransaction_self]
        exact fun he => by cases he
  · cases h with
    | served ha hs _ => cases ha
    | discarded =>
      have hne : (w.unit u).status ≠ .completed := by
        rw [hs]
        exact fun he => by cases he
      have ha := hw.attached hne
      rw [ht] at ha
      exact ⟨ha.isActive, .inr ⟨u, ha.bound,
        congrArg UnitOfWork.status (World.unit_setUnit_self _ _ _)⟩⟩

end Happening

/-- How the past of each unit goes with its queue. -/
structure Streams (w : Floor D) : Prop where
  unknown : ∀ y, w.units.get? y = none → Silent y w.past
  active : ∀ y, (w.unit y).status = .active →
    Follows y [] w.past (w.unit y).queue ∧ sent y w.past = []
  all : ∀ y, ∃ q, Follows y [] w.past q

theorem Exchange.streams (h : Exchange a result w es v) (hw : Tidy w) (hp : Persists w v)
    (hs : Streams w) : Streams v where
  unknown y hn := by
    have hno : w.units.get? y = none := by
      by_contra hk
      exact hp.units y hk hn
    rw [h.past]
    exact (hs.unknown y hno).append (h.idle y (by rw [World.unit_unknown hno]; rfl))
  active y ha := by
    rw [h.past, sent_append]
    by_cases hc : (w.unit y).status = .completed
    · obtain ⟨hno, hq⟩ := h.fresh y hc (by rw [ha]; exact fun he => by cases he)
      have hsilent := (hs.unknown y hno).append (h.idle y hc)
      have hsent := hsilent.1
      rw [sent_append] at hsent
      rw [hq]
      exact ⟨hsilent.follows [], hsent⟩
    · have hactive := (hw.live y hc).1
      obtain ⟨q, hf, hq⟩ := h.kept y hactive
      obtain ⟨rfl, hes⟩ := hq ha
      obtain ⟨hpast, hsent⟩ := hs.active y hactive
      exact ⟨follows_append.mpr ⟨_, hpast, hf⟩, by rw [hsent, hes, List.append_nil]⟩
  all y := by
    rw [h.past]
    by_cases hc : (w.unit y).status = .completed
    · obtain ⟨q, hq⟩ := hs.all y
      exact ⟨q, follows_append.mpr ⟨q, hq, (h.idle y hc).follows q⟩⟩
    · have hactive := (hw.live y hc).1
      obtain ⟨q, hf, -⟩ := h.kept y hactive
      exact ⟨q, follows_append.mpr ⟨_, (hs.active y hactive).1, hf⟩⟩

theorem Streams.batch (h : Streams w) {batch : List Message}
    {early late : List (Call (Party Empty))}
    (hp : w.past = early ++ .dispatched u batch :: late) :
    (sent u early).flatten ++ batch = accepted u early := by
  obtain ⟨q, hq⟩ := h.all u
  rw [hp] at hq
  have hbalance := hq.batch.1.balance
  rwa [List.nil_append] at hbalance

theorem Opening.streams (h : Opening w) : Streams w where
  unknown y _ := by
    rw [h.past]
    exact .nil y
  active y ha := by
    cases (h.completed y).symm.trans ha
  all y := by
    rw [h.past]
    exact ⟨[], rfl⟩

/-- Transactions do not see each other's messages, and those that are given up deliver nothing. -/
structure Isolated (log : List (Episode D)) (v : Floor D) : Prop where
  recorded : v.past = log.flatMap Episode.calls
  /-- A call of the dispatcher belongs to a commit, and is on behalf of that transaction's unit. -/
  dispatched : ∀ e ∈ log, ∀ u batch, .dispatched u batch ∈ e.calls → ∃ t, e.action = .commit t ∧
    e.before.bound.get? t = some u ∧ (e.before.unit u).transaction = t
  /-- A batch is what the unit has accepted before and not dispatched yet. -/
  batch : ∀ u batch early late, v.past = early ++ .dispatched u batch :: late →
    (sent u early).flatten ++ batch = accepted u early
  delivered : ∀ e ∈ log, ∀ t u, e.action = .commit t → e.result = .ok () →
    e.before.bound.get? t = some u → (sent u v.past).flatten = accepted u v.past
  forgone : ∀ e ∈ log, ∀ t, e.GivesUp t → ∀ e' ∈ log, e'.action = .commit t →
    ∀ u batch, .dispatched u batch ∉ e'.calls

/-- What is kept from one operation to the next. -/
structure Isolating (log : List (Episode D)) (v : Floor D) : Prop extends Isolated log v where
  streams : Streams v
  closed : ∀ e ∈ log, ∀ t u batch, e.action = .commit t → .dispatched u batch ∈ e.calls → v.Over t
  ended : ∀ e ∈ log, ∀ t u, e.action = .commit t → e.result = .ok () →
    e.before.bound.get? t = some u → (v.unit u).status = .completed ∧ v.units.get? u ≠ none
  spent : ∀ e ∈ log, ∀ t, e.GivesUp t → Spent t v

theorem Exchange.calls (h : Exchange a result w es v) :
    Episode.calls ⟨w, a, result, v⟩ = es := by
  change v.past.drop w.past.length = es
  rw [h.past, List.drop_left]

theorem Exchange.notMem_of_spent (h : Exchange (.commit t) result w es v) (hs : Spent t w)
    (y : UnitRef) (batch : List Message) : .dispatched y batch ∉ es := by
  intro hm
  obtain ⟨x, hx, ha, hb, -, hy, -⟩ := h.dispatched y batch hm
  obtain rfl := Action.commit.inj hx
  obtain ⟨-, hn⟩ | ⟨u, hu, hc⟩ := hs
  · exact hn ha
  · obtain rfl := Option.some.inj (hb.symm.trans hu)
    cases hy.symm.trans hc

theorem Episode.GivesUp.ne_commit {e : Episode D} (h : e.GivesUp t) (x : TransactionId) :
    e.action ≠ .commit x := by
  intro hc
  obtain ⟨hr | hm, -⟩ | ⟨u, hu, -⟩ := h
  · cases hc.symm.trans hr
  · cases hc.symm.trans hm
  · cases hc.symm.trans hu

section Traffic

variable {deliver : Dispatcher (Party Empty) (Premises (Annals D))} {patience : Nat}
  {log : List (Episode D)}

theorem Isolating.next (h : Isolating log w) (hw : Tidy w)
    (hd : ∀ batch u, (deliver batch u).Within (Service u))
    (hh : Happening (dealing deliver patience) w a result v) :
    Isolating (log ++ [⟨w, a, result, v⟩]) v := by
  obtain ⟨es, he⟩ := hh.exchange hd
  have hp := (hh.tidy hw).1.persists
  have hmem {e : Episode D} (hm : e ∈ log ++ [⟨w, a, result, v⟩]) :
      e ∈ log ∨ e = ⟨w, a, result, v⟩ := by
    simpa using hm
  have hstreams := he.streams hw hp h.streams
  refine ⟨⟨?_, ?_, fun u batch early late => hstreams.batch, ?_, ?_⟩, hstreams, ?_, ?_, ?_⟩
  · rw [List.flatMap_append, ← h.recorded, List.flatMap_singleton, he.calls, he.past]
  · intro e hm u batch hb
    obtain hm | rfl := hmem hm
    · exact h.dispatched e hm u batch hb
    · rw [he.calls] at hb
      obtain ⟨t, ha, -, hbound, ho, -, -⟩ := he.dispatched u batch hb
      exact ⟨t, ha, hbound, ho⟩
  · intro e hm t u ha hr hb
    rw [he.past, sent_append, accepted_append]
    obtain hm | rfl := hmem hm
    · obtain ⟨hsent, haccepted⟩ := he.idle u (h.ended e hm t u ha hr hb).1
      rw [hsent, haccepted, List.append_nil, List.append_nil, h.delivered e hm t u ha hr hb]
    · obtain ⟨hactive, hf, -, -⟩ := he.delivered t u ha hr hb
      have hbalance := (follows_append.mpr ⟨_, (h.streams.active u hactive).1, hf⟩).balance
      rwa [sent_append, accepted_append, List.append_nil, List.nil_append] at hbalance
  · intro e hm t hg e' hm' ha u batch
    obtain hm' | rfl := hmem hm'
    · obtain hm | rfl := hmem hm
      · exact h.forgone e hm t hg e' hm' ha u batch
      · -- whoever gives it up finds it open, but a commit that dispatches ends it
        intro hb
        have hactive := (hh.givesUp hw hg).1
        rw [(h.closed e' hm' t u batch ha hb).2] at hactive
        cases hactive
    · rw [he.calls]
      obtain rfl : a = .commit t := ha
      obtain hm | rfl := hmem hm
      · exact he.notMem_of_spent (h.spent e hm t hg) u batch
      · exact absurd rfl (hg.ne_commit t)
  · intro e hm t u batch ha hb
    obtain hm | rfl := hmem hm
    · exact hh.staysOver hw (h.closed e hm t u batch ha hb)
    · rw [he.calls] at hb
      obtain ⟨x, hx, -, -, -, -, ho⟩ := he.dispatched u batch hb
      obtain rfl := Action.commit.inj (ha.symm.trans hx)
      exact ho
  · intro e hm t u ha hr hb
    obtain hm | rfl := hmem hm
    · obtain ⟨hc, hk⟩ := h.ended e hm t u ha hr hb
      refine ⟨?_, hp.units u hk⟩
      by_contra hn
      exact hk (he.fresh u hc hn).1
    · exact (he.delivered t u ha hr hb).2.2
  · intro e hm t hg
    obtain hm | rfl := hmem hm
    · exact hh.spent hw hd (h.spent e hm t hg)
    · exact (hh.givesUp hw hg).2

end Traffic

end Transactor.Shop
