import Transactor.Proofs.Host
import Transactor.Proofs.Past

namespace Transactor

open Relation

variable {P S : Type} {t : TransactionId} {w m v : World P S} {es fs : List (Call P)}

section Joining

variable [Chronicle S P]

/-- One thing that code may do while it is called back: let someone join the transaction, or do
anything that leaves it alone. -/
inductive Joining (t : TransactionId) : World P S → World P S → Prop
  | join (s : Synchronization P) (w : World P S) :
      Joining t w (WorldAct.noting (.joined t s) (WorldAct.synchronize t s) w).2
  | other {w v : World P S} {es : List (Call P)} (ht : v.transaction t = w.transaction t)
      (hp : v.past = w.past ++ es) (hj : joinedTo t es = []) : Joining t w v

/-- Since a world, some have joined a transaction, and nothing else has happened to it. -/
structure Gathered (t : TransactionId) (w : World P S) (es : List (Call P)) (v : World P S) : Prop
    where
  past : v.past = w.past ++ es
  status : (v.transaction t).status = (w.transaction t).status
  synchronizations : (v.transaction t).synchronizations =
    (w.transaction t).synchronizations ++ joinedTo t es
  closed : (w.transaction t).status.isActive = false → joinedTo t es = []

namespace Gathered

theorem refl (t : TransactionId) (w : World P S) : Gathered t w [] w :=
  ⟨(List.append_nil _).symm, rfl, (List.append_nil _).symm, fun _ => rfl⟩

theorem trans (h : Gathered t w es m) (g : Gathered t m fs v) : Gathered t w (es ++ fs) v where
  past := by rw [g.past, h.past, List.append_assoc]
  status := g.status.trans h.status
  synchronizations := by
    rw [g.synchronizations, h.synchronizations, joinedTo_append, List.append_assoc]
  closed hc := by
    have hm : (m.transaction t).status.isActive = false := by rw [h.status, hc]
    rw [joinedTo_append, h.closed hc, g.closed hm, List.nil_append]

theorem join (s : Synchronization P) (w : World P S) :
    ∃ es, Gathered t w es (WorldAct.noting (.joined t s) (WorldAct.synchronize t s) w).2 := by
  cases ha : (w.transaction t).status.isActive with
  | true =>
    rw [WorldAct.noting_ok (WorldAct.synchronize_open w ha s)]
    refine ⟨[.joined t s], ?_, ?_, ?_, ?_⟩
    · rw [World.past_note, World.past_setTransaction]
    · rw [World.transaction_note, World.transaction_setTransaction_self]
    · rw [World.transaction_note, World.transaction_setTransaction_self, joinedTo_joined]
    · intro hc
      rw [ha] at hc
      cases hc
  | false =>
    rw [WorldAct.noting_error (WorldAct.synchronize_closed w ha s)]
    exact ⟨[], refl t w⟩

theorem step (h : Gathered t w es m) (hs : Joining t m v) : ∃ fs, Gathered t w fs v := by
  cases hs with
  | join s m =>
    obtain ⟨fs, hf⟩ := join (t := t) s m
    exact ⟨es ++ fs, h.trans hf⟩
  | @other _ _ fs ht hp hj =>
    refine ⟨es ++ fs, h.trans ⟨hp, ?_, ?_, fun _ => hj⟩⟩
    · rw [ht]
    · rw [ht, hj, List.append_nil]

end Gathered

/-- Some may have joined since. -/
def Gathering (t : TransactionId) (w v : World P S) : Prop := ∃ es, Gathered t w es v

theorem Gathering.refl (t : TransactionId) (w : World P S) : Gathering t w w := ⟨[], .refl t w⟩

theorem Gathering.trans (h : Gathering t w m) (g : Gathering t m v) : Gathering t w v := by
  obtain ⟨es, he⟩ := h
  obtain ⟨fs, hf⟩ := g
  exact ⟨es ++ fs, he.trans hf⟩

theorem Gathering.steps (h : Gathering t w m) (hs : ReflTransGen (Joining t) m v) :
    Gathering t w v := by
  induction hs with
  | refl => exact h
  | tail _ hs ih =>
    obtain ⟨es, he⟩ := ih
    exact he.step hs

theorem gathering_indifferent (t : TransactionId) (w : World P S) :
    Host.Indifferent (Gathering t w) where
  trace _ _ := fun ⟨es, h⟩ => ⟨es, h.past, h.status, h.synchronizations, h.closed⟩
  unit _ _ _ := fun ⟨es, h⟩ => ⟨es, h.past, h.status, h.synchronizations, h.closed⟩
  bound _ _ := fun ⟨es, h⟩ => ⟨es, h.past, h.status, h.synchronizations, h.closed⟩

/-- A host whose code lets others join a transaction, and returns when it is told an outcome. -/
structure Host.Admitting (h : Host P S) (t : TransactionId) : Prop where
  before : ∀ p w, ReflTransGen (Joining t) w (h.before p w).2
  dispatch : ∀ batch u w, ReflTransGen (Joining t) w (h.dispatch batch u w).2
  after : ∀ p o, (h.after p o).Within (Joining t)

end Joining

/-- The loop over the participants of a unit has come so far: all of these have been asked, one
after another, and have agreed. -/
inductive Polled (h : Host P S) (u : UnitRef) (w : World P S) : List P → World P S → Prop
  | start : Polled h u w [] w
  | next {ps : List P} {p : P} {m v : World P S} (hp : Polled h u w ps m)
      (hs : (m.unit u).participants[ps.length]? = some p) (hb : h.before p m = (.done (), v)) :
      Polled h u w (ps ++ [p]) v

/-- What a unit does when it is asked, which of its participants it asks, and what it answers. It
asks none of them unless its drain has succeeded, and none after one who refuses. -/
inductive Canvassed (h : Host P S) (u : UnitRef) (w : World P S) :
    List P → Except UnitOfWorkError Unit → World P S → Prop
  | undrained {v : World P S} {e : UnitOfWorkError} (hd : h.drain u w = (.failed e, v)) :
      Canvassed h u w [] (.error e) v
  | agreed {ps : List P} {m v : World P S} (hd : h.drain u w = (.done (), m))
      (hp : Polled h u m ps v) (hs : (v.unit u).participants = ps) : Canvassed h u w ps (.ok ()) v
  | refused {ps : List P} {p : P} {m n v : World P S} {e : UnitOfWorkError}
      (hd : h.drain u w = (.done (), m)) (hp : Polled h u m ps n)
      (hs : (n.unit u).participants[ps.length]? = some p) (hb : h.before p n = (.failed e, v)) :
      Canvassed h u w (ps ++ [p]) (.error e) v

/-- All of these participants are told, one after another. -/
inductive Notified (h : Host P S) (o : Outcome) : World P S → List P → World P S → Prop
  | done (w : World P S) : Notified h o w [] w
  | next {p : P} {ps : List P} {w m v : World P S} (ha : h.after p o w = (.done (), m))
      (hs : Notified h o m ps v) : Notified h o w (p :: ps) v

/-- The pass over those who joined a transaction has come so far: all of these have been asked, one
after another, and have agreed. -/
inductive Asked (h : Host P S) (t : TransactionId) (w : World P S) :
    List (Synchronization P) → World P S → Prop
  | start : Asked h t w [] w
  | next {ss : List (Synchronization P)} {s : Synchronization P} {m v : World P S}
      (hp : Asked h t w ss m) (hs : (m.transaction t).synchronizations[ss.length]? = some s)
      (hb : h.before? s m = (.done (), v)) : Asked h t w (ss ++ [s]) v

/-- How the pass ends: all have agreed, or the last one who was asked has refused. -/
inductive Answered (h : Host P S) (t : TransactionId) (w : World P S) :
    List (Synchronization P) → Except UnitOfWorkError Unit → World P S → Prop
  | agreed {ss : List (Synchronization P)} {v : World P S} (hp : Asked h t w ss v)
      (hs : (v.transaction t).synchronizations = ss) : Answered h t w ss (.ok ()) v
  | refused {ss : List (Synchronization P)} {s : Synchronization P} {m v : World P S}
      {e : UnitOfWorkError} (hp : Asked h t w ss m)
      (hs : (m.transaction t).synchronizations[ss.length]? = some s)
      (hb : h.before? s m = (.failed e, v)) :
      Answered h t w (ss ++ [s]) (.error e) (v.record (.beforeCompletionFailed t e.message))

/-- All of these are told, one after another, and each finds the transaction ended with the outcome
that it is told. -/
inductive Told (h : Host P S) (t : TransactionId) (o : Outcome) :
    World P S → List (Synchronization P) → World P S → Prop
  | done (w : World P S) : Told h t o w [] w
  | next {s : Synchronization P} {ss : List (Synchronization P)} {w m v : World P S}
      (hc : (w.transaction t).status = .completed o) (ha : h.after? o s w = (.done (), m))
      (hs : Told h t o m ss v) : Told h t o w (s :: ss) v

/-- The world in which an outcome has just been fixed. -/
def World.ending (t : TransactionId) (o : Outcome) (w : World P S) : World P S :=
  (w.setTransaction t ((w.transaction t).complete o)).record (.transactionCompleted t o.name)

/-- The outcome that an answer leads to. -/
def Outcome.ofAnswer : Except UnitOfWorkError Unit → Outcome
  | .ok () => .committed
  | .error _ => .rolledBack

/-- The world in which the answer of a pass is known; a refusal is reported. -/
def World.answered (t : TransactionId) (w : World P S) : Except UnitOfWorkError Unit → World P S
  | .ok _ => w
  | .error e => w.record (.beforeCompletionFailed t e.message)

theorem isPrefix_snoc {α : Type} {xs ys : List α} {x : α} (h : xs <+: ys)
    (hx : ys[xs.length]? = some x) : xs ++ [x] <+: ys := by
  obtain ⟨rest, rfl⟩ := h
  rw [List.getElem?_append_right (Nat.le_refl _), Nat.sub_self] at hx
  cases rest with
  | nil => cases hx
  | cons y rest =>
    cases hx
    exact ⟨rest, List.append_assoc ..⟩

section Calls

variable {h : Host P S} {u : UnitRef} {o : Outcome} {ps : List P}

theorem Host.before?_party (h : Host P S) (p : P) : h.before? (.party p) = h.before p := rfl

theorem Host.after?_party (h : Host P S) (o : Outcome) (p : P) :
    h.after? o (.party p) = h.after p o := rfl

theorem Polled.askParticipants (hp : Polled h u w ps m) (n : Nat) :
    h.askParticipants u (ps.length + n) 0 w = h.askParticipants u n ps.length m := by
  induction hp generalizing n with
  | start => rw [List.length_nil, Nat.zero_add]
  | @next ps p m v _ hs hb ih =>
    rw [List.length_append, List.length_singleton, Nat.add_assoc, Nat.add_comm 1 n, ih,
      Host.askParticipants, Task.bind_done (Task.gets_apply _ m), hs]
    exact Task.bind_done hb

/-- To ask a unit is to drain it and to ask its participants in order. -/
theorem Canvassed.before? {r : Except UnitOfWorkError Unit} (hc : Canvassed h u w ps r v)
    (hpatience : ps.length < h.patience) : h.before? (.unit u) w = (.ofExcept r, v) := by
  obtain ⟨n, hn⟩ := Nat.exists_eq_add_of_lt hpatience
  rw [Host.before_unit]
  cases hc with
  | undrained hd => exact Task.bind_failed hd
  | @agreed ps m v hd hp hs =>
    rw [Task.bind_done hd, hn, Nat.add_assoc, hp.askParticipants, Host.askParticipants,
      Task.bind_done (Task.gets_apply _ v), hs, List.getElem?_eq_none (Nat.le_refl _)]
    rfl
  | @refused ps p m d v e hd hp hs hb =>
    rw [List.length_append, List.length_singleton] at hn
    have hn' : h.patience = ps.length + (n + 1 + 1) := by omega
    rw [Task.bind_done hd, hn', hp.askParticipants, Host.askParticipants,
      Task.bind_done (Task.gets_apply _ d), hs]
    exact Task.bind_failed hb

theorem askParticipants_canvassed
    (hgrow : ∀ p ps, (h.before p).Keeps fun w => ps <+: (w.unit u).participants)
    {patience : Nat} {d : World P S} {r : Except UnitOfWorkError Unit}
    (hd : h.drain u w = (.done (), m)) (hp : Polled h u m ps d)
    (hps : ps <+: (d.unit u).participants)
    (hr : h.askParticipants u patience ps.length d = (.ofExcept r, v)) :
    ∃ asked, Canvassed h u w asked r v ∧ asked <+: (v.unit u).participants := by
  -- by induction on the patience that is left: who has been asked enlisted first, and those who
  -- enlist meanwhile come after them
  induction patience generalizing ps d with
  | zero => exact absurd (Prod.mk.inj hr).1.symm Exit.ofExcept_ne_interrupted
  | succ patience ih =>
    unfold Host.askParticipants at hr
    rw [Task.bind_done (Task.gets_apply _ d)] at hr
    cases hx : (d.unit u).participants[ps.length]? with
    | none =>
      rw [hx] at hr
      obtain ⟨hok, rfl⟩ := Prod.mk.inj hr
      have hall := hps.eq_of_length_le (List.getElem?_eq_none_iff.mp hx)
      cases r with
      | ok _ => exact ⟨ps, .agreed hd hp hall.symm, hps⟩
      | error e => cases hok
    | some p =>
      rw [hx] at hr
      dsimp only at hr
      cases hb : h.before p d with
      | mk e n =>
        have hsnoc := hgrow p (ps ++ [p]) d (isPrefix_snoc hps hx)
        rw [hb] at hsnoc
        cases e with
        | done _ =>
          rw [Task.bind_done hb] at hr
          have hl : (ps ++ [p]).length = ps.length + 1 := List.length_append
          rw [← hl] at hr
          exact ih (hp.next hx hb) hsnoc hr
        | failed e =>
          rw [Task.bind_failed hb] at hr
          obtain ⟨he, rfl⟩ := Prod.mk.inj hr
          rw [Exit.eq_error_of_failed he]
          exact ⟨ps ++ [p], .refused hd hp hx hb, hsnoc⟩
        | interrupted i =>
          rw [Task.bind_interrupted hb] at hr
          exact absurd (Prod.mk.inj hr).1.symm Exit.ofExcept_ne_interrupted

/-- Asking a unit comes to nothing else if nobody takes participants away. -/
theorem before_canvassed
    (hgrow : ∀ p ps, (h.before p).Keeps fun w => ps <+: (w.unit u).participants)
    {r : Except UnitOfWorkError Unit} (hr : h.before? (.unit u) w = (.ofExcept r, v)) :
    ∃ asked, Canvassed h u w asked r v ∧ asked <+: (v.unit u).participants := by
  rw [Host.before_unit] at hr
  cases hd : h.drain u w with
  | mk e m =>
    cases e with
    | done _ =>
      rw [Task.bind_done hd] at hr
      exact askParticipants_canvassed hgrow hd .start List.nil_prefix hr
    | failed e =>
      rw [Task.bind_failed hd] at hr
      obtain ⟨he, rfl⟩ := Prod.mk.inj hr
      rw [Exit.eq_error_of_failed he]
      exact ⟨[], .undrained hd, List.nil_prefix⟩
    | interrupted i =>
      rw [Task.bind_interrupted hd] at hr
      exact absurd (Prod.mk.inj hr).1.symm Exit.ofExcept_ne_interrupted

theorem tellAll_iff : h.tellAll o ps w = (.done (), v) ↔ Notified h o w ps v := by
  constructor
  · intro hv
    induction ps generalizing w with
    | nil =>
      cases hv
      exact .done _
    | cons p ps ih =>
      obtain ⟨_, m, hm, hv⟩ := Task.bind_eq_done.mp hv
      exact .next hm (ih hv)
  · intro hn
    induction hn with
    | done w => rfl
    | next ha hs ih => exact (Task.bind_done ha).trans ih

/-- To tell a unit an outcome is to end it, to tell its participants in order and to let go of it.
-/
theorem after?_unit_iff (h : Host P S) (u : UnitRef) (o : Outcome) (w : World P S) :
    ∃ trace, ∀ v, h.after? o (.unit u) w = (.done (), v) ↔
      ∃ m, Notified h o { Host.closing u w with trace } (w.unit u).participants m ∧
        v = (Host.release (ε := Empty) (w.unit u).transaction m).2 := by
  obtain ⟨trace, ha⟩ := Host.after_unit_closing h u o w
  refine ⟨trace, fun v => ?_⟩
  rw [ha, Task.bind_eq_done]
  constructor
  · rintro ⟨_, m, hm, hv⟩
    obtain ⟨_, n, hn, hv⟩ := Task.bind_eq_done.mp hv
    have hvn : v = n := (Prod.mk.inj hv).2.symm
    exact ⟨m, tellAll_iff.mp hm, hvn.trans (congrArg Prod.snd hn).symm⟩
  · rintro ⟨m, hm, rfl⟩
    refine ⟨(), m, tellAll_iff.mpr hm, ?_⟩
    cases hr : (Host.release (w.unit u).transaction : WorldAct P S Empty (Option UnitRef)) m with
    | mk r n =>
      cases r with
      | ok x =>
        rw [Task.bind_apply, Task.atOnce_apply, hr]
        rfl
      | error e => exact e.elim

end Calls

theorem Asked.askAll {h : Host P S} {ss : List (Synchronization P)} (ha : Asked h t w ss m)
    (n : Nat) : h.askAll t (ss.length + n) 0 w = h.askAll t n ss.length m := by
  induction ha generalizing n with
  | start => rw [List.length_nil, Nat.zero_add]
  | @next ss s m v _ hs hb ih =>
    rw [List.length_append, List.length_singleton, Nat.add_assoc, Nat.add_comm 1 n, ih, Host.askAll,
      Task.bind_done (Task.gets_apply _ m), hs]
    exact Task.bind_done hb

theorem Asked.refused {h : Host P S} {ss : List (Synchronization P)} {s : Synchronization P}
    {e : UnitOfWorkError} (ha : Asked h t w ss m)
    (hs : (m.transaction t).synchronizations[ss.length]? = some s)
    (hb : h.before? s m = (.failed e, v)) {patience : Nat} (hp : ss.length < patience) :
    h.askAll t patience 0 w = (.failed e, v) := by
  obtain ⟨n, rfl⟩ := Nat.exists_eq_add_of_lt hp
  rw [Nat.add_assoc, ha.askAll, Host.askAll, Task.bind_done (Task.gets_apply _ m), hs]
  exact Task.bind_failed hb

theorem Answered.askAll {h : Host P S} {ss : List (Synchronization P)}
    {answer : Except UnitOfWorkError Unit} (ha : Answered h t w ss answer m) {patience : Nat}
    (hp : ss.length < patience) :
    ∃ d, h.askAll t patience 0 w = (.ofExcept answer, d) ∧ m = d.answered t answer := by
  cases ha with
  | agreed ha hs =>
    obtain ⟨n, rfl⟩ := Nat.exists_eq_add_of_lt hp
    refine ⟨m, ?_, rfl⟩
    rw [Nat.add_assoc, ha.askAll, Host.askAll, Task.bind_done (Task.gets_apply _ m), hs,
      List.getElem?_eq_none (Nat.le_refl _)]
    rfl
  | @refused ss s d v e ha hs hb =>
    rw [List.length_append, List.length_singleton] at hp
    exact ⟨v, ha.refused hs hb (by omega), rfl⟩

section Pass

variable [Chronicle S P] {h : Host P S} {ss : List (Synchronization P)}

theorem Host.Admitting.before? (hh : h.Admitting t) (s : Synchronization P) :
    (h.before? s).Keeps (Gathering t w) := by
  apply Host.before?_keeps h (gathering_indifferent t w)
  · intro p m hm
    exact hm.steps (hh.before p m)
  · intro batch u m hm
    exact hm.steps (hh.dispatch batch u m)

theorem Host.Admitting.after? (hh : h.Admitting t) (o : Outcome) (s : Synchronization P) :
    (h.after? o s).Keeps (Gathering t w) := by
  apply Host.after?_keeps h (gathering_indifferent t w)
  intro p m hm
  exact hm.steps ((hh.after p o).steps m)

theorem Asked.gathering (hh : h.Admitting t) (ha : Asked h t w ss m) : Gathering t w m := by
  induction ha with
  | start => exact .refl t w
  | @next ss s m v hp hs hb ih =>
    have hk := hh.before? s m ih
    rw [hb] at hk
    exact hk

theorem Gathered.isPrefix_snoc (hg : Gathered t m es v) {s : Synchronization P}
    (hp : ss <+: (m.transaction t).synchronizations)
    (hs : (m.transaction t).synchronizations[ss.length]? = some s) :
    ss ++ [s] <+: (v.transaction t).synchronizations := by
  rw [hg.synchronizations]
  exact (Transactor.isPrefix_snoc hp hs).trans (List.prefix_append _ _)

theorem Asked.isPrefix (hh : h.Admitting t) (ha : Asked h t w ss m) :
    ss <+: (m.transaction t).synchronizations := by
  induction ha with
  | start => exact List.nil_prefix
  | @next ss s m v hp hs hb ih =>
    have hk := hh.before? s m (.refl t m)
    rw [hb] at hk
    obtain ⟨es, he⟩ := hk
    exact he.isPrefix_snoc ih hs

/-- The pass over all who joined has come to its end if it returns. -/
theorem askAll_answered (hh : h.Admitting t) {patience : Nat} {d : World P S}
    {answer : Except UnitOfWorkError Unit} (ha : Asked h t w ss m)
    (hd : h.askAll t patience ss.length m = (.ofExcept answer, d)) :
    ∃ asked, Answered h t w asked answer (d.answered t answer) := by
  induction patience generalizing ss m with
  | zero => exact absurd (Prod.mk.inj hd).1.symm Exit.ofExcept_ne_interrupted
  | succ patience ih =>
    unfold Host.askAll at hd
    rw [Task.bind_done (Task.gets_apply _ m)] at hd
    cases hs : (m.transaction t).synchronizations[ss.length]? with
    | none =>
      rw [hs] at hd
      obtain ⟨hok, rfl⟩ := Prod.mk.inj hd
      have hall := (ha.isPrefix hh).eq_of_length_le (List.getElem?_eq_none_iff.mp hs)
      cases answer with
      | ok _ => exact ⟨ss, .agreed ha hall.symm⟩
      | error e => cases hok
    | some s =>
      rw [hs] at hd
      dsimp only at hd
      cases hb : h.before? s m with
      | mk f n =>
        cases f with
        | done _ =>
          rw [Task.bind_done hb] at hd
          have hl : (ss ++ [s]).length = ss.length + 1 := List.length_append
          rw [← hl] at hd
          exact ih (ha.next hs hb) hd
        | failed f =>
          rw [Task.bind_failed hb] at hd
          obtain ⟨he, rfl⟩ := Prod.mk.inj hd
          rw [Exit.eq_error_of_failed he]
          exact ⟨ss ++ [s], .refused ha hs hb⟩
        | interrupted i =>
          rw [Task.bind_interrupted hb] at hd
          exact absurd (Prod.mk.inj hd).1.symm Exit.ofExcept_ne_interrupted

omit [Chronicle S P] in
/-- The pass returns if everyone who is asked does and only so many are asked. -/
theorem askAll_returns
    (hreturns : ∀ ss s m, Asked h t w ss m →
      (m.transaction t).synchronizations[ss.length]? = some s →
      ∃ r v, h.before? s m = (.ofExcept r, v))
    {limit patience : Nat} (hfinite : ∀ ss m, Asked h t w ss m → ss.length < limit)
    (ha : Asked h t w ss m) (hp : ss.length + patience = limit) :
    ∃ r v, h.askAll t patience ss.length m = (.ofExcept r, v) := by
  induction patience generalizing ss m with
  | zero =>
    have hf := hfinite ss m ha
    omega
  | succ patience ih =>
    unfold Host.askAll
    rw [Task.bind_done (Task.gets_apply _ m)]
    cases hs : (m.transaction t).synchronizations[ss.length]? with
    | none => exact ⟨.ok (), m, rfl⟩
    | some s =>
      obtain ⟨r, v, hr⟩ := hreturns ss s m ha hs
      cases r with
      | ok _ =>
        dsimp only
        rw [Task.bind_done hr]
        have hl : (ss ++ [s]).length = ss.length + 1 := List.length_append
        have hn := ih (ha.next hs hr) (by omega)
        rwa [hl] at hn
      | error e => exact ⟨.error e, v, Task.bind_failed hr⟩

omit [Chronicle S P] in
theorem askParticipants_returns {u : UnitRef} {ps : List P}
    (hbefore : ∀ p w, ∃ r v, h.before p w = (.ofExcept r, v))
    {limit patience : Nat} (hfinite : ∀ ps m, Polled h u w ps m → ps.length < limit)
    (hp : Polled h u w ps m) (hl : ps.length + patience = limit) :
    ∃ r v, h.askParticipants u patience ps.length m = (.ofExcept r, v) := by
  induction patience generalizing ps m with
  | zero =>
    have hf := hfinite ps m hp
    omega
  | succ patience ih =>
    unfold Host.askParticipants
    rw [Task.bind_done (Task.gets_apply _ m)]
    cases hs : (m.unit u).participants[ps.length]? with
    | none => exact ⟨.ok (), m, rfl⟩
    | some p =>
      obtain ⟨r, v, hr⟩ := hbefore p m
      cases r with
      | ok _ =>
        dsimp only
        rw [Task.bind_done hr]
        have hsnoc : (ps ++ [p]).length = ps.length + 1 := List.length_append
        have hn := ih (hp.next hs hr) (by omega)
        rwa [hsnoc] at hn
      | error e => exact ⟨.error e, v, Task.bind_failed hr⟩

omit [Chronicle S P] in
theorem before?_unit_returns {u : UnitRef}
    (hdispatch : ∀ batch w, ∃ r v, h.dispatch batch u w = (.ofExcept r, v))
    (hbefore : ∀ p w, ∃ r v, h.before p w = (.ofExcept r, v))
    (hfinite : ∀ d ps m, h.drain u w = (.done (), d) → Polled h u d ps m → ps.length < h.patience) :
    ∃ r v, h.before? (.unit u) w = (.ofExcept r, v) := by
  obtain ⟨r, d, hd⟩ := Host.drain_exit h u hdispatch w
  rw [Host.before_unit]
  cases r with
  | error e => exact ⟨.error e, d, Task.bind_failed hd⟩
  | ok _ =>
    rw [Task.bind_done hd]
    exact askParticipants_returns hbefore (fun ps m hp => hfinite d ps m hd hp) .start
      (Nat.zero_add h.patience)

omit [Chronicle S P] in
/-- A commit that has begun returns what the pass has answered. -/
theorem commit_answer {answer : Except UnitOfWorkError Unit} {d : World P S}
    (ha : (w.transaction t).status = .active)
    (hd : h.askAll t h.patience 0 w = (.ofExcept answer, d))
    (hv : h.complete t (.ofAnswer answer) (d.answered t answer) = (.done (), v)) :
    h.commit t w = (.ofExcept (answer.mapError (.rolledBackBy t)), v) := by
  cases answer with
  | ok _ => exact Host.commit_agreed h t ha hd hv
  | error e => exact Host.commit_refused h t ha hd hv

omit [Chronicle S P] in
theorem commit_answered {result : Except TransactionError Unit}
    (ha : (w.transaction t).status = .active) (hv : h.commit t w = (.ofExcept result, v)) :
    ∃ answer d, h.askAll t h.patience 0 w = (.ofExcept answer, d) ∧
      result = answer.mapError (.rolledBackBy t) ∧
      h.complete t (.ofAnswer answer) (d.answered t answer) = (.done (), v) := by
  have hopen : (w.transaction t).status.isActive = true := by
    rw [ha]
    rfl
  cases Host.commit_return h t hopen hv with
  | marked hm hv =>
    rw [ha] at hm
    cases hm
  | @refused e d _ _ hd hv => exact ⟨.error e, d, hd, rfl, hv⟩
  | @agreed d _ _ hd hv => exact ⟨.ok (), d, hd, rfl, hv⟩

theorem Host.Admitting.after_returns (hh : h.Admitting t) (p : P) (o : Outcome) (w : World P S) :
    ∃ v, h.after p o w = (.done (), v) := by
  obtain ⟨r, hr⟩ := (hh.after p o).exit w
  cases r with
  | ok _ => exact ⟨_, hr⟩
  | error e => exact e.elim

/-- Once the outcome is fixed no one else joins, and all who joined are told it. -/
theorem tellSynchronizations_told (hh : h.Admitting t) {o : Outcome}
    (hc : (m.transaction t).status = .completed o) (ss : List (Synchronization P)) :
    ∃ es v, h.tellSynchronizations o ss m = (.done (), v) ∧ Told h t o m ss v ∧
      Gathered t m es v := by
  induction ss generalizing m with
  | nil => exact ⟨[], m, rfl, .done m, .refl t m⟩
  | cons s ss ih =>
    obtain ⟨n, hn⟩ := Host.after?_returns h (fun p w => hh.after_returns p o w) s m
    have hk := hh.after? o s m (.refl t m)
    rw [hn] at hk
    obtain ⟨es, he⟩ := hk
    obtain ⟨fs, v, hv, ht, hf⟩ := ih (he.status.trans hc)
    exact ⟨es ++ fs, v, (Task.bind_done hn).trans hv, .next hc hn ht, he.trans hf⟩

theorem complete_told (hh : h.Admitting t) (o : Outcome) (w : World P S) :
    ∃ es v, h.complete t o w = (.done (), v) ∧
      Told h t o (w.ending t o) (w.transaction t).synchronizations v ∧
      v.past = w.past ++ es ∧ joinedTo t es = [] ∧ (v.transaction t).status = .completed o := by
  have hc : ((w.ending t o).transaction t).status = .completed o := by
    rw [World.ending, World.transaction_record, World.transaction_setTransaction_self]
    rfl
  obtain ⟨es, v, hv, ht, he⟩ := tellSynchronizations_told hh hc (w.transaction t).synchronizations
  refine ⟨es, v, hv, ht, he.past, he.closed ?_, he.status.trans hc⟩
  rw [hc]
  rfl

theorem Answered.gathered (hh : h.Admitting t) {answer : Except UnitOfWorkError Unit}
    (ha : Answered h t w ss answer m) :
    ∃ es, Gathered t w es m ∧ ss <+: (m.transaction t).synchronizations ∧
      (answer = .ok () → ss = (m.transaction t).synchronizations) := by
  cases ha with
  | agreed hp hs =>
    obtain ⟨es, he⟩ := hp.gathering hh
    exact ⟨es, he, hp.isPrefix hh, fun _ => hs.symm⟩
  | @refused ss s d m e hp hs hb =>
    have hk := hh.before? s d (.refl t d)
    rw [hb] at hk
    obtain ⟨fs, hf⟩ := hk
    obtain ⟨es, he⟩ := (hp.gathering hh).trans ⟨fs, hf⟩
    refine ⟨es, ⟨he.past, he.status, he.synchronizations, he.closed⟩,
      hf.isPrefix_snoc (hp.isPrefix hh) hs, ?_⟩
    intro hok
    cases hok

/-- What the pass has decided is told to all who joined before it or meanwhile. -/
theorem Answered.told (hh : h.Admitting t) {answer : Except UnitOfWorkError Unit}
    (ha : Answered h t w ss answer m) :
    ∃ late v, h.complete t (.ofAnswer answer) m = (.done (), v) ∧
      ss <+: (w.transaction t).synchronizations ++ joinedTo t late ∧
      (answer = .ok () → ss = (w.transaction t).synchronizations ++ joinedTo t late) ∧
      Told h t (.ofAnswer answer) (m.ending t (.ofAnswer answer))
        ((w.transaction t).synchronizations ++ joinedTo t late) v ∧
      v.past = w.past ++ late ∧ (v.transaction t).status = .completed (.ofAnswer answer) := by
  obtain ⟨es, he, hprefix, hall⟩ := ha.gathered hh
  obtain ⟨fs, v, hv, ht, hpast, hnone, hstatus⟩ := complete_told hh (.ofAnswer answer) m
  have hjoined : (w.transaction t).synchronizations ++ joinedTo t (es ++ fs) =
      (m.transaction t).synchronizations := by
    rw [joinedTo_append, hnone, List.append_nil, he.synchronizations]
  refine ⟨es ++ fs, v, hv, ?_, ?_, ?_, ?_, hstatus⟩
  · rwa [hjoined]
  · rwa [hjoined]
  · rwa [hjoined]
  · rw [hpast, he.past, List.append_assoc]

/-- A commit returns if every delivery and everyone who is asked do, and if only so many join the
transaction and enlist in its units. -/
theorem commit_returns (hh : h.Admitting t)
    (hdispatch : ∀ batch u w, ∃ r v, h.dispatch batch u w = (.ofExcept r, v))
    (hbefore : ∀ p w, ∃ r v, h.before p w = (.ofExcept r, v))
    (hjoin : ∀ ss m, Asked h t w ss m → ss.length < h.patience)
    (henlist : ∀ ss m u d ps n, Asked h t w ss m → h.drain u m = (.done (), d) →
      Polled h u d ps n → ps.length < h.patience) :
    ∃ result v, h.commit t w = (.ofExcept result, v) := by
  cases hs : (w.transaction t).status with
  | completed o =>
    have hc : (w.transaction t).status.isActive = false := by
      rw [hs]
      rfl
    exact ⟨.error (.notActive t), w, Host.commit_closed h t hc⟩
  | markedRollback =>
    obtain ⟨es, v, hv, -⟩ := complete_told hh .rolledBack w
    exact ⟨.error (.rolledBack t), v, Host.commit_marked h t hs hv⟩
  | active =>
    have hreturns (ss : List (Synchronization P)) (s : Synchronization P) (m : World P S)
        (hm : Asked h t w ss m) (_ : (m.transaction t).synchronizations[ss.length]? = some s) :
        ∃ r v, h.before? s m = (.ofExcept r, v) := by
      cases s with
      | party p => exact hbefore p m
      | unit u =>
        apply before?_unit_returns (fun batch => hdispatch batch u) hbefore
        exact fun d ps n => henlist ss m u d ps n hm
    obtain ⟨answer, d, hd⟩ := askAll_returns hreturns hjoin .start (Nat.zero_add h.patience)
    obtain ⟨asked, hans⟩ := askAll_answered hh .start hd
    obtain ⟨late, v, hv, -⟩ := hans.told hh
    exact ⟨_, v, commit_answer hs hd hv⟩

end Pass

section Protocol

variable [Chronicle S P]

/-- The protocol of a completion that begins in a world. `late` is what the host notes meanwhile. -/
structure Completion (h : Host P S) (t : TransactionId) (w : World P S) : Prop where
  /-- An active transaction asks those who joined, in the order in which they joined and each of
  them once, until one refuses; then it tells all of them what the answer was. -/
  commit_active : (w.transaction t).status = .active → ∃ asked answer d late v,
    Answered h t w asked answer d ∧
      asked <+: (w.transaction t).synchronizations ++ joinedTo t late ∧
      (answer = .ok () → asked = (w.transaction t).synchronizations ++ joinedTo t late) ∧
      Told h t (.ofAnswer answer) (d.ending t (.ofAnswer answer))
        ((w.transaction t).synchronizations ++ joinedTo t late) v ∧
      h.commit t w = (.ofExcept (answer.mapError (.rolledBackBy t)), v) ∧
      v.past = w.past ++ late ∧ (v.transaction t).status = .completed (.ofAnswer answer)
  /-- A transaction that must roll back asks no one. -/
  commit_marked : (w.transaction t).status = .markedRollback → ∃ late v,
    Told h t .rolledBack (w.ending t .rolledBack) (w.transaction t).synchronizations v ∧
      h.commit t w = (.failed (.rolledBack t), v) ∧ v.past = w.past ++ late ∧
      joinedTo t late = [] ∧ (v.transaction t).status = .completed .rolledBack
  rollback_open : (w.transaction t).status.isActive = true → ∃ late v,
    Told h t .rolledBack (w.ending t .rolledBack) (w.transaction t).synchronizations v ∧
      h.rollback t w = (.done (), v) ∧ v.past = w.past ++ late ∧
      joinedTo t late = [] ∧ (v.transaction t).status = .completed .rolledBack
  /-- Nothing is done to a transaction that is over. -/
  closed : (w.transaction t).status.isActive = false →
    h.commit t w = (.failed (.notActive t), w) ∧ h.rollback t w = (.failed (.notActive t), w) ∧
      WorldAct.markRollback t w = (.error (.notActive t), w) ∧
      ∀ s, WorldAct.synchronize t s w = (.error (.notActive t), w)

/-- Whoever has joined a transaction, and whoever joins while it is completed: it is completed by
the protocol, if every call of the pass returns and fewer join than the host has patience for. -/
theorem completion_protocol {h : Host P S} (hh : h.Admitting t)
    (hreturns : ∀ asked s m, Asked h t w asked m →
      (m.transaction t).synchronizations[asked.length]? = some s →
      ∃ r v, h.before? s m = (.ofExcept r, v))
    (hfinite : ∀ asked m, Asked h t w asked m →
      (m.transaction t).synchronizations.length < h.patience) :
    Completion h t w where
  commit_active ha := by
    have hasked (asked : List (Synchronization P)) (m : World P S) (hm : Asked h t w asked m) :
        asked.length < h.patience :=
      Nat.lt_of_le_of_lt (hm.isPrefix hh).length_le (hfinite asked m hm)
    obtain ⟨answer, d, hd⟩ := askAll_returns hreturns hasked .start (Nat.zero_add h.patience)
    obtain ⟨asked, hans⟩ := askAll_answered hh .start hd
    obtain ⟨late, v, hv, hprefix, hall, ht, hp, hs⟩ := hans.told hh
    exact ⟨asked, answer, _, late, v, hans, hprefix, hall, ht, commit_answer ha hd hv, hp, hs⟩
  commit_marked hm := by
    obtain ⟨late, v, hv, ht, hp, hnone, hs⟩ := complete_told hh .rolledBack w
    exact ⟨late, v, ht, Host.commit_marked h t hm hv, hp, hnone, hs⟩
  rollback_open ha := by
    obtain ⟨late, v, hv, ht, hp, hnone, hs⟩ := complete_told hh .rolledBack w
    exact ⟨late, v, ht, Host.rollback_open h t ha hv, hp, hnone, hs⟩
  closed hc := ⟨Host.commit_closed h t hc, Host.rollback_closed h t hc,
    WorldAct.markRollback_closed w hc, WorldAct.synchronize_closed w hc⟩

end Protocol

/-- A host with three kinds of parties: one that lets two more join when it is asked, one that
refuses, and all others. -/
def inviting (t : TransactionId) : Host Nat (List (Call Nat)) where
  before
    | 0 => Task.atOnce <| Act.mapError .transaction do
      WorldAct.noting (.joined t (.party 1)) (WorldAct.synchronize t (.party 1))
      WorldAct.noting (.joined t (.party 2)) (WorldAct.synchronize t (.party 2))
    | 1 => Task.fail (.closed t)
    | _ => pure ()
  after _ _ := pure ()
  dispatch _ _ := pure ()
  patience := 4

theorem inviting_admitting (t : TransactionId) : (inviting t).Admitting t where
  before p w := by
    have hjoin (s : Synchronization Nat) (w : World Nat (List (Call Nat))) :
        (WorldAct.noting (.joined t s) (WorldAct.synchronize t s)).Keeps
          (ReflTransGen (Joining t) w) := fun m hm => hm.tail (.join s m)
    match p with
    | 0 => exact ((hjoin (.party 1) w).bind fun _ => hjoin (.party 2) w) w .refl
    | 1 => exact .refl
    | _ + 2 => exact .refl
  dispatch _ _ _ := .refl
  after _ _ := .pure ()

/-- The one who invites has joined. -/
def invited : World Nat (List (Call Nat)) :=
  (World.first ⟨2⟩ []).setTransaction ⟨.ofNat 0⟩ ⟨.active, [.party 0]⟩

theorem asked_invited {ss : List (Synchronization Nat)} {m : World Nat (List (Call Nat))}
    (h : Asked (inviting ⟨.ofNat 0⟩) ⟨.ofNat 0⟩ invited ss m) :
    (ss = [] ∧ m = invited) ∨
      (ss = [.party 0] ∧ m = ((inviting ⟨.ofNat 0⟩).before? (.party 0) invited).2) := by
  induction h with
  | start => exact .inl ⟨rfl, rfl⟩
  | next hp hs hb ih =>
    obtain ⟨rfl, rfl⟩ | ⟨rfl, rfl⟩ := ih
    · cases hs
      exact .inr ⟨rfl, (congrArg Prod.snd hb).symm⟩
    · cases hs
      cases hb

theorem completion_protocol_invited :
    (inviting ⟨.ofNat 0⟩).Admitting ⟨.ofNat 0⟩ ∧
      (invited.transaction ⟨.ofNat 0⟩).status = .active ∧
      Completion (inviting ⟨.ofNat 0⟩) ⟨.ofNat 0⟩ invited := by
  refine ⟨inviting_admitting _, rfl, completion_protocol (inviting_admitting _) ?_ ?_⟩
  · intro asked s m ha hs
    obtain ⟨rfl, rfl⟩ | ⟨rfl, rfl⟩ := asked_invited ha
    · cases hs
      exact ⟨.ok (), _, rfl⟩
    · cases hs
      exact ⟨.error _, _, rfl⟩
  · intro asked m ha
    obtain ⟨rfl, rfl⟩ | ⟨rfl, rfl⟩ := asked_invited ha
    · decide
    · decide

end Transactor
