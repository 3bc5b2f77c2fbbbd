import Transactor.Proofs.Consent
import Transactor.Proofs.Protocol

namespace Transactor

open Relation

variable {P S : Type} {kept : Prop} {t : TransactionId} {u : UnitRef} {o : Outcome}
  {w m n v : World P S} {es fs : List (Call P)}

section Recruiting

variable [Chronicle S P]

/-- One thing that code may do while it is called back: enlist a participant in the unit, let
someone join the transaction, or do anything that leaves the transaction and the participants alone.
`kept` says that the registry's entry of the transaction is left to the transaction; then no second
unit of work can join it. -/
inductive Enlisting (kept : Prop) (t : TransactionId) (u : UnitRef) : World P S → World P S → Prop
  | enlist (p : P) (w : World P S) :
      Enlisting kept t u w (WorldAct.noting (.enlisted u p) (WorldAct.enlist u p) w).2
  | join {s : Synchronization P} (hs : s ≠ .unit u) (hk : kept → ∃ p, s = .party p)
      (w : World P S) :
      Enlisting kept t u w (WorldAct.noting (.joined t s) (WorldAct.synchronize t s) w).2
  | other {w v : World P S} {es : List (Call P)} (ht : v.transaction t = w.transaction t)
      (ho : (v.unit u).transaction = (w.unit u).transaction)
      (hu : (v.unit u).participants = (w.unit u).participants)
      (hc : (w.unit u).status = .completed → (v.unit u).status = .completed)
      (hb : kept → v.bound.get? t = w.bound.get? t) (hp : v.past = w.past ++ es)
      (hj : joinedTo t es = []) (hl : enlistedIn u es = []) : Enlisting kept t u w v

/-- Before it is completed, a transaction may also be marked. -/
inductive Preparing (kept : Prop) (t : TransactionId) (u : UnitRef) : World P S → World P S → Prop
  | enlisting {w v : World P S} (h : Enlisting kept t u w v) : Preparing kept t u w v
  | mark (w : World P S) :
      Preparing kept t u w (WorldAct.noting (.marked t) (WorldAct.markRollback t) w).2

/-- Since a world, some have enlisted in the unit, and some have joined its transaction. -/
structure Recruited (kept : Prop) (t : TransactionId) (u : UnitRef) (w : World P S)
    (es : List (Call P)) (v : World P S) : Prop where
  past : v.past = w.past ++ es
  owner : (v.unit u).transaction = (w.unit u).transaction
  participants : (v.unit u).participants = (w.unit u).participants ++ enlistedIn u es
  joined : ∀ s ∈ joinedTo t es, s ≠ .unit u ∧ (kept → ∃ p, s = .party p)
  bound : kept → v.bound.get? t = w.bound.get? t

namespace Recruited

theorem refl (kept : Prop) (t : TransactionId) (u : UnitRef) (w : World P S) :
    Recruited kept t u w [] w :=
  ⟨(List.append_nil _).symm, rfl, (List.append_nil _).symm, fun _ hs => (by cases hs), fun _ => rfl⟩

theorem trans (h : Recruited kept t u w es m) (g : Recruited kept t u m fs v) :
    Recruited kept t u w (es ++ fs) v where
  past := by rw [g.past, h.past, List.append_assoc]
  owner := g.owner.trans h.owner
  participants := by rw [g.participants, h.participants, enlistedIn_append, List.append_assoc]
  joined s hs := by
    rw [joinedTo_append] at hs
    obtain hs | hs := List.mem_append.mp hs
    · exact h.joined s hs
    · exact g.joined s hs
  bound hk := (g.bound hk).trans (h.bound hk)

theorem elsewhere (h : Recruited kept t u w es m) (ho : (v.unit u).transaction =
    (m.unit u).transaction) (hu : (v.unit u).participants = (m.unit u).participants)
    (hb : kept → v.bound.get? t = m.bound.get? t) (hp : v.past = m.past) :
    Recruited kept t u w es v :=
  ⟨hp.trans h.past, ho.trans h.owner, hu.trans h.participants, h.joined,
    fun hk => (hb hk).trans (h.bound hk)⟩

theorem setUnit (h : Recruited kept t u w es m) (x : UnitRef) (s : UnitStatus)
    (q : List Message) :
    Recruited kept t u w es (m.setUnit x { m.unit x with status := s, queue := q }) := by
  by_cases hx : u = x
  · subst hx
    exact h.elsewhere (by rw [World.unit_setUnit_self]) (by rw [World.unit_setUnit_self])
      (fun _ => rfl) rfl
  · exact h.elsewhere (by rw [World.unit_setUnit_of_ne _ _ hx])
      (by rw [World.unit_setUnit_of_ne _ _ hx]) (fun _ => rfl) rfl

theorem enlist (kept : Prop) (t : TransactionId) (u : UnitRef) (p : P) (w : World P S) :
    ∃ es, Recruited kept t u w es (WorldAct.noting (.enlisted u p) (WorldAct.enlist u p) w).2 ∧
      ((w.unit u).status = .completed → (WorldAct.noting (.enlisted u p) (WorldAct.enlist u p)
        w).2 = w ∧ es = []) := by
  by_cases hs : (w.unit u).status = .completed
  · rw [WorldAct.noting_error (WorldAct.enlist_closed w u hs)]
    exact ⟨[], refl kept t u w, fun _ => ⟨rfl, rfl⟩⟩
  · rw [WorldAct.noting_ok (WorldAct.enlist_open w u hs)]
    refine ⟨[.enlisted u p], ⟨?_, ?_, ?_, fun _ hj => (by cases hj), fun _ => rfl⟩,
      fun hc => absurd hc hs⟩
    · rw [World.past_note, World.past_setUnit]
    · rw [World.unit_note, World.unit_setUnit_self]
    · rw [World.unit_note, World.unit_setUnit_self, enlistedIn_enlisted]

theorem join {s : Synchronization P} (hs : s ≠ .unit u) (hk : kept → ∃ p, s = .party p)
    (w : World P S) : ∃ es, Recruited kept t u w es
      (WorldAct.noting (.joined t s) (WorldAct.synchronize t s) w).2 ∧ enlistedIn u es = [] := by
  cases ha : (w.transaction t).status.isActive with
  | false =>
    rw [WorldAct.noting_error (WorldAct.synchronize_closed w ha s)]
    exact ⟨[], refl kept t u w, rfl⟩
  | true =>
    rw [WorldAct.noting_ok (WorldAct.synchronize_open w ha s)]
    refine ⟨[.joined t s], ⟨?_, rfl, (List.append_nil _).symm, ?_, fun _ => rfl⟩, rfl⟩
    · rw [World.past_note, World.past_setTransaction]
    · intro r hr
      rw [joinedTo_joined] at hr
      obtain rfl := List.mem_singleton.mp hr
      exact ⟨hs, hk⟩

end Recruited

/-- Nobody enlists in a unit that is over, and it stays over. -/
theorem Enlisting.recruited (h : Enlisting kept t u w v) :
    ∃ es, Recruited kept t u w es v ∧
      ((w.unit u).status = .completed → (v.unit u).status = .completed ∧ enlistedIn u es = []) := by
  cases h with
  | enlist p w =>
    obtain ⟨es, he, hc⟩ := Recruited.enlist kept t u p w
    refine ⟨es, he, ?_⟩
    intro hs
    obtain ⟨hv, rfl⟩ := hc hs
    rw [hv]
    exact ⟨hs, rfl⟩
  | join hs hk w =>
    obtain ⟨es, he, hl⟩ := Recruited.join (u := u) hs hk w
    refine ⟨es, he, fun hc => ⟨?_, hl⟩⟩
    cases ha : (w.transaction t).status.isActive with
    | false =>
      rw [WorldAct.noting_error (WorldAct.synchronize_closed w ha _)]
      exact hc
    | true =>
      rw [WorldAct.noting_ok (WorldAct.synchronize_open w ha _)]
      exact hc
  | @other _ _ es ht ho hu hc hb hp hj hl =>
    refine ⟨es, ⟨hp, ho, ?_, ?_, hb⟩, fun hs => ⟨hc hs, hl⟩⟩
    · rw [hu, hl, List.append_nil]
    · intro s hs
      rw [hj] at hs
      cases hs

theorem Enlisting.joining (h : Enlisting kept t u w v) : Joining t w v := by
  cases h with
  | enlist p w =>
    by_cases hs : (w.unit u).status = .completed
    · rw [WorldAct.noting_error (WorldAct.enlist_closed w u hs)]
      have hp : w.past = w.past ++ [] := (List.append_nil _).symm
      exact .other rfl hp rfl
    · rw [WorldAct.noting_ok (WorldAct.enlist_open w u hs)]
      exact .other rfl (World.past_note (.enlisted u p) _) rfl
  | join hs hk w => exact .join _ w
  | other ht ho hu hc hb hp hj hl => exact .other ht hp hj

theorem Enlisting.joins (hs : ReflTransGen (Enlisting kept t u) w v) :
    ReflTransGen (Joining t) w v := ReflTransGen.mono (fun _ _ => Enlisting.joining) w v hs

/-- Some may have enlisted and joined since. -/
def Recruiting (kept : Prop) (t : TransactionId) (u : UnitRef) (w v : World P S) : Prop :=
  ∃ es, Recruited kept t u w es v

theorem Recruited.gathered (h : Recruited kept t u w es v) (hg : Gathering t w v) :
    Gathered t w es v := by
  obtain ⟨fs, hf⟩ := hg
  obtain rfl : fs = es := List.append_cancel_left (hf.past.symm.trans h.past)
  exact hf

theorem Recruiting.refl (kept : Prop) (t : TransactionId) (u : UnitRef) (w : World P S) :
    Recruiting kept t u w w := ⟨[], .refl kept t u w⟩

theorem Recruiting.step (h : Recruiting kept t u w m) (hs : Enlisting kept t u m v) :
    Recruiting kept t u w v := by
  obtain ⟨es, he⟩ := h
  obtain ⟨fs, hf, -⟩ := hs.recruited
  exact ⟨es ++ fs, he.trans hf⟩

/-- A unit that is over has not changed since but for what it holds. -/
structure Resting (kept : Prop) (t : TransactionId) (u : UnitRef) (w v : World P S) : Prop where
  status : (v.unit u).status = .completed
  recruited : ∃ es, Recruited kept t u w es v ∧ enlistedIn u es = []

namespace Resting

theorem refl (hc : (w.unit u).status = .completed) : Resting kept t u w w :=
  ⟨hc, [], .refl kept t u w, rfl⟩

theorem trans (h : Resting kept t u w m) (g : Resting kept t u m v) : Resting kept t u w v := by
  obtain ⟨es, he, hes⟩ := h.recruited
  obtain ⟨fs, hf, hfs⟩ := g.recruited
  refine ⟨g.status, es ++ fs, he.trans hf, ?_⟩
  rw [enlistedIn_append, hes, hfs, List.append_nil]

theorem step (h : Resting kept t u w m) (hs : Enlisting kept t u m v) : Resting kept t u w v := by
  obtain ⟨fs, hf, hc⟩ := hs.recruited
  obtain ⟨hv, hfs⟩ := hc h.status
  exact h.trans ⟨hv, fs, hf, hfs⟩

theorem elsewhere (h : Resting kept t u w m) (hu : v.unit u = m.unit u)
    (hb : kept → v.bound.get? t = m.bound.get? t) (hp : v.past = m.past) :
    Resting kept t u w v := by
  obtain ⟨es, he, hes⟩ := h.recruited
  refine ⟨by rw [hu, h.status], es, he.elsewhere ?_ ?_ hb hp, hes⟩
  · rw [hu]
  · rw [hu]

end Resting

/-- A host whose code enlists participants and lets others join, and returns when it is told an
outcome. -/
structure Host.Recruiting (h : Host P S) (kept : Prop) (t : TransactionId) (u : UnitRef) : Prop
    where
  before : ∀ p w, ReflTransGen (Enlisting kept t u) w (h.before p w).2
  dispatch : ∀ batch x w, ReflTransGen (Enlisting kept t u) w (h.dispatch batch x w).2
  after : ∀ p o, (h.after p o).Within (Enlisting kept t u)

variable {h : Host P S}

theorem Host.Recruiting.admitting (hh : h.Recruiting kept t u) : h.Admitting t where
  before p w := Enlisting.joins (hh.before p w)
  dispatch batch x w := Enlisting.joins (hh.dispatch batch x w)
  after p o := ⟨fun w => Enlisting.joins ((hh.after p o).steps w), (hh.after p o).ends⟩

theorem Host.Recruiting.before_keeps (hh : h.Recruiting kept t u) (w : World P S) (p : P) :
    (h.before p).Keeps (Transactor.Recruiting kept t u w) := fun m hm =>
  Task.keeps_of_steps (fun _ _ hs hr => hr.step hs) (hh.before p m) hm

theorem Host.Recruiting.before? (hh : h.Recruiting kept t u) (w : World P S)
    (s : Synchronization P) : (h.before? s).Keeps (Transactor.Recruiting kept t u w) := by
  apply Host.before?_keeps_of_unit
  · exact fun m e ⟨es, he⟩ => ⟨es, he.elsewhere rfl rfl (fun _ => rfl) rfl⟩
  · exact fun m x s q ⟨es, he⟩ => ⟨es, he.setUnit x s q⟩
  · exact hh.before_keeps w
  · exact fun x _ batch m hm =>
      Task.keeps_of_steps (fun _ _ hs hr => hr.step hs) (hh.dispatch batch x m) hm

/-- Whoever else is told: what hangs on the unit's participants is kept. -/
theorem Host.Recruiting.after? {I : World P S → Prop} (hh : h.Recruiting kept t u) {o : Outcome}
    {s : Synchronization P} (hs : s ≠ .unit u) (hk : kept → ∃ p, s = .party p)
    (hstep : ∀ m v, Enlisting kept t u m v → I m → I v)
    (helse : ∀ m v : World P S, v.unit u = m.unit u → (kept → v.bound.get? t = m.bound.get? t) →
      v.past = m.past → I m → I v) : (h.after? o s).Keeps I := by
  have hafter (p : P) : (h.after p o).Keeps I := (hh.after p o).keeps hstep
  cases s with
  | party p => exact hafter p
  | unit x =>
    have hx : u ≠ x := fun he => hs (congrArg _ he.symm)
    have hfree : ¬ kept := fun hkept => by cases (hk hkept).choose_spec
    apply Host.after_unit_keeps
    · exact fun m y => helse m _ (World.unit_setUnit_of_ne m y hx) (fun _ => rfl) rfl
    · exact fun m es => helse m _ rfl (fun _ => rfl) rfl
    · exact fun m b => helse m _ rfl (fun hkept => absurd hkept hfree) rfl
    · exact hafter

theorem Host.Recruiting.after?_recruiting (hh : h.Recruiting kept t u) (w : World P S)
    {s : Synchronization P} (hs : s ≠ .unit u) (hk : kept → ∃ p, s = .party p) :
    (h.after? o s).Keeps (Transactor.Recruiting kept t u w) := by
  apply hh.after? (I := Transactor.Recruiting kept t u w) hs hk
  · exact fun _ _ hs hr => hr.step hs
  · rintro m v hu hb hp ⟨es, he⟩
    exact ⟨es, he.elsewhere (by rw [hu]) (by rw [hu]) hb hp⟩

theorem Host.Recruiting.after?_resting (hh : h.Recruiting kept t u) (w : World P S)
    {s : Synchronization P} (hs : s ≠ .unit u) (hk : kept → ∃ p, s = .party p) :
    (h.after? o s).Keeps (Resting kept t u w) := by
  apply hh.after? (I := Resting kept t u w) hs hk
  · exact fun _ _ hs hr => hr.step hs
  · exact fun _ _ hu hb hp hr => hr.elsewhere hu hb hp

omit [Chronicle S P] in
theorem Told.keeps {I : World P S → Prop} {ss : List (Synchronization P)}
    (ht : Told h t o w ss v) (hI : ∀ s ∈ ss, (h.after? o s).Keeps I) (hw : I w) : I v := by
  induction ht with
  | done => exact hw
  | @next s ss w m v hc ha _ ih =>
    have hm := hI s List.mem_cons_self w hw
    rw [ha] at hm
    exact ih (fun s hs => hI s (List.mem_cons_of_mem _ hs)) hm

end Recruiting

/-- How far the pass over those who joined comes with the unit, and which of its participants are
asked. Before the unit come `pre`. One of them may refuse; else the unit is asked, and if it agrees
the pass goes on without asking it again. -/
inductive Consulted (h : Host P S) (t : TransactionId) (u : UnitRef) (w : World P S)
    (pre : List (Synchronization P)) :
    List (Synchronization P) → Except UnitOfWorkError Unit → List P → Prop
  | short {ss : List (Synchronization P)} {e : UnitOfWorkError} (hs : ss <+: pre) :
      Consulted h t u w pre ss (.error e) []
  | refused {asked : List P} {m n : World P S} {e : UnitOfWorkError} (ha : Asked h t w pre m)
      (hc : Canvassed h u m asked (.error e) n) :
      Consulted h t u w pre (pre ++ [.unit u]) (.error e) asked
  | passed {asked : List P} {m n : World P S} {rest : List (Synchronization P)}
      {answer : Except UnitOfWorkError Unit} (ha : Asked h t w pre m)
      (hc : Canvassed h u m asked (.ok ()) n) (hr : .unit u ∉ rest) :
      Consulted h t u w pre (pre ++ .unit u :: rest) answer asked

/-- A unit that is over refuses whoever enlists and whatever is registered. -/
structure Refusing (u : UnitRef) (w : World P S) : Prop where
  status : (w.unit u).status = .completed
  register : ∀ r, WorldAct.register u r w = (.error (.closed (w.unit u).transaction), w)
  enlist : ∀ p, WorldAct.enlist u p w = (.error (.closed (w.unit u).transaction), w)

theorem refusing_of_completed (hc : (w.unit u).status = .completed) : Refusing u w where
  status := hc
  register r := WorldAct.register_closed w u (by rw [hc]; rfl)
  enlist p := WorldAct.enlist_closed w u hc

/-- All of these participants are told, one after another. Each finds the transaction ended with the
outcome that it is told, the unit over, and the registry's entry still there. -/
inductive Informed (kept : Prop) (h : Host P S) (t : TransactionId) (u : UnitRef) (o : Outcome) :
    World P S → List P → World P S → Prop
  | done (w : World P S) : Informed kept h t u o w [] w
  | next {p : P} {ps : List P} {w m v : World P S}
      (ht : (w.transaction t).status = .completed o) (hu : Refusing u w)
      (hk : kept → w.bound.get? t = some u) (ha : h.after p o w = (.done (), m))
      (hs : Informed kept h t u o m ps v) : Informed kept h t u o w (p :: ps) v

/-- What a unit does when it is told an outcome: it ends, then it tells all of its participants, and
after the last of them the registry lets go of it. -/
inductive Disbanded [Chronicle S P] (kept : Prop) (h : Host P S) (t : TransactionId) (u : UnitRef)
    (o : Outcome) (w : World P S) (ps : List P) : World P S → Prop
  | intro {m n : World P S} (hu : m.unit u = (w.unit u).clearParticipants.discard)
      (hp : m.past = w.past) (hi : Informed kept h t u o m ps n)
      (hk : kept → n.bound.get? t = some u)
      (ha : h.after? o (.unit u) w = (.done (), (Host.release (ε := Empty) t n).2)) :
      Disbanded kept h t u o w ps (Host.release (ε := Empty) t n).2

/-- All who joined a transaction are told its outcome, and the unit among them, which has the
participants `ps`. -/
structure Discharged [Chronicle S P] (kept : Prop) (h : Host P S) (t : TransactionId) (u : UnitRef)
    (o : Outcome) (w : World P S) (pre : List (Synchronization P)) (ps : List P)
    (rest : List (Synchronization P)) (v : World P S) : Prop where
  told : ∃ m n, Told h t o (w.ending t o) pre m ∧ Disbanded kept h t u o m ps n ∧
    Told h t o n rest v
  status : (v.transaction t).status = .completed o
  refusing : Refusing u v
  released : kept → v.bound.get? t = none

section Lists

variable {α : Type} {xs ys zs : List α} {x y : α}

theorem notMem_snoc (h : x ∉ xs) (hy : y ≠ x) : x ∉ xs ++ [y] := fun hm =>
  (List.mem_append.mp hm).elim h fun hx => hy (List.mem_singleton.mp hx).symm

theorem isPrefix_snoc_or (h : xs <+: ys) (hy : (ys ++ x :: zs)[xs.length]? = some y) :
    xs ++ [y] <+: ys ∨ xs = ys ∧ x = y := by
  obtain hlt | hle := Nat.lt_or_ge xs.length ys.length
  · rw [List.getElem?_append_left hlt] at hy
    exact .inl (isPrefix_snoc h hy)
  · obtain rfl := h.eq_of_length_le hle
    rw [List.getElem?_append_right (Nat.le_refl _), Nat.sub_self] at hy
    exact .inr ⟨rfl, Option.some.inj hy⟩

theorem ne_of_getElem?_after {rest : List α} (hys : x ∉ ys) (hzs : x ∉ zs)
    (hy : (ys ++ x :: zs)[(ys ++ x :: rest).length]? = some y) : y ≠ x := by
  rintro rfl
  have hl := eq_length_of_getElem? hys hzs hy
  rw [List.length_append, List.length_cons] at hl
  omega

end Lists

section Pass

variable [Chronicle S P] {h : Host P S} (hh : h.Recruiting kept t u)

include hh

theorem before_isPrefix {ps : List P} {s : Synchronization P} {r : Exit UnitOfWorkError Unit}
    (hps : ps <+: (m.unit u).participants) (hb : h.before? s m = (r, v)) :
    ps <+: (v.unit u).participants := by
  have hk := hh.before? m s m (.refl kept t u m)
  rw [hb] at hk
  obtain ⟨es, he⟩ := hk
  rw [he.participants]
  exact hps.trans (List.prefix_append ..)

theorem Host.Recruiting.before_grows (p : P) (ps : List P) :
    (h.before p).Keeps fun w => ps <+: (w.unit u).participants := fun _ hps =>
  before_isPrefix (s := .party p) hh hps rfl

theorem Asked.recruited {ss : List (Synchronization P)} (ha : Asked h t w ss m) :
    ∃ es, Recruited kept t u w es m ∧ Gathered t w es m := by
  have hr : Recruiting kept t u w m := by
    induction ha with
    | start => exact .refl kept t u w
    | @next ss s m v hp hs hb ih =>
      have hk := hh.before? w s m ih
      rwa [hb] at hk
  obtain ⟨es, he⟩ := hr
  exact ⟨es, he, he.gathered (ha.gathering hh.admitting)⟩

variable {pre post ss : List (Synchronization P)}
  (hsyncs : (w.transaction t).synchronizations = pre ++ .unit u :: post)
  (hpre : .unit u ∉ pre) (hpost : .unit u ∉ post)

include hsyncs hpost

theorem Asked.synchronizations (ha : Asked h t w ss m) :
    ∃ rest, (m.transaction t).synchronizations = pre ++ .unit u :: rest ∧ .unit u ∉ rest := by
  obtain ⟨es, he, hg⟩ := ha.recruited hh
  refine ⟨post ++ joinedTo t es, ?_, ?_⟩
  · rw [hg.synchronizations, hsyncs, List.append_assoc, List.cons_append]
  · intro hm
    obtain hm | hm := List.mem_append.mp hm
    · exact hpost hm
    · exact (he.joined _ hm).1 rfl

include hpre

/-- Where the pass stands with the unit as long as all agree. -/
theorem Asked.reached (ha : Asked h t w ss m) : ss <+: pre ∨
    ∃ rest asked d n, ss = pre ++ .unit u :: rest ∧ .unit u ∉ rest ∧ Asked h t w pre d ∧
      Canvassed h u d asked (.ok ()) n ∧ asked <+: (m.unit u).participants := by
  induction ha with
  | start => exact .inl List.nil_prefix
  | @next ss s m v hp hs hb ih =>
    obtain ⟨joined, hm, hjoined⟩ := hp.synchronizations hh hsyncs hpost
    rw [hm] at hs
    rcases ih with hss | ⟨rest, asked, d, n, rfl, hrest, hd, hc, hasked⟩
    · obtain hss | ⟨rfl, rfl⟩ := isPrefix_snoc_or hss hs
      · exact .inl hss
      · have hok : h.before? (.unit u) m = (.ofExcept (.ok ()), v) := hb
        obtain ⟨asked, hc, hasked⟩ := before_canvassed (hh.before_grows) hok
        exact .inr ⟨[], asked, m, v, rfl, fun h => (by cases h), hp, hc, hasked⟩
    · have hne := ne_of_getElem?_after hpre hjoined hs
      refine .inr ⟨rest ++ [s], asked, d, n, ?_, ?_, hd, hc, before_isPrefix hh hasked hb⟩
      · rw [List.append_assoc, List.cons_append]
      · exact notMem_snoc hrest hne

/-- Whatever the pass answers, the participants that it has asked enlisted first. -/
theorem Answered.consulted {answer : Except UnitOfWorkError Unit}
    (ha : Answered h t w ss answer m) :
    ∃ asked, Consulted h t u w pre ss answer asked ∧ asked <+: (m.unit u).participants := by
  cases ha with
  | agreed hp hs =>
    obtain ⟨joined, hm, -⟩ := hp.synchronizations hh hsyncs hpost
    obtain hss | ⟨rest, asked, d, n, rfl, hrest, hd, hc, hasked⟩ :=
      hp.reached hh hsyncs hpre hpost
    · -- all have been asked, and the unit is one of them
      have hl := hss.length_le
      rw [← hs, hm, List.length_append, List.length_cons] at hl
      omega
    · exact ⟨asked, .passed hd hc hrest, hasked⟩
  | @refused ss s d m e hp hs hb =>
    obtain ⟨joined, hd, hjoined⟩ := hp.synchronizations hh hsyncs hpost
    rw [hd] at hs
    obtain hss | ⟨rest, asked, d', n, rfl, hrest, hd', hc, hasked⟩ :=
      hp.reached hh hsyncs hpre hpost
    · obtain hss | ⟨rfl, rfl⟩ := isPrefix_snoc_or hss hs
      · exact ⟨[], .short hss, List.nil_prefix⟩
      · have herror : h.before? (.unit u) d = (.ofExcept (.error e), m) := hb
        obtain ⟨asked, hc, hasked⟩ := before_canvassed (hh.before_grows) herror
        exact ⟨asked, .refused hp hc, hasked⟩
    · have hne := ne_of_getElem?_after hpre hjoined hs
      have hasked' := before_isPrefix hh hasked hb
      refine ⟨asked, ?_, hasked'⟩
      rw [List.append_assoc, List.cons_append]
      exact .passed hd' hc (notMem_snoc hrest hne)

end Pass

theorem Told.split {h : Host P S} {pre rest : List (Synchronization P)} {s : Synchronization P}
    (ht : Told h t o w (pre ++ s :: rest) v) : ∃ m n, Told h t o w pre m ∧
      (m.transaction t).status = .completed o ∧ h.after? o s m = (.done (), n) ∧
      Told h t o n rest v := by
  induction pre generalizing w with
  | nil =>
    cases ht with
    | next hc ha hs => exact ⟨_, _, .done _, hc, ha, hs⟩
  | cons r pre ih =>
    cases ht with
    | next hc ha hs =>
      obtain ⟨m, n, hm, hcm, hn, hv⟩ := ih hs
      exact ⟨m, n, .next hc ha hm, hcm, hn, hv⟩

section Tell

variable [Chronicle S P] {h : Host P S} (hh : h.Recruiting kept t u)

include hh

theorem Notified.informed {ps : List P} (hn : Notified h o m ps v)
    (ht : (m.transaction t).status = .completed o) (hu : (m.unit u).status = .completed)
    (hk : kept → m.bound.get? t = some u) :
    Informed kept h t u o m ps v ∧ Resting kept t u m v := by
  induction hn with
  | done m => exact ⟨.done m, .refl hu⟩
  | @next p ps m n v ha _ ih =>
    have hr : Resting kept t u m (h.after p o m).2 :=
      (hh.after p o).keeps (fun _ _ hs hr => Resting.step hr hs) m (.refl hu)
    have hg : Gathering t m (h.after p o m).2 := hh.admitting.after? o (.party p) m (.refl t m)
    rw [ha] at hr hg
    obtain ⟨es, he, -⟩ := hr.recruited
    obtain ⟨_, hg⟩ := hg
    obtain ⟨hi, hr'⟩ := ih (hg.status.trans ht) hr.status
      fun hkept => (he.bound hkept).trans (hk hkept)
    exact ⟨.next ht (refusing_of_completed hu) hk ha hi, hr.trans hr'⟩

theorem after_unit_disbanded (howner : (m.unit u).transaction = t)
    (ht : (m.transaction t).status = .completed o) (hk : kept → m.bound.get? t = some u)
    (hv : h.after? o (.unit u) m = (.done (), v)) :
    Disbanded kept h t u o m (m.unit u).participants v ∧ (v.unit u).status = .completed ∧
      v.bound.get? t = none ∧ ∃ es, v.past = m.past ++ es ∧ enlistedIn u es = [] := by
  obtain ⟨log, hiff⟩ := after?_unit_iff h u o m
  obtain ⟨n, hn, rfl⟩ := (hiff v).mp hv
  rw [howner] at hv ⊢
  have hu : ({ Host.closing u m with trace := log } : World P S).unit u =
      (m.unit u).clearParticipants.discard := Host.unit_closing_self u m
  have hover : (({ Host.closing u m with trace := log } : World P S).unit u).status =
      .completed := by
    rw [hu]
    rfl
  obtain ⟨hi, hr⟩ := hn.informed hh ht hover hk
  obtain ⟨es, he, hes⟩ := hr.recruited
  obtain ⟨bound, trace, hrelease⟩ := Host.release_state t (ε := Empty) n
  refine ⟨.intro hu rfl hi (fun hkept => (he.bound hkept).trans (hk hkept)) hv, ?_,
    ?_, es, ?_, hes⟩
  · rw [hrelease]
    exact hr.status
  · rw [Host.release_get?, if_pos rfl]
  · rw [hrelease]
    exact he.past

/-- Whoever is told before the unit may still enlist; nobody does afterwards. -/
theorem Told.discharged {pre rest : List (Synchronization P)} {d : World P S}
    (howner : (d.unit u).transaction = t) (hkept : kept → d.bound.get? t = some u)
    (hothers : ∀ s ∈ pre ++ rest, s ≠ .unit u ∧ (kept → ∃ p, s = .party p))
    (hstatus : (v.transaction t).status = .completed o)
    (ht : Told h t o (d.ending t o) (pre ++ .unit u :: rest) v) :
    ∃ fs, v.past = d.past ++ fs ∧
      Discharged kept h t u o d pre ((d.unit u).participants ++ enlistedIn u fs) rest v := by
  obtain ⟨m, n, hm, hc, hn, hv⟩ := ht.split
  have hrm : Recruiting kept t u (d.ending t o) m := by
    apply hm.keeps _ (.refl kept t u _)
    intro s hs
    obtain ⟨hne, hk⟩ := hothers s (List.mem_append_left _ hs)
    exact hh.after?_recruiting _ hne hk
  obtain ⟨es, he⟩ := hrm
  have hparticipants : (m.unit u).participants = (d.unit u).participants ++ enlistedIn u es :=
    he.participants
  obtain ⟨hd, hover, hreleased, fs, hf, hfs⟩ := after_unit_disbanded hh (he.owner.trans howner) hc
    (fun hk => (he.bound hk).trans (hkept hk)) hn
  have hrv : Resting kept t u n v := by
    apply hv.keeps _ (.refl hover)
    intro s hs
    obtain ⟨hne, hk⟩ := hothers s (List.mem_append_right _ hs)
    exact hh.after?_resting _ hne hk
  obtain ⟨gs, hg, hgs⟩ := hrv.recruited
  have hpast : m.past = d.past ++ es := he.past
  refine ⟨es ++ fs ++ gs, ?_, ⟨⟨m, n, hm, ?_, hv⟩, hstatus, refusing_of_completed hrv.status, ?_⟩⟩
  · rw [hg.past, hf, hpast, List.append_assoc, List.append_assoc, List.append_assoc]
  · rw [enlistedIn_append, enlistedIn_append, hfs, hgs, List.append_nil, List.append_nil,
      ← hparticipants]
    exact hd
  · exact fun hk => (hg.bound hk).trans hreleased

end Tell

section Settlement

variable [Chronicle S P] {h : Host P S} {w₀ w₁ : World P S} {early : List (Call P)}
  {pre post : List (Synchronization P)}

/-- An open transaction is prepared until it is completed: some enlist in its unit, some join it,
and it may be marked. -/
structure Prepared (kept : Prop) (t : TransactionId) (u : UnitRef) (w : World P S)
    (es : List (Call P)) (v : World P S) : Prop extends Recruited kept t u w es v where
  isActive : (v.transaction t).status.isActive = true
  synchronizations : (v.transaction t).synchronizations =
    (w.transaction t).synchronizations ++ joinedTo t es

theorem Prepared.step (h : Prepared kept t u w es m) (hs : Preparing kept t u m v) :
    ∃ fs, Prepared kept t u w fs v := by
  cases hs with
  | enlisting hs =>
    obtain ⟨fs, hf, -⟩ := hs.recruited
    have hg : Gathered t m fs v := hf.gathered (Gathered.step (.refl t m) hs.joining)
    refine ⟨es ++ fs, h.toRecruited.trans hf, ?_, ?_⟩
    · rw [hg.status, h.isActive]
    · rw [hg.synchronizations, h.synchronizations, joinedTo_append, List.append_assoc]
  | mark =>
    rw [WorldAct.noting_ok (WorldAct.markRollback_open m h.isActive)]
    have hm : Recruited kept t u m [.marked t] ((m.setTransaction t
        { m.transaction t with status := .markedRollback }).note (.marked t)) :=
      ⟨by rw [World.past_note, World.past_setTransaction], rfl, (List.append_nil _).symm,
        fun _ hs => (by cases hs), fun _ => rfl⟩
    refine ⟨es ++ [.marked t], h.toRecruited.trans hm, ?_, ?_⟩
    · rw [World.transaction_note, World.transaction_setTransaction_self]
      rfl
    · have hnone : joinedTo t [(.marked t : Call P)] = [] := rfl
      rw [World.transaction_note, World.transaction_setTransaction_self, h.synchronizations,
        joinedTo_append, hnone, List.append_nil]

theorem prepared_of_steps (ha : (w.transaction t).status.isActive = true)
    (hs : ReflTransGen (Preparing kept t u) w v) : ∃ es, Prepared kept t u w es v := by
  induction hs with
  | refl => exact ⟨[], .refl kept t u w, ha, (List.append_nil _).symm⟩
  | tail _ hs ih =>
    obtain ⟨es, he⟩ := ih
    exact he.step hs

/-- How a transaction settles with the participants of its unit. `early` are the calls before its
completion, from a world `w₀` on in which the unit has joined after `pre`, and before `post`. -/
structure Settlement (kept : Prop) (h : Host P S) (t : TransactionId) (u : UnitRef)
    (w₀ : World P S) (pre post : List (Synchronization P)) (early : List (Call P))
    (w : World P S) : Prop where
  past : w.past = w₀.past ++ early
  isActive : (w.transaction t).status.isActive = true
  /-- Asked are the first of all accepted participants, and told are all of them. -/
  commit_active : (w.transaction t).status = .active → ∀ result v,
    h.commit t w = (.ofExcept result, v) → ∃ ss answer d asked late,
      result = answer.mapError (.rolledBackBy t) ∧ v.past = w.past ++ late ∧
        Answered h t w ss answer d ∧ Consulted h t u w pre ss answer asked ∧
        asked <+: (w₀.unit u).participants ++ enlistedIn u (early ++ late) ∧
        Discharged kept h t u (.ofAnswer answer) d pre
          ((w₀.unit u).participants ++ enlistedIn u (early ++ late))
          (post ++ joinedTo t (early ++ late)) v
  commit_marked : (w.transaction t).status = .markedRollback → ∃ v late,
    h.commit t w = (.failed (.rolledBack t), v) ∧ v.past = w.past ++ late ∧
      Discharged kept h t u .rolledBack w pre
        ((w₀.unit u).participants ++ enlistedIn u (early ++ late))
        (post ++ joinedTo t (early ++ late)) v
  rollback : ∃ v late, h.rollback t w = (.done (), v) ∧ v.past = w.past ++ late ∧
    Discharged kept h t u .rolledBack w pre
      ((w₀.unit u).participants ++ enlistedIn u (early ++ late))
      (post ++ joinedTo t (early ++ late)) v

theorem Answered.recruited (hh : h.Recruiting kept t u) {ss : List (Synchronization P)}
    {answer : Except UnitOfWorkError Unit} (ha : Answered h t w ss answer m) :
    ∃ es, Recruited kept t u w es m ∧ Gathered t w es m := by
  obtain ⟨gs, hg, -, -⟩ := ha.gathered hh.admitting
  cases ha with
  | agreed hp hs => exact hp.recruited hh
  | @refused ss s d m e hp hs hb =>
    obtain ⟨es, he, -⟩ := hp.recruited hh
    have hk := hh.before? w s d ⟨es, he⟩
    rw [hb] at hk
    obtain ⟨fs, hf⟩ := hk
    have hr := hf.elsewhere (v := m.record (.beforeCompletionFailed t e.message)) rfl rfl
      (fun _ => rfl) rfl
    exact ⟨fs, hr, hr.gathered ⟨gs, hg⟩⟩

section Complete

variable (hsyncs : (w₀.transaction t).synchronizations = pre ++ .unit u :: post)
  (hpre : .unit u ∉ pre) (hpost : .unit u ∉ post)
  (hkept : kept → w₀.bound.get? t = some u ∧ ∀ s ∈ pre ++ post, ∃ p, s = .party p)
  (hp : Prepared kept t u w₀ early w₁)

include hpre hpost hkept hp

theorem Recruited.others {d : World P S} (hr : Recruited kept t u w₁ es d)
    {s : Synchronization P} (hs : s ∈ pre ++ (post ++ joinedTo t (early ++ es))) :
    s ≠ .unit u ∧ (kept → ∃ p, s = .party p) := by
  rw [← List.append_assoc] at hs
  obtain hs | hs := List.mem_append.mp hs
  · refine ⟨?_, fun hk => (hkept hk).2 s hs⟩
    rintro rfl
    exact (List.mem_append.mp hs).elim hpre hpost
  · exact (hp.toRecruited.trans hr).joined s hs

include hsyncs

theorem Recruited.discharged {d : World P S} (hh : h.Recruiting kept t u)
    (howner : (w₀.unit u).transaction = t) (hr : Recruited kept t u w₁ es d)
    (hg : Gathered t w₁ es d) (o : Outcome) : ∃ fs v, h.complete t o d = (.done (), v) ∧
      v.past = w₁.past ++ (es ++ fs) ∧
      Discharged kept h t u o d pre
        ((w₀.unit u).participants ++ enlistedIn u (early ++ (es ++ fs)))
        (post ++ joinedTo t (early ++ (es ++ fs))) v := by
  obtain ⟨gs, v, hv, ht, hpast, hnone, hstatus⟩ := complete_told hh.admitting o d
  have hall := hp.toRecruited.trans hr
  have hd : (d.transaction t).synchronizations =
      pre ++ .unit u :: (post ++ joinedTo t (early ++ es)) := by
    rw [hg.synchronizations, hp.synchronizations, hsyncs, joinedTo_append]
    simp only [List.append_assoc, List.cons_append]
  rw [hd] at ht
  obtain ⟨fs, hfs, hdis⟩ := ht.discharged hh (hall.owner.trans howner)
    (fun hk => (hall.bound hk).trans (hkept hk).1)
    (fun s hs => hr.others hpre hpost hkept hp hs) hstatus
  obtain rfl : gs = fs := List.append_cancel_left (hpast.symm.trans hfs)
  refine ⟨gs, v, hv, ?_, ?_⟩
  · rw [hpast, hr.past, List.append_assoc]
  · rw [hall.participants, List.append_assoc, ← enlistedIn_append, List.append_assoc] at hdis
    rw [← List.append_assoc, joinedTo_append _ _ gs, hnone, List.append_nil, List.append_assoc]
    exact hdis

end Complete

/-- Whoever has enlisted in the unit of a managed transaction when its completion begins, and
whoever enlists meanwhile: however the transaction ends, it settles with each of them once. -/
theorem participants_settled (hh : h.Recruiting kept t u)
    (hopen : (w₀.transaction t).status.isActive = true)
    (hsyncs : (w₀.transaction t).synchronizations = pre ++ .unit u :: post)
    (hpre : .unit u ∉ pre) (hpost : .unit u ∉ post) (howner : (w₀.unit u).transaction = t)
    (hkept : kept → w₀.bound.get? t = some u ∧ ∀ s ∈ pre ++ post, ∃ p, s = .party p)
    (hrun : ReflTransGen (Preparing kept t u) w₀ w₁) :
    ∃ early, Settlement kept h t u w₀ pre post early w₁ := by
  obtain ⟨early, hp⟩ := prepared_of_steps hopen hrun
  refine ⟨early, hp.past, hp.isActive, ?_, ?_, ?_⟩
  · intro ha result v hv
    obtain ⟨answer, d, hd, hresult, hv⟩ := commit_answered ha hv
    obtain ⟨ss, hans⟩ := askAll_answered hh.admitting .start hd
    obtain ⟨es, hr, hg⟩ := hans.recruited hh
    obtain ⟨fs, v', hv', hpast, hdis⟩ :=
      hr.discharged hsyncs hpre hpost hkept hp hh howner hg (.ofAnswer answer)
    obtain rfl : v = v' := (Prod.mk.inj (hv.symm.trans hv')).2
    have hsyncs₁ : (w₁.transaction t).synchronizations =
        pre ++ .unit u :: (post ++ joinedTo t early) := by
      rw [hp.synchronizations, hsyncs, List.append_assoc, List.cons_append]
    have hpost₁ : .unit u ∉ post ++ joinedTo t early := fun hm =>
      (List.mem_append.mp hm).elim hpost fun hm => (hp.joined _ hm).1 rfl
    obtain ⟨asked, hc, hasked⟩ := hans.consulted hh hsyncs₁ hpre hpost₁
    refine ⟨ss, answer, _, asked, es ++ fs, hresult, hpast, hans, hc, ?_, hdis⟩
    rw [(hp.toRecruited.trans hr).participants] at hasked
    apply hasked.trans
    rw [← List.append_assoc early es fs, enlistedIn_append u (early ++ es) fs, ← List.append_assoc]
    exact List.prefix_append ..
  · intro hm
    obtain ⟨fs, v, hv, hpast, hdis⟩ :=
      (Recruited.refl kept t u w₁).discharged hsyncs hpre hpost hkept hp hh howner (.refl t w₁)
        .rolledBack
    exact ⟨v, fs, Host.commit_marked h t hm hv, hpast, hdis⟩
  · obtain ⟨fs, v, hv, hpast, hdis⟩ :=
      (Recruited.refl kept t u w₁).discharged hsyncs hpre hpost hkept hp hh howner (.refl t w₁)
        .rolledBack
    exact ⟨v, fs, Host.rollback_open h t hp.isActive hv, hpast, hdis⟩

end Settlement

theorem crowding_recruiting : crowding.Recruiting True soleTransaction soleUnit where
  before p w := by
    match p with
    | 0 => exact .single (.enlist 1 w)
    | 1 => exact .refl
    | _ + 2 => exact .refl
  dispatch _ _ _ := .refl
  after _ _ := .pure ()

/-- Party 0, which will bring in another one, has enlisted. -/
def staffed : World Nat (List (Call Nat)) :=
  (WorldAct.noting (.enlisted soleUnit 0) (WorldAct.enlist soleUnit 0) attached).2

theorem participants_settled_crowding :
    crowding.Recruiting True soleTransaction soleUnit ∧
      (attached.transaction soleTransaction).status.isActive = true ∧
      (attached.transaction soleTransaction).synchronizations = [] ++ .unit soleUnit :: [] ∧
      .unit soleUnit ∉ ([] : List (Synchronization Nat)) ∧
      (attached.unit soleUnit).transaction = soleTransaction ∧
      (True → attached.bound.get? soleTransaction = some soleUnit ∧
        ∀ s ∈ ([] ++ [] : List (Synchronization Nat)), ∃ p, s = .party p) ∧
      ReflTransGen (Preparing True soleTransaction soleUnit) attached staffed ∧
      (∃ early, Settlement True crowding soleTransaction soleUnit attached [] [] early staffed) ∧
      (∃ d, Canvassed crowding soleUnit staffed [0, 1] (.error (.closed soleTransaction)) d) ∧
      ∃ d v, crowding.commit soleTransaction staffed =
          (.failed (.rolledBackBy soleTransaction (.closed soleTransaction)), v) ∧
        Discharged True crowding soleTransaction soleUnit .rolledBack d [] [0, 1] [] v := by
  have hopen : (attached.transaction soleTransaction).status.isActive = true := rfl
  have hsyncs : (attached.transaction soleTransaction).synchronizations =
      [] ++ .unit soleUnit :: [] := rfl
  have hnone : .unit soleUnit ∉ ([] : List (Synchronization Nat)) := fun h => by cases h
  have howner : (attached.unit soleUnit).transaction = soleTransaction := rfl
  have hkept : True → attached.bound.get? soleTransaction = some soleUnit ∧
      ∀ s ∈ ([] ++ [] : List (Synchronization Nat)), ∃ p, s = .party p :=
    fun _ => ⟨rfl, fun s hs => by cases hs⟩
  have hrun : ReflTransGen (Preparing True soleTransaction soleUnit) attached staffed :=
    .single (.enlisting (.enlist 0 attached))
  have hsettled := participants_settled crowding_recruiting hopen hsyncs hnone hnone howner hkept
    hrun
  refine ⟨crowding_recruiting, hopen, hsyncs, hnone, howner, hkept, hrun, hsettled, ?_, ?_⟩
  · let drained := (crowding.drain soleUnit staffed).2
    have hagreed : crowding.before 0 drained = (.done (), (crowding.before 0 drained).2) := rfl
    have hfirst : Polled crowding soleUnit drained [0] (crowding.before 0 drained).2 :=
      .next .start rfl hagreed
    exact ⟨_, .refused rfl hfirst rfl rfl⟩
  · obtain ⟨early, hs⟩ := hsettled
    have hcommit : crowding.commit soleTransaction staffed =
        (.ofExcept (.error (.rolledBackBy soleTransaction (.closed soleTransaction))),
          (crowding.commit soleTransaction staffed).2) := rfl
    obtain ⟨ss, answer, d, asked, late, hanswer, hpast, -, -, -, hd⟩ :=
      hs.commit_active rfl _ _ hcommit
    obtain rfl : early = [.enlisted soleUnit 0] :=
      List.append_cancel_left (hs.past.symm.trans rfl : attached.past ++ early = _)
    obtain rfl : late = [.enlisted soleUnit 1] :=
      List.append_cancel_left (hpast.symm.trans rfl : staffed.past ++ late = _)
    cases answer with
    | ok _ => cases hanswer
    | error e => exact ⟨d, _, hcommit, hd⟩

end Transactor
