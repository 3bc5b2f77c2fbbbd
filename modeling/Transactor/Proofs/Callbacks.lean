import Transactor.Proofs.Host
import Transactor.Proofs.Past

namespace Transactor

variable {P S : Type} [Chronicle S P]

/-- The host that notes who has agreed, whom it tells an outcome, and what it dispatches. -/
def Host.watched (h : Host P S) : Host P S where
  before p := do
    h.before p
    Task.modify (World.note (.agreed p))
  after p o := do
    Task.modify (World.note (.told p o))
    h.after p o
  dispatch batch u := do
    Task.modify (World.note (.dispatched u batch))
    h.dispatch batch u
  patience := h.patience

/-- Rolls a transaction back, and notes it if that succeeds. -/
def Host.undo (h : Host P S) (t : TransactionId) : WorldTask P S TransactionError Unit := do
  h.watched.rollback t
  Task.modify (World.note (.rolledBack t))

theorem Host.undo_returns {h : Host P S}
    (hafter : ∀ p o w, ∃ v, h.after p o w = (.done (), v)) (t : TransactionId) (w : World P S) :
    ∃ r v, h.undo t w = (.ofExcept r, v) := by
  have hw (p : P) (o : Outcome) (w : World P S) : ∃ v, h.watched.after p o w = (.done (), v) :=
    hafter p o (w.note (.told p o))
  obtain ⟨r, v, hv⟩ := Host.rollback_returns h.watched t hw w
  cases r with
  | ok _ => exact ⟨.ok (), _, Task.bind_done hv⟩
  | error e => exact ⟨.error e, v, Task.bind_failed hv⟩

/-- What code may do with a transaction and its unit. A rollback calls back code of the same kind.
-/
inductive Run (t : TransactionId) (u : UnitRef) : World P S → World P S → Prop
  | refl (w : World P S) : Run t u w w
  | trans {w m v : World P S} (h : Run t u w m) (g : Run t u m v) : Run t u w v
  | mark (w : World P S) : Run t u w (WorldAct.noting (.marked t) (WorldAct.markRollback t) w).2
  | join {s : Synchronization P} (hs : s ≠ .unit u) (w : World P S) :
      Run t u w (WorldAct.noting (.joined t s) (WorldAct.synchronize t s) w).2
  | enlist (p : P) (w : World P S) :
      Run t u w (WorldAct.noting (.enlisted u p) (WorldAct.enlist u p) w).2
  | rollback {k : Host P S} (hk : ∀ p o w, Run t u w (k.after p o w).2) {w v : World P S}
      {r : Except TransactionError Unit} (hv : k.undo t w = (.ofExcept r, v)) : Run t u w v
  | other {w v : World P S} (ht : v.transaction t = w.transaction t)
      (hu : (v.unit u).participants = (w.unit u).participants)
      (hc : (w.unit u).status = .completed → (v.unit u).status = .completed)
      (hp : v.past = w.past) : Run t u w v

variable {t : TransactionId} {u : UnitRef} {o : Outcome} {w m v : World P S} {es fs : List (Call P)}

section Rest

/-- What may still happen to a transaction that is over: some enlist in its unit, until that is over
too. -/
structure Rest (t : TransactionId) (u : UnitRef) (w : World P S) (es : List (Call P))
    (v : World P S) : Prop where
  past : v.past = w.past ++ es
  transaction : v.transaction t = w.transaction t
  participants : (v.unit u).participants = (w.unit u).participants ++ enlistedIn u es
  enlisting : ∀ e ∈ es, ∃ p, e = .enlisted u p
  completed : (w.unit u).status = .completed → es = [] ∧ (v.unit u).status = .completed

theorem Rest.refl (t : TransactionId) (u : UnitRef) (w : World P S) : Rest t u w [] w :=
  ⟨(List.append_nil _).symm, rfl, (List.append_nil _).symm, fun _ he => (by cases he),
    fun hc => ⟨rfl, hc⟩⟩

theorem Rest.trans (h : Rest t u w es m) (g : Rest t u m fs v) : Rest t u w (es ++ fs) v where
  past := by rw [g.past, h.past, List.append_assoc]
  transaction := g.transaction.trans h.transaction
  participants := by rw [g.participants, h.participants, enlistedIn_append, List.append_assoc]
  enlisting e he := by
    obtain he | he := List.mem_append.mp he
    · exact h.enlisting e he
    · exact g.enlisting e he
  completed hc := by
    obtain ⟨rfl, hm⟩ := h.completed hc
    exact g.completed hm

theorem Rest.enlist (t : TransactionId) (u : UnitRef) (p : P) (w : World P S) :
    ∃ es, Rest t u w es (WorldAct.noting (.enlisted u p) (WorldAct.enlist u p) w).2 := by
  by_cases hs : (w.unit u).status = .completed
  · rw [WorldAct.noting_error (WorldAct.enlist_closed w u hs)]
    exact ⟨[], .refl t u w⟩
  · rw [WorldAct.noting_ok (WorldAct.enlist_open w u hs)]
    refine ⟨[.enlisted u p], ?_, rfl, ?_, ?_, fun hc => absurd hc hs⟩
    · rw [World.past_note, World.past_setUnit]
    · rw [World.unit_note, World.unit_setUnit_self, enlistedIn_enlisted]
    · intro e he
      exact ⟨p, List.mem_singleton.mp he⟩

theorem Host.undo_closed {k : Host P S} {r : Except TransactionError Unit}
    (hc : (w.transaction t).status.isActive = false) (hv : k.undo t w = (.ofExcept r, v)) :
    v = w := by
  have hr : k.undo t w = (.failed (.notActive t), w) :=
    Task.bind_failed (Host.rollback_closed k.watched t hc)
  rw [hr] at hv
  exact (Prod.mk.inj hv).2.symm

theorem Run.rest (h : Run t u w v) (hc : (w.transaction t).status.isActive = false) :
    ∃ es, Rest t u w es v := by
  induction h with
  | refl w => exact ⟨[], .refl t u w⟩
  | trans h g ihh ihg =>
    obtain ⟨es, he⟩ := ihh hc
    obtain ⟨fs, hf⟩ := ihg (by rw [he.transaction, hc])
    exact ⟨es ++ fs, he.trans hf⟩
  | mark w =>
    rw [WorldAct.noting_error (WorldAct.markRollback_closed w hc)]
    exact ⟨[], .refl t u w⟩
  | join hs w =>
    rw [WorldAct.noting_error (WorldAct.synchronize_closed w hc _)]
    exact ⟨[], .refl t u w⟩
  | enlist p w => exact Rest.enlist t u p w
  | rollback hk hv ihk =>
    rw [Host.undo_closed hc hv]
    exact ⟨[], .refl t u _⟩
  | @other w v ht hu hd hp =>
    refine ⟨[], ?_, ht, ?_, fun _ he => (by cases he), fun h => ⟨rfl, hd h⟩⟩
    · rw [hp, List.append_nil]
    · rw [hu]
      exact (List.append_nil _).symm

end Rest

/-- The unit of a transaction has been told, and lets nobody in any more. -/
def Closed (u : UnitRef) (w : World P S) : Prop :=
  (w.unit u).status = .completed ∧ (w.unit u).participants = []

section Telling

/-- A transaction that is over and tells its outcome. Whoever is a participant of its unit, or
becomes one, has been told, is about to be told (`pending`), or is still with the unit. -/
structure Telling (o : Outcome) (t : TransactionId) (u : UnitRef) (w : World P S)
    (pending : List P) (es : List (Call P)) (v : World P S) : Prop where
  past : v.past = w.past ++ es
  transaction : v.transaction t = .ended o
  calls : ∀ e ∈ es, (∃ p, e = .told p o) ∨ ∃ p, e = .enlisted u p
  heard : ∀ p ∈ (w.unit u).participants ++ enlistedIn u es,
    .told p o ∈ es ∨ p ∈ pending ∨ p ∈ (v.unit u).participants

namespace Telling

variable {ps qs : List P}

theorem rest (h : Telling o t u w ps es m) (g : Rest t u m fs v) :
    Telling o t u w ps (es ++ fs) v where
  past := by rw [g.past, h.past, List.append_assoc]
  transaction := g.transaction.trans h.transaction
  calls e he := by
    obtain he | he := List.mem_append.mp he
    · exact h.calls e he
    · exact .inr (g.enlisting e he)
  heard p hp := by
    rw [enlistedIn_append, ← List.append_assoc] at hp
    rw [g.participants]
    obtain hp | hp := List.mem_append.mp hp
    · obtain hq | hq | hq := h.heard p hp
      · exact .inl (List.mem_append_left _ hq)
      · exact .inr (.inl hq)
      · exact .inr (.inr (List.mem_append_left _ hq))
    · exact .inr (.inr (List.mem_append_right _ hp))

theorem run (h : Telling o t u w ps es m) (g : Run t u m v) :
    ∃ fs, Telling o t u w ps (es ++ fs) v ∧ (Closed u m → Closed u v) := by
  have hc : (m.transaction t).status.isActive = false := by
    rw [h.transaction]
    rfl
  obtain ⟨fs, hf⟩ := g.rest hc
  refine ⟨fs, h.rest hf, ?_⟩
  rintro ⟨hs, hp⟩
  obtain ⟨rfl, hs'⟩ := hf.completed hs
  refine ⟨hs', ?_⟩
  rw [hf.participants, hp]
  rfl

theorem tell {p : P} (h : Telling o t u w (p :: ps) es m) :
    Telling o t u w ps (es ++ [.told p o]) (m.note (.told p o)) where
  past := by rw [World.past_note, h.past, List.append_assoc]
  transaction := h.transaction
  calls e he := by
    obtain he | he := List.mem_append.mp he
    · exact h.calls e he
    · exact .inl ⟨p, List.mem_singleton.mp he⟩
  heard q hq := by
    have hn : enlistedIn u (es ++ [.told p o]) = enlistedIn u es := by
      rw [enlistedIn_append]
      exact List.append_nil _
    rw [hn] at hq
    obtain hq | hq | hq := h.heard q hq
    · exact .inl (List.mem_append_left _ hq)
    · obtain rfl | hq := List.mem_cons.mp hq
      · exact .inl (List.mem_append_right _ (List.mem_singleton_self _))
      · exact .inr (.inl hq)
    · exact .inr (.inr hq)

theorem elsewhere (h : Telling o t u w ps es m) (ht : v.transaction t = m.transaction t)
    (hp : v.past = m.past) (hu : ∀ p ∈ ps ++ (m.unit u).participants,
      p ∈ qs ++ (v.unit u).participants) : Telling o t u w qs es v where
  past := hp.trans h.past
  transaction := ht.trans h.transaction
  calls := h.calls
  heard p hq := by
    obtain hq | hq := h.heard p hq
    · exact .inl hq
    · exact .inr (List.mem_append.mp (hu p (List.mem_append.mpr hq)))

theorem more (h : Telling o t u w [] es m) (ps : List P) : Telling o t u w ps es m :=
  h.elsewhere rfl rfl fun _ hp => List.mem_append_right _ hp

theorem kept (h : Telling o t u w [] es v) : .rolledBack t ∉ es := by
  intro hm
  obtain ⟨p, hp⟩ | ⟨p, hp⟩ := h.calls _ hm
  · cases hp
  · cases hp

theorem joinedTo_eq (h : Telling o t u w [] es v) : joinedTo t es = [] := by
  apply List.filterMap_eq_nil_iff.mpr
  intro e he
  obtain ⟨p, rfl⟩ | ⟨p, rfl⟩ := h.calls e he
  · rfl
  · rfl

theorem told_eq (ht : Telling o t u w [] es v) {p : P} {o' : Outcome}
    (hm : .told p o' ∈ es) : o' = o := by
  obtain ⟨q, hq⟩ | ⟨q, hq⟩ := ht.calls _ hm
  · cases hq
    rfl
  · cases hq

theorem undispatched (ht : Telling o t u w [] es v) (batch : List Message) :
    .dispatched u batch ∉ es := by
  intro hm
  obtain ⟨q, hq⟩ | ⟨q, hq⟩ := ht.calls _ hm
  · cases hq
  · cases hq

end Telling

variable {h : Host P S} {ps : List P}

theorem Host.watched_after {p : P} {r : Exit Empty Unit}
    (hv : h.watched.after p o m = (r, v)) : h.after p o (m.note (.told p o)) = (r, v) := hv

section Tell

variable (hafter : ∀ p o w, Run t u w (h.after p o w).2)

include hafter

theorem after_telling {p : P} (ht : Telling o t u w (p :: ps) es m)
    (hv : h.watched.after p o m = (.done (), v)) :
    ∃ fs, Telling o t u w ps (es ++ fs) v ∧ .told p o ∈ fs ∧ (Closed u m → Closed u v) := by
  have hr := hafter p o (m.note (.told p o))
  rw [Host.watched_after hv] at hr
  obtain ⟨fs, hf, hc⟩ := ht.tell.run hr
  rw [List.append_assoc] at hf
  exact ⟨_, hf, List.mem_append_left _ (List.mem_singleton_self _), hc⟩

theorem tellAll_telling (ht : Telling o t u w ps es m)
    (hv : h.watched.tellAll o ps m = (.done (), v)) :
    ∃ fs, Telling o t u w [] (es ++ fs) v ∧ (Closed u m → Closed u v) := by
  induction ps generalizing es m with
  | nil =>
    cases hv
    exact ⟨[], by rwa [List.append_nil], id⟩
  | cons p ps ih =>
    obtain ⟨_, n, hn, hrest⟩ := Task.bind_eq_done.mp hv
    obtain ⟨fs, hf, -, hc⟩ := after_telling hafter ht hn
    obtain ⟨gs, hg, hc'⟩ := ih hf hrest
    rw [List.append_assoc] at hg
    exact ⟨_, hg, fun h => hc' (hc h)⟩

/-- Once the unit has been told it is closed, and its participants have been told with it. -/
theorem unit_telling (x : UnitRef) (ht : Telling o t u w [] es m)
    (hv : h.watched.after? o (.unit x) m = (.done (), v)) :
    ∃ fs, Telling o t u w [] (es ++ fs) v ∧ (x = u ∨ Closed u m → Closed u v) := by
  obtain ⟨d, n, bound, trace, hself, hother, htrans, hhost, hn, rfl⟩ :=
    Host.after_unit_done h.watched x hv
  have htd : d.transaction t = m.transaction t := by
    unfold World.transaction
    rw [htrans]
  have hpd : d.past = m.past := congrArg Chronicle.past hhost
  have htell : Telling o t u w (m.unit x).participants es d := by
    refine ht.elsewhere htd hpd ?_
    intro p hp
    by_cases hx : u = x
    · subst hx
      exact List.mem_append_left _ hp
    · rw [hother u hx]
      exact List.mem_append_right _ hp
  have hclosed : x = u ∨ Closed u m → Closed u d := by
    intro hx
    by_cases hu : u = x
    · subst hu
      rw [Closed, hself]
      exact ⟨rfl, rfl⟩
    · obtain hx | hx := hx
      · exact absurd hx.symm hu
      · rwa [Closed, hother u hu]
  obtain ⟨fs, hf, hc⟩ := tellAll_telling hafter htell hn
  exact ⟨fs, hf.elsewhere rfl rfl fun _ hp => hp, fun hx => hc (hclosed hx)⟩

theorem after?_telling (s : Synchronization P) (ht : Telling o t u w [] es m)
    (hv : h.watched.after? o s m = (.done (), v)) :
    ∃ fs, Telling o t u w [] (es ++ fs) v ∧ (∀ p, s = .party p → .told p o ∈ fs) ∧
      (s = .unit u ∨ Closed u m → Closed u v) := by
  cases s with
  | party p =>
    obtain ⟨fs, hf, hp, hc⟩ := after_telling hafter (ht.more [p]) hv
    refine ⟨fs, hf, ?_, ?_⟩
    · rintro q ⟨⟩
      exact hp
    · rintro (hs | hs)
      · cases hs
      · exact hc hs
  | unit x =>
    obtain ⟨fs, hf, hc⟩ := unit_telling hafter x ht hv
    refine ⟨fs, hf, fun p hp => (by cases hp), ?_⟩
    rintro (hs | hs)
    · cases hs
      exact hc (.inl rfl)
    · exact hc (.inr hs)

theorem tellSynchronizations_telling {ss : List (Synchronization P)}
    (ht : Telling o t u w [] es m)
    (hv : h.watched.tellSynchronizations o ss m = (.done (), v)) :
    ∃ fs, Telling o t u w [] (es ++ fs) v ∧ (∀ p, .party p ∈ ss → .told p o ∈ fs) ∧
      (.unit u ∈ ss ∨ Closed u m → Closed u v) := by
  induction ss generalizing es m with
  | nil =>
    cases hv
    refine ⟨[], by rwa [List.append_nil], fun p hp => (by cases hp), ?_⟩
    rintro (hs | hs)
    · cases hs
    · exact hs
  | cons s ss ih =>
    obtain ⟨_, n, hn, hrest⟩ := Task.bind_eq_done.mp hv
    obtain ⟨fs, hf, hp, hc⟩ := after?_telling hafter s ht hn
    obtain ⟨gs, hg, hq, hc'⟩ := ih hf hrest
    rw [List.append_assoc] at hg
    refine ⟨_, hg, ?_, ?_⟩
    · intro p hm
      obtain hm | hm := List.mem_cons.mp hm
      · exact List.mem_append_left _ (hp p hm.symm)
      · exact List.mem_append_right _ (hq p hm)
    · rintro (hm | hm)
      · obtain hm | hm := List.mem_cons.mp hm
        · exact hc' (.inr (hc (.inl hm.symm)))
        · exact hc' (.inl hm)
      · exact hc' (.inr (hc (.inr hm)))

/-- A completion tells its outcome and no other, to all who joined and, if the unit has joined, to
all its participants, those included who enlist until it is told itself. -/
theorem complete_telling (hv : h.watched.complete t o m = (.done (), v)) :
    ∃ es, Telling o t u m [] es v ∧
      (∀ p, .party p ∈ (m.transaction t).synchronizations → .told p o ∈ es) ∧
      (.unit u ∈ (m.transaction t).synchronizations →
        ∀ p ∈ (m.unit u).participants ++ enlistedIn u es, .told p o ∈ es) := by
  have ht : Telling o t u m [] [] ((m.setTransaction t ((m.transaction t).complete o)).record
      (.transactionCompleted t o.name)) := by
    refine ⟨(List.append_nil _).symm, ?_, fun _ he => (by cases he), ?_⟩
    · rw [World.transaction_record, World.transaction_setTransaction_self]
      rfl
    · intro p hp
      rw [enlistedIn, List.filterMap_nil, List.append_nil] at hp
      exact .inr (.inr hp)
  obtain ⟨es, he, hp, hc⟩ := tellSynchronizations_telling hafter ht hv
  refine ⟨es, he, hp, ?_⟩
  intro hu p hq
  obtain hq | hq | hq := he.heard p hq
  · exact hq
  · cases hq
  · rw [(hc (.inl hu)).2] at hq
    cases hq

end Tell

end Telling

/-- None of these calls is one that the host notes when it asks a participant or dispatches a batch
of the unit. -/
def Plain (u : UnitRef) (es : List (Call P)) : Prop :=
  agreedIn es = [] ∧ ∀ batch, .dispatched u batch ∉ es

theorem Plain.append (h : Plain u es) (g : Plain u fs) : Plain u (es ++ fs) := by
  refine ⟨?_, ?_⟩
  · rw [agreedIn_append, h.1, g.1, List.append_nil]
  · intro batch hm
    obtain hm | hm := List.mem_append.mp hm
    · exact h.2 batch hm
    · exact g.2 batch hm

section Ask

/-- A transaction that nobody has rolled back. Everyone who has joined it and everyone who has
enlisted in its unit is still there. -/
structure Ongoing (t : TransactionId) (u : UnitRef) (w : World P S) (es : List (Call P))
    (v : World P S) : Prop where
  past : v.past = w.past ++ es
  isActive : (v.transaction t).status.isActive = true
  synchronizations : (v.transaction t).synchronizations =
    (w.transaction t).synchronizations ++ joinedTo t es
  participants : (v.unit u).participants = (w.unit u).participants ++ enlistedIn u es
  foreign : .unit u ∉ joinedTo t es
  kept : .rolledBack t ∉ es
  untold : ∀ p o, .told p o ∉ es

/-- A transaction that has been rolled back. -/
structure Undone (t : TransactionId) (w : World P S) (es : List (Call P)) (v : World P S) : Prop
    where
  past : v.past = w.past ++ es
  transaction : v.transaction t = .ended .rolledBack
  rolledBack : .rolledBack t ∈ es
  told : ∀ p o, .told p o ∈ es → o = .rolledBack

namespace Undone

theorem after (g : Undone t m fs v) (h : Ongoing t u w es m) : Undone t w (es ++ fs) v where
  past := by rw [g.past, h.past, List.append_assoc]
  transaction := g.transaction
  rolledBack := List.mem_append_right _ g.rolledBack
  told p o hm := by
    obtain hm | hm := List.mem_append.mp hm
    · exact absurd hm (h.untold p o)
    · exact g.told p o hm

theorem run (h : Undone t w es m) (g : Run t u m v) : ∃ fs, Undone t w fs v := by
  have hc : (m.transaction t).status.isActive = false := by
    rw [h.transaction]
    rfl
  obtain ⟨fs, hf⟩ := g.rest hc
  refine ⟨es ++ fs, ?_, hf.transaction.trans h.transaction,
    List.mem_append_left _ h.rolledBack, ?_⟩
  · rw [hf.past, h.past, List.append_assoc]
  · intro p o hm
    obtain hm | hm := List.mem_append.mp hm
    · exact h.told p o hm
    · obtain ⟨q, hq⟩ := hf.enlisting _ hm
      cases hq

theorem note (h : Undone t w es m) {e : Call P} (he : ∀ p o, e ≠ .told p o) :
    Undone t w (es ++ [e]) (m.note e) where
  past := by rw [World.past_note, h.past, List.append_assoc]
  transaction := h.transaction
  rolledBack := List.mem_append_left _ h.rolledBack
  told p o hm := by
    obtain hm | hm := List.mem_append.mp hm
    · exact h.told p o hm
    · exact absurd (List.mem_singleton.mp hm).symm (he p o)

end Undone

namespace Ongoing

theorem refl (u : UnitRef) (ha : (w.transaction t).status.isActive = true) :
    Ongoing t u w [] w :=
  ⟨(List.append_nil _).symm, ha, (List.append_nil _).symm, (List.append_nil _).symm,
    fun h => (by cases h), fun h => (by cases h), fun _ _ h => (by cases h)⟩

theorem trans (h : Ongoing t u w es m) (g : Ongoing t u m fs v) : Ongoing t u w (es ++ fs) v where
  past := by rw [g.past, h.past, List.append_assoc]
  isActive := g.isActive
  synchronizations := by
    rw [g.synchronizations, h.synchronizations, joinedTo_append, List.append_assoc]
  participants := by rw [g.participants, h.participants, enlistedIn_append, List.append_assoc]
  foreign hm := by
    rw [joinedTo_append] at hm
    obtain hm | hm := List.mem_append.mp hm
    · exact h.foreign hm
    · exact g.foreign hm
  kept hm := by
    obtain hm | hm := List.mem_append.mp hm
    · exact h.kept hm
    · exact g.kept hm
  untold p o hm := by
    obtain hm | hm := List.mem_append.mp hm
    · exact h.untold p o hm
    · exact g.untold p o hm

theorem elsewhere (h : Ongoing t u w es m) (ht : v.transaction t = m.transaction t)
    (hu : (v.unit u).participants = (m.unit u).participants) (hp : v.past = m.past) :
    Ongoing t u w es v where
  past := hp.trans h.past
  isActive := by rw [ht, h.isActive]
  synchronizations := by rw [ht, h.synchronizations]
  participants := hu.trans h.participants
  foreign := h.foreign
  kept := h.kept
  untold := h.untold

theorem note (h : Ongoing t u w es m) {e : Call P} (hj : joinedTo t [e] = [])
    (hl : enlistedIn u [e] = []) (hr : e ≠ .rolledBack t) (ht : ∀ p o, e ≠ .told p o) :
    Ongoing t u w (es ++ [e]) (m.note e) where
  past := by rw [World.past_note, h.past, List.append_assoc]
  isActive := h.isActive
  synchronizations := by
    rw [joinedTo_append, hj, List.append_nil]
    exact h.synchronizations
  participants := by
    rw [enlistedIn_append, hl, List.append_nil]
    exact h.participants
  foreign := by
    rw [joinedTo_append, hj, List.append_nil]
    exact h.foreign
  kept hm := by
    obtain hm | hm := List.mem_append.mp hm
    · exact h.kept hm
    · exact hr (List.mem_singleton.mp hm).symm
  untold p o hm := by
    obtain hm | hm := List.mem_append.mp hm
    · exact h.untold p o hm
    · exact ht p o (List.mem_singleton.mp hm).symm

end Ongoing

theorem undo_open {k : Host P S} (hk : ∀ p o w, Run t u w (k.after p o w).2)
    (ha : (w.transaction t).status.isActive = true) {r : Except TransactionError Unit}
    (hv : k.undo t w = (.ofExcept r, v)) : ∃ es, Undone t w es v := by
  cases hr : k.watched.rollback t w with
  | mk e m =>
    cases e with
    | interrupted i =>
      rw [Host.undo, Task.bind_interrupted hr] at hv
      exact absurd (Prod.mk.inj hv).1.symm Exit.ofExcept_ne_interrupted
    | failed e =>
      have hfailed : k.watched.rollback t w = (.ofExcept (.error e), m) := hr
      obtain ⟨_, _, hc, _⟩ | ⟨hok, _, _⟩ := Host.rollback_return k.watched t hfailed
      · rw [ha] at hc
        cases hc
      · cases hok
    | done _ =>
      have hdone : k.watched.rollback t w = (.ofExcept (.ok ()), m) := hr
      obtain ⟨_, he, _, _⟩ | ⟨_, _, hc⟩ := Host.rollback_return k.watched t hdone
      · cases he
      · obtain ⟨es, he, -, -⟩ := complete_telling hk hc
        rw [Host.undo, Task.bind_done hr] at hv
        obtain rfl : m.note (.rolledBack t) = v := (Prod.mk.inj hv).2
        refine ⟨es ++ [.rolledBack t], ?_, he.transaction,
          List.mem_append_right _ (List.mem_singleton_self _), ?_⟩
        · rw [World.past_note, he.past, List.append_assoc]
        · intro p o hm
          obtain hm | hm := List.mem_append.mp hm
          · obtain ⟨q, hq⟩ | ⟨q, hq⟩ := he.calls _ hm
            · cases hq
              rfl
            · cases hq
          · cases List.mem_singleton.mp hm

section Plainly

variable (ha : (w.transaction t).status.isActive = true)

include ha

theorem mark_plain : ∃ es, Ongoing t u w es
    (WorldAct.noting (.marked t) (WorldAct.markRollback t) w).2 ∧ Plain u es := by
  rw [WorldAct.noting_ok (WorldAct.markRollback_open w ha)]
  have hm : Ongoing t u w [] (w.setTransaction t
      { w.transaction t with status := .markedRollback }) := by
    refine ⟨(List.append_nil _).symm, ?_, ?_, (List.append_nil _).symm, fun h => (by cases h),
      fun h => (by cases h), fun _ _ h => (by cases h)⟩
    · rw [World.transaction_setTransaction_self]
      rfl
    · rw [World.transaction_setTransaction_self]
      exact (List.append_nil _).symm
  refine ⟨[.marked t], hm.note rfl rfl (fun h => by cases h) (fun _ _ h => by cases h), rfl, ?_⟩
  intro batch h
  cases List.mem_singleton.mp h

theorem join_plain {s : Synchronization P} (hs : s ≠ .unit u) : ∃ es, Ongoing t u w es
    (WorldAct.noting (.joined t s) (WorldAct.synchronize t s) w).2 ∧ Plain u es := by
  rw [WorldAct.noting_ok (WorldAct.synchronize_open w ha s)]
  refine ⟨[.joined t s], ⟨?_, ?_, ?_, ?_, ?_, ?_, ?_⟩, rfl, ?_⟩
  · rw [World.past_note, World.past_setTransaction]
  · rw [World.transaction_note, World.transaction_setTransaction_self]
    exact ha
  · rw [World.transaction_note, World.transaction_setTransaction_self, joinedTo_joined]
  · exact (List.append_nil _).symm
  · rw [joinedTo_joined]
    exact fun h => hs (List.mem_singleton.mp h).symm
  · exact fun h => by cases List.mem_singleton.mp h
  · exact fun p o h => by cases List.mem_singleton.mp h
  · exact fun batch h => by cases List.mem_singleton.mp h

theorem enlist_plain (p : P) : ∃ es, Ongoing t u w es
    (WorldAct.noting (.enlisted u p) (WorldAct.enlist u p) w).2 ∧ Plain u es := by
  obtain ⟨es, he⟩ := Rest.enlist t u p w
  have hnone {e : Call P} (hm : e ∈ es) : ∃ p, e = .enlisted u p := he.enlisting e hm
  have hjoined : joinedTo t es = [] := by
    apply List.filterMap_eq_nil_iff.mpr
    intro e hm
    obtain ⟨q, rfl⟩ := hnone hm
    rfl
  refine ⟨es, ⟨he.past, ?_, ?_, he.participants, ?_, ?_, ?_⟩, ?_, ?_⟩
  · rw [he.transaction, ha]
  · rw [he.transaction, hjoined, List.append_nil]
  · rw [hjoined]
    exact fun h => by cases h
  · exact fun hm => by cases (hnone hm).choose_spec
  · exact fun p o hm => by cases (hnone hm).choose_spec
  · apply List.filterMap_eq_nil_iff.mpr
    intro e hm
    obtain ⟨q, rfl⟩ := hnone hm
    rfl
  · exact fun batch hm => by cases (hnone hm).choose_spec

end Plainly

theorem Run.course (h : Run t u w v) (ha : (w.transaction t).status.isActive = true) :
    (∃ es, Ongoing t u w es v ∧ Plain u es) ∨ ∃ es, Undone t w es v := by
  induction h with
  | refl w => exact .inl ⟨[], .refl u ha, rfl, fun _ h => by cases h⟩
  | trans _ g ihh ihg =>
    obtain ⟨es, he, hp⟩ | ⟨es, he⟩ := ihh ha
    · obtain ⟨fs, hf, hq⟩ | ⟨fs, hf⟩ := ihg he.isActive
      · exact .inl ⟨es ++ fs, he.trans hf, hp.append hq⟩
      · exact .inr ⟨es ++ fs, hf.after he⟩
    · exact .inr (he.run g)
  | mark w => exact .inl (mark_plain ha)
  | join hs w => exact .inl (join_plain ha hs)
  | enlist p w => exact .inl (enlist_plain ha p)
  | rollback hk hv ihk => exact .inr (undo_open hk ha hv)
  | other ht hu hc hp =>
    exact .inl ⟨[], (Ongoing.refl u ha).elsewhere ht hu hp, rfl, fun _ h => by cases h⟩

/-- Since a world the transaction has been rolled back, or it has gone on by calls of a kind. -/
def Course (t : TransactionId) (u : UnitRef) (A : List (Call P) → Prop) (w v : World P S) : Prop :=
  (∃ es, Ongoing t u w es v ∧ A es) ∨ ∃ es, Undone t w es v

section Course

variable {A : List (Call P) → Prop}

theorem Undone.keeps {ε α : Type} {f : WorldTask P S ε α} (hu : Undone t w es m)
    (hf : f.Keeps (Course t u (fun _ => False) w)) : ∃ fs, Undone t w fs (f m).2 := by
  obtain ⟨_, _, hfalse⟩ | hk := hf m (.inr ⟨es, hu⟩)
  · exact hfalse.elim
  · exact hk

theorem Course.past (h : Course t u A w v) :
    ∃ es, v.past = w.past ++ es ∧ ∀ p, .told p .committed ∉ es := by
  obtain ⟨es, he, -⟩ | ⟨es, he⟩ := h
  · exact ⟨es, he.past, fun p => he.untold p .committed⟩
  · refine ⟨es, he.past, ?_⟩
    intro p hm
    cases he.told p .committed hm

theorem Course.elsewhere (h : Course t u A w m) (ht : v.transaction t = m.transaction t)
    (hu : (v.unit u).participants = (m.unit u).participants) (hp : v.past = m.past) :
    Course t u A w v := by
  obtain ⟨es, he, ha⟩ | ⟨es, he⟩ := h
  · exact .inl ⟨es, he.elsewhere ht hu hp, ha⟩
  · exact .inr ⟨es, hp.trans he.past, ht.trans he.transaction, he.rolledBack, he.told⟩

theorem Course.setUnit (h : Course t u A w m) (x : UnitRef) (s : UnitStatus) (q : List Message) :
    Course t u A w (m.setUnit x { m.unit x with status := s, queue := q }) := by
  refine h.elsewhere rfl ?_ rfl
  by_cases hx : u = x
  · subst hx
    rw [World.unit_setUnit_self]
  · rw [World.unit_setUnit_of_ne _ _ hx]

-- whatever the kind of the calls, more may be added that are no batches of the unit
variable (hA : ∀ es fs, A es → (∀ batch, .dispatched u batch ∉ fs) → A (es ++ fs))

include hA

theorem Course.run (h : Course t u A w m) (g : Run t u m v) : Course t u A w v := by
  obtain ⟨es, he, ha⟩ | ⟨es, he⟩ := h
  · obtain ⟨fs, hf, hp⟩ | ⟨fs, hf⟩ := g.course he.isActive
    · exact .inl ⟨es ++ fs, he.trans hf, hA es fs ha hp.2⟩
    · exact .inr ⟨es ++ fs, hf.after he⟩
  · exact .inr (he.run g)

theorem Course.agreed (h : Course t u A w m) (p : P) : Course t u A w (m.note (.agreed p)) := by
  obtain ⟨es, he, ha⟩ | ⟨es, he⟩ := h
  · refine .inl ⟨es ++ [.agreed p],
      he.note rfl rfl (fun h => by cases h) (fun _ _ h => by cases h), hA es _ ha ?_⟩
    exact fun _ hm => by cases List.mem_singleton.mp hm
  · exact .inr ⟨es ++ [.agreed p], he.note fun _ _ h => by cases h⟩

omit hA in
theorem Course.dispatched (h : Course t u A w m) (x : UnitRef) (batch : List Message)
    (hx : ∀ es, A es → A (es ++ [.dispatched x batch])) :
    Course t u A w (m.note (.dispatched x batch)) := by
  obtain ⟨es, he, ha⟩ | ⟨es, he⟩ := h
  · exact .inl ⟨es ++ [.dispatched x batch],
      he.note rfl rfl (fun h => by cases h) (fun _ _ h => by cases h), hx es ha⟩
  · exact .inr ⟨es ++ [.dispatched x batch], he.note fun _ _ h => by cases h⟩

variable {h : Host P S}

theorem before_course (hbefore : ∀ p w, Run t u w (h.before p w).2) (p : P) :
    (h.watched.before p).Keeps (Course t u A w) := by
  apply Task.Keeps.bind
  · exact fun m hm => hm.run hA (hbefore p m)
  intro _ m hm
  exact hm.agreed hA p

theorem dispatch_course (hdispatch : ∀ batch x w, Run t u w (h.dispatch batch x w).2) (x : UnitRef)
    (hx : ∀ es batch, A es → A (es ++ [.dispatched x batch])) (batch : List Message) :
    (h.watched.dispatch batch x).Keeps (Course t u A w) := by
  apply Task.Keeps.bind
  · exact fun m hm => hm.dispatched x batch fun es => hx es batch
  · exact fun _ m hm => hm.run hA (hdispatch batch x m)

theorem drain_course (hdispatch : ∀ batch x w, Run t u w (h.dispatch batch x w).2) (x : UnitRef)
    (hx : ∀ es batch, A es → A (es ++ [.dispatched x batch])) :
    (h.watched.drain x).Keeps (Course t u A w) := by
  apply Host.drain_keeps
  · exact fun m e hm => hm.elsewhere rfl rfl rfl
  · exact fun m s q hm => hm.setUnit x s q
  · exact dispatch_course hA hdispatch x hx

theorem before?_course (hbefore : ∀ p w, Run t u w (h.before p w).2)
    (hdispatch : ∀ batch x w, Run t u w (h.dispatch batch x w).2) (s : Synchronization P)
    (hs : ∀ x, s = .unit x → ∀ es batch, A es → A (es ++ [.dispatched x batch])) :
    (h.watched.before? s).Keeps (Course t u A w) := by
  apply Host.before?_keeps_of_unit
  · exact fun m e hm => hm.elsewhere rfl rfl rfl
  · exact fun m x s q hm => hm.setUnit x s q
  · exact before_course hA hbefore
  · exact fun x hx => dispatch_course hA hdispatch x (hs x hx)

end Course

theorem askAll_course {h : Host P S} (hbefore : ∀ p w, Run t u w (h.before p w).2)
    (hdispatch : ∀ batch x w, Run t u w (h.dispatch batch x w).2)
    (ha : (w.transaction t).status.isActive = true) (n : Nat) :
    Course t u (fun _ => True) w (h.watched.askAll t n 0 w).2 := by
  have hw : Course t u (fun _ => True) w w := .inl ⟨[], .refl u ha, trivial⟩
  apply Host.askAll_keeps h.watched t _ n 0 w hw
  intro m hm s _
  exact before?_course (fun _ _ _ _ => trivial) hbefore hdispatch s (fun _ _ _ _ _ => trivial) m hm

/-- When someone refuses, the transaction is rolled back and nobody is told of a commit. -/
theorem refused_untold {h : Host P S} (hbefore : ∀ p w, Run t u w (h.before p w).2)
    (hafter : ∀ p o w, Run t u w (h.after p o w).2)
    (hdispatch : ∀ batch x w, Run t u w (h.dispatch batch x w).2)
    (ha : (w.transaction t).status.isActive = true) {n : Nat} {e : UnitOfWorkError}
    {event : TraceEvent} (hd : h.watched.askAll t n 0 w = (.failed e, m))
    (hv : h.watched.complete t .rolledBack (m.record event) = (.done (), v)) :
    ∃ late, v.past = w.past ++ late ∧ v.transaction t = .ended .rolledBack ∧
      ∀ p, .told p .committed ∉ late := by
  have hc := askAll_course hbefore hdispatch ha n
  rw [hd] at hc
  obtain ⟨es, hes, huntold⟩ := hc.past
  obtain ⟨fs, hf, -, -⟩ := complete_telling hafter hv
  refine ⟨es ++ fs, ?_, hf.transaction, ?_⟩
  · rw [hf.past, World.past_record, hes, List.append_assoc]
  · intro p hm
    obtain hm | hm := List.mem_append.mp hm
    · exact huntold p hm
    · cases hf.told_eq hm

end Ask

/-- Parties that agree to everything and do nothing. -/
def idle : Host Nat (List (Call Nat)) where
  before _ := pure ()
  after _ _ := pure ()
  dispatch _ _ := pure ()
  patience := 4

theorem run_idle (t : TransactionId) (u : UnitRef) (p : Nat) (o : Outcome)
    (w : World Nat (List (Call Nat))) : Run t u w (idle.after p o w).2 := .refl w

def soleTransaction : TransactionId := ⟨.ofNat 0⟩

def soleUnit : UnitRef := ⟨0⟩

/-- A transaction that has just begun, with the unit that is bound to it. -/
def attached : World Nat (List (Call Nat)) :=
  (WorldAct.currentUnit (.ofLocal soleTransaction)
    ((World.first ⟨2⟩ []).setTransaction soleTransaction .begin)).2

end Transactor
