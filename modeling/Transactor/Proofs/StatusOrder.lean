import Transactor.Proofs.CascadeBound

namespace Transactor

variable {P S ε : Type}

/-- How far a unit is in its life. -/
def UnitStatus.rank : UnitStatus → Nat
  | .active => 0
  | .draining => 1
  | .drained => 2
  | .completed => 3

theorem UnitStatus.rank_le (s : UnitStatus) : s.rank ≤ UnitStatus.completed.rank := by
  cases s <;> decide

/-- The statuses noted never move backwards, from one before them to one after them. -/
def Rising : UnitStatus → List (Occurrence P) → UnitStatus → Prop
  | s, [], r => s.rank ≤ r.rank
  | s, e :: es, r => s.rank ≤ e.left.status.rank ∧ Rising e.left.status es r

namespace Rising

variable {s m r : UnitStatus} {es fs : List (Occurrence P)}

theorem append (h : Rising s es m) (g : Rising m fs r) : Rising s (es ++ fs) r := by
  induction es generalizing s with
  | nil =>
    cases fs with
    | nil => exact Nat.le_trans h g
    | cons f fs => exact ⟨Nat.le_trans h g.1, g.2⟩
  | cons e es ih => exact ⟨h.1, ih h.2⟩

theorem of_same (hm : s.rank ≤ m.rank) (h : ∀ e ∈ es, e.left.status = m) : Rising s es m := by
  induction es generalizing s with
  | nil => exact hm
  | cons e es ih =>
    have he := h e (List.mem_cons_self ..)
    exact ⟨he ▸ hm, ih (Nat.le_of_eq (congrArg _ he)) fun f hf => h f (List.mem_cons_of_mem e hf)⟩

theorem le_of_mem (h : Rising s es r) : ∀ e ∈ es, s.rank ≤ e.left.status.rank := by
  induction es generalizing s with
  | nil => exact fun _ he => by cases he
  | cons e es ih =>
    intro f hf
    obtain rfl | hf := List.mem_cons.mp hf
    · exact h.1
    · exact Nat.le_trans h.1 (ih h.2 f hf)

theorem pairwise (h : Rising s es r) :
    (s :: es.map fun e => e.left.status).Pairwise fun a b => a.rank ≤ b.rank := by
  induction es generalizing s with
  | nil => exact List.pairwise_singleton _ s
  | cons e es ih =>
    refine List.pairwise_cons.mpr ⟨fun a ha => ?_, ih h.2⟩
    obtain ⟨f, hf, rfl⟩ := List.mem_map.mp ha
    exact h.le_of_mem f hf

end Rising

/-- What may have happened within a drain, which had begun before it then. -/
def Occurrence.PartOf (e f : Occurrence P) : Prop :=
  e.nested = true ∧ ∃ result x, f = .operation .drain false result x

/-- A unit of status `s` has only moved forward, and once it was closed it has stayed over, and has
refused all that began later but to be closed again. -/
structure Orderly (t : TransactionId) (s : UnitStatus) (es : List (Occurrence P)) : Prop where
  forward : (s :: es.map fun e => e.left.status).Pairwise fun a b => a.rank ≤ b.rank
  closed : es.Pairwise fun e f => e.closes = true → f.left.Blank ∧ (¬ e.PartOf f → f.Shut t)

variable [Minutes S P]

/-- What has happened to a unit while operations were done on it from outside. -/
structure Stretch (u : UnitRef) (w : World P S) (es : List (Occurrence P)) (v : World P S) :
    Prop where
  minutes : v.minutes = w.minutes ++ es
  transaction : (v.unit u).transaction = (w.unit u).transaction
  voids : Seals UnitOfWork.Hollow (Occurrence.Void (w.unit u).transaction) u w es v
  calm : (∀ e ∈ es, e.nested = true → e.closes = false) →
    Rising (w.unit u).status es (v.unit u).status ∧
      Seals UnitOfWork.Blank (Occurrence.Shut (w.unit u).transaction) u w es v
  broken : (∃ e ∈ es, e.nested = true ∧ e.closes = true) →
    ¬ (es.map fun e => e.left.status).Pairwise fun a b => a.rank ≤ b.rank

namespace Stretch

variable {u : UnitRef} {w m v : World P S} {es fs : List (Occurrence P)}

theorem nil (u : UnitRef) (w : World P S) : Stretch u w [] w where
  minutes := (List.append_nil _).symm
  transaction := rfl
  voids := .nil id
  calm _ := ⟨Nat.le_refl _, .nil id⟩
  broken := fun ⟨_, he, _⟩ => by cases he

theorem trans (h : Stretch u w es m) (g : Stretch u m fs v) : Stretch u w (es ++ fs) v where
  minutes := by rw [g.minutes, h.minutes, List.append_assoc]
  transaction := g.transaction.trans h.transaction
  voids := h.voids.trans (h.transaction ▸ g.voids)
  calm hc := by
    obtain ⟨hes, hm⟩ := h.calm fun e he => hc e (List.mem_append_left _ he)
    obtain ⟨hfs, hv⟩ := g.calm fun e he => hc e (List.mem_append_right _ he)
    exact ⟨hes.append hfs, hm.trans (h.transaction ▸ hv)⟩
  broken := by
    rintro ⟨e, he, hc⟩ hp
    rw [List.map_append] at hp
    obtain ⟨hes, hfs, -⟩ := List.pairwise_append.mp hp
    obtain he | he := List.mem_append.mp he
    · exact h.broken ⟨e, he, hc⟩ hes
    · exact g.broken ⟨e, he, hc⟩ hfs

theorem operation {o : Operation P} (hv : v.unit u = (o.on (w.unit u)).2)
    (hm : v.minutes = w.minutes ++
      [.operation o false (o.on (w.unit u)).1 (o.on (w.unit u)).2]) :
    Stretch u w [.operation o false (o.on (w.unit u)).1 (o.on (w.unit u)).2] v where
  minutes := hm
  transaction := by rw [hv, o.on_transaction]
  voids := o.voids hv
  calm _ := by
    refine ⟨⟨?_, Nat.le_of_eq (by rw [hv]; rfl)⟩, o.shuts hv⟩
    change (w.unit u).status.rank ≤ (o.on (w.unit u)).2.status.rank
    cases hc : o.closes with
    | true =>
      rw [(o.on_blank _ hc).completed]
      exact UnitStatus.rank_le _
    | false => exact Nat.le_of_eq (congrArg _ (o.on_status _ hc).symm)
  broken := by
    rintro ⟨e, he, hn, -⟩
    rw [List.mem_singleton.mp he] at hn
    cases hn

/-- A drain from its start to its end, which leaves the unit drained whatever has happened to it
meanwhile. -/
theorem drain {r : Except UnitOfWorkError Unit} (ha : (w.unit u).status = .active)
    (hp : Passage u (Host.draining u w) es m)
    (hv : v.unit u = (m.unit u).endDrain (Host.isFailure r))
    (hm : v.minutes = m.minutes ++ [.operation .drain false r (v.unit u)]) :
    Stretch u w (es ++ [.operation .drain false r (v.unit u)]) v := by
  have hunit : (Host.draining u w).unit u = { w.unit u with status := .draining } :=
    World.unit_setUnit_self w u _
  have ht : ((Host.draining u w).unit u).transaction = (w.unit u).transaction := by rw [hunit]
  have hstatus : (v.unit u).status = .drained := by rw [hv]; rfl
  have hvoids : Seals UnitOfWork.Hollow (Occurrence.Void (w.unit u).transaction) u w es m := by
    refine (ht ▸ hp.voids).since fun hh => ?_
    have hs := hh.shut
    rw [ha] at hs
    cases hs
  have hshuts : Seals UnitOfWork.Blank (Occurrence.Shut (w.unit u).transaction) u w es m := by
    refine (ht ▸ hp.shuts).since fun hb => ?_
    have hs := hb.completed
    rw [ha] at hs
    cases hs
  refine ⟨?_, ?_, ?_, fun hc => ?_, ?_⟩
  · rw [hm, hp.minutes]
    exact List.append_assoc ..
  · rw [hv]
    exact hp.transaction.trans ht
  · refine hvoids.trans (.single rfl (fun hh => ?_) fun hc => by cases hc)
    have hend : (v.unit u).Hollow := hv ▸ hh.endDrain _
    exact ⟨hend, hend, fun _ _ _ _ hf => by cases hf⟩
  · have hes : ∀ e ∈ es, e.closes = false := fun e h =>
      hc e (List.mem_append_left _ h) (hp.nested e h)
    obtain ⟨hdraining, hleft⟩ := hp.calm hes
    rw [hunit] at hdraining hleft
    refine ⟨(Rising.of_same (m := .draining) (by rw [ha]; decide) hleft).append ?_, ?_⟩
    · refine ⟨?_, Nat.le_refl _⟩
      change UnitStatus.draining.rank ≤ (v.unit u).status.rank
      rw [hstatus]
      decide
    · refine hshuts.trans (.single rfl (fun hb => ?_) fun hc => by cases hc)
      have hs := hb.completed
      rw [hdraining] at hs
      cases hs
  · rintro ⟨e, h, hn, hc⟩ hpair
    obtain h | h := List.mem_append.mp h
    · have hleft := (hp.shuts.left e h hc).completed
      rw [List.map_append] at hpair
      have hle := (List.pairwise_append.mp hpair).2.2 _ (List.mem_map_of_mem h) _
        (List.mem_singleton_self _)
      change e.left.status.rank ≤ (v.unit u).status.rank at hle
      rw [hleft, hstatus] at hle
      exact absurd hle (by decide)
    · rw [List.mem_singleton.mp h] at hn
      cases hn

end Stretch

section Operations

variable {h : Host P S} {u : UnitRef}
  (hd : ∀ batch, (h.dispatch batch u).Within (Serves (fun _ => True) u))

include hd

theorem Operation.perform_stretch (o : Operation P) (w : World P S) :
    ∃ es r v, o.perform h.minuted u false w = (.ofExcept r, v) ∧ Stretch u w es v := by
  by_cases ho : o = .drain ∧ (w.unit u).status = .active
  · obtain ⟨rfl, ha⟩ := ho
    have hs : ((Host.draining u w).unit u).status ≠ .active := by
      rw [Host.draining, World.unit_setUnit_self]
      exact fun he => by cases he
    obtain ⟨es, r, m, hr, hrounds⟩ := Host.drainCycles_rounds hd (w.unit u).transaction
      (w.unit u).limit (w.unit u).limit 0 hs
    let v := m.setUnit u ((m.unit u).endDrain (Host.isFailure r))
    have hv : v.unit u = (m.unit u).endDrain (Host.isFailure r) := World.unit_setUnit_self m u _
    exact ⟨_, r, _, perform_eq false (Host.drain_active _ u ha hr),
      .drain ha hrounds.passage hv (World.minutes_enter _ v)⟩
  · obtain ⟨v, hr, hv, hm⟩ := o.perform_apply h.minuted false fun he hs => ho ⟨he, hs⟩
    exact ⟨_, _, v, hr, .operation hv hm⟩

theorem Operation.performAll_stretch (os : List (Operation P)) (w : World P S) :
    ∃ es v, (performAll h.minuted u false os : WorldTask P S ε Unit) w = (.done (), v) ∧
      Stretch u w es v := by
  induction os generalizing w with
  | nil => exact ⟨[], w, rfl, .nil u w⟩
  | cons o os ih =>
    obtain ⟨es, r, m, hr, hm⟩ := o.perform_stretch hd w
    obtain ⟨fs, v, hv, hfs⟩ := ih m
    exact ⟨es ++ fs, v, (Task.bind_done (Task.attempt_ofExcept hr)).trans hv, hm.trans hfs⟩

/-- Whatever is done on a unit, from outside and by the code that its batches are handed to: its
status moves forward, and it stays over once it has been closed, exactly if that code does not close
it. If it does, the end of the drain takes the unit back to being drained. In any case a unit that
has been closed stays empty and takes no message. -/
theorem status_forward_iff (os : List (Operation P)) (w : World P S) :
    ∃ es v, (Operation.performAll h.minuted u false os : WorldTask P S ε Unit) w = (.done (), v) ∧
      v.minutes = w.minutes ++ es ∧
      (Orderly (w.unit u).transaction (w.unit u).status es ↔
        ∀ e ∈ es, e.nested = true → e.closes = false) ∧
      es.Pairwise fun e f => e.closes = true → f.Void (w.unit u).transaction := by
  obtain ⟨es, v, hv, hes⟩ := Operation.performAll_stretch (ε := ε) hd os w
  refine ⟨es, v, hv, hes.minutes, ⟨fun ho e he hn => ?_, fun hc => ?_⟩, hes.voids.closed⟩
  · cases hc : e.closes with
    | false => rfl
    | true => exact absurd (List.pairwise_cons.mp ho.forward).2 (hes.broken ⟨e, he, hn, hc⟩)
  · obtain ⟨hrising, hshuts⟩ := hes.calm hc
    exact ⟨hrising.pairwise, hshuts.closed.imp fun h hc => ⟨(h hc).blank, fun _ => h hc⟩⟩

end Operations

/-- A world whose unit has been discarded by its dispatcher, and been asked to enlist a participant
after the drain. -/
def reopened : World Nat (List (Occurrence Nat)) :=
  (Operation.performAll (ε := Empty) (Host.answering [.discard]).minuted ⟨0⟩ false
    [.drain, .enlist 0] laden).2

/-- The end of the drain undoes that the unit is over, and the unit accepts a participant again. -/
theorem drain_reopens_discarded :
    (Operation.performAll (Host.answering [.discard]).minuted ⟨0⟩ false [.drain, .enlist 0] :
        WorldTask Nat (List (Occurrence Nat)) Empty Unit) laden = (.done (), reopened) ∧
      laden.minutes = [] ∧
      (reopened.minutes.map fun e => (e.closes, e.left.status)) =
        [(true, .completed), (false, .completed), (false, .drained), (false, .drained)] ∧
      (reopened.unit ⟨0⟩).participants = [0] ∧
      ¬ Orderly (laden.unit ⟨0⟩).transaction (laden.unit ⟨0⟩).status reopened.minutes := by
  have hstatuses : (reopened.minutes.map fun e => (e.closes, e.left.status)) =
      [(true, .completed), (false, .completed), (false, .drained), (false, .drained)] := rfl
  refine ⟨rfl, rfl, hstatuses, rfl, fun ho => ?_⟩
  have hforward := ho.forward
  have hmap : (reopened.minutes.map fun e => e.left.status) =
      [.completed, .completed, .drained, .drained] := by
    have hsecond := congrArg (List.map Prod.snd) hstatuses
    rwa [List.map_map] at hsecond
  rw [hmap] at hforward
  exact absurd hforward (by decide)

theorem status_forward_iff_reopened :
    let h : Host Nat (List (Occurrence Nat)) := .answering [.discard]
    (∀ batch, (h.dispatch batch ⟨0⟩).Within (Serves (fun _ => True) ⟨0⟩)) ∧
      ∃ es v, (Operation.performAll h.minuted ⟨0⟩ false [.drain, .enlist 0] :
          WorldTask Nat (List (Occurrence Nat)) Empty Unit) laden = (.done (), v) ∧
        v.minutes = laden.minutes ++ es ∧
        (Orderly (laden.unit ⟨0⟩).transaction (laden.unit ⟨0⟩).status es ↔
          ∀ e ∈ es, e.nested = true → e.closes = false) ∧
        es.Pairwise fun e f => e.closes = true → f.Void (laden.unit ⟨0⟩).transaction := by
  have hd : ∀ batch, ((Host.answering [.discard] : Host Nat (List (Occurrence Nat))).dispatch
      batch ⟨0⟩).Within (Serves (fun _ => True) ⟨0⟩) :=
    fun batch => Host.answering_within (fun _ _ => trivial) batch ⟨0⟩
  exact ⟨hd, status_forward_iff hd [.drain, .enlist 0] laden⟩

end Transactor
