import Transactor.Proofs.Callbacks

namespace Transactor

variable {P S : Type} [Chronicle S P] {t : TransactionId} {u : UnitRef} {o : Outcome}
  {w m v : World P S} {es fs : List (Call P)} {h : Host P S}

/-- The run of a commit, seen from a world before it, leaves a lasting outcome: a rollback is not
revoked, the commit succeeds if and only if the transaction is committed and everyone has been told
so, and from then on nothing changes the status and no commit succeeds. -/
structure Lasting (t : TransactionId) (u : UnitRef) (w : World P S)
    (result : Except TransactionError Unit) (calls : List (Call P)) (v : World P S) : Prop where
  undone : .rolledBack t ∈ calls →
    result ≠ .ok () ∧ (v.transaction t).status = .completed .rolledBack
  ok_iff : result = .ok () ↔ (v.transaction t).status = .completed .committed ∧
    ∀ p, .party p ∈ (w.transaction t).synchronizations ++ joinedTo t calls ∨
      p ∈ (w.unit u).participants ++ enlistedIn u calls → .told p .committed ∈ calls
  stays : ∀ later, Run t u v later → (later.transaction t).status = (v.transaction t).status ∧
    ∀ k : Host P S, k.commit t later = (.failed (.notActive t), later)

theorem stays_of_ended (hv : v.transaction t = .ended o) (later : World P S)
    (hr : Run t u v later) : (later.transaction t).status = (v.transaction t).status ∧
      ∀ k : Host P S, k.commit t later = (.failed (.notActive t), later) := by
  have hc : (v.transaction t).status.isActive = false := by
    rw [hv]
    rfl
  obtain ⟨es, he⟩ := hr.rest hc
  refine ⟨by rw [he.transaction], ?_⟩
  intro k
  apply Host.commit_closed
  rw [he.transaction, hc]

theorem lasting_failed {result : Except TransactionError Unit} (hr : result ≠ .ok ())
    (hv : v.transaction t = .ended .rolledBack) (calls : List (Call P)) :
    Lasting t u w result calls v where
  undone _ := by
    rw [hv]
    exact ⟨hr, rfl⟩
  ok_iff := by
    constructor
    · intro hok
      exact absurd hok hr
    · rintro ⟨hs, -⟩
      rw [hv] at hs
      cases hs
  stays := stays_of_ended hv

theorem lasting_committed (he : Ongoing t u w es m) (ht : Telling .committed t u m [] fs v)
    (hp : ∀ p, .party p ∈ (m.transaction t).synchronizations → .told p .committed ∈ fs)
    (hq : ∀ p ∈ (m.unit u).participants ++ enlistedIn u fs, .told p .committed ∈ fs) :
    Lasting t u w (.ok ()) (es ++ fs) v where
  undone hm := by
    obtain hm | hm := List.mem_append.mp hm
    · exact absurd hm he.kept
    · exact absurd hm ht.kept
  ok_iff := by
    refine iff_of_true rfl ⟨by rw [ht.transaction]; rfl, ?_⟩
    rintro p (hj | hl)
    · rw [joinedTo_append, ht.joinedTo_eq, List.append_nil, ← he.synchronizations] at hj
      exact List.mem_append_right _ (hp p hj)
    · rw [enlistedIn_append, ← List.append_assoc, ← he.participants] at hl
      exact List.mem_append_right _ (hq p hl)
  stays := stays_of_ended ht.transaction

/-- When nobody refuses, the commit overwrites a rollback. -/
theorem agreed_lasting_iff (hbefore : ∀ p w, Run t u w (h.before p w).2)
    (hafter : ∀ p o w, Run t u w (h.after p o w).2)
    (hdispatch : ∀ batch x w, Run t u w (h.dispatch batch x w).2) {d : World P S} {n : Nat}
    (he : Ongoing t u w es m) (hunit : .unit u ∈ (w.transaction t).synchronizations)
    (hd : h.watched.askAll t n 0 m = (.done (), d))
    (hv : h.watched.complete t .committed d = (.done (), v)) :
    ∃ late, v.past = m.past ++ late ∧
      (Lasting t u w (.ok ()) (es ++ late) v ↔ .rolledBack t ∉ late) := by
  have hc := askAll_course hbefore hdispatch he.isActive n
  rw [hd] at hc
  obtain ⟨gs, hg, hp, hq⟩ := complete_telling hafter hv
  obtain ⟨fs, hf, -⟩ | ⟨fs, hf⟩ := hc
  · have hall := he.trans hf
    have hjoined : .unit u ∈ (d.transaction t).synchronizations := by
      rw [hall.synchronizations]
      exact List.mem_append_left _ hunit
    refine ⟨fs ++ gs, ?_, iff_of_true ?_ ?_⟩
    · rw [hg.past, hf.past, List.append_assoc]
    · rw [← List.append_assoc]
      exact lasting_committed hall hg hp (hq hjoined)
    · intro hm
      obtain hm | hm := List.mem_append.mp hm
      · exact hf.kept hm
      · exact hg.kept hm
  · have hrolled : .rolledBack t ∈ fs ++ gs := List.mem_append_left _ hf.rolledBack
    refine ⟨fs ++ gs, ?_, iff_of_false ?_ fun hno => hno hrolled⟩
    · rw [hg.past, hf.past, List.append_assoc]
    · intro hl
      exact (hl.undone (List.mem_append_right _ hrolled)).1 rfl

/-- Whatever is done to a transaction before its commit, and whatever the code that the commit calls
back does to it, rollbacks included: the outcome is final unless the transaction is rolled back
while the commit asks, and nobody refuses. -/
theorem commit_lasts_iff (hbefore : ∀ p w, Run t u w (h.before p w).2)
    (hafter : ∀ p o w, Run t u w (h.after p o w).2)
    (hdispatch : ∀ batch x w, Run t u w (h.dispatch batch x w).2)
    {w₀ w₁ v : World P S} {result : Except TransactionError Unit}
    (hactive : (w₀.transaction t).status = .active)
    (hunit : .unit u ∈ (w₀.transaction t).synchronizations) (hrun : Run t u w₀ w₁)
    (hcommit : h.watched.commit t w₁ = (.ofExcept result, v)) :
    ∃ early late, w₁.past = w₀.past ++ early ∧ v.past = w₁.past ++ late ∧
      (Lasting t u w₀ result (early ++ late) v ↔
        (.rolledBack t ∈ late → ∃ e d, h.watched.askAll t h.patience 0 w₁ = (.failed e, d))) := by
  have hopen : (w₀.transaction t).status.isActive = true := by
    rw [hactive]
    rfl
  obtain ⟨early, he, -⟩ | ⟨early, he⟩ := hrun.course hopen
  · cases Host.commit_return h.watched t he.isActive hcommit with
    | marked hm hv =>
      obtain ⟨late, hl, -, -⟩ := complete_telling hafter hv
      refine ⟨early, late, he.past, hl.past, iff_of_true ?_ ?_⟩
      · exact lasting_failed (fun h => by cases h) hl.transaction _
      · exact fun hr => absurd hr hl.kept
    | @refused e d _ ha hd hv =>
      have hask : h.watched.askAll t h.patience 0 w₁ = (.failed e, d) := hd
      obtain ⟨late, hl, htransaction, -⟩ :=
        refused_untold hbefore hafter hdispatch he.isActive hask hv
      refine ⟨early, late, he.past, hl, iff_of_true ?_ fun _ => ⟨e, d, hask⟩⟩
      exact lasting_failed (fun h => by cases h) htransaction _
    | @agreed d _ ha hd hv =>
      have hask : h.watched.askAll t h.patience 0 w₁ = (.done (), d) := hd
      obtain ⟨late, hl, hiff⟩ :=
        agreed_lasting_iff hbefore hafter hdispatch he hunit hask hv
      refine ⟨early, late, he.past, hl, hiff.trans ⟨fun hno hm => absurd hm hno, ?_⟩⟩
      intro hrefused hm
      obtain ⟨e, d', hf⟩ := hrefused hm
      rw [hf] at hask
      cases (Prod.mk.inj hask).1
  · have hc : (w₁.transaction t).status.isActive = false := by
      rw [he.transaction]
      rfl
    rw [Host.commit_closed h.watched t hc] at hcommit
    obtain ⟨hr, rfl⟩ := Prod.mk.inj hcommit
    refine ⟨early, [], he.past, (List.append_nil _).symm, iff_of_true ?_ fun hm => by cases hm⟩
    refine lasting_failed ?_ he.transaction _
    rw [Exit.eq_error_of_failed hr]
    exact fun h => by cases h

/-- Of the parties, 0 rolls the transaction back when it is asked. -/
def revoking : Host Nat (List (Call Nat)) :=
  { idle with
    before := fun p =>
      if p = 0 then (idle.undo soleTransaction).mapError .transaction else pure () }

theorem run_revoking (p : Nat) (w : World Nat (List (Call Nat))) :
    Run soleTransaction soleUnit w (revoking.before p w).2 := by
  by_cases hp : p = 0
  · obtain ⟨r, v, hv⟩ := Host.undo_returns (h := idle) (fun _ _ w => ⟨w, rfl⟩) soleTransaction w
    have hr : Run soleTransaction soleUnit w v := .rollback (run_idle _ _) hv
    simp only [revoking, hp, ↓reduceIte]
    rwa [Task.mapError_state, hv]
  · simp only [revoking, hp, ↓reduceIte]
    exact .refl w

/-- Party 1 has enlisted, and party 0 has joined. -/
def gathered : World Nat (List (Call Nat)) :=
  (WorldAct.noting (.joined soleTransaction (.party 0))
    (WorldAct.synchronize soleTransaction (.party 0))
    (WorldAct.noting (.enlisted soleUnit 1) (WorldAct.enlist soleUnit 1) attached).2).2

def revoked : World Nat (List (Call Nat)) := (revoking.watched.commit soleTransaction gathered).2

/-- The commit succeeds although the transaction has been rolled back from inside it, with success
and before everyone's eyes: both parties have been told that it is rolled back, and nothing else. -/
theorem commit_overwrites_rollback :
    revoking.watched.commit soleTransaction gathered = (.done (), revoked) ∧
      revoked.past = gathered.past ++ [.agreed 1, .told 1 .rolledBack, .told 0 .rolledBack,
        .rolledBack soleTransaction, .agreed 0] ∧
      (revoked.transaction soleTransaction).status = .completed .committed := ⟨rfl, rfl, rfl⟩

theorem commit_lasts_iff_revoked :
    (∀ p w, Run soleTransaction soleUnit w (revoking.before p w).2) ∧
      (∀ p o w, Run soleTransaction soleUnit w (revoking.after p o w).2) ∧
      (∀ batch x w, Run soleTransaction soleUnit w (revoking.dispatch batch x w).2) ∧
      (attached.transaction soleTransaction).status = .active ∧
      .unit soleUnit ∈ (attached.transaction soleTransaction).synchronizations ∧
      Run soleTransaction soleUnit attached gathered ∧
      revoking.watched.commit soleTransaction gathered = (.ofExcept (.ok ()), revoked) ∧
      ∃ early late, gathered.past = attached.past ++ early ∧ revoked.past = gathered.past ++ late ∧
        (Lasting soleTransaction soleUnit attached (.ok ()) (early ++ late) revoked ↔
          (.rolledBack soleTransaction ∈ late → ∃ e d,
            revoking.watched.askAll soleTransaction revoking.patience 0 gathered =
              (.failed e, d))) := by
  have hafter : ∀ p o w, Run soleTransaction soleUnit w (revoking.after p o w).2 :=
    run_idle soleTransaction soleUnit
  have hdispatch : ∀ batch x w, Run soleTransaction soleUnit w (revoking.dispatch batch x w).2 :=
    fun _ _ w => .refl w
  have hactive : (attached.transaction soleTransaction).status = .active := rfl
  have hunit : .unit soleUnit ∈ (attached.transaction soleTransaction).synchronizations :=
    List.mem_singleton_self _
  have hrun : Run soleTransaction soleUnit attached gathered :=
    .trans (.enlist 1 attached) (.join (fun h => by cases h) _)
  have hcommit : revoking.watched.commit soleTransaction gathered = (.ofExcept (.ok ()), revoked) :=
    rfl
  exact ⟨run_revoking, hafter, hdispatch, hactive, hunit, hrun, hcommit,
    commit_lasts_iff run_revoking hafter hdispatch hactive hunit hrun hcommit⟩

end Transactor
