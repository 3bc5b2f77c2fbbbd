import Transactor.Proofs.Callbacks

namespace Transactor

variable {P S : Type} [Chronicle S P] {t : TransactionId} {u : UnitRef} {w m n v d : World P S}
  {es fs first own rest : List (Call P)} {h : Host P S}

/-- A participant has agreed before it was told of a commit, and after the last batch of its unit.
-/
def Consented (u : UnitRef) (p : P) (calls : List (Call P)) : Prop :=
  ∃ early late, calls = early ++ .agreed p :: late ∧ .told p .committed ∉ early ∧
    ∀ batch, .dispatched u batch ∉ late

/-- A unit has had its turn in the pass: after the calls `first` it has been asked itself, and has
made the calls `own`. At their end it has asked its participants, every one who has enlisted by then
and in the order of enlistment, and the calls `rest` after that dispatch nothing of the unit. -/
structure Turn (h : Host P S) (u : UnitRef) (w : World P S) (first own rest : List (Call P)) : Prop
    where
  asked : ∃ m n, m.past = w.past ++ first ∧ h.watched.before? (.unit u) m = (.done (), n) ∧
    n.past = w.past ++ (first ++ own)
  polled : ∃ drained polled, own = drained ++ polled ∧
    agreedIn polled = (w.unit u).participants ++ enlistedIn u (first ++ own) ∧
    ∀ batch, .dispatched u batch ∉ polled ++ rest

theorem Turn.more (ht : Turn h u w first own rest) (hf : ∀ batch, .dispatched u batch ∉ fs) :
    Turn h u w first own (rest ++ fs) := by
  obtain ⟨drained, polled, hown, hagreed, hnone⟩ := ht.polled
  refine ⟨ht.asked, drained, polled, hown, hagreed, ?_⟩
  intro batch hm
  rw [← List.append_assoc] at hm
  obtain hm | hm := List.mem_append.mp hm
  · exact hnone batch hm
  · exact hf batch hm

theorem eq_length_of_getElem? {α : Type} {x : α} {pre post : List α} (hpre : x ∉ pre)
    (hpost : x ∉ post) {i : Nat} (hi : (pre ++ x :: post)[i]? = some x) : i = pre.length := by
  obtain hlt | hle := Nat.lt_or_ge i pre.length
  · rw [List.getElem?_append_left hlt] at hi
    exact absurd (List.mem_of_getElem? hi) hpre
  · rw [List.getElem?_append_right hle] at hi
    cases hk : i - pre.length with
    | zero => omega
    | succ k =>
      rw [hk, List.getElem?_cons_succ] at hi
      exact absurd (List.mem_of_getElem? hi) hpost

theorem mem_of_agreedIn {p : P} (hp : p ∈ agreedIn es) : .agreed p ∈ es := by
  obtain ⟨e, he, heq⟩ := List.mem_filterMap.mp hp
  cases e with
  | agreed q =>
    cases heq
    exact he
  | _ => cases heq

/-- Who has enlisted by the end of the unit's turn has agreed in time. -/
theorem Turn.consented (ht : Turn h u w first own rest)
    (huntold : ∀ p, .told p .committed ∉ first ++ own) {p : P}
    (hp : p ∈ (w.unit u).participants ++ enlistedIn u (first ++ own)) :
    Consented u p (first ++ own ++ rest) := by
  obtain ⟨drained, polled, hown, hagreed, hnone⟩ := ht.polled
  rw [← hagreed] at hp
  obtain ⟨before, after, hsplit⟩ := List.append_of_mem (mem_of_agreedIn hp)
  refine ⟨first ++ drained ++ before, after ++ rest, ?_, ?_, ?_⟩
  · rw [hown, hsplit]
    simp only [List.append_assoc, List.cons_append]
  · intro hm
    apply huntold p
    rw [hown, hsplit]
    simp only [List.mem_append, List.mem_cons] at hm ⊢
    obtain (hm | hm) | hm := hm
    · exact .inl hm
    · exact .inr (.inl hm)
    · exact .inr (.inr (.inl hm))
  · intro batch hm
    apply hnone batch
    rw [hsplit, List.append_assoc]
    exact List.mem_append_right _ (List.mem_cons_of_mem _ hm)

section Pass

variable (hbefore : ∀ p w, Run t u w (h.before p w).2)

include hbefore

theorem askParticipants_undone (hu : Undone t w es m) (patience place : Nat) :
    ∃ fs, Undone t w fs (h.watched.askParticipants u patience place m).2 :=
  hu.keeps (Host.askParticipants_keeps h.watched u
    (before_course (fun _ _ hfalse _ => hfalse) hbefore) patience place)

theorem askParticipants_polled {patience place : Nat} (he : Ongoing t u m es n)
    (hagreed : agreedIn es = (n.unit u).participants.take place)
    (hnone : ∀ batch, .dispatched u batch ∉ es)
    (hv : h.watched.askParticipants u patience place n = (.done (), v)) :
    (∃ fs, Ongoing t u m fs v ∧ agreedIn fs = (v.unit u).participants ∧
      ∀ batch, .dispatched u batch ∉ fs) ∨ ∃ fs, Undone t m fs v := by
  -- by induction on the patience that is left, with those who have agreed general
  induction patience generalizing place es n with
  | zero => cases hv
  | succ patience ih =>
    unfold Host.askParticipants at hv
    rw [Task.bind_done (Task.gets_apply _ n)] at hv
    cases hx : (n.unit u).participants[place]? with
    | none =>
      rw [hx] at hv
      cases hv
      rw [List.take_of_length_le (List.getElem?_eq_none_iff.mp hx)] at hagreed
      exact .inl ⟨es, he, hagreed, hnone⟩
    | some p =>
      rw [hx] at hv
      obtain ⟨_, n', hn, hrest⟩ := Task.bind_eq_done.mp hv
      obtain ⟨_, n₁, hn₁, hnote⟩ := Task.bind_eq_done.mp hn
      cases hnote
      have hr := hbefore p n
      rw [hn₁] at hr
      obtain ⟨fs, hf, hplain⟩ | ⟨fs, hf⟩ := hr.course he.isActive
      · have hall : Ongoing t u m (es ++ fs ++ [.agreed p]) (n₁.note (.agreed p)) :=
          (he.trans hf).note rfl rfl (fun h => by cases h) fun _ _ h => by cases h
        refine ih hall ?_ ?_ hrest
        · have hlt := (List.getElem?_eq_some_iff.mp hx).1
          rw [World.unit_note, hf.participants, List.take_append_of_le_length hlt,
            List.take_add_one, hx, agreedIn_append, agreedIn_append, hagreed, hplain.1,
            List.append_nil]
          rfl
        · intro batch hm
          simp only [List.mem_append, List.mem_singleton] at hm
          obtain (hm | hm) | hm := hm
          · exact hnone batch hm
          · exact hplain.2 batch hm
          · cases hm
      · -- whatever is asked after a rollback, the transaction stays rolled back
        have hundone := (hf.after he).note (e := .agreed p) fun _ _ h => by cases h
        have hk := askParticipants_undone hbefore hundone patience (place + 1)
        rw [hrest] at hk
        exact .inr hk

variable (hdispatch : ∀ batch x w, Run t u w (h.dispatch batch x w).2)

include hdispatch

theorem beforeUnit_turn (he : Ongoing t u w es m)
    (hv : h.watched.before? (.unit u) m = (.done (), v)) :
    (∃ fs, Ongoing t u w (es ++ fs) v ∧ Turn h u w es fs []) ∨ ∃ fs, Undone t w fs v := by
  have hturn := hv
  obtain ⟨_, n, hn, hpoll⟩ := Task.bind_eq_done.mp hv
  have hm : Course t u (fun _ => True) m m := .inl ⟨[], .refl u he.isActive, trivial⟩
  have hd := drain_course (fun _ _ _ _ => trivial) hdispatch u (fun _ _ _ => trivial) m hm
  rw [hn] at hd
  obtain ⟨fs, hf, -⟩ | ⟨fs, hf⟩ := hd
  · obtain ⟨gs, hg, hagreed, hnone⟩ | ⟨gs, hg⟩ := askParticipants_polled hbefore
      (.refl u hf.isActive) (by rw [List.take_zero]; rfl) (fun _ h => by cases h) hpoll
    · have hall := (he.trans hf).trans hg
      have hassoc : es ++ fs ++ gs = es ++ (fs ++ gs) := List.append_assoc ..
      rw [hassoc] at hall
      refine .inl ⟨fs ++ gs, hall, ⟨m, v, he.past, hturn, hall.past⟩, fs, gs, rfl, ?_, ?_⟩
      · rw [hagreed, hall.participants]
      · rwa [List.append_nil]
    · exact .inr ⟨_, hg.after (he.trans hf)⟩
  · -- the rollback came with a batch; asking the participants does not revoke it
    have hk := askParticipants_undone hbefore (hf.after he) h.patience 0
    have hpoll' : h.watched.askParticipants u h.patience 0 n = (.done (), v) := hpoll
    rw [hpoll'] at hk
    exact .inr hk

theorem beforeOther_course (ha : (m.transaction t).status.isActive = true)
    {s : Synchronization P} (hs : s ≠ .unit u) :
    Course t u (fun fs => ∀ batch, .dispatched u batch ∉ fs) m (h.watched.before? s m).2 := by
  apply before?_course _ hbefore hdispatch s
  · rintro x rfl es batch hes b hm
    obtain hm | hm := List.mem_append.mp hm
    · exact hes b hm
    · cases List.mem_singleton.mp hm
      exact hs rfl
  · exact .inl ⟨[], .refl u ha, fun _ h => by cases h⟩
  · intro es fs hes hfs b hm
    obtain hm | hm := List.mem_append.mp hm
    · exact hes b hm
    · exact hfs b hm

theorem askAll_undone (hu : Undone t w es m) (patience place : Nat) :
    ∃ fs, Undone t w fs (h.watched.askAll t patience place m).2 := by
  apply hu.keeps (u := u)
  apply Host.askAll_keeps
  intro m hm s _
  exact before?_course (fun _ _ hfalse _ => hfalse) hbefore hdispatch s
    (fun _ _ _ _ hfalse => hfalse) m hm

variable {pre post : List (Synchronization P)}
  (hsyncs : (w.transaction t).synchronizations = pre ++ .unit u :: post)
  (hpre : .unit u ∉ pre) (hpost : .unit u ∉ post)

include hsyncs hpre hpost

/-- The pass comes to the unit once, at the place at which it has joined. -/
theorem askAll_turn {patience place : Nat} (he : Ongoing t u w es m)
    (hturn : pre.length < place → ∃ first own rest, es = first ++ own ++ rest ∧
      Turn h u w first own rest)
    (hv : h.watched.askAll t patience place m = (.done (), d)) :
    (∃ first own rest, Ongoing t u w (first ++ own ++ rest) d ∧ Turn h u w first own rest) ∨
      ∃ fs, Undone t w fs d := by
  induction patience generalizing place es m with
  | zero => cases hv
  | succ patience ih =>
    have hm : (m.transaction t).synchronizations = pre ++ .unit u :: (post ++ joinedTo t es) := by
      rw [he.synchronizations, hsyncs, List.append_assoc, List.cons_append]
    unfold Host.askAll at hv
    rw [Task.bind_done (Task.gets_apply _ m)] at hv
    cases hs : (m.transaction t).synchronizations[place]? with
    | none =>
      rw [hs] at hv
      cases hv
      have hlen := List.getElem?_eq_none_iff.mp hs
      rw [hm, List.length_append, List.length_cons] at hlen
      obtain ⟨first, own, rest, rfl, ht⟩ := hturn (by omega)
      exact .inl ⟨first, own, rest, he, ht⟩
    | some s =>
      rw [hs] at hv
      obtain ⟨_, n, hn, hrest⟩ := Task.bind_eq_done.mp hv
      rw [hm] at hs
      by_cases hp : place = pre.length
      · obtain rfl : .unit u = s := by
          rw [hp, List.getElem?_append_right (Nat.le_refl _), Nat.sub_self] at hs
          exact Option.some.inj hs
        obtain ⟨fs, hf, ht⟩ | ⟨fs, hf⟩ := beforeUnit_turn hbefore hdispatch he hn
        · refine ih hf (fun _ => ⟨es, fs, [], (List.append_nil _).symm, ht⟩) hrest
        · obtain ⟨gs, hg⟩ := askAll_undone hbefore hdispatch hf patience (place + 1)
          rw [hrest] at hg
          exact .inr ⟨gs, hg⟩
      · have hne : s ≠ .unit u := by
          rintro rfl
          refine hp (eq_length_of_getElem? hpre ?_ hs)
          exact fun hu => (List.mem_append.mp hu).elim hpost he.foreign
        have hk := beforeOther_course hbefore hdispatch he.isActive hne
        rw [hn] at hk
        obtain ⟨fs, hf, hnone⟩ | ⟨fs, hf⟩ := hk
        · refine ih (he.trans hf) ?_ hrest
          intro hlt
          obtain ⟨first, own, rest, rfl, ht⟩ := hturn (by omega)
          exact ⟨first, own, rest ++ fs, List.append_assoc .., ht.more hnone⟩
        · obtain ⟨gs, hg⟩ := askAll_undone hbefore hdispatch (hf.after he) patience (place + 1)
          rw [hrest] at hg
          exact .inr ⟨gs, hg⟩

end Pass

section Commit

/-- Whatever is done to a transaction by the code that its commit calls back. Either nobody is told
of a commit, or the unit has had its turn: then every participant is told, and those who have
enlisted by the end of the turn have agreed before, after the last batch. -/
theorem commit_consults (hbefore : ∀ p w, Run t u w (h.before p w).2)
    (hafter : ∀ p o w, Run t u w (h.after p o w).2)
    (hdispatch : ∀ batch x w, Run t u w (h.dispatch batch x w).2)
    {pre post : List (Synchronization P)} {result : Except TransactionError Unit}
    (hopen : (w.transaction t).status.isActive = true)
    (hsyncs : (w.transaction t).synchronizations = pre ++ .unit u :: post)
    (hpre : .unit u ∉ pre) (hpost : .unit u ∉ post)
    (hcommit : h.watched.commit t w = (.ofExcept result, v)) :
    ∃ late, v.past = w.past ++ late ∧ ((∀ p, .told p .committed ∉ late) ∨
      ∃ first own rest, late = first ++ own ++ rest ∧ Turn h u w first own rest ∧
        (∀ p ∈ (w.unit u).participants ++ enlistedIn u late, .told p .committed ∈ rest) ∧
        ∀ p ∈ (w.unit u).participants ++ enlistedIn u (first ++ own), Consented u p late) := by
  cases Host.commit_return h.watched t hopen hcommit with
  | marked hm hv =>
    obtain ⟨late, hl, -, -⟩ := complete_telling hafter hv
    exact ⟨late, hl.past, .inl fun p hm => by cases hl.told_eq hm⟩
  | @refused e d _ ha hd hv =>
    obtain ⟨late, hl, -, huntold⟩ := refused_untold hbefore hafter hdispatch hopen hd hv
    exact ⟨late, hl, .inl huntold⟩
  | @agreed d _ ha hd hv =>
    have hask : h.watched.askAll t h.patience 0 w = (.done (), d) := hd
    obtain ⟨first, own, rest, he, ht⟩ | ⟨es, he⟩ := askAll_turn hbefore hdispatch hsyncs hpre hpost
      (.refl u hopen) (fun hlt => absurd hlt (Nat.not_lt_zero _)) hask
    · obtain ⟨fs, hf, -, hq⟩ := complete_telling hafter hv
      have hjoined : .unit u ∈ (d.transaction t).synchronizations := by
        rw [he.synchronizations, hsyncs]
        exact List.mem_append_left _ (List.mem_append_right _ List.mem_cons_self)
      have huntold : ∀ p, .told p .committed ∉ first ++ own :=
        fun p hm => he.untold p _ (List.mem_append_left _ hm)
      have ht' := ht.more hf.undispatched
      have hlate : first ++ own ++ rest ++ fs = first ++ own ++ (rest ++ fs) :=
        List.append_assoc ..
      refine ⟨first ++ own ++ rest ++ fs, ?_, .inr ⟨first, own, rest ++ fs, hlate, ht', ?_, ?_⟩⟩
      · rw [hf.past, he.past, List.append_assoc]
      · intro p hp
        rw [enlistedIn_append, ← List.append_assoc, ← he.participants] at hp
        exact List.mem_append_right _ (hq hjoined p hp)
      · intro p hp
        rw [hlate]
        exact ht'.consented huntold hp
    · -- after a rollback nobody is left to be told
      have hs : (d.transaction t).synchronizations = [] := by
        rw [he.transaction]
        rfl
      rw [Host.complete_alone h.watched t hs] at hv
      cases hv
      exact ⟨es, he.past, .inl fun p hm => by cases he.told p _ hm⟩

end Commit

/-- Of the parties, 0 enlists 1 when it is asked, and 1 would refuse. -/
def crowding : Host Nat (List (Call Nat)) :=
  { idle with
    before
      | 0 => Task.atOnce (WorldAct.noting (.enlisted soleUnit 1) (WorldAct.enlist soleUnit 1))
      | 1 => Task.fail (.closed soleTransaction)
      | _ => pure () }

theorem run_crowding (p : Nat) (w : World Nat (List (Call Nat))) :
    Run soleTransaction soleUnit w (crowding.before p w).2 := by
  match p with
  | 0 => exact .enlist 1 w
  | 1 => exact .refl w
  | _ + 2 => exact .refl w

/-- Party 0 has joined after the unit. -/
def waiting : World Nat (List (Call Nat)) :=
  (WorldAct.noting (.joined soleTransaction (.party 0))
    (WorldAct.synchronize soleTransaction (.party 0)) attached).2

def crowded : World Nat (List (Call Nat)) := (crowding.watched.commit soleTransaction waiting).2

/-- Who enlists after the unit's turn is told of the commit although it has not been asked, and
would have refused. -/
theorem commit_overlooks_late_participant :
    crowding.watched.commit soleTransaction waiting = (.done (), crowded) ∧
      crowded.past = waiting.past ++
        [.enlisted soleUnit 1, .agreed 0, .told 1 .committed, .told 0 .committed] ∧
      ¬ Consented soleUnit 1
        [.enlisted soleUnit 1, .agreed 0, .told 1 .committed, .told 0 .committed] ∧
      ∀ w, crowding.before 1 w = (.failed (.closed soleTransaction), w) := by
  refine ⟨rfl, rfl, ?_, fun _ => rfl⟩
  rintro ⟨early, late, hcalls, -, -⟩
  have hm : .agreed 1 ∈ early ++ .agreed 1 :: late :=
    List.mem_append_right _ List.mem_cons_self
  rw [← hcalls] at hm
  simp at hm

theorem commit_consults_crowded :
    (∀ p w, Run soleTransaction soleUnit w (crowding.before p w).2) ∧
      (∀ p o w, Run soleTransaction soleUnit w (crowding.after p o w).2) ∧
      (∀ batch x w, Run soleTransaction soleUnit w (crowding.dispatch batch x w).2) ∧
      (waiting.transaction soleTransaction).status.isActive = true ∧
      (waiting.transaction soleTransaction).synchronizations =
        [] ++ .unit soleUnit :: [.party 0] ∧
      .unit soleUnit ∉ ([] : List (Synchronization Nat)) ∧
      .unit soleUnit ∉ [(.party 0 : Synchronization Nat)] ∧
      crowding.watched.commit soleTransaction waiting = (.ofExcept (.ok ()), crowded) ∧
      ∃ late, crowded.past = waiting.past ++ late ∧ ((∀ p, .told p .committed ∉ late) ∨
        ∃ first own rest, late = first ++ own ++ rest ∧
          Turn crowding soleUnit waiting first own rest ∧
          (∀ p ∈ (waiting.unit soleUnit).participants ++ enlistedIn soleUnit late,
            .told p .committed ∈ rest) ∧
          ∀ p ∈ (waiting.unit soleUnit).participants ++ enlistedIn soleUnit (first ++ own),
            Consented soleUnit p late) := by
  have hafter : ∀ p o w, Run soleTransaction soleUnit w (crowding.after p o w).2 :=
    run_idle soleTransaction soleUnit
  have hdispatch : ∀ batch x w, Run soleTransaction soleUnit w (crowding.dispatch batch x w).2 :=
    fun _ _ w => .refl w
  have hopen : (waiting.transaction soleTransaction).status.isActive = true := rfl
  have hsyncs : (waiting.transaction soleTransaction).synchronizations =
      [] ++ .unit soleUnit :: [.party 0] := rfl
  have hpre : .unit soleUnit ∉ ([] : List (Synchronization Nat)) := fun h => by cases h
  have hpost : .unit soleUnit ∉ [(.party 0 : Synchronization Nat)] :=
    fun h => by cases List.mem_singleton.mp h
  have hcommit : crowding.watched.commit soleTransaction waiting = (.ofExcept (.ok ()), crowded) :=
    rfl
  exact ⟨run_crowding, hafter, hdispatch, hopen, hsyncs, hpre, hpost, hcommit,
    commit_consults run_crowding hafter hdispatch hopen hsyncs hpre hpost hcommit⟩

end Transactor
