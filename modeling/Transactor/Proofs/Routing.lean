import Mathlib.Data.List.Basic
import Transactor.Delivery
import Transactor.Proofs.Calls
import Transactor.Proofs.Steps

namespace Transactor

variable {P S : Type}

/-- A call of a handler that has ended: the message, the place of the subscription, and how. -/
structure Invocation where
  message : Message
  subscription : ℕ
  exit : Exit DeliveryError Unit

namespace World

/-- The world without what is noted beside the state of its host. -/
def bare {R : Type} (w : World P (S × R)) : World P S := { w with host := w.host.1 }

def beside {R : Type} (w : World P S) (r : R) : World P (S × R) := { w with host := (w.host, r) }

end World

/-- The handler, each of whose calls is noted under a number. -/
def Handler.numbered (h : Handler P S) (i : ℕ) : Handler P (S × List Invocation) := fun m u w =>
  let r := h m u w.bare
  (r.1, r.2.beside (w.host.2 ++ [⟨m, i, r.1⟩]))

/-- A subscription at its place. -/
def Subscription.placed (s : Subscription (Handler P S) × ℕ) :
    Subscription (Handler P (S × List Invocation)) :=
  ⟨s.1.type, Handler.numbered s.1.handler s.2⟩

/-- The subscriptions, each of whose handlers notes its calls under the place. -/
def numbered (subscriptions : List (Subscription (Handler P S))) :
    List (Subscription (Handler P (S × List Invocation))) :=
  subscriptions.zipIdx.map Subscription.placed

/-- The calls that a batch is routed by, and what comes of it. The pairs are the places of a message
and of a subscription that takes it, in lexicographic order. There is one call for each of them in
turn, the first that does not go well being the last one, and the result of the whole. -/
structure Routed {H : Type} (subscriptions : List (Subscription H)) (batch : List Message)
    (pairs : List (ℕ × ℕ)) (calls : List Invocation) (exit : Exit DeliveryError Unit) : Prop where
  sorted : pairs.Pairwise (Prod.Lex (· < ·) (· < ·))
  mem_iff : ∀ p, p ∈ pairs ↔ ∃ m s, batch[p.1]? = some m ∧ subscriptions[p.2]? = some s ∧
    (s.type = "*" ∨ s.type = m.type)
  length_le : calls.length ≤ pairs.length
  place : ∀ (k : ℕ) p c, pairs[k]? = some p → calls[k]? = some c →
    batch[p.1]? = some c.message ∧ c.subscription = p.2
  success : (∀ c ∈ calls, c.exit = .done ()) → exit = .done () ∧ calls.length = pairs.length
  failure : ∀ before c after, calls = before ++ c :: after → c.exit ≠ .done () →
    after = [] ∧ exit = c.exit

/-- For a pair there is one call, and only one. -/
def CalledOnce (pairs : List (ℕ × ℕ)) (calls : List Invocation) (p : ℕ × ℕ) (c : Invocation) :
    Prop :=
  ∃ k : ℕ, (∀ k' : ℕ, pairs[k']? = some p ↔ k' = k) ∧ calls[k]? = some c

namespace Routed

variable {H : Type} {subscriptions : List (Subscription H)} {batch : List Message}
  {pairs : List (ℕ × ℕ)} {calls : List Invocation} {exit : Exit DeliveryError Unit}

theorem lex (h : Routed subscriptions batch pairs calls exit) {a b : ℕ} {p q : ℕ × ℕ}
    (ha : pairs[a]? = some p) (hb : pairs[b]? = some q) (hab : a < b) :
    Prod.Lex (· < ·) (· < ·) p q := by
  obtain ⟨_, rfl⟩ := List.getElem?_eq_some_iff.mp ha
  obtain ⟨_, rfl⟩ := List.getElem?_eq_some_iff.mp hb
  exact List.pairwise_iff_getElem.mp h.sorted a b _ _ hab

theorem index_unique (h : Routed subscriptions batch pairs calls exit) {a b : ℕ} {p : ℕ × ℕ}
    (ha : pairs[a]? = some p) (hb : pairs[b]? = some p) : a = b := by
  have hirrefl : ¬Prod.Lex (· < ·) (· < ·) p p := by
    rw [Prod.lex_def]
    omega
  obtain hl | he | hg := Nat.lt_trichotomy a b
  · exact absurd (h.lex ha hb hl) hirrefl
  · exact he
  · exact absurd (h.lex hb ha hg) hirrefl

theorem stopped (h : Routed subscriptions batch pairs calls exit)
    (hl : calls.length < pairs.length) :
    ∃ before c, calls = before ++ [c] ∧ c.exit ≠ .done () ∧ exit = c.exit := by
  have hfailed : ∃ c ∈ calls, c.exit ≠ .done () := by
    by_contra hall
    push Not at hall
    exact absurd (h.success hall).2 (Nat.ne_of_lt hl)
  obtain ⟨c, hc, he⟩ := hfailed
  obtain ⟨before, after, hd⟩ := List.append_of_mem hc
  obtain ⟨rfl, hexit⟩ := h.failure before c after hd he
  exact ⟨before, c, hd, he, hexit⟩

/-- A subscription that takes a message is called for it once, unless a call that comes before has
not gone well. -/
theorem once (h : Routed subscriptions batch pairs calls exit) {j i : ℕ} {m : Message}
    {s : Subscription H} (hm : batch[j]? = some m) (hs : subscriptions[i]? = some s)
    (ht : s.type = "*" ∨ s.type = m.type) :
    (∃ c, CalledOnce pairs calls (j, i) c ∧ c.message = m ∧ c.subscription = i) ∨
      ∃ (k : ℕ) (p : ℕ × ℕ) (c : Invocation), Prod.Lex (· < ·) (· < ·) p (j, i) ∧
        pairs[k]? = some p ∧ calls[k]? = some c ∧ c.exit ≠ .done () ∧ exit = c.exit := by
  obtain ⟨k, hk⟩ := List.getElem?_of_mem ((h.mem_iff (j, i)).mpr ⟨m, s, hm, hs, ht⟩)
  have hbound : k < pairs.length := (List.getElem?_eq_some_iff.mp hk).1
  cases hc : calls[k]? with
  | some c =>
    obtain ⟨hb, hplace⟩ := h.place k _ c hk hc
    have hmessage : c.message = m := Option.some.inj (hb.symm.trans hm)
    have hindex : ∀ k' : ℕ, pairs[k']? = some (j, i) ↔ k' = k :=
      fun k' => ⟨fun hk' => h.index_unique hk' hk, fun he => he ▸ hk⟩
    exact .inl ⟨c, ⟨k, hindex, hc⟩, hmessage, hplace⟩
  | none =>
    have hshort : calls.length ≤ k := List.getElem?_eq_none_iff.mp hc
    obtain ⟨before, c, hd, he, hexit⟩ := h.stopped (Nat.lt_of_le_of_lt hshort hbound)
    have hbefore : before.length < k := by
      rw [hd, List.length_append] at hshort
      exact hshort
    have hpair := List.getElem?_eq_getElem (l := pairs) (Nat.lt_trans hbefore hbound)
    refine .inr ⟨before.length, _, c, h.lex hpair hk hbefore, hpair, ?_, he, hexit⟩
    rw [hd]
    exact List.getElem?_concat_length

end Routed

/-- The calls that are to be made, each of a message and the place of a subscription, have been made
up to the first that does not go well. -/
inductive Made : List (Message × ℕ) → List Invocation → Exit DeliveryError Unit → Prop
  | none : Made [] [] (.done ())
  | next {due : List (Message × ℕ)} {calls : List Invocation} {exit : Exit DeliveryError Unit}
      {c : Invocation} (hc : c.exit = .done ()) (h : Made due calls exit) :
      Made ((c.message, c.subscription) :: due) (c :: calls) exit
  | last {due : List (Message × ℕ)} {c : Invocation} (hc : c.exit ≠ .done ()) :
      Made ((c.message, c.subscription) :: due) [c] c.exit

namespace Made

variable {due due' : List (Message × ℕ)} {calls calls' : List Invocation}
  {exit : Exit DeliveryError Unit}

theorem single (c : Invocation) : Made [(c.message, c.subscription)] [c] c.exit := by
  by_cases hc : c.exit = .done ()
  · have h := Made.next hc .none
    rwa [← hc] at h
  · exact .last hc

theorem append (h : Made due calls (.done ())) (g : Made due' calls' exit) :
    Made (due ++ due') (calls ++ calls') exit := by
  generalize he : (Exit.done () : Exit DeliveryError Unit) = e at h
  induction h with
  | none => exact g
  | next hc _ ih => exact .next hc (ih he)
  | last hc => exact absurd he.symm hc

/-- What is due after a call that does not go well is not made. -/
theorem cut (h : Made due calls exit) (he : exit ≠ .done ()) : Made (due ++ due') calls exit := by
  induction h with
  | none => exact absurd rfl he
  | next hc _ ih => exact .next hc (ih he)
  | last hc => exact .last hc

theorem success (h : Made due calls exit) (hc : ∀ c ∈ calls, c.exit = .done ()) :
    exit = .done () ∧ calls.length = due.length := by
  induction h with
  | none => exact ⟨rfl, rfl⟩
  | next _ _ ih =>
    obtain ⟨he, hl⟩ := ih fun c hm => hc c (.tail _ hm)
    exact ⟨he, congrArg (· + 1) hl⟩
  | last hn => exact absurd (hc _ (.head _)) hn

theorem failure (h : Made due calls exit) {before after : List Invocation} {c : Invocation}
    (hd : calls = before ++ c :: after) (hc : c.exit ≠ .done ()) :
    after = [] ∧ exit = c.exit := by
  induction h generalizing before with
  | none => cases before <;> cases hd
  | next hn _ ih =>
    cases before with
    | nil =>
      cases hd
      exact absurd hn hc
    | cons b before =>
      cases hd
      exact ih rfl
  | last hn =>
    cases before with
    | nil =>
      cases hd
      exact ⟨rfl, rfl⟩
    | cons b before => cases before <;> cases hd

theorem length_le (h : Made due calls exit) : calls.length ≤ due.length := by
  induction h with
  | none => exact Nat.le_refl 0
  | next _ _ ih => exact Nat.succ_le_succ ih
  | last _ => exact Nat.succ_le_succ (Nat.zero_le _)

theorem getElem? (h : Made due calls exit) {k : ℕ} {c : Invocation} (hc : calls[k]? = some c) :
    due[k]? = some (c.message, c.subscription) := by
  induction h generalizing k with
  | none => cases hc
  | next _ _ ih =>
    cases k with
    | zero =>
      cases hc
      rfl
    | succ k => exact ih hc
  | last _ =>
    cases k with
    | zero =>
      cases hc
      rfl
    | succ k => cases hc

end Made

section Due

variable {H : Type} (subscriptions : List (Subscription H))

/-- The subscriptions that take a message, at their places. -/
def takers (m : Message) : List (Subscription H × ℕ) :=
  subscriptions.zipIdx.filter fun s => s.1.takes m

/-- The calls that a batch is to be routed by. -/
def due (batch : List Message) : List (Message × ℕ) :=
  batch.flatMap fun m => (takers subscriptions m).map fun s => (m, s.2)

theorem due_append (batch batch' : List Message) :
    due subscriptions (batch ++ batch') = due subscriptions batch ++ due subscriptions batch' :=
  List.flatMap_append

theorem Subscription.takes_iff (s : Subscription H) (m : Message) :
    s.takes m = true ↔ s.type = "*" ∨ s.type = m.type := by
  simp [takes, takesType, anyType]

/-- The places of what is to be called. -/
def duePairs (batch : List Message) : List (ℕ × ℕ) :=
  batch.zipIdx.flatMap fun m => (takers subscriptions m.1).map fun s => (m.2, s.2)

theorem pairwise_zipIdx {α : Type} (xs : List α) (k : ℕ) :
    (xs.zipIdx k).Pairwise fun x y => x.2 < y.2 := by
  rw [← List.pairwise_map (R := (· < ·)), List.zipIdx_map_snd]
  exact List.pairwise_lt_range'

theorem sorted_duePairs (batch : List Message) :
    (duePairs subscriptions batch).Pairwise (Prod.Lex (· < ·) (· < ·)) := by
  apply List.pairwise_flatMap.mpr
  constructor
  · intro m _
    apply List.pairwise_map.mpr
    exact ((pairwise_zipIdx subscriptions 0).filter _).imp fun hs => .right _ hs
  · apply (pairwise_zipIdx batch 0).imp
    intro m m' hm p hp p' hp'
    obtain ⟨s, -, rfl⟩ := List.mem_map.mp hp
    obtain ⟨s', -, rfl⟩ := List.mem_map.mp hp'
    exact .left _ _ hm

theorem mem_duePairs {batch : List Message} {p : ℕ × ℕ} :
    p ∈ duePairs subscriptions batch ↔ ∃ m s, batch[p.1]? = some m ∧
      subscriptions[p.2]? = some s ∧ (s.type = "*" ∨ s.type = m.type) := by
  simp only [duePairs, takers, List.mem_flatMap, List.mem_map, List.mem_filter, Prod.exists,
    List.mem_zipIdx_iff_getElem?, Subscription.takes_iff]
  constructor
  · rintro ⟨m, j, hm, s, i, ⟨hs, ht⟩, rfl⟩
    exact ⟨m, s, hm, hs, ht⟩
  · rintro ⟨m, s, hm, hs, ht⟩
    exact ⟨m, p.1, hm, s, p.2, ⟨hs, ht⟩, rfl⟩

theorem map_duePairs (batch : List Message) :
    (duePairs subscriptions batch).map (fun p => (batch[p.1]?, p.2)) =
      (due subscriptions batch).map fun c => (some c.1, c.2) := by
  have hdue : due subscriptions batch =
      batch.zipIdx.flatMap fun m => (takers subscriptions m.1).map fun s => (m.1, s.2) := by
    conv_lhs => rw [due, ← List.zipIdx_map_fst 0 batch, List.flatMap_map]
  rw [hdue, duePairs, List.map_flatMap, List.map_flatMap]
  apply List.flatMap_congr
  intro m hm
  rw [List.map_map, List.map_map]
  apply List.map_congr_left
  intro s _
  simp only [Function.comp_apply, List.mem_zipIdx_iff_getElem?.mp hm]

end Due

/-- What is due is how a batch is to be routed. -/
theorem Made.routed {H : Type} {subscriptions : List (Subscription H)} {batch : List Message}
    {calls : List Invocation} {exit : Exit DeliveryError Unit}
    (h : Made (due subscriptions batch) calls exit) :
    Routed subscriptions batch (duePairs subscriptions batch) calls exit := by
  have hplaces := map_duePairs subscriptions batch
  have hlength : (duePairs subscriptions batch).length = (due subscriptions batch).length := by
    simpa only [List.length_map] using congrArg List.length hplaces
  exact {
    sorted := sorted_duePairs subscriptions batch
    mem_iff := fun p => mem_duePairs subscriptions
    length_le := by
      rw [hlength]
      exact h.length_le
    place := by
      intro k p c hp hc
      have hk := congrArg (·[k]?) hplaces
      simp only [List.getElem?_map, hp, h.getElem? hc, Option.map_some, Option.some.injEq,
        Prod.mk.injEq] at hk
      exact ⟨hk.1, hk.2.symm⟩
    success := by
      rw [hlength]
      exact h.success
    failure := fun _ _ _ => h.failure }

/-- A computation that makes the calls that are due, and notes them. -/
def Makes (due : List (Message × ℕ)) (x : WorldTask P (S × List Invocation) DeliveryError Unit) :
    Prop :=
  ∀ w, ∃ calls, (x w).2.host.2 = w.host.2 ++ calls ∧ Made due calls (x w).1

namespace Makes

variable {cs ds : List (Message × ℕ)} {x : WorldTask P (S × List Invocation) DeliveryError Unit}
  {f : Unit → WorldTask P (S × List Invocation) DeliveryError Unit}

theorem pure : Makes [] (Pure.pure () : WorldTask P (S × List Invocation) DeliveryError Unit) :=
  fun _ => ⟨[], (List.append_nil _).symm, .none⟩

theorem numbered (h : Handler P S) (i : ℕ) (m : Message) (u : UnitRef) :
    Makes [(m, i)] (h.numbered i m u) := fun w =>
  ⟨[⟨m, i, (h m u w.bare).1⟩], rfl, .single ⟨m, i, (h m u w.bare).1⟩⟩

theorem bind (hx : Makes cs x) (hf : Makes ds (f ())) : Makes (cs ++ ds) (x >>= f) := by
  intro w
  obtain ⟨calls, hn, hm⟩ := hx w
  cases hr : x w with
  | mk r v =>
    rw [hr] at hn hm
    cases r with
    | done _ =>
      rw [Task.bind_done hr]
      obtain ⟨calls', hn', hm'⟩ := hf v
      exact ⟨calls ++ calls', by rw [hn', hn, List.append_assoc], hm.append hm'⟩
    | failed e =>
      rw [Task.bind_failed hr]
      exact ⟨calls, hn, hm.cut fun he => by cases he⟩
    | interrupted i =>
      rw [Task.bind_interrupted hr]
      exact ⟨calls, hn, hm.cut fun he => by cases he⟩

theorem handAround (m : Message) (u : UnitRef) (ss : List (Subscription (Handler P S) × ℕ)) :
    Makes (ss.map fun s => (m, s.2))
      (Dispatcher.handAround m u (ss.map Subscription.placed)) := by
  induction ss with
  | nil => exact .pure
  | cons s ss ih => exact (numbered s.1.handler s.2 m u).bind ih

end Makes

theorem filter_numbered (subscriptions : List (Subscription (Handler P S))) (m : Message) :
    (numbered subscriptions).filter (fun s => s.takes m) =
      (takers subscriptions m).map Subscription.placed := List.filter_map

theorem filter_takes {H : Type} (subscriptions : List (Subscription H)) (m : Message) :
    subscriptions.filter (fun s => s.takes m) = (takers subscriptions m).map Prod.fst := by
  conv_lhs => rw [← List.zipIdx_map_fst 0 subscriptions, List.filter_map]
  rfl

theorem Makes.inProcess (subscriptions : List (Subscription (Handler P S)))
    (batch : List Message) (u : UnitRef) : Makes (due subscriptions batch)
      (Dispatcher.inProcess (Transactor.numbered subscriptions) batch u) := by
  induction batch with
  | nil => exact .pure
  | cons m ms ih =>
    rw [Dispatcher.inProcess, filter_numbered]
    exact (handAround m u (takers subscriptions m)).bind ih

section Lifts

variable {R ε ε' α β : Type}

/-- The computation is the plain one, but for what it notes beside the state of the host. -/
def Lifts (x : WorldTask P (S × R) ε α) (plain : WorldTask P S ε α) : Prop :=
  ∀ w, plain w.bare = ((x w).1, (x w).2.bare)

namespace Lifts

theorem bind {x : WorldTask P (S × R) ε α} {plain : WorldTask P S ε α}
    {f : α → WorldTask P (S × R) ε β} {g : α → WorldTask P S ε β} (hx : Lifts x plain)
    (hf : ∀ a, Lifts (f a) (g a)) : Lifts (x >>= f) (plain >>= g) := by
  intro w
  have h := hx w
  cases hr : x w with
  | mk r v =>
    rw [hr] at h
    cases r with
    | done a =>
      rw [Task.bind_done hr, Task.bind_done h]
      exact hf a v
    | failed e => rw [Task.bind_failed hr, Task.bind_failed h]
    | interrupted i => rw [Task.bind_interrupted hr, Task.bind_interrupted h]

theorem attempt {x : WorldTask P (S × R) ε α} {plain : WorldTask P S ε α} (hx : Lifts x plain) :
    Lifts (x.attempt : WorldTask P (S × R) ε' (Except ε α)) plain.attempt := by
  intro w
  unfold Task.attempt
  rw [hx w]
  cases hr : x w with
  | mk r v => cases r <;> rfl

theorem handAround (m : Message) (u : UnitRef) (ss : List (Subscription (Handler P S) × ℕ)) :
    Lifts (Dispatcher.handAround m u (ss.map Subscription.placed))
      (Dispatcher.handAround m u (ss.map Prod.fst)) := by
  induction ss with
  | nil => exact fun _ => rfl
  | cons s ss ih =>
    exact Lifts.bind (x := s.1.handler.numbered s.2 m u) (fun _ => rfl) fun _ => ih

theorem inProcess (subscriptions : List (Subscription (Handler P S))) (batch : List Message)
    (u : UnitRef) : Lifts (Dispatcher.inProcess (numbered subscriptions) batch u)
      (Dispatcher.inProcess subscriptions batch u) := by
  induction batch with
  | nil => exact fun _ => rfl
  | cons m ms ih =>
    rw [Dispatcher.inProcess, Dispatcher.inProcess, filter_numbered, filter_takes]
    exact (handAround m u (takers subscriptions m)).bind fun _ => ih

end Lifts

end Lifts

section Within

variable {R : World P S → World P S → Prop} {u : UnitRef}

theorem Dispatcher.handAround_within (m : Message) {ss : List (Subscription (Handler P S))}
    (hs : ∀ s ∈ ss, ∀ m, (s.handler m u).Within R) : (Dispatcher.handAround m u ss).Within R := by
  induction ss with
  | nil => exact Task.Within.pure ()
  | cons s ss ih =>
    rw [List.forall_mem_cons] at hs
    exact (hs.1 m).bind fun _ => ih hs.2

theorem Dispatcher.inProcess_within {subscriptions : List (Subscription (Handler P S))}
    (hs : ∀ s ∈ subscriptions, ∀ m, (s.handler m u).Within R) (batch : List Message) :
    (Dispatcher.inProcess subscriptions batch u).Within R := by
  induction batch with
  | nil => exact Task.Within.pure ()
  | cons m ms ih =>
    refine Task.Within.bind (handAround_within m ?_) fun _ => ih
    intro s hm
    exact hs s (List.mem_of_mem_filter hm)

end Within

end Transactor
