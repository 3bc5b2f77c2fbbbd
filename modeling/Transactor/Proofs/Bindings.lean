import Transactor.Proofs.Callbacks

namespace Transactor

variable {P S : Type} {t : TransactionId} {u : UnitRef}

def Synchronization.unit? : Synchronization P → Option UnitRef
  | .unit u => some u
  | .party _ => none

/-- The units of work that wait to be told how a transaction ends. -/
def Transaction.units (x : Transaction P) : List UnitRef :=
  x.synchronizations.filterMap Synchronization.unit?

theorem Transaction.mem_units {x : Transaction P} :
    u ∈ x.units ↔ .unit u ∈ x.synchronizations := by
  rw [units, List.mem_filterMap]
  constructor
  · rintro ⟨s, hs, hu⟩
    cases s with
    | party p => cases hu
    | unit y =>
      cases hu
      exact hs
  · exact fun hu => ⟨_, hu, rfl⟩

/-- The units of work that have joined a transaction, as often as it has accepted them. -/
def unitsJoined (t : TransactionId) (es : List (Call P)) : List UnitRef :=
  (joinedTo t es).filterMap Synchronization.unit?

@[simp] theorem unitsJoined_append (t : TransactionId) (es fs : List (Call P)) :
    unitsJoined t (es ++ fs) = unitsJoined t es ++ unitsJoined t fs := by
  rw [unitsJoined, joinedTo_append, List.filterMap_append]
  rfl

namespace World

/-- A unit of work that the world has, of a transaction. -/
def Owns (w : World P S) (t : TransactionId) (u : UnitRef) : Prop :=
  ∃ x, w.units.get? u = some x ∧ x.transaction = t

def Knows (w : World P S) (t : TransactionId) : Prop := w.transactions.get? t ≠ none

/-- A transaction that has begun and has been completed. -/
def Over (w : World P S) (t : TransactionId) : Prop :=
  w.Knows t ∧ (w.transaction t).status.isActive = false

variable {w : World P S}

theorem Owns.transaction_eq (h : w.Owns t u) : (w.unit u).transaction = t := by
  obtain ⟨x, hx, rfl⟩ := h
  rw [unit, KeyedList.getD, hx]
  rfl

theorem Owns.setUnit (h : w.Owns t u) {v : UnitRef} {x : UnitOfWork P}
    (hx : x.transaction = (w.unit v).transaction) : (w.setUnit v x).Owns t u := by
  by_cases hv : u = v
  · subst hv
    exact ⟨x, KeyedList.get?_insert_self _ _ _, hx.trans h.transaction_eq⟩
  · obtain ⟨y, hy, ht⟩ := h
    exact ⟨y, (KeyedList.get?_insert_of_ne _ _ hv).trans hy, ht⟩

theorem knows_of_isActive (h : (w.transaction t).status.isActive = true) : w.Knows t := by
  intro hn
  rw [transaction, KeyedList.getD, hn] at h
  cases h

theorem isActive_of_not_knows (h : ¬ w.Knows t) : (w.transaction t).status.isActive = false := by
  cases ha : (w.transaction t).status.isActive with
  | false => rfl
  | true => exact absurd (knows_of_isActive ha) h

theorem knows_setTransaction_self (w : World P S) (t : TransactionId) (x : Transaction P) :
    (w.setTransaction t x).Knows t := by
  rw [Knows, setTransaction, KeyedList.get?_insert_self]
  exact fun h => by cases h

theorem Knows.setTransaction (h : w.Knows t) (r : TransactionId) (x : Transaction P) :
    (w.setTransaction r x).Knows t := by
  by_cases hr : t = r
  · subst hr
    exact knows_setTransaction_self w t x
  · rwa [Knows, World.setTransaction, KeyedList.get?_insert_of_ne _ _ hr]

theorem Over.status_ne (h : w.Over t) : (w.transaction t).status ≠ .active := by
  intro ha
  have hc := h.2
  rw [ha] at hc
  cases hc

theorem Over.setTransaction (h : w.Over t) {r : TransactionId} {x : Transaction P}
    (hr : t = r → x.status.isActive = false) : (w.setTransaction r x).Over t := by
  refine ⟨h.1.setTransaction r x, ?_⟩
  by_cases he : t = r
  · subst he
    rw [transaction_setTransaction_self]
    exact hr rfl
  · rw [transaction_setTransaction_of_ne _ _ he]
    exact h.2

end World

section Dealing

variable [Chronicle S P]

/-- A local transaction that notes who joins it. -/
def TransactionHandle.noted (t : TransactionId) : TransactionHandle P S :=
  { TransactionHandle.ofLocal t with
    synchronize := fun s => WorldAct.noting (.joined t s) (WorldAct.synchronize t s) }

/-- What may be done to one registry and its transactions, between commits and rollbacks and in the
code that these call back. `ends` are the transactions that the registry may be told to let go of.
-/
inductive Dealing (ends : TransactionId → Prop) : World P S → World P S → Prop
  | refl (w : World P S) : Dealing ends w w
  | trans {w m v : World P S} (h : Dealing ends w m) (g : Dealing ends m v) : Dealing ends w v
  | begin (w : World P S) (hnew : ¬ w.Knows ⟨w.supply.current⟩) :
      Dealing ends w (WorldAct.beginTransaction (ε := Empty) w).2
  | current (t : TransactionId) (w : World P S) :
      Dealing ends w (WorldAct.currentUnit (.noted t) w).2
  | start (t : TransactionId) (w : World P S) : Dealing ends w (WorldAct.startUnit (.noted t) w).2
  | finish {t : TransactionId} (he : ends t) (w : World P S) :
      Dealing ends w (WorldAct.endUnit (ε := Empty) t w).2
  | register (u : UnitRef) (r : Registration) (w : World P S) :
      Dealing ends w (WorldAct.register u r w).2
  | enlist (u : UnitRef) (p : P) (w : World P S) : Dealing ends w (WorldAct.enlist u p w).2
  | discard (u : UnitRef) (w : World P S) : Dealing ends w (WorldAct.discard (ε := Empty) u w).2
  | mark (t : TransactionId) (w : World P S) : Dealing ends w (WorldAct.markRollback t w).2
  | join (t : TransactionId) (p : P) (w : World P S) : Dealing ends w
      (WorldAct.noting (.joined t (.party p)) (WorldAct.synchronize t (.party p)) w).2
  | commit {k : Host P S} (hbefore : ∀ p w, Dealing ends w (k.before p w).2)
      (hdispatch : ∀ batch u w, Dealing ends w (k.dispatch batch u w).2)
      (hafter : ∀ p o w, Dealing ends w (k.after p o w).2) {t : TransactionId} {w v : World P S}
      {r : Except TransactionError Unit} (hv : k.commit t w = (.ofExcept r, v)) :
      Dealing ends w v
  | rollback {k : Host P S} (hafter : ∀ p o w, Dealing ends w (k.after p o w).2)
      {t : TransactionId} {w v : World P S} {r : Except TransactionError Unit}
      (hv : k.rollback t w = (.ofExcept r, v)) : Dealing ends w v
  | other {w v : World P S} {es : List (Call P)} (ht : v.transactions = w.transactions)
      (hu : v.units = w.units) (hb : v.bound = w.bound) (hp : v.past = w.past ++ es)
      (hj : ∀ t, joinedTo t es = []) : Dealing ends w v

/-- The registry is sound but for the transactions `C`, whose completion is under way. -/
structure Sound (ends C : TransactionId → Prop) (w : World P S) : Prop where
  owned : ∀ t u, .unit u ∈ (w.transaction t).synchronizations → w.Owns t u
  /-- The unit of a transaction has joined it, and waits to be told how it ends. -/
  bound : ∀ t u, w.bound.get? t = some u → w.Owns t u ∧ u ∈ unitsJoined t w.past ∧
    (C t ∨ (w.transaction t).status.isActive = true ∧
      .unit u ∈ (w.transaction t).synchronizations)
  joined : ∀ t, (w.transaction t).status.isActive = true →
    (w.transaction t).units = unitsJoined t w.past
  unknown : ∀ t, ¬ w.Knows t → unitsJoined t w.past = []
  once : ∀ t, ¬ ends t → (unitsJoined t w.past).length ≤ 1
  free : ∀ t, ¬ ends t → (w.transaction t).status.isActive = true → w.bound.get? t = none →
    unitsJoined t w.past = []

/-- What a sound registry is, for one transaction. -/
structure SoundAt (ends C : TransactionId → Prop) (w : World P S) (t : TransactionId) : Prop where
  owned : ∀ u, .unit u ∈ (w.transaction t).synchronizations → w.Owns t u
  bound : ∀ u, w.bound.get? t = some u → w.Owns t u ∧ u ∈ unitsJoined t w.past ∧
    (C t ∨ (w.transaction t).status.isActive = true ∧
      .unit u ∈ (w.transaction t).synchronizations)
  joined : (w.transaction t).status.isActive = true →
    (w.transaction t).units = unitsJoined t w.past
  unknown : ¬ w.Knows t → unitsJoined t w.past = []
  once : ¬ ends t → (unitsJoined t w.past).length ≤ 1
  free : ¬ ends t → (w.transaction t).status.isActive = true → w.bound.get? t = none →
    unitsJoined t w.past = []

section Change

variable {ends C D : TransactionId → Prop} {w v : World P S}

theorem sound_iff : Sound ends C w ↔ ∀ t, SoundAt ends C w t :=
  ⟨fun h t => ⟨h.owned t, h.bound t, h.joined t, h.unknown t, h.once t, h.free t⟩,
    fun h => ⟨fun t => (h t).owned, fun t => (h t).bound, fun t => (h t).joined,
      fun t => (h t).unknown, fun t => (h t).once, fun t => (h t).free⟩⟩

theorem SoundAt.untouched (h : SoundAt ends C w t) (hC : C t → D t)
    (ho : ∀ u, w.Owns t u → v.Owns t u) (hk : w.Knows t → v.Knows t)
    (hx : v.transaction t = w.transaction t) (hb : v.bound.get? t = w.bound.get? t)
    (hj : unitsJoined t v.past = unitsJoined t w.past) : SoundAt ends D v t where
  owned u hm := by
    rw [hx] at hm
    exact ho u (h.owned u hm)
  bound u hm := by
    rw [hb] at hm
    obtain ⟨hu, hju, hor⟩ := h.bound u hm
    rw [hj, hx]
    exact ⟨ho u hu, hju, hor.imp_left hC⟩
  joined ha := by
    rw [hx] at ha ⊢
    rw [hj]
    exact h.joined ha
  unknown hn := by
    rw [hj]
    exact h.unknown fun hw => hn (hk hw)
  once he := by
    rw [hj]
    exact h.once he
  free he ha hn := by
    rw [hx] at ha
    rw [hb] at hn
    rw [hj]
    exact h.free he ha hn

/-- An operation on one transaction is to be checked at that transaction only. -/
theorem Sound.change (h : Sound ends C w) (hC : ∀ r, C r → D r)
    (ho : ∀ r u, w.Owns r u → v.Owns r u) (hk : ∀ r, w.Knows r → v.Knows r)
    (hx : ∀ r, r ≠ t → v.transaction r = w.transaction r)
    (hb : ∀ r, r ≠ t → v.bound.get? r = w.bound.get? r)
    (hj : ∀ r, r ≠ t → unitsJoined r v.past = unitsJoined r w.past)
    (ht : SoundAt ends D v t) : Sound ends D v := by
  refine sound_iff.mpr fun r => ?_
  by_cases hr : r = t
  · rw [hr]
    exact ht
  · exact (sound_iff.mp h r).untouched (hC r) (ho r) (hk r) (hx r hr) (hb r hr) (hj r hr)

end Change

/-- What lasts: units keep their transactions, and an ended transaction stays ended, without a unit
once the registry has let go of it. -/
structure Evolved (w v : World P S) : Prop where
  owned : ∀ t u, w.Owns t u → v.Owns t u
  known : ∀ t, w.Knows t → v.Knows t
  ended : ∀ t, w.Over t → v.Over t
  released : ∀ t, w.Over t → w.bound.get? t = none → v.bound.get? t = none
  past : ∃ es, v.past = w.past ++ es

namespace Evolved

variable {w m v : World P S}

theorem refl (w : World P S) : Evolved w w :=
  ⟨fun _ _ h => h, fun _ h => h, fun _ h => h, fun _ _ h => h, [], (List.append_nil _).symm⟩

theorem trans (h : Evolved w m) (g : Evolved m v) : Evolved w v where
  owned t u hu := g.owned t u (h.owned t u hu)
  known t ht := g.known t (h.known t ht)
  ended t ht := g.ended t (h.ended t ht)
  released t ht hb := g.released t (h.ended t ht) (h.released t ht hb)
  past := by
    obtain ⟨es, he⟩ := h.past
    obtain ⟨fs, hf⟩ := g.past
    exact ⟨es ++ fs, by rw [hf, he, List.append_assoc]⟩

end Evolved

/-- From a sound registry to a sound registry, whatever completions are under way. -/
def Dealt (ends : TransactionId → Prop) (w v : World P S) : Prop :=
  ∀ C : TransactionId → Prop, (∀ t, C t → w.Over t) → Sound ends C w →
    Evolved w v ∧ Sound ends C v

namespace Dealt

variable {ends : TransactionId → Prop} {w m v : World P S} {es : List (Call P)} {ε : Type}

theorem refl (ends : TransactionId → Prop) (w : World P S) : Dealt ends w w :=
  fun _ _ hs => ⟨.refl w, hs⟩

theorem trans (h : Dealt ends w m) (g : Dealt ends m v) : Dealt ends w v := by
  intro C hC hs
  obtain ⟨hm, hsm⟩ := h C hC hs
  obtain ⟨hv, hsv⟩ := g C (fun t ht => hm.ended t (hC t ht)) hsm
  exact ⟨hm.trans hv, hsv⟩

theorem elsewhere (ht : v.transactions = w.transactions) (hb : v.bound = w.bound)
    (hu : ∀ t u, w.Owns t u → v.Owns t u) (hp : v.past = w.past ++ es)
    (hj : ∀ t, unitsJoined t es = []) : Dealt ends w v := by
  intro C _ hs
  have htx (t : TransactionId) : v.transaction t = w.transaction t := by
    rw [World.transaction, ht, World.transaction]
  have hk (t : TransactionId) : v.Knows t ↔ w.Knows t := by
    rw [World.Knows, ht, World.Knows]
  have hjoined (t : TransactionId) : unitsJoined t v.past = unitsJoined t w.past := by
    rw [hp, unitsJoined_append, hj, List.append_nil]
  refine ⟨⟨hu, fun t => (hk t).mpr, ?_, ?_, es, hp⟩, sound_iff.mpr fun t => ?_⟩
  · intro t ho
    exact ⟨(hk t).mpr ho.1, by rw [htx, ho.2]⟩
  · intro t _ hn
    rw [hb, hn]
  · exact (sound_iff.mp hs t).untouched id (hu t) (hk t).mpr (htx t) (by rw [hb]) (hjoined t)

theorem silently (ht : v.transactions = w.transactions) (hb : v.bound = w.bound)
    (hu : ∀ t u, w.Owns t u → v.Owns t u) (hp : v.past = w.past) : Dealt ends w v := by
  have hnone : v.past = w.past ++ [] := hp.trans (List.append_nil _).symm
  exact elsewhere ht hb hu hnone fun _ => rfl

theorem record (ends : TransactionId → Prop) (w : World P S) (e : TraceEvent) :
    Dealt ends w (w.record e) := silently rfl rfl (fun _ _ h => h) rfl

theorem setUnit (w : World P S) {u : UnitRef} {x : UnitOfWork P}
    (hx : x.transaction = (w.unit u).transaction) : Dealt ends w (w.setUnit u x) :=
  silently rfl rfl (fun _ _ h => h.setUnit hx) rfl

theorem setTransaction {x : Transaction P} (ha : (w.transaction t).status.isActive = true)
    (hx : x.status.isActive = true)
    (hs : x.units = (w.transaction t).units) : Dealt ends w (w.setTransaction t x) := by
  intro C _ hsound
  have hself : (w.setTransaction t x).transaction t = x := World.transaction_setTransaction_self ..
  have hat := sound_iff.mp hsound t
  have hmem {u : UnitRef} :
      .unit u ∈ x.synchronizations ↔ .unit u ∈ (w.transaction t).synchronizations := by
    rw [← Transaction.mem_units, hs, Transaction.mem_units]
  refine ⟨⟨fun _ _ h => h, fun r h => h.setTransaction t x, ?_, fun _ _ h => h, [],
    (List.append_nil _).symm⟩, hsound.change (fun _ h => h) (fun _ _ h => h)
      (fun r h => h.setTransaction t x) (fun r hr => World.transaction_setTransaction_of_ne _ _ hr)
      (fun _ _ => rfl) (fun _ _ => rfl) ⟨?_, ?_, ?_, ?_, hat.once, ?_⟩⟩
  · rintro r ho
    refine ho.setTransaction fun hr => ?_
    rw [hr, World.Over, ha] at ho
    cases ho.2
  · intro u hm
    rw [hself] at hm
    exact hat.owned u (hmem.mp hm)
  · intro u hm
    obtain ⟨ho, hj, hor⟩ := hat.bound u hm
    rw [hself]
    exact ⟨ho, hj, hor.imp_right fun h => ⟨hx, hmem.mpr h.2⟩⟩
  · intro _
    rw [hself, hs]
    exact hat.joined ha
  · exact fun hn => hat.unknown fun h => hn (h.setTransaction t x)
  · exact fun he _ => hat.free he ha

theorem note (ends : TransactionId → Prop) (w : World P S) (e : Call P)
    (hj : ∀ t, unitsJoined t [e] = []) : Dealt ends w (w.note e) :=
  elsewhere rfl rfl (fun _ _ h => h) (World.past_note e w) hj

theorem join (ends : TransactionId → Prop) (t : TransactionId) (p : P) (w : World P S) :
    Dealt ends w
      (WorldAct.noting (.joined t (.party p)) (WorldAct.synchronize t (.party p)) w).2 := by
  cases ha : (w.transaction t).status.isActive with
  | false =>
    rw [WorldAct.noting_error (WorldAct.synchronize_closed w ha _)]
    exact refl ends w
  | true =>
    rw [WorldAct.noting_ok (WorldAct.synchronize_open w ha _)]
    refine Dealt.trans (setTransaction ha ?_ ?_) (note ends _ _ ?_)
    · exact ha
    · simp [Transaction.units, Synchronization.unit?]
    · intro r
      by_cases hr : t = r
      · subst hr
        rw [unitsJoined, joinedTo_joined]
        rfl
      · simp [unitsJoined, joinedTo, Call.joined?, hr]

theorem mark (ends : TransactionId → Prop) (t : TransactionId) (w : World P S) :
    Dealt ends w (WorldAct.markRollback t w).2 := by
  cases ha : (w.transaction t).status.isActive with
  | false =>
    rw [WorldAct.markRollback_closed w ha]
    exact refl ends w
  | true =>
    rw [WorldAct.markRollback_open w ha]
    exact setTransaction ha rfl rfl

theorem setTransaction_begin (ends : TransactionId → Prop) (hnew : ¬ w.Knows t) :
    Dealt ends w (w.setTransaction t .begin) := by
  intro C hC hs
  have ht : (w.setTransaction t .begin).transaction t = .begin :=
    World.transaction_setTransaction_self w t _
  have hfree {u : UnitRef} (hb : w.bound.get? t = some u) : False := by
    obtain ⟨-, -, hc | ⟨ha, -⟩⟩ := hs.bound t u hb
    · exact hnew (hC t hc).1
    · exact hnew (World.knows_of_isActive ha)
  refine ⟨⟨fun _ _ h => h, fun r h => h.setTransaction t _, ?_, fun _ _ h => h, [],
    (List.append_nil _).symm⟩, hs.change (fun _ h => h) (fun _ _ h => h)
      (fun r h => h.setTransaction t _) (fun r hr => World.transaction_setTransaction_of_ne _ _ hr)
      (fun _ _ => rfl) (fun _ _ => rfl) ⟨?_, ?_, ?_, ?_, hs.once t, ?_⟩⟩
  · refine fun r ho => ho.setTransaction fun hr => ?_
    exact absurd (hr ▸ ho.1) hnew
  · intro u hm
    rw [ht] at hm
    cases hm
  · exact fun u hm => (hfree hm).elim
  · intro _
    rw [ht]
    exact (hs.unknown t hnew).symm
  · exact fun _ => hs.unknown t hnew
  · exact fun _ _ _ => hs.unknown t hnew

theorem begin (ends : TransactionId → Prop) (hnew : ¬ w.Knows ⟨w.supply.current⟩) :
    Dealt ends w (WorldAct.beginTransaction (ε := Empty) w).2 := by
  let m : World P S := { w with supply := w.supply.advance }.record
    (.transactionBegun ⟨w.supply.current⟩)
  have hm : Dealt ends w m := silently rfl rfl (fun _ _ h => h) rfl
  exact hm.trans (setTransaction_begin ends hnew)

theorem release (h : w.Over t ∨ ends t) :
    Dealt ends w ((Host.release t : WorldAct P S ε (Option UnitRef)) w).2 := by
  intro C _ hs
  obtain ⟨bound, trace, hv⟩ := Host.release_state t (ε := ε) w
  have hb := Host.release_get? t (ε := ε) w
  rw [hv] at hb ⊢
  have hbound {r : TransactionId} {u : UnitRef} (hm : bound.get? r = some u) :
      r ≠ t ∧ w.bound.get? r = some u := by
    by_cases hr : r = t
    · rw [hb, if_pos hr] at hm
      cases hm
    · rw [hb, if_neg hr] at hm
      exact ⟨hr, hm⟩
  refine ⟨⟨fun _ _ h => h, fun _ h => h, fun _ h => h, ?_, [], (List.append_nil _).symm⟩,
    ⟨hs.owned, fun r u hm => hs.bound r u (hbound hm).2, hs.joined, hs.unknown, hs.once, ?_⟩⟩
  · intro r _ hn
    rw [hb, hn, ite_self]
  · intro r he ha hn
    apply hs.free r he ha
    by_cases hr : r = t
    · subst hr
      obtain ho | ho := h
      · have hc : (w.transaction r).status.isActive = true := ha
        rw [ho.2] at hc
        cases hc
      · exact absurd ho he
    · rwa [hb, if_neg hr] at hn

end Dealt

section Start

variable {ends : TransactionId → Prop} {w : World P S}

theorem unitsJoined_unit (t : TransactionId) (u : UnitRef) :
    unitsJoined t [(.joined t (.unit u) : Call P)] = [u] := by
  rw [unitsJoined, joinedTo_joined]
  rfl

theorem unitsJoined_of_ne {r : TransactionId} (hr : r ≠ t) (s : Synchronization P) :
    unitsJoined r [.joined t s] = [] := by
  simp [unitsJoined, joinedTo, Call.joined?, hr.symm]

omit [Chronicle S P] in
theorem World.Owns.offering (h : w.Owns t u) (r : TransactionId) :
    (WorldAct.offering w r).Owns t u := by
  obtain ⟨x, hx, ht⟩ := h
  have hne : u ≠ w.freshUnit := by
    rintro rfl
    rw [w.get?_freshUnit] at hx
    cases hx
  exact ⟨x, (KeyedList.get?_insert_of_ne _ _ hne).trans hx, ht⟩

/-- The world in which an open transaction has taken a new unit in, and the registry knows it. -/
def binding (w : World P S) (t : TransactionId) : World P S :=
  { ((WorldAct.offering w t).setTransaction t { w.transaction t with
      synchronizations := (w.transaction t).synchronizations ++ [.unit w.freshUnit] }).note
        (.joined t (.unit w.freshUnit)) with
    bound := w.bound.insert t w.freshUnit }

theorem startUnit_open (ha : (w.transaction t).status.isActive = true)
    (hb : w.bound.get? t = none) :
    WorldAct.startUnit (.noted t) w = (.ok w.freshUnit, binding w t) :=
  WorldAct.startUnit_joined w hb (WorldAct.noting_ok
    (WorldAct.synchronize_open (WorldAct.offering w t) ha (.unit w.freshUnit)))

theorem startUnit_closed (hc : (w.transaction t).status.isActive = false)
    (hb : w.bound.get? t = none) :
    WorldAct.startUnit (.noted t) w = (.error (.transaction (.notActive t)),
      { WorldAct.offering w t with units := (WorldAct.offering w t).units.erase w.freshUnit }) :=
  WorldAct.startUnit_refused w hb (WorldAct.noting_error
    (WorldAct.synchronize_closed (WorldAct.offering w t) hc (.unit w.freshUnit)))

theorem Dealt.binding (ha : (w.transaction t).status.isActive = true)
    (hb : w.bound.get? t = none) : Dealt ends w (binding w t) := by
  intro C _ hs
  have hself : (Transactor.binding w t).transaction t = { w.transaction t with
      synchronizations := (w.transaction t).synchronizations ++ [.unit w.freshUnit] } :=
    World.transaction_setTransaction_self _ _ _
  have hother {r : TransactionId} (hr : r ≠ t) :
      (Transactor.binding w t).transaction r = w.transaction r :=
    World.transaction_setTransaction_of_ne _ _ hr
  have howns {r : TransactionId} {u : UnitRef} (h : w.Owns r u) :
      (Transactor.binding w t).Owns r u := h.offering t
  have hfresh : (Transactor.binding w t).Owns t w.freshUnit :=
    ⟨_, KeyedList.get?_insert_self _ _ _, rfl⟩
  have hknown {r : TransactionId} (h : w.Knows r) : (Transactor.binding w t).Knows r :=
    World.Knows.setTransaction (w := WorldAct.offering w t) h t _
  have hbound : (Transactor.binding w t).bound.get? t = some w.freshUnit :=
    KeyedList.get?_insert_self _ _ _
  have hpast : (Transactor.binding w t).past = w.past ++ [.joined t (.unit w.freshUnit)] :=
    World.past_note _ _
  have hjoined : unitsJoined t (Transactor.binding w t).past =
      unitsJoined t w.past ++ [w.freshUnit] := by
    rw [hpast, unitsJoined_append, unitsJoined_unit]
  have hne {r : TransactionId} (ho : (w.transaction r).status.isActive = false) : r ≠ t := by
    rintro rfl
    rw [ha] at ho
    cases ho
  refine ⟨⟨fun _ _ => howns, fun _ => hknown, ?_, ?_, _, hpast⟩,
    hs.change (fun _ h => h) (fun _ _ => howns) (fun _ => hknown) (fun _ => hother)
      (fun _ hr => KeyedList.get?_insert_of_ne _ _ hr) ?_ ⟨?_, ?_, ?_, ?_, ?_, ?_⟩⟩
  · exact fun r ho => ⟨hknown ho.1, by rw [hother (hne ho.2), ho.2]⟩
  · exact fun r ho hn => (KeyedList.get?_insert_of_ne _ _ (hne ho.2)).trans hn
  · intro r hr
    rw [hpast, unitsJoined_append, unitsJoined_of_ne hr, List.append_nil]
  · intro u hm
    rw [hself] at hm
    obtain hm | hm := List.mem_append.mp hm
    · exact howns (hs.owned t u hm)
    · cases List.mem_singleton.mp hm
      exact hfresh
  · intro u hm
    obtain rfl : w.freshUnit = u := Option.some.inj (hbound.symm.trans hm)
    rw [hjoined, hself]
    exact ⟨hfresh, List.mem_append_right _ (List.mem_singleton_self _),
      .inr ⟨ha, List.mem_append_right _ (List.mem_singleton_self _)⟩⟩
  · intro _
    rw [hself, hjoined, ← hs.joined t ha]
    exact List.filterMap_append
  · exact fun hn => absurd (World.knows_setTransaction_self _ _ _) hn
  · intro he
    rw [hjoined, hs.free t he ha hb]
    exact Nat.le_refl 1
  · intro _ _ hn
    cases hbound.symm.trans hn

/-- A unit that is offered to a transaction that is over is taken back. -/
theorem Dealt.start (ends : TransactionId → Prop) (t : TransactionId) (w : World P S) :
    Dealt ends w (WorldAct.startUnit (.noted t) w).2 := by
  cases hb : w.bound.get? t with
  | some u =>
    rw [WorldAct.startUnit_bound w u hb]
    exact .refl ends w
  | none =>
    cases ha : (w.transaction t).status.isActive with
    | true =>
      rw [startUnit_open ha hb]
      exact .binding ha hb
    | false =>
      rw [startUnit_closed ha hb]
      refine silently rfl rfl ?_ rfl
      rintro r u ⟨x, hx, ho⟩
      refine ⟨x, ?_, ho⟩
      have hne : u ≠ w.freshUnit := by
        rintro rfl
        rw [w.get?_freshUnit] at hx
        cases hx
      exact (KeyedList.get?_erase _ _ _).trans
        ((if_neg hne).trans ((KeyedList.get?_insert_of_ne _ _ hne).trans hx))

theorem Dealt.current (ends : TransactionId → Prop) (t : TransactionId) (w : World P S) :
    Dealt ends w (WorldAct.currentUnit (.noted t) w).2 := by
  cases ha : ((TransactionHandle.noted t).status w).isActive with
  | true =>
    rw [WorldAct.currentUnit_active w ha]
    exact .start ends t w
  | false =>
    rw [WorldAct.currentUnit_ended w ha]
    exact .refl ends w

end Start

section Complete

variable {ends C : TransactionId → Prop} {w m v : World P S} {o : Outcome} {k : Host P S}

/-- From a sound registry to a sound registry in which a transaction is over. -/
def Finished (ends : TransactionId → Prop) (t : TransactionId) (w v : World P S) : Prop :=
  ∀ C : TransactionId → Prop, (∀ r, C r → w.Over r) → Sound ends C w →
    Evolved w v ∧ Sound ends C v ∧ v.Over t

theorem Finished.dealt (h : Finished ends t w v) : Dealt ends w v := fun C hC hs =>
  ⟨(h C hC hs).1, (h C hC hs).2.1⟩

theorem Finished.of_over (hw : w.Over t) : Finished ends t w w := fun _ _ hs => ⟨.refl w, hs, hw⟩

theorem Dealt.closing (ends : TransactionId → Prop) (u : UnitRef) (w : World P S) :
    Dealt ends w (Host.closing u w) := by
  have hcleared : Dealt ends w (w.setUnit u (w.unit u).clearParticipants) := setUnit w rfl
  exact hcleared.trans (setUnit _ rfl)

section Tell

variable (hafter : ∀ p o w, Dealt ends w (k.after p o w).2)

include hafter

/-- The registry lets go of an ended transaction when its unit is told. -/
theorem after_unit_dealt (hC : ∀ t, C t → m.Over t) (hs : Sound ends C m) (ht : m.Over t)
    (hu : m.Owns t u) (hv : k.after? o (.unit u) m = (.done (), v)) :
    Evolved m v ∧ Sound ends C v ∧ v.bound.get? t = none := by
  obtain ⟨trace, n, hn, rfl⟩ := Host.after_unit_return k u hv
  have hclosed : Dealt ends m { Host.closing u m with trace } :=
    (Dealt.closing ends u m).trans (.silently rfl rfl (fun _ _ h => h) rfl)
  have htold := Host.tellAll_keeps (I := Dealt ends m) k
    (fun p x hx => hx.trans (hafter p o x)) (m.unit u).participants _ hclosed
  rw [hn] at htold
  obtain ⟨he, hsn⟩ := htold C hC hs
  rw [hu.transaction_eq]
  obtain ⟨hr, hsv⟩ := Dealt.release (ε := Empty) (.inl (he.ended t ht)) C
    (fun r hr => he.ended r (hC r hr)) hsn
  exact ⟨he.trans hr, hsv, by rw [Host.release_get?, if_pos rfl]⟩

theorem tellSynchronizations_dealt {ss : List (Synchronization P)} (hC : ∀ t, C t → m.Over t)
    (hs : Sound ends C m) (ht : m.Over t) (hss : ∀ u, .unit u ∈ ss → m.Owns t u)
    (hv : k.tellSynchronizations o ss m = (.done (), v)) :
    Evolved m v ∧ Sound ends C v ∧
      ((∃ u, .unit u ∈ ss) ∨ m.bound.get? t = none → v.bound.get? t = none) := by
  -- by induction on those who are still to be told
  induction ss generalizing m with
  | nil =>
    cases hv
    exact ⟨.refl _, hs, fun h => h.elim (fun ⟨u, hu⟩ => by cases hu) id⟩
  | cons s ss ih =>
    obtain ⟨_, n, hn, hrest⟩ := Task.bind_eq_done.mp hv
    have hstep : Evolved m n ∧ Sound ends C n ∧
        ((∃ u, s = .unit u) ∨ m.bound.get? t = none → n.bound.get? t = none) := by
      cases s with
      | unit u =>
        obtain ⟨he, hsn, hb⟩ := after_unit_dealt hafter hC hs ht (hss u List.mem_cons_self) hn
        exact ⟨he, hsn, fun _ => hb⟩
      | party p =>
        have hp := hafter p o m
        have hn' : k.after p o m = (.done (), n) := hn
        rw [hn'] at hp
        obtain ⟨he, hsn⟩ := hp C hC hs
        exact ⟨he, hsn, fun h => h.elim (fun ⟨u, hu⟩ => by cases hu) (he.released t ht)⟩
    obtain ⟨he, hsn, hb⟩ := hstep
    obtain ⟨hf, hsv, hb'⟩ := ih (fun r hr => he.ended r (hC r hr)) hsn (he.ended t ht)
      (fun u hu => he.owned t u (hss u (List.mem_cons_of_mem _ hu))) hrest
    refine ⟨he.trans hf, hsv, ?_⟩
    rintro (⟨u, hu⟩ | hn)
    · obtain hu | hu := List.mem_cons.mp hu
      · exact hb' (.inr (hb (.inl ⟨u, hu.symm⟩)))
      · exact hb' (.inl ⟨u, hu⟩)
    · exact hb' (.inr (hb (.inr hn)))

/-- While a transaction tells its outcome, it is over and the registry may still know its unit; in
the end it does not. -/
theorem complete_finished (hk : w.Knows t) (hv : k.complete t o w = (.done (), v)) :
    Finished ends t w v := by
  intro C hC hs
  let e : World P S := (w.setTransaction t ((w.transaction t).complete o)).record
    (.transactionCompleted t o.name)
  have htell : k.tellSynchronizations o (w.transaction t).synchronizations e = (.done (), v) := hv
  have hself : e.transaction t = (w.transaction t).complete o :=
    World.transaction_setTransaction_self _ _ _
  have hknown {r : TransactionId} (h : w.Knows r) : e.Knows r := h.setTransaction t _
  have hover : e.Over t := by
    refine ⟨hknown hk, ?_⟩
    rw [hself]
    rfl
  have hev : Evolved w e :=
    ⟨fun _ _ h => h, fun _ => hknown, fun r ho => ho.setTransaction fun _ => rfl, fun _ _ h => h,
      [], (List.append_nil _).symm⟩
  let D : TransactionId → Prop := fun r => C r ∨ r = t
  have hD : ∀ r, D r → e.Over r := by
    rintro r (hr | rfl)
    · exact hev.ended r (hC r hr)
    · exact hover
  have hopen {p : Prop} (ha : (e.transaction t).status.isActive = true) : p := by
    rw [hover.2] at ha
    cases ha
  have hse : Sound ends D e := by
    refine hs.change (fun _ => .inl) (fun _ _ h => h) (fun _ => hknown)
      (fun r hr => World.transaction_setTransaction_of_ne _ _ hr) (fun _ _ => rfl)
      (fun _ _ => rfl) ⟨?_, ?_, hopen, ?_, hs.once t, fun _ => hopen⟩
    · intro u hm
      rw [hself] at hm
      cases hm
    · intro u hm
      obtain ⟨ho, hj, -⟩ := hs.bound t u hm
      exact ⟨ho, hj, .inl (.inr rfl)⟩
    · exact fun hn => absurd hover.1 hn
  obtain ⟨hf, hsv, hb⟩ := tellSynchronizations_dealt hafter hD hse hover
    (fun u hu => hs.owned t u hu) htell
  have hvover := hf.ended t hover
  refine ⟨hev.trans hf, ⟨hsv.owned, ?_, hsv.joined, hsv.unknown, hsv.once, hsv.free⟩, hvover⟩
  intro r u hm
  obtain ⟨ho, hj, (hc | rfl) | hopen⟩ := hsv.bound r u hm
  · exact ⟨ho, hj, .inl hc⟩
  · -- unless its completion was under way before, the registry has let go of the transaction
    refine ⟨ho, hj, .inl ?_⟩
    cases hw : w.bound.get? r with
    | none => cases (hb (.inr hw)).symm.trans hm
    | some x =>
      obtain ⟨-, -, hc | ⟨-, hx⟩⟩ := hs.bound r x hw
      · exact hc
      · cases (hb (.inl ⟨x, hx⟩)).symm.trans hm
  · exact ⟨ho, hj, .inr hopen⟩

theorem Dealt.complete (h : Dealt ends w m) (hk : w.Knows t)
    (hv : k.complete t o m = (.done (), v)) : Finished ends t w v := by
  intro C hC hs
  obtain ⟨hm, hsm⟩ := h C hC hs
  obtain ⟨hmv, hsv, ho⟩ := complete_finished hafter (hm.known t hk) hv C
    (fun r hr => hm.ended r (hC r hr)) hsm
  exact ⟨hm.trans hmv, hsv, ho⟩

end Tell

section Ask

variable (hbefore : ∀ p w, Dealt ends w (k.before p w).2)
  (hdispatch : ∀ batch u w, Dealt ends w (k.dispatch batch u w).2)

include hbefore hdispatch

theorem before?_dealt (w : World P S) (s : Synchronization P) :
    (k.before? s).Keeps (Dealt ends w) := by
  apply Host.before?_keeps_of_unit
  · exact fun m e hm => hm.trans (.record ends m e)
  · exact fun m x s q hm => hm.trans (.setUnit m rfl)
  · exact fun p m hm => hm.trans (hbefore p m)
  · exact fun x _ batch m hm => hm.trans (hdispatch batch x m)

theorem askAll_dealt (t : TransactionId) (patience place : Nat) (w : World P S) :
    Dealt ends w (k.askAll t patience place w).2 := by
  apply Host.askAll_keeps k t _ patience place w (.refl ends w)
  exact fun m hm s _ => before?_dealt hbefore hdispatch w s m hm

theorem commit_finished (hafter : ∀ p o w, Dealt ends w (k.after p o w).2) (hk : w.Knows t)
    {r : Except TransactionError Unit} (hv : k.commit t w = (.ofExcept r, v)) :
    Finished ends t w v := by
  cases ha : (w.transaction t).status.isActive with
  | false =>
    rw [Host.commit_closed k t ha] at hv
    obtain ⟨-, rfl⟩ := Prod.mk.inj hv
    exact .of_over ⟨hk, ha⟩
  | true =>
    have hask := askAll_dealt hbefore hdispatch t k.patience 0 w
    cases Host.commit_return k t ha hv with
    | marked hm hv => exact (Dealt.refl ends w).complete hafter hk hv
    | refused _ hd hv =>
      rw [hd] at hask
      exact (hask.trans (.record ends _ _)).complete hafter hk hv
    | agreed _ hd hv =>
      rw [hd] at hask
      exact hask.complete hafter hk hv

end Ask

theorem rollback_finished (hafter : ∀ p o w, Dealt ends w (k.after p o w).2) (hk : w.Knows t)
    {r : Except TransactionError Unit} (hv : k.rollback t w = (.ofExcept r, v)) :
    Finished ends t w v := by
  obtain ⟨_, -, hc, rfl⟩ | ⟨-, _, hv⟩ := Host.rollback_return k t hv
  · exact .of_over ⟨hk, hc⟩
  · exact (Dealt.refl ends w).complete hafter hk hv

end Complete

theorem Dealing.dealt {ends : TransactionId → Prop} {w v : World P S} (h : Dealing ends w v) :
    Dealt ends w v := by
  -- by induction on how it is done; what a commit or a rollback calls back does so by hypothesis
  induction h with
  | refl w => exact .refl ends w
  | trans _ _ ihh ihg => exact ihh.trans ihg
  | begin w hnew => exact .begin ends hnew
  | current t w => exact .current ends t w
  | start t w => exact .start ends t w
  | finish he w => exact .release (.inr he)
  | register u r w =>
    cases ha : (w.unit u).status.accepts with
    | true =>
      rw [WorldAct.register_open w u ha]
      exact .setUnit w rfl
    | false =>
      rw [WorldAct.register_closed w u ha]
      exact .refl ends w
  | enlist u p w =>
    by_cases hs : (w.unit u).status = .completed
    · rw [WorldAct.enlist_closed w u hs]
      exact .refl ends w
    · rw [WorldAct.enlist_open w u hs]
      exact .setUnit w rfl
  | discard u w => exact (Dealt.record ends w _).trans (.setUnit _ rfl)
  | mark t w => exact .mark ends t w
  | join t p w => exact .join ends t p w
  | @commit k _ _ _ t w v _ hv ihb ihd iha =>
    by_cases hk : w.Knows t
    · exact (commit_finished ihb ihd iha hk hv).dealt
    · rw [Host.commit_closed k t (World.isActive_of_not_knows hk)] at hv
      obtain ⟨-, rfl⟩ := Prod.mk.inj hv
      exact .refl ends _
  | @rollback k _ t w v _ hv iha =>
    by_cases hk : w.Knows t
    · exact (rollback_finished iha hk hv).dealt
    · rw [Host.rollback_closed k t (World.isActive_of_not_knows hk)] at hv
      obtain ⟨-, rfl⟩ := Prod.mk.inj hv
      exact .refl ends _
  | @other w v es ht hu hb hp hj =>
    refine .elsewhere ht hb ?_ hp fun t => by rw [unitsJoined, hj]; rfl
    rintro t u ⟨x, hx, ho⟩
    exact ⟨x, by rw [hu, hx], ho⟩

/-- A lookup of a transaction has given a unit of work. -/
inductive Lookup (t : TransactionId) (w : World P S) (u : UnitRef) (v : World P S) : Prop
  | find (h : WorldAct.findUnit (ε := Empty) t w = (.ok (some u), v))
  | current (h : WorldAct.currentUnit (.noted t) w = (.ok u, v))
  | start (h : WorldAct.startUnit (.noted t) w = (.ok u, v))

/-- The registry is empty, and no unit of work has joined any transaction. -/
structure Vacant (w : World P S) : Prop where
  bound : ∀ t, w.bound.get? t = none
  synchronizations : ∀ t u, .unit u ∉ (w.transaction t).synchronizations
  past : ∀ t, unitsJoined t w.past = []

/-- What is to be said of the registry in a world between two operations. -/
structure Accurate (ends : TransactionId → Prop) (w : World P S) : Prop where
  find : ∀ t u, w.bound.get? t = some u →
    (w.unit u).transaction = t ∧ (w.transaction t).status.isActive = true
  /-- However a commit or a rollback ends, the transaction is over. -/
  completed : ∀ t (k : Host P S) result v, w.Knows t → (∀ p w, Dealing ends w (k.before p w).2) →
    (∀ batch u w, Dealing ends w (k.dispatch batch u w).2) →
    (∀ p o w, Dealing ends w (k.after p o w).2) →
    (k.commit t w = (.ofExcept result, v) ∨ k.rollback t w = (.ofExcept result, v)) → v.Over t
  /-- A transaction that is over has no unit for ever, and none is made for it. -/
  ended : ∀ t, w.Over t → ∀ v, Dealing (fun _ => True) w v → v.bound.get? t = none ∧
    WorldAct.currentUnit (.ofLocal t) v = (.error .noActiveTransaction, v) ∧
    ∃ m, WorldAct.startUnit (.ofLocal t) v = (.error (.transaction (.notActive t)), m) ∧
      m.bound = v.bound
  /-- Lookups of a transaction give the very same unit, which is the only one that ever joins it. -/
  same : ∀ t u v, ¬ ends t → Lookup t w u v → ∀ m, Dealing ends v m →
    unitsJoined t m.past = [u] ∧
      ((m.transaction t).status.isActive = true → (m.transaction t).units = [u]) ∧
      ∀ u' n, Lookup t m u' n → u' = u
  /-- A transaction of any kind that refuses the unit leaves the registry as it is. -/
  refused : ∀ t : TransactionHandle P S, w.bound.get? t.id = none →
    (∀ u m, ∃ e n, t.synchronize (.unit u) m = (.error e, n) ∧ n.bound = m.bound) →
    ∃ e m, WorldAct.startUnit t w = (.error (.transaction e), m) ∧ m.bound = w.bound

variable {ends : TransactionId → Prop} {w₀ w v : World P S}

theorem Lookup.dealing (h : Lookup t w u v) (ends : TransactionId → Prop) :
    Dealing ends w v ∧ v.bound.get? t = some u := by
  have hstart (h : WorldAct.startUnit (.noted t) w = (.ok u, v)) :
      Dealing ends w v ∧ v.bound.get? t = some u := by
    have hd : Dealing ends w (WorldAct.startUnit (.noted t) w).2 := .start t w
    rw [h] at hd
    refine ⟨hd, ?_⟩
    cases hb : w.bound.get? t with
    | some x =>
      rw [WorldAct.startUnit_bound w x hb] at h
      obtain ⟨hx, rfl⟩ := Prod.mk.inj h
      rw [hb, Except.ok.inj hx]
    | none =>
      cases ha : (w.transaction t).status.isActive with
      | true =>
        rw [startUnit_open ha hb] at h
        obtain ⟨hx, rfl⟩ := Prod.mk.inj h
        rw [← Except.ok.inj hx]
        exact KeyedList.get?_insert_self _ _ _
      | false =>
        rw [startUnit_closed ha hb] at h
        cases (Prod.mk.inj h).1
  cases h with
  | find h =>
    obtain ⟨hx, rfl⟩ := Prod.mk.inj h
    exact ⟨.refl _, Except.ok.inj hx⟩
  | start h => exact hstart h
  | current h =>
    cases ha : ((TransactionHandle.noted t).status w).isActive with
    | true =>
      rw [WorldAct.currentUnit_active w ha] at h
      exact hstart h
    | false =>
      rw [WorldAct.currentUnit_ended w ha] at h
      cases (Prod.mk.inj h).1

theorem Sound.unitsJoined_eq {C : TransactionId → Prop} (hs : Sound ends C w) (he : ¬ ends t)
    (hu : u ∈ unitsJoined t w.past) : unitsJoined t w.past = [u] := by
  have hl := hs.once t he
  generalize unitsJoined t w.past = us at hu hl
  match us with
  | [] => cases hu
  | [x] => rw [List.mem_singleton.mp hu]
  | _ :: _ :: _ => simp at hl

theorem Evolved.joined (h : Evolved w v) (hu : u ∈ unitsJoined t w.past) :
    u ∈ unitsJoined t v.past := by
  obtain ⟨es, hes⟩ := h.past
  rw [hes, unitsJoined_append]
  exact List.mem_append_left _ hu

theorem Vacant.sound (h : Vacant w) (ends : TransactionId → Prop) :
    Sound ends (fun _ => False) w where
  owned t u hm := absurd hm (h.synchronizations t u)
  bound t u hm := by cases (h.bound t).symm.trans hm
  joined t _ := by
    rw [h.past t]
    exact List.eq_nil_iff_forall_not_mem.mpr fun u hu =>
      h.synchronizations t u (Transaction.mem_units.mp hu)
  unknown t _ := h.past t
  once t _ := by
    rw [h.past t]
    exact Nat.zero_le 1
  free t _ _ _ := h.past t

section Settled

variable (hs : Sound ends (fun _ => False) w)

include hs

theorem Dealing.settled (h : Dealing ends w v) :
    Evolved w v ∧ Sound ends (fun _ => False) v :=
  h.dealt _ (fun _ hc => hc.elim) hs

theorem Sound.active (hb : w.bound.get? t = some u) :
    (w.transaction t).status.isActive = true := by
  obtain ⟨-, -, hc | ⟨ha, -⟩⟩ := hs.bound t u hb
  · exact hc.elim
  · exact ha

theorem Sound.released (ho : w.Over t) : w.bound.get? t = none := by
  cases hb : w.bound.get? t with
  | none => rfl
  | some u =>
    have ha := hs.active hb
    rw [ho.2] at ha
    cases ha

theorem Sound.ended (ho : w.Over t) (hv : Dealing (fun _ => True) w v) :
    v.bound.get? t = none ∧
      WorldAct.currentUnit (.ofLocal t) v = (.error .noActiveTransaction, v) ∧
      ∃ m, WorldAct.startUnit (.ofLocal t) v = (.error (.transaction (.notActive t)), m) ∧
        m.bound = v.bound := by
  have hall : Sound (fun _ => True) (fun _ => False) w :=
    ⟨hs.owned, hs.bound, hs.joined, hs.unknown, fun _ h => absurd trivial h,
      fun _ h => absurd trivial h⟩
  obtain ⟨he, -⟩ := hv.settled hall
  have hb := he.released t ho (hs.released ho)
  have hc := (he.ended t ho).2
  exact ⟨hb, WorldAct.currentUnit_over v hc, _, WorldAct.startUnit_refused v hb
    (WorldAct.synchronize_closed (WorldAct.offering v t) hc (.unit v.freshUnit)), rfl⟩

theorem Sound.same (he : ¬ ends t) (hu : u ∈ unitsJoined t w.past) {u' : UnitRef}
    (hl : Lookup t w u' v) : u' = u := by
  obtain ⟨hd, hb⟩ := hl.dealing ends
  obtain ⟨hev, hsv⟩ := hd.settled hs
  have hmem := (hsv.bound t u' hb).2.1
  rw [hsv.unitsJoined_eq he (hev.joined hu)] at hmem
  exact List.mem_singleton.mp hmem

end Settled

/-- Whatever is done with the registry and its transactions, from an empty registry on. -/
theorem registry_accurate (hw₀ : Vacant w₀) (hd : Dealing ends w₀ w) : Accurate ends w := by
  obtain ⟨-, hs⟩ := hd.settled (hw₀.sound ends)
  refine ⟨?_, ?_, fun t ho v hv => hs.ended ho hv, ?_, ?_⟩
  · exact fun t u hb => ⟨(hs.bound t u hb).1.transaction_eq, hs.active hb⟩
  · intro t k result v hk hbefore hdispatch hafter hv
    have hfinished : Finished ends t w v := by
      obtain hv | hv := hv
      · exact commit_finished (fun p w => (hbefore p w).dealt)
          (fun batch u w => (hdispatch batch u w).dealt) (fun p o w => (hafter p o w).dealt) hk hv
      · exact rollback_finished (fun p o w => (hafter p o w).dealt) hk hv
    exact (hfinished _ (fun _ hc => hc.elim) hs).2.2
  · intro t u v he hl m hm
    obtain ⟨hwv, hbv⟩ := hl.dealing ends
    obtain ⟨-, hsv⟩ := hwv.settled hs
    obtain ⟨hvm, hsm⟩ := hm.settled hsv
    have hu := hvm.joined (hsv.bound t u hbv).2.1
    have hone := hsm.unitsJoined_eq he hu
    exact ⟨hone, fun ha => (hsm.joined t ha).trans hone, fun u' n hn => hsm.same he hu hn⟩
  · intro t hb hrefuse
    obtain ⟨e, n, hn, hnb⟩ := hrefuse w.freshUnit (WorldAct.offering w t.id)
    exact ⟨e, _, WorldAct.startUnit_refused w hb hn, hnb⟩

end Dealing

/-- A transaction has begun, and nobody has asked for its unit. -/
def unattached : World Nat (List (Call Nat)) :=
  (World.first ⟨2⟩ []).setTransaction soleTransaction .begin

theorem unattached_vacant : Vacant unattached where
  bound _ := rfl
  synchronizations t u hm := by
    by_cases ht : t = soleTransaction
    · rw [ht, unattached, World.transaction_setTransaction_self] at hm
      cases hm
    · rw [unattached, World.transaction_setTransaction_of_ne _ _ ht] at hm
      cases hm
  past _ := rfl

/-- Its unit has been asked for, and then it has been committed. -/
def concluded : World Nat (List (Call Nat)) :=
  (idle.commit soleTransaction
    (WorldAct.currentUnit (.noted soleTransaction) unattached).2).2

theorem registry_accurate_concluded :
    Vacant unattached ∧ Dealing (fun _ => False) unattached concluded ∧
      Accurate (fun _ => False) concluded := by
  have hcommit : idle.commit soleTransaction
      (WorldAct.currentUnit (.noted soleTransaction) unattached).2 =
        (.ofExcept (.ok ()), concluded) := rfl
  have hd : Dealing (fun _ => False) unattached concluded :=
    .trans (.current soleTransaction unattached)
      (.commit (fun _ w => .refl w) (fun _ _ w => .refl w) (fun _ _ w => .refl w) hcommit)
  exact ⟨unattached_vacant, hd, registry_accurate unattached_vacant hd⟩

end Transactor
