import Mathlib.Data.Set.Basic
import Transactor.Proofs.Host
import Transactor.Proofs.Past
import Transactor.Proofs.Shop.Settlement
import Transactor.Shop.Session

namespace Transactor

open Relation

variable {P Q H S : Type}

/-- The host that notes whom it tells an outcome. -/
def Host.notingTold [Chronicle S P] (h : Host P S) : Host P S :=
  { h with
    after := fun p o => do
      Task.modify (World.note (.told p o))
      h.after p o }

namespace Shop

instance [Chronicle H P] : Chronicle (Premises H) P where
  past p := Chronicle.past p.host
  note e p := { p with host := Chronicle.note e p.host }
  past_note e p := Chronicle.past_note e p.host

variable [Chronicle H (Party Q)] {t : TransactionId} {T : Set TableRef} {w v : ShopWorld Q H}

/-- One thing that code may do while a transaction is open: mark it, let someone join it, or do
anything that leaves the transaction, the committed rows of the tables `T` and the past alone. -/
inductive Move (t : TransactionId) (T : Set TableRef) : ShopWorld Q H → ShopWorld Q H → Prop
  | mark (w : ShopWorld Q H) :
      Move t T w (WorldAct.noting (.marked t) (WorldAct.markRollback t) w).2
  | join (s : Synchronization (Party Q)) (w : ShopWorld Q H) :
      Move t T w (WorldAct.synchronize t s w).2
  | other {w v : ShopWorld Q H} (ht : v.transaction t = w.transaction t) (hp : v.past = w.past)
      (hT : ∀ r ∈ T, (r.table v).committed = (r.table w).committed) : Move t T w v

theorem Move.mono {U : Set TableRef} (hU : U ⊆ T) (h : Move t T w v) : Move t U w v := by
  cases h with
  | mark w => exact .mark w
  | join s w => exact .join s w
  | other ht hp hT => exact .other ht hp fun r hr => hT r (hU hr)

theorem moves_mono {U : Set TableRef} (hU : U ⊆ T) (h : ReflTransGen (Move t T) w v) :
    ReflTransGen (Move t U) w v := ReflTransGen.mono (fun _ _ => Move.mono hU) w v h

theorem mark_open (h : (w.transaction t).status.isActive = true) :
    WorldAct.noting (.marked t) (WorldAct.markRollback t) w = (.ok (), (w.setTransaction t
      { w.transaction t with status := .markedRollback }).note (.marked t)) :=
  WorldAct.noting_ok (WorldAct.markRollback_open w h)

theorem mark_closed (h : (w.transaction t).status.isActive = false) :
    WorldAct.noting (.marked t) (WorldAct.markRollback t) w = (.error (.notActive t), w) :=
  WorldAct.noting_error (WorldAct.markRollback_closed w h)

/-- An open transaction shows what has been done to it: it is marked if and only if somebody has
marked it since it was last known to be active. -/
structure Opened (t : TransactionId) (w : ShopWorld Q H) (es : List (Call (Party Q)))
    (v : ShopWorld Q H) : Prop where
  past : v.past = w.past ++ es
  marked : .marked t ∈ es → (v.transaction t).status = .markedRollback
  unmarked : .marked t ∉ es → (v.transaction t).status = .active

namespace Opened

variable {es : List (Call (Party Q))} {m : ShopWorld Q H}

theorem isActive (h : Opened t w es v) : (v.transaction t).status.isActive = true := by
  by_cases hm : .marked t ∈ es
  · rw [h.marked hm]
    rfl
  · rw [h.unmarked hm]
    rfl

theorem move (h : Opened t w es m) (hs : Move t T m v) : ∃ fs, Opened t w fs v := by
  cases hs with
  | mark m =>
    rw [mark_open h.isActive]
    refine ⟨es ++ [.marked t], ?_, ?_, ?_⟩
    · rw [World.past_note, World.past_setTransaction, h.past, List.append_assoc]
    · intro _
      rw [World.transaction_note, World.transaction_setTransaction_self]
    · intro hm
      exact absurd (List.mem_append_right _ (List.mem_singleton_self _)) hm
  | join s m =>
    rw [WorldAct.synchronize_open m h.isActive]
    refine ⟨es, h.past, ?_, ?_⟩
    · rw [World.transaction_setTransaction_self]
      exact h.marked
    · rw [World.transaction_setTransaction_self]
      exact h.unmarked
  | other ht hp hT =>
    refine ⟨es, hp.trans h.past, ?_, ?_⟩
    · rw [ht]
      exact h.marked
    · rw [ht]
      exact h.unmarked

theorem moves (ha : (w.transaction t).status = .active) (hs : ReflTransGen (Move t T) w v) :
    ∃ es, Opened t w es v := by
  induction hs with
  | refl => exact ⟨[], (List.append_nil _).symm, (fun hm => by cases hm), fun _ => ha⟩
  | tail _ hs ih =>
    obtain ⟨es, h⟩ := ih
    exact h.move hs

end Opened

/-- What has happened since: nobody has been told any outcome but `o`, and the committed rows of the
tables `T` are the same. -/
structure Since (o : Outcome) (T : Set TableRef) (w : ShopWorld Q H) (es : List (Call (Party Q)))
    (v : ShopWorld Q H) : Prop where
  past : v.past = w.past ++ es
  told : ∀ p o', .told p o' ∈ es → o' = o
  committed : ∀ r ∈ T, (r.table v).committed = (r.table w).committed

namespace Since

variable {o : Outcome} {es : List (Call (Party Q))} {m : ShopWorld Q H}

theorem refl (o : Outcome) (T : Set TableRef) (w : ShopWorld Q H) : Since o T w [] w :=
  ⟨(List.append_nil _).symm, fun _ _ h => (by cases h), fun _ _ => rfl⟩

theorem note (h : Since o T w es m) {e : Call (Party Q)} (he : ∀ p o', e = .told p o' → o' = o) :
    Since o T w (es ++ [e]) (m.note e) where
  past := by rw [World.past_note, h.past, List.append_assoc]
  told p o' hm := by
    obtain hm | hm := List.mem_append.mp hm
    · exact h.told p o' hm
    · exact he p o' (List.mem_singleton.mp hm).symm
  committed := h.committed

theorem move (h : Since o T w es m) (hs : Move t T m v) : ∃ fs, Since o T w fs v := by
  cases hs with
  | mark m =>
    cases ha : (m.transaction t).status.isActive with
    | true =>
      rw [mark_open ha]
      have hm : Since o T w es (m.setTransaction t
          { m.transaction t with status := .markedRollback }) := ⟨h.past, h.told, h.committed⟩
      exact ⟨_, hm.note fun p o' he => by cases he⟩
    | false =>
      rw [mark_closed ha]
      exact ⟨es, h⟩
  | join s m =>
    cases ha : (m.transaction t).status.isActive with
    | true =>
      rw [WorldAct.synchronize_open m ha]
      exact ⟨es, h.past, h.told, h.committed⟩
    | false =>
      rw [WorldAct.synchronize_closed m ha]
      exact ⟨es, h⟩
  | other ht hp hT =>
    exact ⟨es, hp.trans h.past, h.told, fun r hr => (hT r hr).trans (h.committed r hr)⟩

end Since

section Commit

variable {o : Outcome}

/-- Somebody may have done something since, but nothing that counts. -/
def Quiet (o : Outcome) (T : Set TableRef) (w v : ShopWorld Q H) : Prop := ∃ es, Since o T w es v

theorem Quiet.refl (o : Outcome) (T : Set TableRef) (w : ShopWorld Q H) : Quiet o T w w :=
  ⟨[], .refl o T w⟩

theorem Quiet.moves {m : ShopWorld Q H} (h : Quiet o T w m) (hs : ReflTransGen (Move t T) m v) :
    Quiet o T w v := by
  induction hs with
  | refl => exact h
  | tail _ hs ih =>
    obtain ⟨es, he⟩ := ih
    exact he.move hs

theorem quiet_indifferent (o : Outcome) (T : Set TableRef) (w : ShopWorld Q H) :
    Host.Indifferent (Quiet o T w) where
  trace _ _ := fun ⟨es, h⟩ => ⟨es, h.past, h.told, h.committed⟩
  unit _ _ _ := fun ⟨es, h⟩ => ⟨es, h.past, h.told, h.committed⟩
  bound _ _ := fun ⟨es, h⟩ => ⟨es, h.past, h.told, h.committed⟩

theorem Quiet.setTransaction {m : ShopWorld Q H} (h : Quiet o T w m) (x : Transaction (Party Q)) :
    Quiet o T w (m.setTransaction t x) := by
  obtain ⟨es, he⟩ := h
  exact ⟨es, he.past, he.told, he.committed⟩

theorem transaction_of_move (hc : (w.transaction t).status.isActive = false) (hs : Move t T w v) :
    v.transaction t = w.transaction t := by
  cases hs with
  | mark w => rw [mark_closed hc]
  | join s w => rw [WorldAct.synchronize_closed w hc]
  | other ht hp hT => exact ht

theorem completed_of_moves (hc : (w.transaction t).status = .completed o)
    (hs : ReflTransGen (Move t T) w v) : (v.transaction t).status = .completed o := by
  induction hs with
  | refl => exact hc
  | tail _ hs ih =>
    rw [transaction_of_move (by rw [ih]; rfl) hs]
    exact ih

theorem settle_move (hT : o = .committed → T = ∅) (r : TableRef) (x : TransactionId)
    (w : ShopWorld Q H) : Move t T w ((r.settle x o : ShopAct Q H Empty Unit) w).2 := by
  cases hx : (r.table w).staged.get? x with
  | none =>
    simp only [TableRef.settle, Act.bind_apply, Act.get_apply, hx, Act.pure_apply]
    exact .other rfl rfl fun _ _ => rfl
  | some rows =>
    simp only [TableRef.settle, Act.bind_apply, Act.get_apply, hx, WorldAct.record_apply,
      Act.modify_apply, TableRef.table_record]
    apply Move.other
    · rfl
    · rfl
    · intro q hq
      cases o with
      | committed =>
        rw [hT rfl] at hq
        cases hq
      | rolledBack =>
        by_cases hr : q = r
        · subst hr
          rw [TableRef.table_setTable_self]
          rfl
        · rw [r.table_setTable_of_ne _ hr]
          rfl

/-- Code that is called back does nothing but move while a transaction is open. -/
structure Moving (h : Host (Party Q) (Premises H)) (t : TransactionId) (T : Set TableRef) : Prop
    where
  before : ∀ p w, ReflTransGen (Move t T) w (h.before p w).2
  after : ∀ p o w, (o = .committed → T = ∅) → ReflTransGen (Move t T) w (h.after p o w).2
  dispatch : ∀ batch u w, ReflTransGen (Move t T) w (h.dispatch batch u w).2

variable {h : Host (Party Q) (Premises H)}

theorem askAll_quiet (hh : Moving h t T) (o : Outcome) (n : Nat) (w : ShopWorld Q H) :
    Quiet o T w (h.notingTold.askAll t n 0 w).2 := by
  apply Host.askAll_keeps _ _ _ _ _ w (.refl o T w)
  intro m hm s _
  apply Host.before?_keeps _ (quiet_indifferent o T w) _ _ s m hm
  · exact fun p m hm => hm.moves (hh.before p m)
  · exact fun batch u m hm => hm.moves (hh.dispatch batch u m)

/-- The transaction is over, and nobody has been told anything else. -/
def Over (o : Outcome) (t : TransactionId) (T : Set TableRef) (w v : ShopWorld Q H) : Prop :=
  Quiet o T w v ∧ (v.transaction t).status = .completed o

theorem over_indifferent (o : Outcome) (t : TransactionId) (T : Set TableRef) (w : ShopWorld Q H) :
    Host.Indifferent (Over o t T w) where
  trace v es hv := ⟨(quiet_indifferent o T w).trace v es hv.1, hv.2⟩
  unit v u x hv := ⟨(quiet_indifferent o T w).unit v u x hv.1, hv.2⟩
  bound v b hv := ⟨(quiet_indifferent o T w).bound v b hv.1, hv.2⟩

theorem after_over (hh : Moving h t T) (hT : o = .committed → T = ∅) (w : ShopWorld Q H)
    (p : Party Q) : (h.notingTold.after p o).Keeps (Over o t T w) := by
  apply Task.Keeps.bind
  · rintro m ⟨⟨es, he⟩, hc⟩
    refine ⟨⟨es ++ [.told p o], he.note ?_⟩, hc⟩
    rintro _ _ ⟨⟩
    rfl
  intro _
  rintro m ⟨hq, hc⟩
  have hs := hh.after p o m hT
  exact ⟨hq.moves hs, completed_of_moves hc hs⟩

theorem complete_over (hh : Moving h t T) (hT : o = .committed → T = ∅) {m : ShopWorld Q H}
    (hm : Quiet o T w m) : Over o t T w (h.notingTold.complete t o m).2 := by
  apply Host.complete_state _ _ (over_indifferent o t T w) (after_over hh hT w)
  refine ⟨hm.setTransaction _, ?_⟩
  rw [World.transaction_setTransaction_self]
  rfl

/-- The run of a commit honours a mark: it fails, the transaction ends rolled back, nobody is told
anything else, and none of its rows is committed. -/
structure Honoured (t : TransactionId) (T : Set TableRef) (w : ShopWorld Q H)
    (result : Except TransactionError Unit) (late : List (Call (Party Q))) (v : ShopWorld Q H) :
    Prop where
  failed : result ≠ .ok ()
  status : (v.transaction t).status = .completed .rolledBack
  told : ∀ p o, .told p o ∈ late → o = .rolledBack
  committed : ∀ r ∈ T, (r.table v).committed = (r.table w).committed

theorem Over.honoured (h : Over .rolledBack t T w v) (result : Except TransactionError Unit)
    (hr : result ≠ .ok ()) : ∃ late, v.past = w.past ++ late ∧ Honoured t T w result late v := by
  obtain ⟨⟨late, hl⟩, hs⟩ := h
  exact ⟨late, hl.past, hr, hs, hl.told, hl.committed⟩

theorem moving_ofShop {before : Q → ShopTask Q H UnitOfWorkError Unit}
    {after : Q → Outcome → ShopTask Q H Empty Unit}
    {dispatch : List Message → UnitRef → ShopTask Q H DeliveryError Unit}
    (hbefore : ∀ q w, ReflTransGen (Move t T) w (before q w).2)
    (hafter : ∀ q o w, ReflTransGen (Move t T) w (after q o w).2)
    (hdispatch : ∀ batch u w, ReflTransGen (Move t T) w (dispatch batch u w).2) (patience : Nat) :
    Moving (Host.ofShop before after dispatch patience) t T where
  before p w := by
    cases p with
    | stagedWrites r x => exact .refl
    | other q => exact hbefore q w
  after p o w hT := by
    cases p with
    | stagedWrites r x => exact .single (settle_move hT r x w)
    | other q => exact hafter q o w
  dispatch := hdispatch

/-- Whatever is done to a transaction before its commit, and whatever the code that the commit calls
back does to it: the commit honours every mark unless one comes only while it asks, and nobody
refuses. -/
theorem commit_honours_iff {before : Q → ShopTask Q H UnitOfWorkError Unit}
    {after : Q → Outcome → ShopTask Q H Empty Unit}
    {dispatch : List Message → UnitRef → ShopTask Q H DeliveryError Unit} {patience : Nat}
    (hbefore : ∀ q w, ReflTransGen (Move t T) w (before q w).2)
    (hafter : ∀ q o w, ReflTransGen (Move t T) w (after q o w).2)
    (hdispatch : ∀ batch u w, ReflTransGen (Move t T) w (dispatch batch u w).2)
    {w₀ w₁ v : ShopWorld Q H} {result : Except TransactionError Unit}
    (hactive : (w₀.transaction t).status = .active) (hmoves : ReflTransGen (Move t ∅) w₀ w₁)
    (hcommit : (Host.ofShop before after dispatch patience).notingTold.commit t w₁ =
      (.ofExcept result, v)) :
    ∃ early late, w₁.past = w₀.past ++ early ∧ v.past = w₁.past ++ late ∧
      ((.marked t ∈ early ∨ .marked t ∈ late → Honoured t T w₁ result late v) ↔
        (.marked t ∈ late → .marked t ∈ early ∨ ∃ e d,
          (Host.ofShop before after dispatch patience).notingTold.askAll t patience 0 w₁ =
            (.failed e, d))) := by
  have hh := moving_ofShop hbefore hafter hdispatch patience
  have hempty := moving_ofShop (fun q w => moves_mono (Set.empty_subset T) (hbefore q w))
    (fun q o w => moves_mono (Set.empty_subset T) (hafter q o w))
    (fun batch u w => moves_mono (Set.empty_subset T) (hdispatch batch u w)) patience
  have hrolled : Outcome.rolledBack = .committed → T = ∅ := fun h => by cases h
  obtain ⟨early, he⟩ := Opened.moves hactive hmoves
  cases Host.commit_end _ t he.isActive hcommit with
  | marked hm =>
    have hearly : .marked t ∈ early := by
      by_contra hn
      rw [he.unmarked hn] at hm
      cases hm
    obtain ⟨late, hl, hlate⟩ := (complete_over hh hrolled (.refl .rolledBack T w₁)).honoured
      (.error (.rolledBack t)) fun h => by cases h
    exact ⟨early, late, he.past, hl, fun _ _ => .inl hearly, fun _ _ => hlate⟩
  | @refused e d ha hd =>
    have hask : (Host.ofShop before after dispatch patience).notingTold.askAll t patience 0 w₁ =
        (.failed e, d) := hd
    have hq := askAll_quiet hh .rolledBack patience w₁
    rw [hask] at hq
    have hq' := (quiet_indifferent .rolledBack T w₁).record d
      (.beforeCompletionFailed t e.message) hq
    obtain ⟨late, hl, hlate⟩ := (complete_over hh hrolled hq').honoured
      (.error (.rolledBackBy t e)) fun h => by cases h
    exact ⟨early, late, he.past, hl, fun _ _ => .inr ⟨e, d, hask⟩, fun _ _ => hlate⟩
  | @agreed d ha hd =>
    have hask : (Host.ofShop before after dispatch patience).notingTold.askAll t patience 0 w₁ =
        (.done (), d) := hd
    have hq := askAll_quiet hempty .committed patience w₁
    rw [hask] at hq
    obtain ⟨⟨late, hl⟩, -⟩ := complete_over hempty (fun _ => rfl) hq
    have hearly : .marked t ∉ early := by
      intro hm
      rw [he.marked hm] at ha
      cases ha
    refine ⟨early, late, he.past, hl.past, ?_, ?_⟩
    · intro hclaim hm
      exact absurd rfl (hclaim (.inr hm)).failed
    · rintro hcond (hm | hm)
      · exact absurd hm hearly
      · obtain hm | ⟨e, d', hf⟩ := hcond hm
        · exact absurd hm hearly
        · rw [hf] at hask
          cases (Prod.mk.inj hask).1

end Commit

/-- A shop whose host has one party and remembers all calls. -/
abbrev Remembering := ShopWorld Unit (List (Call (Party Unit)))

/-- Begins a transaction and stocks a product in it. -/
def stockUp : Act Remembering OrderingError Unit := do
  let t ← WorldAct.beginTransaction
  let u ← (WorldAct.currentUnit (.ofLocal t)).mapError .unitOfWork
  let _ : Tracked StockItem ←
    Act.carrying (StockItem.ofUnits (.ofNat 1) "WIDGET-1" 10) (TableRef.insert ⟨.stockItem, 0⟩ u)

def firstTransaction : TransactionId := ⟨.ofNat 0⟩

def stocked : Remembering := (stockUp (.first ⟨2⟩ ⟨.empty, [], []⟩)).2

/-- The party has joined the transaction. -/
def joined : Remembering :=
  (WorldAct.synchronize firstTransaction (.party (.other ())) stocked).2

/-- A party that marks the transaction when it is asked. -/
def spoil (_ : Unit) : Task Remembering UnitOfWorkError Unit :=
  Task.atOnce ((WorldAct.noting (.marked firstTransaction)
    (WorldAct.markRollback firstTransaction)).mapError .transaction)

def ignore (_ : Unit) (_ : Outcome) : Task Remembering Empty Unit := pure ()

def deliver (_ : List Message) (_ : UnitRef) : Task Remembering DeliveryError Unit := pure ()

def spoiled : Remembering :=
  ((Host.ofShop spoil ignore deliver 3).notingTold.commit firstTransaction joined).2

/-- The mark that the party makes while the commit asks it does not keep the stock from being
committed. -/
theorem commit_overlooks_late_mark :
    (Host.ofShop spoil ignore deliver 3).notingTold.commit firstTransaction joined =
        (.done (), spoiled) ∧
      spoiled.past = joined.past ++ [.marked firstTransaction,
        .told (.stagedWrites ⟨.stockItem, 0⟩ firstTransaction) .committed,
        .told (.other ()) .committed] ∧
      (spoiled.transaction firstTransaction).status = .completed .committed ∧
      (TableRef.table ⟨.stockItem, 0⟩ joined).committed.get? (.ofNat 1) = none ∧
      (TableRef.table ⟨.stockItem, 0⟩ spoiled).committed.get? (.ofNat 1) =
        some (.fresh ⟨.ofNat 1, "WIDGET-1", 10, 0⟩) := ⟨rfl, rfl, rfl, rfl, rfl⟩

theorem commit_honours_iff_spoiled :
    (∀ q w, ReflTransGen (Move firstTransaction Set.univ) w (spoil q w).2) ∧
      (∀ q o w, ReflTransGen (Move firstTransaction Set.univ) w (ignore q o w).2) ∧
      (∀ batch u w, ReflTransGen (Move firstTransaction Set.univ) w (deliver batch u w).2) ∧
      (stocked.transaction firstTransaction).status = .active ∧
      ReflTransGen (Move firstTransaction ∅) stocked joined ∧
      (Host.ofShop spoil ignore deliver 3).notingTold.commit firstTransaction joined =
        (.ofExcept (.ok ()), spoiled) ∧
      ∃ early late, joined.past = stocked.past ++ early ∧ spoiled.past = joined.past ++ late ∧
        ((.marked firstTransaction ∈ early ∨ .marked firstTransaction ∈ late →
            Honoured firstTransaction Set.univ joined (.ok ()) late spoiled) ↔
          (.marked firstTransaction ∈ late → .marked firstTransaction ∈ early ∨ ∃ e d,
            (Host.ofShop spoil ignore deliver 3).notingTold.askAll firstTransaction 3 0 joined =
              (.failed e, d))) := by
  have hbefore : ∀ q w, ReflTransGen (Move firstTransaction Set.univ) w (spoil q w).2 :=
    fun _ w => .single (.mark w)
  have hafter : ∀ q o w, ReflTransGen (Move firstTransaction Set.univ) w (ignore q o w).2 :=
    fun _ _ _ => .refl
  have hdispatch : ∀ batch u w,
      ReflTransGen (Move firstTransaction Set.univ) w (deliver batch u w).2 := fun _ _ _ => .refl
  have hactive : (stocked.transaction firstTransaction).status = .active := rfl
  have hmoves : ReflTransGen (Move firstTransaction ∅) stocked joined := .single (.join _ stocked)
  have hcommit : (Host.ofShop spoil ignore deliver 3).notingTold.commit firstTransaction joined =
      (.ofExcept (.ok ()), spoiled) := rfl
  exact ⟨hbefore, hafter, hdispatch, hactive, hmoves, hcommit,
    commit_honours_iff hbefore hafter hdispatch hactive hmoves hcommit⟩

end Shop

end Transactor
