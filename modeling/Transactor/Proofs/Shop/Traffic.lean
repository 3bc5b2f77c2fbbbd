import Transactor.Proofs.Shop.Access
import Transactor.Proofs.Shop.Overlap
import Transactor.Proofs.Shop.Tenure

namespace Transactor.Shop

open Relation

variable {D : Type}

/-- An operation of somebody who works with transactions. -/
inductive Action where
  | begin
  | current (t : TransactionId)
  | register (u : UnitRef) (r : Registration)
  | access (u : UnitRef) (x : Access)
  | discard (u : UnitRef)
  | mark (t : TransactionId)
  | commit (t : TransactionId)
  | rollback (t : TransactionId)

namespace Action

/-- Does it. The host notes what units accept and what is written. -/
def run (h : Host (Party Empty) (Premises (Annals D))) :
    Action → ShopTask Empty (Annals D) OrderingError Unit
  | .begin => Task.atOnce do
    let _ ← WorldAct.beginTransaction
  | .current t => Task.atOnce do
    let _ ← (WorldAct.currentUnit (.ofLocal t)).mapError .unitOfWork
  | .register u r => Task.atOnce
    ((WorldAct.noting (.registered u r) (WorldAct.register u r)).mapError .unitOfWork)
  | .access u x => Task.atOnce (x.perform u)
  | .discard u => Task.atOnce (WorldAct.discard u)
  | .mark t => Task.atOnce ((WorldAct.markRollback t).mapError .transaction)
  | .commit t => (h.commit t).mapError .transaction
  | .rollback t => (h.rollback t).mapError .transaction

/-- The transaction that it is done for. -/
def subject (w : Floor D) : Action → TransactionId
  | .begin => w.nextTransaction
  | .register u _ | .access u _ | .discard u => (w.unit u).transaction
  | .current t | .mark t | .commit t | .rollback t => t

/-- The unit that it makes use of. -/
def served? : Action → Option UnitRef
  | .register u _ | .access u _ => some u
  | _ => none

theorem subject_of_served {a : Action} {u : UnitRef} (ha : a.served? = some u) (w : Floor D) :
    a.subject w = (w.unit u).transaction := by
  cases a <;> cases ha <;> rfl

end Action

/-- What an operation that returns has come to. -/
inductive Happening (h : Host (Party Empty) (Premises (Annals D))) (w : Floor D) :
    Action → Except OrderingError Unit → Floor D → Prop
  | begun (hnew : ¬ w.Knows w.nextTransaction) : Happening h w .begin (.ok ()) (begun w)
  | current {t : TransactionId} {result : Except OrderingError Unit} {v : Floor D}
      (hc : Current t w v) : Happening h w (.current t) result v
  | served {a : Action} {u : UnitRef} {result : Except OrderingError Unit} {v : Floor D}
      (ha : a.served? = some u) (hs : Service u w v)
      (hx : ∀ x, a = .access u x → (result, v) = x.perform u w) : Happening h w a result v
  | discarded (u : UnitRef) : Happening h w (.discard u) (.ok ())
      ((WorldAct.discard u : ShopAct Empty (Annals D) OrderingError Unit) w).2
  | marked {t : TransactionId} (ha : (w.transaction t).status.isActive = true) :
      Happening h w (.mark t) (.ok ())
        (w.setTransaction t { w.transaction t with status := .markedRollback })
  | unmarked {t : TransactionId} {e : OrderingError} : Happening h w (.mark t) (.error e) w
  | ended {t : TransactionId} {result : Except TransactionError Unit} {v : Floor D}
      (hc : Commitment h t w result v) :
      Happening h w (.commit t) (result.mapError .transaction) v
  | undone {t : TransactionId} {v : Floor D} (ha : (w.transaction t).status.isActive = true)
      (hc : Concluded t .rolledBack w v) : Happening h w (.rollback t) (.ok ()) v
  | refused {t : TransactionId} {e : OrderingError} : Happening h w (.rollback t) (.error e) w

variable {deliver : Dispatcher (Party Empty) (Premises (Annals D))} {patience : Nat}
  {w v : Floor D} {a : Action} {result : Except OrderingError Unit}

theorem Tidy.happening (hw : Tidy w) (hd : ∀ batch u, (deliver batch u).Within (Service u))
    (hnew : a = .begin → ¬ w.Knows w.nextTransaction)
    (hv : a.run (dealing deliver patience) w = (.ofExcept result, v)) :
    Happening (dealing deliver patience) w a result v := by
  have hreturn {x : ShopAct Empty (Annals D) OrderingError Unit}
      (hx : Task.atOnce x w = (.ofExcept result, v)) : (x w).1 = result ∧ v = (x w).2 := by
    obtain ⟨hr, hs⟩ := Prod.mk.inj hx
    exact ⟨Exit.ofExcept_inj hr, hs.symm⟩
  cases a with
  | begin =>
    obtain ⟨rfl, rfl⟩ := hreturn hv
    exact .begun (hnew rfl)
  | current t =>
    obtain ⟨-, hs⟩ := hreturn hv
    rw [Act.bind_pure_apply] at hs
    rw [hs]
    exact .current (current_cases t w)
  | register u r =>
    obtain ⟨-, rfl⟩ := hreturn hv
    exact .served rfl (.register r w) fun x hx => by cases hx
  | access u x =>
    obtain ⟨rfl, rfl⟩ := hreturn hv
    refine .served rfl (.access x w) ?_
    rintro _ ⟨⟩
    rfl
  | discard u =>
    obtain ⟨rfl, rfl⟩ := hreturn hv
    exact .discarded u
  | mark t =>
    obtain ⟨hr, hs⟩ := hreturn hv
    cases ha : (w.transaction t).status.isActive with
    | true =>
      rw [Act.mapError_ok (WorldAct.markRollback_open w ha)] at hr hs
      rw [← hr, hs]
      exact .marked ha
    | false =>
      rw [Act.mapError_error (WorldAct.markRollback_closed w ha)] at hr hs
      rw [← hr, hs]
      exact .unmarked
  | commit t =>
    obtain ⟨r, hr, rfl⟩ := Task.mapError_return hv
    exact .ended (hw.commit (fun batch u => (hd batch u).refine fun _ _ h => h.steps) hr)
  | rollback t =>
    obtain ⟨r, hr, rfl⟩ := Task.mapError_return hv
    obtain ⟨e, rfl, rfl⟩ | ⟨rfl, ha, hc⟩ := hw.rollback hr
    · exact .refused
    · exact .undone ha hc

namespace Happening

/-- Whatever is done, other transactions are left alone. -/
theorem tidy (h : Happening (dealing deliver patience) w a result v) (hw : Tidy w) :
    Apart (a.subject w) w v ∧ Tidy v := by
  cases h with
  | begun hnew => exact hw.begin hnew
  | current hc => exact hw.current hc
  | served ha hs _ =>
    rw [Action.subject_of_served ha]
    exact hw.serve hs.steps
  | discarded u => exact hw.discard u
  | marked ha => exact hw.setTransaction rfl fun _ => rfl
  | unmarked => exact ⟨.of_sameRecords (.refl w), hw⟩
  | ended hc => exact hc.tidy hw
  | undone ha hc => exact hc.undone hw
  | refused => exact ⟨.of_sameRecords (.refl w), hw⟩

/-- The status of a transaction that has begun changes only while it is open, and only to bar a
commit. -/
theorem status (h : Happening (dealing deliver patience) w a result v) (hw : Tidy w)
    {t : TransactionId} (hk : w.Knows t) : (v.transaction t).status = (w.transaction t).status ∨
      (w.transaction t).status.isActive = true ∧ (v.transaction t).status ≠ .active := by
  by_cases ht : t = a.subject w
  · cases h with
    | begun hnew =>
      obtain rfl : t = w.nextTransaction := ht
      exact absurd hk hnew
    | current hc =>
      obtain rfl : t = _ := ht
      cases hc with
      | same => exact .inl rfl
      | fresh ha hb hv =>
        left
        rw [hv]
        change (((WorldAct.offering w t).setTransaction t _).transaction t).status = _
        rw [World.transaction_setTransaction_self]
    | served ha hs _ =>
      left
      rw [World.transaction, (aside_of_changes (changes_of_steps hs.steps)).transactions,
        World.transaction]
    | discarded u => exact .inl rfl
    | marked ha =>
      obtain rfl : t = _ := ht
      right
      rw [World.transaction_setTransaction_self]
      exact ⟨ha, fun he => by cases he⟩
    | unmarked => exact .inl rfl
    | undone ha hc =>
      obtain rfl : t = _ := ht
      exact .inr ⟨ha, (hc.isOver hk).status_ne⟩
    | refused => exact .inl rfl
    | ended hc =>
      obtain rfl : t = _ := ht
      obtain rfl | ⟨ha, ho⟩ := hc.isOver hk
      · exact .inl rfl
      · exact .inr ⟨ha, ho.status_ne⟩
  · left
    rw [(h.tidy hw).1.transaction t ht]

theorem staysOver (h : Happening (dealing deliver patience) w a result v) (hw : Tidy w)
    {t : TransactionId} (ho : w.Over t) : v.Over t := by
  refine ⟨(h.tidy hw).1.persists.known t ho.1, ?_⟩
  obtain hs | ⟨ha, -⟩ := h.status hw ho.1
  · rw [hs]
    exact ho.2
  · rw [ho.2] at ha
    cases ha

theorem bound (h : Happening (dealing deliver patience) w a result v) (hw : Tidy w)
    {t : TransactionId} {u : UnitRef} (hb : w.bound.get? t = some u) :
    v.bound.get? t = some u ∨ v.Over t := by
  obtain ht | ⟨y, hy⟩ := hw.tenure t
  · cases ht.bound.symm.trans hb
  have hk := World.knows_of_isActive hy.isActive
  by_cases ht : t = a.subject w
  · cases h with
    | begun hnew =>
      obtain rfl : t = w.nextTransaction := ht
      exact absurd hk hnew
    | current hc =>
      obtain rfl : t = _ := ht
      cases hc with
      | same => exact .inl hb
      | fresh ha hnone hv => cases hnone.symm.trans hb
    | served ha hs _ =>
      rw [(aside_of_changes (changes_of_steps hs.steps)).bound]
      exact .inl hb
    | discarded u => exact .inl hb
    | marked ha => exact .inl hb
    | unmarked => exact .inl hb
    | undone ha hc =>
      obtain rfl : t = _ := ht
      exact .inr (hc.isOver hk)
    | refused => exact .inl hb
    | ended hc =>
      obtain rfl : t = _ := ht
      obtain rfl | ⟨-, ho⟩ := hc.isOver hk
      · exact .inl hb
      · exact .inr ho
  · rw [(h.tidy hw).1.bound t ht]
    exact .inl hb

end Happening

/-- What has happened once. -/
structure Episode (D : Type) where
  before : Floor D
  action : Action
  result : Except OrderingError Unit
  after : Floor D

/-- The calls that have been noted meanwhile. -/
def Episode.calls (e : Episode D) : List (Call (Party Empty)) :=
  e.after.past.drop e.before.past.length

/-- What has happened one after the other. Only identifiers that are new begin transactions. -/
inductive Traffic (h : Host (Party Empty) (Premises (Annals D))) (w₀ : Floor D) :
    List (Episode D) → Floor D → Prop
  | start : Traffic h w₀ [] w₀
  | next {log : List (Episode D)} {w v : Floor D} {a : Action}
      {result : Except OrderingError Unit} (ht : Traffic h w₀ log w)
      (hnew : a = .begin → ¬ w.Knows w.nextTransaction)
      (hv : a.run h w = (.ofExcept result, v)) : Traffic h w₀ (log ++ [⟨w, a, result, v⟩]) v

namespace Action

variable (h : Host (Party Empty) (Premises (Annals D)))

def begins : Action → Bool
  | .begin => true
  | _ => false

/-- Whether actions that begin no transactions all succeed, one after the other. -/
def succeed : Floor D → List Action → Bool
  | _, [] => true
  | w, a :: as =>
    match a.run h w with
    | (.done (), v) => !a.begins && succeed v as
    | _ => false

def episodes : Floor D → List Action → List (Episode D)
  | _, [] => []
  | w, a :: as => ⟨w, a, .ok (), (a.run h w).2⟩ :: episodes (a.run h w).2 as

def outcome : Floor D → List Action → Floor D
  | w, [] => w
  | w, a :: as => outcome (a.run h w).2 as

end Action

theorem Traffic.succeed {h : Host (Party Empty) (Premises (Annals D))} {w₀ : Floor D}
    {log : List (Episode D)} {as : List Action} (ht : Traffic h w₀ log w)
    (hs : Action.succeed h w as = true) :
    Traffic h w₀ (log ++ Action.episodes h w as) (Action.outcome h w as) := by
  induction as generalizing log w with
  | nil =>
    rw [Action.episodes, List.append_nil]
    exact ht
  | cons a as ih =>
    unfold Action.succeed at hs
    split at hs
    · rename_i v hv
      rw [Bool.and_eq_true] at hs
      have hok : a.run h w = (.ofExcept (.ok ()), v) := hv
      have hb : a ≠ .begin := by
        rintro rfl
        cases hs.1
      have hnext := ih (ht.next (fun he => absurd he hb) hok) hs.2
      rw [List.append_assoc] at hnext
      rw [Action.episodes, Action.outcome, hv]
      exact hnext
    · cases hs

/-- Nobody has done anything yet, but transactions may have begun, and tables may have rows. -/
structure Opening (w : Floor D) : Prop where
  unattached : ∀ t, Unattached t w
  completed : ∀ y, (w.unit y).status = .completed
  past : w.past = []
  writes : w.host.host.writes = []

/-- Two transactions have begun in an empty shop. -/
def twoBegun (a : D) : Floor D :=
  ((World.first ⟨2⟩ ⟨.empty, [], [], [], a⟩).setTransaction firstBuyer .begin).setTransaction
    secondBuyer .begin

theorem opening_twoBegun (a : D) : Opening (twoBegun a) where
  unattached t := by
    refine ⟨?_, rfl, fun r => ?_⟩
    · by_cases ht : t = secondBuyer
      · rw [ht, twoBegun, World.transaction_setTransaction_self]
        rfl
      · rw [twoBegun, World.transaction_setTransaction_of_ne _ _ ht]
        by_cases ht : t = firstBuyer
        · rw [ht, World.transaction_setTransaction_self]
          rfl
        · rw [World.transaction_setTransaction_of_ne _ _ ht]
          rfl
    · cases r with
      | mk k n => cases k <;> rfl
  completed _ := rfl
  past := rfl
  writes := rfl

theorem Opening.tidy (h : Opening w) : Tidy w where
  tenure t := .inl (h.unattached t)
  live y hs := absurd (h.completed y) hs

/-- The traffic by induction: what holds at first and is kept by whatever happens. -/
theorem Traffic.induction {w₀ : Floor D} {log : List (Episode D)}
    (ht : Traffic (dealing deliver patience) w₀ log w) (hw₀ : Opening w₀)
    (hd : ∀ batch u, (deliver batch u).Within (Service u))
    {I : List (Episode D) → Floor D → Prop} (hstart : I [] w₀)
    (hnext : ∀ log w a result v, Tidy w → I log w →
      Happening (dealing deliver patience) w a result v → I (log ++ [⟨w, a, result, v⟩]) v) :
    I log w := by
  have hboth : Tidy w ∧ I log w := by
    induction ht with
    | start => exact ⟨hw₀.tidy, hstart⟩
    | next _ hnew hv ih =>
      have h := ih.1.happening hd hnew hv
      exact ⟨(h.tidy ih.1).2, hnext _ _ _ _ _ ih.1 ih.2 h⟩
  exact hboth.2

end Transactor.Shop
