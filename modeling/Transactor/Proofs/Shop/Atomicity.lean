import Transactor.Proofs.Protocol
import Transactor.Proofs.Shop.Settlement
import Transactor.Shop.Session

namespace Transactor

open Relation

def World.nextTransaction {P S : Type} (w : World P S) : TransactionId := ⟨w.supply.current⟩

namespace Shop

variable {Q H α : Type} {base w v : ShopWorld Q H} {t : TransactionId} {u : UnitRef}

theorem Change.participants (h : Change u w v) :
    (w.unit u).participants <+: (v.unit u).participants := by
  cases h with
  | add r ho => simp [UnitOfWork.add]
  | enlist q ho => simp
  | stage r id row ho =>
    rw [r.stage_open (accepts_ne_completed ho), TableRef.unit_setTable, TableRef.enlisting]
    split
    · exact List.prefix_rfl
    · simp
  | own hs => simp [hs.unit]

section Calls

variable {h : Host (Party Q) (Premises H)}

theorem before_keeps {I : ShopWorld Q H → Prop} (hh : Steady h u)
    (hI : ∀ w v, Change u w v → I w → I v) (p : Party Q) : (h.before p).Keeps I := by
  cases p with
  | stagedWrites r x =>
    rw [hh.agrees]
    exact Task.Keeps.pure ()
  | other q => exact (hh.before q).keeps fun w v hs => Task.keeps_of_steps hI hs.changes

theorem before_exit (hh : Steady h u) (p : Party Q) (w : ShopWorld Q H) :
    ∃ r v, h.before p w = (.ofExcept r, v) := by
  cases p with
  | stagedWrites r x =>
    rw [hh.agrees]
    exact ⟨.ok (), w, rfl⟩
  | other q =>
    obtain ⟨r, hr⟩ := (hh.before q).exit w
    exact ⟨r, _, hr⟩

/-- How the pass before a completion ends: it agrees or refuses, and the session goes on, or there
are too many participants to ask. -/
inductive Asked (base : ShopWorld Q H) (t : TransactionId) (u : UnitRef) (patience : Nat) :
    Exit UnitOfWorkError Unit → ShopWorld Q H → Prop
  | answered (r : Except UnitOfWorkError Unit) {d : ShopWorld Q H} (hs : Session base t u d) :
      Asked base t u patience (.ofExcept r) d
  | exhausted {d : ShopWorld Q H} (hp : patience ≤ max 1 (d.unit u).participants.length) :
      Asked base t u patience (.interrupted .exhausted) d

theorem drain_session (hh : Steady h u) : (h.drain u).Keeps (Session base t u) := by
  apply Host.drain_keeps
  · exact fun w e hw => hw.sameRecords ⟨rfl, rfl, rfl, rfl⟩
  · exact fun w s q hw => hw.setUnit rfl rfl
  · exact fun batch => (hh.dispatch batch).keeps fun w v hs hw => hw.step hs

theorem beforeUnit_session (hh : Steady h u) :
    (h.before? (.unit u)).Keeps (Session base t u) := by
  rw [Host.before_unit]
  apply (drain_session hh).bind
  intro _
  apply Host.askParticipants_keeps
  exact before_keeps hh fun w v hs hw => hw.change hs

theorem beforeUnit_asked (hh : Steady h u) (hs : Session base t u w) :
    ∃ e d, h.before? (.unit u) w = (e, d) ∧ Asked base t u h.patience e d := by
  have hsession := beforeUnit_session hh w hs
  have hgrow : ∀ p k, (h.before p).Keeps fun w => k ≤ (w.unit u).participants.length :=
    fun p k => before_keeps hh (fun w v hs hw => Nat.le_trans hw hs.participants.length_le) p
  obtain ⟨r, d, hd⟩ : ∃ r d, h.drain u w = (.ofExcept r, d) := by
    apply Host.drain_exit
    intro batch w
    obtain ⟨r, hr⟩ := (hh.dispatch batch).exit w
    exact ⟨r, _, hr⟩
  cases r with
  | error e =>
    have hb : h.before? (.unit u) w = (.failed e, d) := Task.bind_failed hd
    rw [hb] at hsession
    exact ⟨_, d, hb, .answered (.error e) hsession⟩
  | ok _ =>
    have hb : h.before? (.unit u) w = h.askParticipants u h.patience 0 d := Task.bind_done hd
    rw [hb] at hsession ⊢
    obtain ⟨r, v, hr⟩ | ⟨v, hr, hp⟩ :=
      Host.askParticipants_exit h u (before_exit hh) hgrow h.patience 0 d (Nat.zero_le _)
    · rw [hr] at hsession
      exact ⟨_, v, hr, .answered r hsession⟩
    · refine ⟨_, v, hr, .exhausted ?_⟩
      omega

theorem askAll_asked (hh : Steady h u) (hs : Session base t u w) :
    ∃ e d, h.askAll t h.patience 0 w = (e, d) ∧ Asked base t u h.patience e d := by
  obtain ⟨e, d, hd, ha⟩ := beforeUnit_asked hh hs
  cases hn : h.patience with
  | zero => exact ⟨_, w, rfl, .exhausted (Nat.zero_le _)⟩
  | succ n =>
    rw [hn] at ha
    unfold Host.askAll
    rw [Task.bind_done (Task.gets_apply _ w), hs.joined]
    change ∃ e d, (h.before? (.unit u) >>= fun _ => h.askAll t n 1) w = (e, d) ∧ _
    cases ha with
    | exhausted hp =>
      refine ⟨_, d, ?_, .exhausted hp⟩
      rw [Task.bind_apply, hd]
    | answered r hsd =>
      cases r with
      | error e => exact ⟨_, d, Task.bind_failed hd, .answered (.error e) hsd⟩
      | ok _ =>
        rw [Task.bind_done hd]
        cases n with
        | zero => exact ⟨_, d, rfl, .exhausted (Nat.le_max_left _ _)⟩
        | succ n =>
          refine ⟨_, d, ?_, .answered (.ok ()) hsd⟩
          unfold Host.askAll
          rw [Task.bind_done (Task.gets_apply _ d), hsd.joined]
          rfl

/-- What the pass has answered is what the unit has, when it was drained and its participants were
asked in order. -/
theorem askAll_canvassed (hh : Steady h u) (hs : Session base t u w) {patience : Nat}
    {answer : Except UnitOfWorkError Unit} (hv : h.askAll t patience 0 w = (.ofExcept answer, v)) :
    ∃ asked, Canvassed h u w asked answer v := by
  have hgrow (p : Party Q) (ps : List (Party Q)) :
      (h.before p).Keeps fun w => ps <+: (w.unit u).participants :=
    before_keeps hh (fun w v hc hps => hps.trans hc.participants) p
  cases hd : h.before? (.unit u) w with
  | mk e d =>
    have hsd := beforeUnit_session hh w hs
    rw [hd] at hsd
    have hsyncs : (w.transaction t).synchronizations = [.unit u] := by rw [hs.joined]
    have hsyncs' : (d.transaction t).synchronizations = [.unit u] := by rw [hsd.joined]
    have hb := Host.askAll_single_return h t hsyncs hd hsyncs' hv
    obtain ⟨asked, hc, -⟩ := before_canvassed hgrow hb
    exact ⟨asked, hc⟩

end Calls

def opening : ShopAct Q H OrderingError UnitRef := do
  let t ← WorldAct.beginTransaction
  (WorldAct.currentUnit (.ofLocal t)).mapError .unitOfWork

/-- The world in which the work of a new transaction begins. -/
def opened (w : ShopWorld Q H) : ShopWorld Q H := (opening w).2

/-- Nothing goes by the identifier of the next transaction yet: identifiers are not given twice. -/
structure Unclaimed (w : ShopWorld Q H) : Prop where
  bound : w.bound.get? w.nextTransaction = none
  staged : ∀ r : TableRef, (r.table w).staged.get? w.nextTransaction = none

/-- The world in which a transaction has begun. -/
def begun (w : ShopWorld Q H) : ShopWorld Q H :=
  ({ w with supply := w.supply.advance }.record
    (.transactionBegun w.nextTransaction)).setTransaction w.nextTransaction .begin

theorem beginTransaction_apply (w : ShopWorld Q H) :
    (WorldAct.beginTransaction : ShopAct Q H OrderingError TransactionId) w =
      (.ok w.nextTransaction, begun w) := rfl

theorem currentUnit_begun (hw : Unclaimed w) :
    ((WorldAct.currentUnit (.ofLocal w.nextTransaction)).mapError .unitOfWork :
      ShopAct Q H OrderingError UnitRef) (begun w) = (.ok w.freshUnit, opened w) ∧
    opened w = { (((begun w).record (.unitBegun w.nextTransaction)).setUnit w.freshUnit
      (.begin w.nextTransaction w.settings)).setTransaction w.nextTransaction
        ⟨.active, [.unit w.freshUnit]⟩ with
      bound := w.bound.insert w.nextTransaction w.freshUnit } := by
  have hb : (begun w).transaction w.nextTransaction = .begin :=
    World.transaction_setTransaction_self _ _ _
  have hu := WorldAct.currentUnit_begin (begun w) hb hw.bound
  have ho : opened w = ((WorldAct.currentUnit (.ofLocal w.nextTransaction) : ShopAct Q H _ _)
      (begun w)).2 := rfl
  rw [hu] at ho
  refine ⟨?_, ho⟩
  rw [Act.mapError_ok hu, ho]
  rfl

theorem opened_unit (hw : Unclaimed w) :
    (opened w).unit w.freshUnit = .begin w.nextTransaction w.settings := by
  rw [(currentUnit_begun hw).2]
  exact World.unit_setUnit_self _ _ _

theorem opened_host (hw : Unclaimed w) :
    (opened w).host = w.host ∧ (opened w).settings = w.settings := by
  rw [(currentUnit_begun hw).2]
  exact ⟨rfl, rfl⟩

theorem opened_session (hw : Unclaimed w) :
    Session w w.nextTransaction w.freshUnit (opened w) := by
  have hx := opened_unit hw
  have ho := (currentUnit_begun hw).2
  have htables : ∀ r : TableRef, r.table (opened w) = r.table w := by
    intro r
    rw [TableRef.table, (opened_host hw).1]
    rfl
  refine ⟨?_, ?_, ?_, ?_, ?_, ?_, ?_⟩
  · rw [hx]
    rfl
  · rw [ho]
    exact World.transaction_setTransaction_self _ _ _
  · rw [ho]
  · intro r
    rw [htables]
  · intro r x _
    rw [htables]
  · intro r hr
    rw [htables, hw.staged] at hr
    cases hr
  · intro r x hm
    rw [hx] at hm
    exact absurd hm List.not_mem_nil

section Ends

variable {h : Host (Party Q) (Premises H)} {work : UnitRef → ShopAct Q H OrderingError α}
  {k d : ShopWorld Q H} {a : α}

theorem inTransaction_ok (hw : Unclaimed w) (hk : work w.freshUnit (opened w) = (.ok a, k)) :
    inTransaction h work w =
      (((h.commit w.nextTransaction).mapError .transaction : ShopTask Q H OrderingError Unit) >>=
        fun _ => pure a) k := by
  have hu := Act.bind_ok (f := work) (currentUnit_begun hw).1
  unfold inTransaction
  simp only [Task.bind_apply, Task.atOnce_apply, beginTransaction_apply, Exit.ofExcept, Act.attempt,
    hu, hk]

theorem inTransaction_error {e : OrderingError} (hw : Unclaimed w)
    (hk : work w.freshUnit (opened w) = (.error e, k)) :
    inTransaction h work w =
      (((h.rollback w.nextTransaction).mapError .transaction : ShopTask Q H OrderingError Unit) >>=
        fun _ => Task.fail e)
        (k.record (.rollingBack w.nextTransaction (OrderingError.message e))) := by
  have hu := Act.bind_ok (f := work) (currentUnit_begun hw).1
  unfold inTransaction
  simp only [Task.bind_apply, Task.atOnce_apply, beginTransaction_apply, Exit.ofExcept, Act.attempt,
    hu, hk]
  rfl

theorem inTransaction_failed {e : OrderingError} (hh : Steady h w.freshUnit) (hw : Unclaimed w)
    (hk : work w.freshUnit (opened w) = (.error e, k))
    (hs : Session w w.nextTransaction w.freshUnit k) :
    ∃ v, inTransaction h work w = (.failed e, v) ∧
      h.complete w.nextTransaction .rolledBack
        (k.record (.rollingBack w.nextTransaction (OrderingError.message e))) = (.done (), v) ∧
      Ended w w.nextTransaction w.freshUnit .rolledBack v ∧
      ∀ r : TableRef, r.table v = (r.table k).settle w.nextTransaction .rolledBack := by
  let d := k.record (.rollingBack w.nextTransaction (OrderingError.message e))
  have hd : Session w w.nextTransaction w.freshUnit d := hs.sameRecords ⟨rfl, rfl, rfl, rfl⟩
  obtain ⟨v, hv, hended, htables⟩ := hd.complete hh hw.bound .rolledBack
  refine ⟨v, ?_, hv, hended, htables⟩
  have ha : (d.transaction w.nextTransaction).status.isActive = true := by
    rw [hd.joined]
    rfl
  rw [inTransaction_error hw hk,
    Task.bind_done (Task.mapError_done (Host.rollback_open h _ ha hv))]
  rfl

theorem inTransaction_refused {e : UnitOfWorkError} (hh : Steady h w.freshUnit) (hw : Unclaimed w)
    (hk : work w.freshUnit (opened w) = (.ok a, k))
    (hs : Session w w.nextTransaction w.freshUnit k)
    (hd : h.askAll w.nextTransaction h.patience 0 k = (.failed e, d))
    (hsd : Session w w.nextTransaction w.freshUnit d) :
    ∃ v, inTransaction h work w =
        (.failed (.transaction (.rolledBackBy w.nextTransaction e)), v) ∧
      h.complete w.nextTransaction .rolledBack
        (d.record (.beforeCompletionFailed w.nextTransaction e.message)) = (.done (), v) ∧
      Ended w w.nextTransaction w.freshUnit .rolledBack v ∧
      ∀ r : TableRef, r.table v = (r.table d).settle w.nextTransaction .rolledBack := by
  let c := d.record (.beforeCompletionFailed w.nextTransaction e.message)
  have hc : Session w w.nextTransaction w.freshUnit c := hsd.sameRecords ⟨rfl, rfl, rfl, rfl⟩
  obtain ⟨v, hv, hended, htables⟩ := hc.complete hh hw.bound .rolledBack
  refine ⟨v, ?_, hv, hended, htables⟩
  have ha : (k.transaction w.nextTransaction).status = .active := by rw [hs.joined]
  rw [inTransaction_ok hw hk]
  exact Task.bind_failed (Task.mapError_failed (Host.commit_refused h _ ha hd hv))

theorem inTransaction_agreed (hh : Steady h w.freshUnit) (hw : Unclaimed w)
    (hk : work w.freshUnit (opened w) = (.ok a, k))
    (hs : Session w w.nextTransaction w.freshUnit k)
    (hd : h.askAll w.nextTransaction h.patience 0 k = (.done (), d))
    (hsd : Session w w.nextTransaction w.freshUnit d) :
    ∃ v, inTransaction h work w = (.done a, v) ∧
      h.complete w.nextTransaction .committed d = (.done (), v) ∧
      Ended w w.nextTransaction w.freshUnit .committed v ∧
      ∀ r : TableRef, r.table v = (r.table d).settle w.nextTransaction .committed := by
  obtain ⟨v, hv, hended, htables⟩ := hsd.complete hh hw.bound .committed
  refine ⟨v, ?_, hv, hended, htables⟩
  have ha : (k.transaction w.nextTransaction).status = .active := by rw [hs.joined]
  rw [inTransaction_ok hw hk,
    Task.bind_done (Task.mapError_done (Host.commit_agreed h _ ha hd hv))]
  rfl

end Ends

/-- The decision to commit work: it has given a result, and all that was asked has agreed. -/
def Decided (h : Host (Party Q) (Premises H)) (work : UnitRef → ShopAct Q H OrderingError α)
    (w : ShopWorld Q H) (a : α) (d : ShopWorld Q H) : Prop :=
  ∃ k, work w.freshUnit (opened w) = (.ok a, k) ∧
    h.askAll w.nextTransaction h.patience 0 k = (.done (), d)

/-- The decision to roll work back: it has failed itself, or something asked has refused. -/
def Refused (h : Host (Party Q) (Premises H)) (work : UnitRef → ShopAct Q H OrderingError α)
    (w : ShopWorld Q H) (e : OrderingError) : Prop :=
  (∃ k, work w.freshUnit (opened w) = (.error e, k)) ∨
    ∃ a k cause d, work w.freshUnit (opened w) = (.ok a, k) ∧
      h.askAll w.nextTransaction h.patience 0 k = (.failed cause, d) ∧
      e = .transaction (.rolledBackBy w.nextTransaction cause)

section Decision

variable {h : Host (Party Q) (Premises H)} {work : UnitRef → ShopAct Q H OrderingError α}
  (hh : Steady h w.freshUnit) (hw : Unclaimed w)
  (hwork : ∀ v, ReflTransGen (UnitStep w.freshUnit) v (work w.freshUnit v).2)

include hw hwork

theorem session_of_work {r : Except OrderingError α} {k : ShopWorld Q H}
    (hk : work w.freshUnit (opened w) = (r, k)) :
    Session w w.nextTransaction w.freshUnit k := by
  have hsteps := changes_of_steps (hwork (opened w))
  rw [hk] at hsteps
  exact (opened_session hw).changes hsteps

include hh

/-- Work is committed after its unit was drained and all participants, in order, have agreed. -/
theorem Decided.canvassed {a : α} {d : ShopWorld Q H} (hd : Decided h work w a d) :
    ∃ k asked, work w.freshUnit (opened w) = (.ok a, k) ∧
      Canvassed h w.freshUnit k asked (.ok ()) d := by
  obtain ⟨k, hk, hd⟩ := hd
  have hok : h.askAll w.nextTransaction h.patience 0 k = (.ofExcept (.ok ()), d) := hd
  obtain ⟨asked, hc⟩ := askAll_canvassed hh (session_of_work hw hwork hk) hok
  exact ⟨k, asked, hk, hc⟩

/-- Work that has not failed itself is rolled back after the drain of its unit has failed, or the
last participant that was asked has refused. -/
theorem Refused.canvassed {e : OrderingError} (hr : Refused h work w e) :
    (∃ k, work w.freshUnit (opened w) = (.error e, k)) ∨
      ∃ a k cause asked d, work w.freshUnit (opened w) = (.ok a, k) ∧
        Canvassed h w.freshUnit k asked (.error cause) d ∧
        e = .transaction (.rolledBackBy w.nextTransaction cause) := by
  obtain hk | ⟨a, k, cause, d, hk, hd, he⟩ := hr
  · exact .inl hk
  · have herror : h.askAll w.nextTransaction h.patience 0 k = (.ofExcept (.error cause), d) := hd
    obtain ⟨asked, hc⟩ := askAll_canvassed hh (session_of_work hw hwork hk) herror
    exact .inr ⟨a, k, cause, asked, d, hk, hc, he⟩

end Decision

/-- All of the work or none: if it is done, every row that its unit saw at the decision is a
committed one, and if it has failed, no committed row has changed. It is given up only if more
participants enlist than the host has the patience to ask. -/
inductive Atomic (h : Host (Party Q) (Premises H)) (work : UnitRef → ShopAct Q H OrderingError α)
    (w : ShopWorld Q H) : Exit OrderingError α → ShopWorld Q H → Prop
  | committed {a : α} {d v : ShopWorld Q H}
      (ended : Ended w w.nextTransaction w.freshUnit .committed v)
      (decided : Decided h work w a d)
      (rows : ∀ (r : TableRef) (id : Uuid),
        (r.peek w.freshUnit id : ShopAct Q H OrderingError _) d =
          (.ok ((r.table v).committed.get? id), d)) : Atomic h work w (.done a) v
  | rolledBack {e : OrderingError} {v : ShopWorld Q H}
      (ended : Ended w w.nextTransaction w.freshUnit .rolledBack v)
      (refused : Refused h work w e)
      (rows : ∀ r : TableRef, (r.table v).committed = (r.table w).committed) :
      Atomic h work w (.failed e) v
  | exhausted {v : ShopWorld Q H}
      (crowd : h.patience ≤ max 1 (v.unit w.freshUnit).participants.length) :
      Atomic h work w (.interrupted .exhausted) v

theorem steady_ofShop {before : Q → ShopTask Q H UnitOfWorkError Unit}
    {after : Q → Outcome → ShopTask Q H Empty Unit}
    {dispatch : List Message → UnitRef → ShopTask Q H DeliveryError Unit}
    (hbefore : ∀ q, (before q).Within (UnitStep u))
    (hafter : ∀ q o, (after q o).Within (UnitStep u))
    (hdispatch : ∀ batch, (dispatch batch u).Within (UnitStep u)) (patience : Nat) :
    Steady (Host.ofShop before after dispatch patience) u where
  agrees _ _ := rfl
  settles _ _ _ := rfl
  before := hbefore
  after := hafter
  dispatch := hdispatch

/-- Whatever work, deliveries and parties do with the unit of a transaction, and wherever they fail:
the transaction happens as a whole or not at all. -/
theorem inTransaction_atomic {before : Q → ShopTask Q H UnitOfWorkError Unit}
    {after : Q → Outcome → ShopTask Q H Empty Unit}
    {dispatch : List Message → UnitRef → ShopTask Q H DeliveryError Unit} {patience : Nat}
    {work : UnitRef → ShopAct Q H OrderingError α} {w : ShopWorld Q H} (hw : Unclaimed w)
    (hwork : ∀ v, ReflTransGen (UnitStep w.freshUnit) v (work w.freshUnit v).2)
    (hdispatch : ∀ batch, (dispatch batch w.freshUnit).Within (UnitStep w.freshUnit))
    (hbefore : ∀ q, (before q).Within (UnitStep w.freshUnit))
    (hafter : ∀ q o, (after q o).Within (UnitStep w.freshUnit)) :
    Atomic (Host.ofShop before after dispatch patience) work w
      (inTransaction (Host.ofShop before after dispatch patience) work w).1
      (inTransaction (Host.ofShop before after dispatch patience) work w).2 := by
  have hh := steady_ofShop hbefore hafter hdispatch patience
  generalize Host.ofShop before after dispatch patience = h at hh ⊢
  cases hk : work w.freshUnit (opened w) with
  | mk r k =>
    have hs : Session w w.nextTransaction w.freshUnit k := session_of_work hw hwork hk
    cases r with
    | error e =>
      obtain ⟨v, hv, -, hended, htables⟩ := inTransaction_failed hh hw hk hs
      rw [hv]
      refine .rolledBack hended (.inl ⟨k, hk⟩) ?_
      intro r
      rw [htables]
      exact hs.committed r
    | ok a =>
      obtain ⟨e, d, hd, hasked⟩ := askAll_asked hh hs
      cases hasked with
      | exhausted hp =>
        have ha : (k.transaction w.nextTransaction).status = .active := by rw [hs.joined]
        have hi := Task.mapError_interrupted (f := OrderingError.transaction)
          (Host.commit_interrupted h _ ha hd)
        rw [inTransaction_ok hw hk, Task.bind_interrupted hi]
        exact .exhausted hp
      | answered r hsd =>
        cases r with
        | error e =>
          obtain ⟨v, hv, -, hended, htables⟩ := inTransaction_refused hh hw hk hs hd hsd
          rw [hv]
          refine .rolledBack hended (.inr ⟨a, k, e, d, hk, hd, rfl⟩) ?_
          intro r
          rw [htables]
          exact hsd.committed r
        | ok _ =>
          obtain ⟨v, hv, -, hended, htables⟩ := inTransaction_agreed hh hw hk hs hd hsd
          rw [hv]
          refine .committed hended ⟨k, hk, hd⟩ ?_
          intro r id
          rw [htables, Table.get?_settle_committed, TableRef.peek, Act.gets_apply, hsd.owner]

def stocking (u : UnitRef) : ShopAct Unit Unit OrderingError Unit := do
  let _ : Tracked StockItem ←
    Act.carrying (StockItem.ofUnits (.ofNat 1) "WIDGET-1" 10) (TableRef.insert ⟨.stockItem, 0⟩ u)
  (WorldAct.enlist u (.other ())).mapError .unitOfWork

theorem stocking_steps (u : UnitRef) (v : ShopWorld Unit Unit) :
    ReflTransGen (UnitStep u) v (stocking u v).2 := by
  have hinsert : (Act.carrying (StockItem.ofUnits (.ofNat 1) "WIDGET-1" 10)
      (TableRef.insert ⟨.stockItem, 0⟩ u) : ShopAct Unit Unit OrderingError _).Keeps
      (ReflTransGen (UnitStep u) v) := fun w hw => hw.tail (.insert _ _ w)
  have henlist : ((WorldAct.enlist u (.other ())).mapError .unitOfWork :
      ShopAct Unit Unit OrderingError _).Keeps (ReflTransGen (UnitStep u) v) :=
    fun w hw => hw.tail (.enlist () w)
  exact hinsert.bind (fun _ => henlist) v .refl

/-- Checks for each batch that the product is there. -/
def checking (_ : List Message) (u : UnitRef) : ShopTask Unit Unit DeliveryError Unit :=
  Task.atOnce <| Act.mapError (fun e => .rejected (OrderingError.message e)) do
    let _ : Tracked StockItem ← TableRef.load ⟨.stockItem, 0⟩ u (.ofNat 1)

theorem checking_within (u : UnitRef) (batch : List Message) :
    (checking batch u).Within (UnitStep u) := by
  apply Task.Within.atOnce
  intro v
  apply Act.Keeps.mapError
  have hload : (TableRef.load ⟨.stockItem, 0⟩ u (.ofNat 1) :
      ShopAct Unit Unit OrderingError (Tracked StockItem)).Keeps (ReflTransGen (UnitStep u) v) :=
    fun w hw => hw.tail (.load _ _ w)
  exact hload.bind fun _ => Act.Keeps.pure ()

/-- A party that vetoes every completion. -/
def veto (_ : Unit) : ShopTask Unit Unit UnitOfWorkError Unit := Task.fail .noActiveTransaction

def accept (_ : Unit) (_ : Outcome) : ShopTask Unit Unit Empty Unit := pure ()

def emptyShop : ShopWorld Unit Unit := .first ⟨2⟩ ⟨.empty, [], ()⟩

theorem inTransaction_atomic_veto :
    Unclaimed emptyShop ∧
      (∀ v, ReflTransGen (UnitStep emptyShop.freshUnit) v (stocking emptyShop.freshUnit v).2) ∧
      (∀ batch, (checking batch emptyShop.freshUnit).Within (UnitStep emptyShop.freshUnit)) ∧
      (∀ q, (veto q).Within (UnitStep emptyShop.freshUnit)) ∧
      (∀ q o, (accept q o).Within (UnitStep emptyShop.freshUnit)) ∧
      Atomic (Host.ofShop veto accept checking 3) stocking emptyShop
        (inTransaction (Host.ofShop veto accept checking 3) stocking emptyShop).1
        (inTransaction (Host.ofShop veto accept checking 3) stocking emptyShop).2 ∧
      ∃ k row v, stocking emptyShop.freshUnit (opened emptyShop) = (.ok (), k) ∧
        (TableRef.peek ⟨.stockItem, 0⟩ emptyShop.freshUnit (.ofNat 1) :
          ShopAct Unit Unit OrderingError _) k = (.ok (some row), k) ∧
        inTransaction (Host.ofShop veto accept checking 3) stocking emptyShop =
          (.failed (.transaction
            (.rolledBackBy emptyShop.nextTransaction .noActiveTransaction)), v) ∧
        ∀ (r : TableRef) (id : Uuid), (r.table v).committed.get? id = none := by
  have hw : Unclaimed emptyShop := by
    refine ⟨rfl, ?_⟩
    rintro ⟨kind, n⟩
    cases kind <;> rfl
  have hwork := stocking_steps emptyShop.freshUnit
  have hdispatch := checking_within emptyShop.freshUnit
  have hbefore : ∀ q, (veto q).Within (UnitStep emptyShop.freshUnit) :=
    fun _ => ⟨fun _ => .refl, fun _ _ he => by cases he⟩
  have hafter : ∀ q o, (accept q o).Within (UnitStep emptyShop.freshUnit) :=
    fun _ _ => ⟨fun _ => .refl, fun _ _ he => by cases he⟩
  have hatomic : Atomic (Host.ofShop veto accept checking 3) stocking emptyShop _ _ :=
    inTransaction_atomic hw hwork hdispatch hbefore hafter
  have hvetoed : inTransaction (Host.ofShop veto accept checking 3) stocking emptyShop =
      (.failed (.transaction (.rolledBackBy emptyShop.nextTransaction .noActiveTransaction)),
        (inTransaction (Host.ofShop veto accept checking 3) stocking emptyShop).2) := rfl
  refine ⟨hw, hwork, hdispatch, hbefore, hafter, hatomic, _, _, _, rfl, rfl, hvetoed, ?_⟩
  intro r id
  rw [hvetoed] at hatomic
  cases hatomic with
  | rolledBack _ _ rows =>
    rw [rows r]
    cases r with
    | mk kind n => cases kind <;> rfl

end Shop

end Transactor
