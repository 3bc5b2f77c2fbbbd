import Transactor.Proofs.Host
import Transactor.Proofs.Shop.UnitStep

namespace Transactor

open Relation

namespace KeyedList

variable {κ α : Type} [DecidableEq κ]

theorem erase_of_get?_none {m : KeyedList κ α} {k : κ} (h : m.get? k = none) : m.erase k = m := by
  cases m with
  | mk entries nodup =>
    simp only [get?, Option.map_eq_none_iff, List.find?_eq_none, decide_eq_true_eq] at h
    simp only [erase, mk.injEq, List.filter_eq_self, ne_eq, decide_not, Bool.not_eq_eq_eq_not,
      Bool.not_true, decide_eq_false_iff_not]
    exact h

theorem erase_insert {m : KeyedList κ α} {k : κ} (h : m.get? k = none) (a : α) :
    (m.insert k a).erase k = m := by
  have hc : m.contains k = false := by
    simpa [get?, contains] using h
  have he := erase_of_get?_none h
  cases m with
  | mk entries nodup =>
    simp only [erase, mk.injEq] at he
    simp only [erase, insert, hc, Bool.false_eq_true, ↓reduceIte, List.filter_append, he, mk.injEq]
    simp

end KeyedList

namespace Shop

namespace Table

variable {E : Type} {t : Table E} {x : TransactionId}

theorem settle_of_none (h : t.staged.get? x = none) (o : Outcome) : t.settle x o = t := by
  cases t with
  | mk committed staged =>
    simp only [settle, mk.injEq]
    refine ⟨?_, KeyedList.erase_of_get?_none h⟩
    cases o with
    | rolledBack => rfl
    | committed =>
      have hd : staged.getD x ∅ = ∅ := by
        rw [KeyedList.getD, h]
        rfl
      rw [hd]
      rfl

@[simp] theorem staged_settle (t : Table E) (x : TransactionId) (o : Outcome) :
    (t.settle x o).staged.get? x = none := KeyedList.get?_erase_self _ _

theorem staged_settle_of_ne (t : Table E) {x y : TransactionId} (o : Outcome) (h : y ≠ x) :
    (t.settle x o).staged.get? y = t.staged.get? y :=
  (KeyedList.get?_erase _ _ _).trans (if_neg h)

@[simp] theorem settle_settle (t : Table E) (x : TransactionId) (o : Outcome) :
    (t.settle x o).settle x o = t.settle x o := settle_of_none (staged_settle _ _ _) o

theorem get?_applyRow (m : KeyedList Uuid E) (row : Uuid × Option E) (id : Uuid) :
    (applyRow m row).get? id = if id = row.1 then row.2 else m.get? id := by
  unfold applyRow
  split
  · rename_i e he
    rw [KeyedList.get?_insert, he]
  · rename_i he
    rw [KeyedList.get?_erase, he]

/-- Rows with distinct identifiers settle in any order: each leaves its mark on the committed rows.
-/
theorem get?_foldl_applyRow {rows : List (Uuid × Option E)} (hn : (rows.map Prod.fst).Nodup)
    (m : KeyedList Uuid E) (id : Uuid) :
    (rows.foldl applyRow m).get? id =
      match (rows.find? fun e => e.1 = id).map Prod.snd with
      | some row => row
      | none => m.get? id := by
  induction rows generalizing m with
  | nil => rfl
  | cons e rows ih =>
    rw [List.map_cons, List.nodup_cons] at hn
    rw [List.foldl_cons, ih hn.2, get?_applyRow]
    by_cases he : e.1 = id
    · have hno : rows.find? (fun e => e.1 = id) = none := by
        rw [List.find?_eq_none]
        intro f hf hid
        apply hn.1
        rw [he, ← of_decide_eq_true hid]
        exact List.mem_map_of_mem hf
      simp [he, hno]
    · have hid : id ≠ e.1 := fun h => he h.symm
      simp [he, hid]

theorem get?_settle_committed (t : Table E) (x : TransactionId) (id : Uuid) :
    (t.settle x .committed).committed.get? id = t.visible x id := by
  change ((t.staged.getD x ∅).entries.foldl applyRow t.committed).get? id = _
  rw [get?_foldl_applyRow (t.staged.getD x ∅).nodup]
  unfold visible KeyedList.getD
  cases t.staged.get? x with
  | none => rfl
  | some rows => rfl

end Table

variable {Q H : Type}

/-- A transaction is open in a world: it has one unit of work, bound to it since the base world, has
changed no row since but staged ones of its own, and each table with staged rows of it is enlisted.
-/
structure Session (base : ShopWorld Q H) (t : TransactionId) (u : UnitRef) (w : ShopWorld Q H) :
    Prop where
  owner : (w.unit u).transaction = t
  joined : w.transaction t = ⟨.active, [.unit u]⟩
  bound : w.bound = base.bound.insert t u
  committed : ∀ r : TableRef, (r.table w).committed = (r.table base).committed
  others : ∀ (r : TableRef) (x : TransactionId), x ≠ t →
    (r.table w).staged.get? x = (r.table base).staged.get? x
  enlisted : ∀ r : TableRef, ((r.table w).staged.get? t).isSome →
    .stagedWrites r t ∈ (w.unit u).participants
  own : ∀ r x, .stagedWrites r x ∈ (w.unit u).participants → x = t

namespace Session

variable {base w v : ShopWorld Q H} {t : TransactionId} {u : UnitRef}

theorem sameRecords (h : Session base t u w) (hs : SameRecords w v) : Session base t u v where
  owner := by rw [hs.unit]; exact h.owner
  joined := by rw [hs.transaction]; exact h.joined
  bound := by rw [hs.bound]; exact h.bound
  committed r := by rw [hs.table]; exact h.committed r
  others r := by rw [hs.table]; exact h.others r
  enlisted r := by rw [hs.table, hs.unit]; exact h.enlisted r
  own := by rw [hs.unit]; exact h.own

theorem holding (h : Session base t u w) : Holding t u w := ⟨h.owner, h.enlisted, h.own⟩

theorem setUnit (h : Session base t u w) {x : UnitOfWork (Party Q)}
    (ht : x.transaction = (w.unit u).transaction)
    (hp : x.participants = (w.unit u).participants) : Session base t u (w.setUnit u x) where
  owner := (h.holding.setUnit ht hp).owner
  joined := h.joined
  bound := h.bound
  committed := h.committed
  others := h.others
  enlisted := (h.holding.setUnit ht hp).enlisted
  own := (h.holding.setUnit ht hp).own

theorem change (h : Session base t u w) (hs : Change u w v) : Session base t u v where
  owner := (h.holding.change hs).owner
  joined := by
    rw [World.transaction, hs.aside.transactions]
    exact h.joined
  bound := hs.aside.bound.trans h.bound
  committed r := (hs.sameRows.committed r).trans (h.committed r)
  others r x hx := by
    rw [hs.sameRows.staged r x (by rw [h.owner]; exact hx)]
    exact h.others r x hx
  enlisted := (h.holding.change hs).enlisted
  own := (h.holding.change hs).own

theorem changes (h : Session base t u w) (hs : ReflTransGen (Change u) w v) :
    Session base t u v := by
  induction hs with
  | refl => exact h
  | tail _ hs ih => exact ih.change hs

theorem step (h : Session base t u w) (hs : UnitStep u w v) : Session base t u v :=
  h.changes hs.changes

end Session

/-- Tables have settled what they held for a transaction; transactions, units and the registry are
as they were. -/
structure Settled (t : TransactionId) (o : Outcome) (ps : List (Party Q)) (w v : ShopWorld Q H) :
    Prop where
  transactions : v.transactions = w.transactions
  units : v.units = w.units
  bound : v.bound = w.bound
  tables : ∀ r : TableRef, (((r.table w).staged.get? t).isSome → .stagedWrites r t ∈ ps) →
    r.table v = (r.table w).settle t o

theorem SameRecords.settled {w m v : ShopWorld Q H} {t : TransactionId} {o : Outcome}
    {ps : List (Party Q)} {q : Q} (h : SameRecords w m) (g : Settled t o ps m v) :
    Settled t o (.other q :: ps) w v where
  transactions := g.transactions.trans h.transactions
  units := g.units.trans h.units
  bound := g.bound.trans h.bound
  tables r hr := by
    rw [← h.table] at hr ⊢
    apply g.tables
    intro hs
    cases hr hs with
    | tail _ hm => exact hm

theorem settle_keeps {I : ShopWorld Q H → Prop} (htrace : ∀ w e, I w → I (w.record e))
    (htable : ∀ w (r : TableRef) t, I w → I (r.setTable w t)) (r : TableRef) (t : TransactionId)
    (o : Outcome) : (r.settle t o : ShopAct Q H Empty Unit).Keeps I := by
  apply Act.Keeps.bind
  · exact Act.Keeps.get
  intro w
  split
  · exact Act.Keeps.pure ()
  · apply Act.Keeps.bind
    · exact fun v hv => htrace v _ hv
    · exact fun _ v hv => htable v r _ hv

/-- A host of a shop whose own code does no more than what may be done with a unit of work. -/
structure Steady (h : Host (Party Q) (Premises H)) (u : UnitRef) : Prop where
  agrees : ∀ r x, h.before (.stagedWrites r x) = pure ()
  settles : ∀ r x o, h.after (.stagedWrites r x) o = Task.atOnce (r.settle x o)
  before : ∀ q, (h.before (.other q)).Within (UnitStep u)
  after : ∀ q o, (h.after (.other q) o).Within (UnitStep u)
  dispatch : ∀ batch, (h.dispatch batch u).Within (UnitStep u)

section Telling

variable {h : Host (Party Q) (Premises H)} {u : UnitRef}

theorem settle_settled (r : TableRef) (t : TransactionId) (o : Outcome) (w : ShopWorld Q H)
    (ps : List (Party Q)) :
    ∃ m, (r.settle t o : ShopAct Q H Empty Unit) w = (.ok (), m) ∧
      m.units = w.units ∧ ∀ v, Settled t o ps m v → Settled t o (.stagedWrites r t :: ps) w v := by
  cases hs : (r.table w).staged.get? t with
  | none =>
    refine ⟨w, ?_, rfl, ?_⟩
    · simp only [TableRef.settle, Act.bind_apply, Act.get_apply, hs, Act.pure_apply]
    · intro v h
      refine ⟨h.transactions, h.units, h.bound, ?_⟩
      intro q hq
      apply h.tables
      intro hsome
      obtain _ | ⟨_, hm⟩ := hq hsome
      · rw [hs] at hsome
        cases hsome
      · exact hm
  | some rows =>
    refine ⟨r.setTable (w.record (settledEvent r t rows.size o)) ((r.table w).settle t o), ?_, rfl,
      ?_⟩
    · simp only [TableRef.settle, Act.bind_apply, Act.get_apply, hs, WorldAct.record_apply,
        Act.modify_apply, TableRef.table_record]
    · intro v h
      refine ⟨h.transactions, h.units, h.bound, ?_⟩
      intro q hq
      have hv := h.tables q
      by_cases he : q = r
      · subst he
        rw [TableRef.table_setTable_self, Table.settle_settle] at hv
        apply hv
        intro hsome
        rw [Table.staged_settle] at hsome
        cases hsome
      · rw [r.table_setTable_of_ne _ he, TableRef.table_record] at hv
        apply hv
        intro hsome
        obtain _ | ⟨_, hm⟩ := hq hsome
        · exact absurd rfl he
        · exact hm

/-- Participants that are told an outcome settle one after the other; code of the host's own cannot
do anything with a unit that is completed. -/
theorem tellAll_settled
    (hsettles : ∀ r x o, h.after (.stagedWrites r x) o = Task.atOnce (r.settle x o))
    {t : TransactionId} (o : Outcome) (ps : List (Party Q))
    (hother : ∀ q, .other q ∈ ps → (h.after (.other q) o).Within (UnitStep u))
    (w : ShopWorld Q H) (hc : (w.unit u).status = .completed)
    (hown : ∀ r x, .stagedWrites r x ∈ ps → x = t) :
    ∃ v, h.tellAll o ps w = (.done (), v) ∧ Settled t o ps w v := by
  induction ps generalizing w with
  | nil =>
    refine ⟨w, rfl, rfl, rfl, rfl, ?_⟩
    intro r hr
    rw [Table.settle_of_none]
    rw [← Option.not_isSome_iff_eq_none]
    exact fun hs => List.not_mem_nil (hr hs)
  | cons p ps ih =>
    have hown' : ∀ r x, .stagedWrites r x ∈ ps → x = t := fun r x hm => hown r x (.tail _ hm)
    have ih := ih fun q hm => hother q (.tail _ hm)
    unfold Host.tellAll
    cases p with
    | stagedWrites r x =>
      obtain rfl : x = t := hown r x (.head _)
      obtain ⟨m, hm, hu, hs⟩ := settle_settled r x o w ps
      have hd : h.after (.stagedWrites r x) o w = (.done (), m) := by
        rw [hsettles, Task.atOnce_apply, hm]
        rfl
      rw [Task.bind_done hd]
      obtain ⟨v, hv, hsv⟩ := ih m (by rw [World.unit, hu]; exact hc) hown'
      exact ⟨v, hv, hs v hsv⟩
    | other q =>
      have hq := hother q (.head _)
      obtain ⟨e, he⟩ := hq.exit w
      have hsame := sameRecords_of_changes (changes_of_steps (hq.steps w)) hc
      obtain ⟨v, hv, hsv⟩ := ih (h.after (.other q) o w).2 (by rw [hsame.unit]; exact hc) hown'
      cases e with
      | error e => exact e.elim
      | ok _ =>
        refine ⟨v, ?_, hsame.settled hsv⟩
        rw [Task.bind_done he]
        exact hv

/-- A unit has been told an outcome: it holds nothing, the registry has let go of it, and each table
with staged rows of its transaction has settled them. Nothing is done to transactions and to other
units. -/
structure Dismissed (t : TransactionId) (u : UnitRef) (o : Outcome) (c v : ShopWorld Q H) : Prop
    where
  transactions : v.transactions = c.transactions
  unit : v.unit u = (c.unit u).clearParticipants.discard
  units : ∀ x, x ≠ u → v.unit x = c.unit x
  bound : v.bound = c.bound.erase t
  tables : ∀ r : TableRef,
    (((r.table c).staged.get? t).isSome → .stagedWrites r t ∈ (c.unit u).participants) →
    r.table v = (r.table c).settle t o

theorem tell_unit
    (hsettles : ∀ r x o, h.after (.stagedWrites r x) o = Task.atOnce (r.settle x o))
    {t : TransactionId} (o : Outcome) {c : ShopWorld Q H}
    (hother : ∀ q, .other q ∈ (c.unit u).participants → (h.after (.other q) o).Within (UnitStep u))
    (ht : (c.unit u).transaction = t) (hb : c.bound.get? t = some u)
    (hown : ∀ r x, .stagedWrites r x ∈ (c.unit u).participants → x = t) :
    ∃ v, h.after? o (.unit u) c = (.done (), v) ∧ Dismissed t u o c v := by
  obtain ⟨m, hu, hx, htx, hbm, hhost, hafter⟩ := Host.after_unit h u t o c ht
  have htables : ∀ r : TableRef, r.table m = r.table c := by
    intro r
    rw [TableRef.table, hhost]
    rfl
  obtain ⟨k, hk, hsk⟩ := tellAll_settled hsettles o (c.unit u).participants hother m
    (by rw [hu]; rfl) hown
  have hbk : k.bound = c.bound := hsk.bound.trans hbm
  have hunit : ∀ x, k.unit x = m.unit x := by
    intro x
    rw [World.unit, hsk.units, World.unit]
  refine ⟨_, hafter k hk (by rw [hbk, hb]), hsk.transactions.trans htx, (hunit u).trans hu, ?_,
    congrArg (KeyedList.erase · t) hbk, ?_⟩
  · intro x hne
    exact (hunit x).trans (hx x hne)
  · intro r hr
    rw [← htables] at hr ⊢
    exact hsk.tables r hr

/-- What a completion leaves of a transaction that nobody but its unit has joined: the unit holds
nothing, the registry knows neither, and each table with staged rows of the transaction has settled
them. Nothing is done to other transactions and units. -/
structure Completed (t : TransactionId) (u : UnitRef) (o : Outcome) (d v : ShopWorld Q H) : Prop
    where
  transaction : v.transaction t = (d.transaction t).complete o
  transactions : ∀ x, x ≠ t → v.transaction x = d.transaction x
  unit : v.unit u = (d.unit u).clearParticipants.discard
  units : ∀ x, x ≠ u → v.unit x = d.unit x
  bound : v.bound = d.bound.erase t
  tables : ∀ r : TableRef,
    (((r.table d).staged.get? t).isSome → .stagedWrites r t ∈ (d.unit u).participants) →
    r.table v = (r.table d).settle t o

theorem complete_unit
    (hsettles : ∀ r x o, h.after (.stagedWrites r x) o = Task.atOnce (r.settle x o))
    {t : TransactionId} (o : Outcome) {d : ShopWorld Q H}
    (hother : ∀ q, .other q ∈ (d.unit u).participants → (h.after (.other q) o).Within (UnitStep u))
    (hj : (d.transaction t).synchronizations = [.unit u]) (ht : (d.unit u).transaction = t)
    (hb : d.bound.get? t = some u)
    (hown : ∀ r x, .stagedWrites r x ∈ (d.unit u).participants → x = t) :
    ∃ v, h.complete t o d = (.done (), v) ∧ Completed t u o d v := by
  let c := (d.setTransaction t ((d.transaction t).complete o)).record
    (.transactionCompleted t o.name)
  obtain ⟨v, hv, hd⟩ := tell_unit hsettles o (c := c) hother ht hb hown
  have htransaction : ∀ x, v.transaction x = c.transaction x := by
    intro x
    rw [World.transaction, hd.transactions, World.transaction]
  refine ⟨v, Host.complete_single h t hj hv, ?_, ?_, hd.unit, hd.units, hd.bound, hd.tables⟩
  · exact (htransaction t).trans (World.transaction_setTransaction_self _ _ _)
  · intro x hx
    exact (htransaction x).trans (World.transaction_setTransaction_of_ne _ _ hx)

/-- What is left of a transaction when it is over: its outcome, and a unit that holds nothing. The
registry is as it was in the base world, and so is what other transactions have staged. -/
structure Ended (base : ShopWorld Q H) (t : TransactionId) (u : UnitRef) (o : Outcome)
    (v : ShopWorld Q H) : Prop where
  status : (v.transaction t).status = .completed o
  released : v.bound = base.bound
  unstaged : ∀ r : TableRef, (r.table v).staged.get? t = none
  others : ∀ (r : TableRef) (x : TransactionId), x ≠ t →
    (r.table v).staged.get? x = (r.table base).staged.get? x
  completed : (v.unit u).status = .completed
  drained : (v.unit u).queue = []
  untracked : (v.unit u).registered = []
  dismissed : (v.unit u).participants = []

/-- A session ends with either outcome, and every table settles with it. -/
theorem Session.complete {base d : ShopWorld Q H} {t : TransactionId} (hs : Session base t u d)
    (hh : Steady h u) (hfree : base.bound.get? t = none) (o : Outcome) :
    ∃ v, h.complete t o d = (.done (), v) ∧ Ended base t u o v ∧
      ∀ r : TableRef, r.table v = (r.table d).settle t o := by
  have hb : d.bound.get? t = some u := by
    rw [hs.bound, KeyedList.get?_insert_self]
  obtain ⟨v, hv, hc⟩ := complete_unit hh.settles o (fun q _ => hh.after q o)
    (by rw [hs.joined]) hs.owner hb hs.own
  have hsettle : ∀ r : TableRef, r.table v = (r.table d).settle t o :=
    fun r => hc.tables r (hs.enlisted r)
  refine ⟨v, hv, ⟨?_, ?_, ?_, ?_, ?_, ?_, ?_, ?_⟩, hsettle⟩
  · rw [hc.transaction]
    rfl
  · rw [hc.bound, hs.bound, KeyedList.erase_insert hfree]
  · intro r
    rw [hsettle, Table.staged_settle]
  · intro r x hx
    rw [hsettle, Table.staged_settle_of_ne _ o hx]
    exact hs.others r x hx
  all_goals
    rw [hc.unit]
    rfl

end Telling

end Shop

end Transactor
