import Transactor.Proofs.BreadthFirst
import Transactor.Proofs.Shop.Refinement
import Transactor.Proofs.Shop.RollbackOnly
import Transactor.Proofs.Shop.RowInvariant

namespace Transactor

open Relation

namespace Shop

variable {Q H : Type} {shelf : Nat} {t x : TransactionId} {u : UnitRef} {w m v : ShopWorld Q H}

/-- The other transactions have been left alone: they stand as they stood, with the same units and
the same rows of their own. -/
structure Spares (shelf : Nat) (t : TransactionId) (w v : ShopWorld Q H) : Prop where
  settings : v.settings = w.settings
  transaction : ∀ x, x ≠ t → v.transaction x = w.transaction x
  bound : ∀ x, x ≠ t → v.bound.get? x = w.bound.get? x
  unit : ∀ u, (w.unit u).transaction ≠ t → (w.unit u).status ≠ .completed → v.unit u = w.unit u
  staged : ∀ x, x ≠ t → ∀ k, ((TableRef.mk k shelf).table v).staged.get? x =
    ((TableRef.mk k shelf).table w).staged.get? x

namespace Spares

theorem refl (shelf : Nat) (t : TransactionId) (w : ShopWorld Q H) : Spares shelf t w w :=
  ⟨rfl, fun _ _ => rfl, fun _ _ => rfl, fun _ _ _ => rfl, fun _ _ _ => rfl⟩

theorem trans (h : Spares shelf t w m) (g : Spares shelf t m v) : Spares shelf t w v where
  settings := g.settings.trans h.settings
  transaction x hx := (g.transaction x hx).trans (h.transaction x hx)
  bound x hx := (g.bound x hx).trans (h.bound x hx)
  unit u ht hs := by
    have hu := h.unit u ht hs
    rw [← hu] at ht hs
    exact (g.unit u ht hs).trans hu
  staged x hx k := (g.staged x hx k).trans (h.staged x hx k)

end Spares

theorem aside_of_changes (h : ReflTransGen (Change u) w v) : Aside u w v := by
  induction h with
  | refl => exact ⟨rfl, rfl, fun _ _ => rfl⟩
  | tail _ hs ih =>
    have hs := hs.aside
    exact ⟨hs.transactions.trans ih.transactions, hs.bound.trans ih.bound,
      fun x hx => (hs.units x hx).trans (ih.units x hx)⟩

/-- The rows of the tables of a number as a transaction sees them. -/
def sight (shelf : Nat) (t : TransactionId) (w : ShopWorld Q H) : Rows := fun k id =>
  (((TableRef.mk k shelf).table w).visible t id).map Tracked.body

theorem Unmarked.sight (h : Unmarked shelf w) (t : TransactionId) (k : Kind) (id : Uuid) :
    ((TableRef.mk k shelf).table w).visible t id = (Shop.sight shelf t w k id).map .fresh :=
  (Tracked.map_fresh_body fun _ hrow => (h k).visible hrow).symm

/-- A transaction is at work: nobody but its unit has joined it, and the unit holds a queue of
messages and has only tables enlisted. -/
structure Working (shelf : Nat) (t : TransactionId) (u : UnitRef) (queue : List Message)
    (w : ShopWorld Q H) : Prop where
  joined : w.transaction t = ⟨.active, [.unit u]⟩
  bound : w.bound.get? t = some u
  sees : Sees shelf t u ⟨w.settings, .active, queue, sight shelf t w, w.host.journal⟩ w

/-- How far a transaction has come. -/
inductive Phase (shelf : Nat) (t : TransactionId) (queue : List Message) (w : ShopWorld Q H) : Prop
  | fresh (hb : w.transaction t = .begin) (hfree : w.bound.get? t = none)
      (hstaged : ∀ k, ((TableRef.mk k shelf).table w).staged.get? t = none) (hq : queue = [])
  | working {u : UnitRef} (h : Working shelf t u queue w)
  | closed (hc : (w.transaction t).status.isActive = false)

variable {queue : List Message}

theorem Sees.here {y : View} (h : Sees shelf t u y w) :
    Sees shelf t u ⟨w.settings, y.status, y.queue, sight shelf t w, w.host.journal⟩ w := by
  have hrows : sight shelf t w = y.rows := by
    funext k id
    rw [sight, h.rows, Tracked.map_body_fresh]
  rw [h.settings, hrows, h.journal]
  exact h

/-- What others do does not change how far a transaction has come. -/
theorem Phase.spared (h : Phase shelf x queue w) (hs : Spares shelf t w v) (hv : Unmarked shelf v)
    (hx : x ≠ t) : Phase shelf x queue v := by
  cases h with
  | closed hc =>
    rw [← hs.transaction x hx] at hc
    exact .closed hc
  | fresh hb hfree hstaged hq =>
    rw [← hs.transaction x hx] at hb
    rw [← hs.bound x hx] at hfree
    exact .fresh hb hfree (fun k => (hs.staged x hx k).trans (hstaged k)) hq
  | @working u h =>
    have hsees := h.sees
    have hu : v.unit u = w.unit u := by
      apply hs.unit
      · rw [hsees.owner]
        exact hx
      · rw [hsees.status]
        exact fun he => by cases he
    refine .working ⟨(hs.transaction x hx).trans h.joined, (hs.bound x hx).trans h.bound, ?_⟩
    refine ⟨?_, rfl, ?_, ?_, ?_, hv.sight x, rfl, ?_⟩
    · rw [hu]
      exact hsees.owner
    · rw [hu, hs.settings]
      exact hsees.limit
    · rw [hu]
      exact hsees.status
    · rw [hu]
      exact hsees.queue
    · obtain ⟨ks, hn, hp, hks⟩ := hsees.enlisted
      refine ⟨ks, hn, by rw [hu]; exact hp, ?_⟩
      intro k
      rw [KeyedList.contains_eq_isSome, hs.staged x hx k, ← KeyedList.contains_eq_isSome]
      exact hks k

theorem Phase.current (h : Phase shelf t queue w) (hw : Unmarked shelf w)
    (ha : (w.transaction t).status.isActive = true) :
    ∃ u v, (WorldAct.currentUnit (.ofLocal t) : ShopAct Q H _ _) w = (.ok u, v) ∧
      Working shelf t u queue v ∧ v.host = w.host ∧ Spares shelf t w v := by
  cases h with
  | closed hc =>
    rw [hc] at ha
    cases ha
  | @working u h =>
    refine ⟨u, w, WorldAct.currentUnit_bound w ?_ h.bound, h, rfl, .refl shelf t w⟩
    rw [h.joined]
  | fresh hb hfree hstaged hq =>
    subst hq
    have hu := WorldAct.currentUnit_begin w hb hfree
    refine ⟨w.freshUnit, _, hu, ⟨?_, KeyedList.get?_insert_self _ _ _, ?_⟩, rfl, ?_⟩
    · exact World.transaction_setTransaction_self _ _ _
    · have hunit := World.unit_setUnit_self (w.record (.unitBegun t)) w.freshUnit
        (.begin t w.settings)
      refine ⟨congrArg UnitOfWork.transaction hunit, rfl, congrArg UnitOfWork.limit hunit,
        congrArg UnitOfWork.status hunit, congrArg UnitOfWork.queue hunit, hw.sight t, rfl, [],
        List.nodup_nil, congrArg UnitOfWork.participants hunit, ?_⟩
      intro k
      change ((TableRef.mk k shelf).table w).staged.contains t = true ↔ _
      rw [KeyedList.contains_eq_isSome, hstaged]
      simp
    · refine ⟨rfl, ?_, ?_, ?_, fun _ _ _ => rfl⟩
      · exact fun x hx => World.transaction_setTransaction_of_ne _ _ hx
      · exact fun x hx => KeyedList.get?_insert_of_ne _ _ hx
      · intro u _ hs
        apply World.unit_setUnit_of_ne
        rintro rfl
        exact hs w.unit_freshUnit

section Reserve

variable {i : StockItem} {id : Uuid} {n : UInt32}

theorem reserve_aside (shelf : Nat) (u : UnitRef) (w : ShopWorld Q H) (order correlation : Uuid)
    (line : PlacedLine) : Aside u w (reserveLine shelf u order correlation line w).2 :=
  aside_of_changes (changes_of_steps (reserveLine_stepped shelf u w order correlation line w .refl))

/-- What a transaction at work does in its unit leaves it at work. -/
theorem Working.later (h : Working shelf t u queue w) (ha : Aside u w v) {y : View}
    (hy : Sees shelf t u y v) (hs : y.status = .active) : Working shelf t u y.queue v where
  joined := by
    rw [World.transaction, ha.transactions, ← World.transaction]
    exact h.joined
  bound := by
    rw [ha.bound]
    exact h.bound
  sees := by
    have hv := hy.here
    rw [hs] at hv
    exact hv

theorem Working.spares (h : Working shelf t u queue w) (ha : Aside u w v)
    (hsettings : v.settings = w.settings)
    (hstaged : ∀ x, x ≠ t → ∀ k, ((TableRef.mk k shelf).table v).staged.get? x =
      ((TableRef.mk k shelf).table w).staged.get? x) : Spares shelf t w v where
  settings := hsettings
  transaction x _ := by rw [World.transaction, ha.transactions, World.transaction]
  bound x _ := by rw [ha.bound]
  unit y ht _ := by
    apply ha.units
    rintro rfl
    exact ht h.sees.owner
  staged := hstaged

theorem Working.reserve_enough (h : Working shelf t u queue w)
    (hi : sight shelf t w .stockItem id = some i) (hid : i.id = id) (hn : n ≠ 0)
    (hle : n.toNat ≤ i.product.available) (order correlation : Uuid) :
    ∃ stamp remaining m v, reserveLine shelf u order correlation ⟨id, n⟩ w = (.ok (), v) ∧
      m.type = "aggregate.post_updated" ∧ Working shelf t u (queue ++ [m, eventMessage stamp id
        correlation (.stockReserved ⟨id, order, n, remaining⟩)]) v ∧ Spares shelf t w v ∧
      v.host = (TableRef.setTable ⟨.stockItem, shelf⟩ w
        (((TableRef.mk .stockItem shelf).table w).stage t id
          (some (.fresh (i.withReserved n))))).host := by
  obtain ⟨stamp, remaining, m, v, hv, hm, hs, hhost⟩ :=
    h.sees.reserveLine_enough rfl hi hid hn hle order correlation
  have ha := reserve_aside shelf u w order correlation ⟨id, n⟩
  rw [hv] at ha
  let r : TableRef := ⟨.stockItem, shelf⟩
  have htable : r.table v = (r.table w).stage t id (some (.fresh (i.withReserved n))) := by
    rw [TableRef.table_congr hhost, TableRef.table_setTable_self]
  refine ⟨stamp, remaining, m, v, hv, hm, h.later ha hs rfl, h.spares ha hs.settings ?_, hhost⟩
  intro x hx k
  by_cases hk : k = .stockItem
  · subst hk
    rw [htable]
    exact KeyedList.get?_insert_of_ne _ _ hx
  · have hne : TableRef.mk k shelf ≠ r := fun he => hk (TableRef.mk.inj he).1
    rw [TableRef.table_congr hhost, r.table_setTable_of_ne _ hne]

theorem Working.reserve_refused (h : Working shelf t u queue w)
    (hc : ¬∃ i, sight shelf t w .stockItem id = some i ∧ n ≠ 0 ∧ n.toNat ≤ i.product.available)
    (order correlation : Uuid) :
    ∃ e v, reserveLine shelf u order correlation ⟨id, n⟩ w = (.error e, v) ∧
      Working shelf t u queue v ∧ Spares shelf t w v ∧ v.host = w.host := by
  obtain ⟨e, v, hv, hs, hhost⟩ := h.sees.reserveLine_refused rfl hc order correlation
  have ha := reserve_aside shelf u w order correlation ⟨id, n⟩
  rw [hv] at ha
  refine ⟨e, v, hv, h.later ha hs rfl, h.spares ha hs.settings ?_, hhost⟩
  intro x _ k
  rw [TableRef.table_congr hhost]

end Reserve

/-- A message that the reservation of an item leaves. -/
def AboutStock (m : Message) : Prop :=
  m.type = "aggregate.post_updated" ∨ m.type = stockReservedType

variable [Chronicle H (Party Empty)]

/-- A way to deliver messages that leaves transactions, units and tables alone when the messages are
about stock. It may fail. -/
def Discreet (deliver : Dispatcher (Party Empty) (Premises H)) : Prop :=
  ∀ batch u w, (∀ m ∈ batch, AboutStock m) → ∃ r v, deliver batch u w = (.ofExcept r, v) ∧
    SameRecords w v ∧ v.settings = w.settings ∧ v.past = w.past

/-- The host of a shop in which nothing but tables takes part. It notes what it dispatches. -/
def dealing (deliver : Dispatcher (Party Empty) (Premises H)) (patience : Nat) :
    Host (Party Empty) (Premises H) :=
  (Host.ofShop nofun nofun deliver patience).noted

section Commit

variable {deliver : Dispatcher (Party Empty) (Premises H)} {patience : Nat}
  {w m v : ShopWorld Empty H} {calls fs : List (Call (Party Empty))}

/-- Calls have been noted on behalf of a unit. Nothing else has been done but to the unit's status
and queue, and to what the host has of its own. -/
structure Served (u : UnitRef) (calls : List (Call (Party Empty))) (w v : ShopWorld Empty H) :
    Prop where
  aside : Aside u w v
  settings : v.settings = w.settings
  tables : v.host.tables = w.host.tables
  past : v.past = w.past ++ calls
  owner : (v.unit u).transaction = (w.unit u).transaction
  participants : (v.unit u).participants = (w.unit u).participants

namespace Served

theorem trans (h : Served u calls w m) (g : Served u fs m v) : Served u (calls ++ fs) w v where
  aside := ⟨g.aside.transactions.trans h.aside.transactions, g.aside.bound.trans h.aside.bound,
    fun x hx => (g.aside.units x hx).trans (h.aside.units x hx)⟩
  settings := g.settings.trans h.settings
  tables := g.tables.trans h.tables
  past := by rw [g.past, h.past, List.append_assoc]
  owner := g.owner.trans h.owner
  participants := g.participants.trans h.participants

theorem setUnit (h : Served u calls w m) (s : UnitStatus) (q : List Message) :
    Served u calls w (m.setUnit u { m.unit u with status := s, queue := q }) where
  aside := ⟨h.aside.transactions, h.aside.bound,
    fun x hx => (World.unit_setUnit_of_ne _ _ hx).trans (h.aside.units x hx)⟩
  settings := h.settings
  tables := h.tables
  past := h.past
  owner := by
    rw [World.unit_setUnit_self]
    exact h.owner
  participants := by
    rw [World.unit_setUnit_self]
    exact h.participants

theorem record (h : Served u calls w m) (e : TraceEvent) : Served u calls w (m.record e) :=
  ⟨⟨h.aside.transactions, h.aside.bound, h.aside.units⟩, h.settings, h.tables, h.past, h.owner,
    h.participants⟩

theorem refl (u : UnitRef) (w : ShopWorld Empty H) : Served u [] w w :=
  ⟨⟨rfl, rfl, fun _ _ => rfl⟩, rfl, rfl, (List.append_nil _).symm, rfl, rfl⟩

end Served

theorem Discreet.served (hd : Discreet deliver) (patience : Nat) {batch : List Message}
    (hb : ∀ m ∈ batch, AboutStock m) (u : UnitRef) (w : ShopWorld Empty H) :
    ∃ r v, (dealing deliver patience).dispatch batch u w = (.ofExcept r, v) ∧
      Served u [.dispatched u batch] w v ∧ v.unit u = w.unit u := by
  obtain ⟨r, v, hv, hs, hset, hp⟩ := hd batch u (w.note (.dispatched u batch)) hb
  have hu : ∀ x, v.unit x = w.unit x := fun x => hs.unit x
  refine ⟨r, v, hv, ⟨⟨hs.transactions, hs.bound, fun x _ => hu x⟩, hset, hs.tables, ?_, ?_, ?_⟩,
    hu u⟩
  · rw [hp, World.past_note]
  · rw [hu]
  · rw [hu]

/-- What is dispatched of a queue: all of it at once, if there is anything. -/
def handedOver (u : UnitRef) (queue : List Message) : List (Call (Party Empty)) :=
  if queue = [] then [] else [.dispatched u queue]

/-- One batch does for a queue of messages about stock. -/
theorem Discreet.drainCycles (hd : Discreet deliver) (patience : Nat)
    (hq : ∀ m ∈ (w.unit u).queue, AboutStock m) (t : TransactionId) (limit left : Nat) :
    ∃ r v, (dealing deliver patience).drainCycles u t limit (left + 1) 0 w = (.ofExcept r, v) ∧
      Served u (handedOver u (w.unit u).queue) w v := by
  by_cases hne : (w.unit u).queue = []
  · rw [handedOver, if_pos hne]
    exact ⟨.ok (), _, Host.drainCycles_empty _ u t limit hne,
      (Served.refl u w).setUnit (w.unit u).status []⟩
  · rw [handedOver, if_neg hne]
    let c := Host.handing u t w 0
    have hc : Served u [] w c := ((Served.refl u w).setUnit (w.unit u).status []).record _
    obtain ⟨r, v, hv, hs, hu⟩ := hd.served patience hq u c
    have hempty : (v.unit u).queue = [] := by
      rw [hu]
      exact congrArg UnitOfWork.queue (World.unit_setUnit_self w u (w.unit u).clearQueue)
    have hserved := hc.trans hs
    cases r with
    | ok _ =>
      refine ⟨.ok (), _, ?_, hserved.setUnit (v.unit u).status []⟩
      rw [Host.drainCycles_ok _ u t limit hne hv]
      exact Host.drainCycles_empty _ u t limit hempty
    | error e =>
      exact ⟨.error _, _, Host.drainCycles_failed _ u t limit hne hv, hserved.record _⟩

/-- A unit whose messages are about stock hands them over when it is drained. -/
theorem Working.drain (h : Working shelf t u queue w) (hq : ∀ m ∈ queue, AboutStock m)
    (hd : Discreet deliver) (patience : Nat) :
    ∃ r d, (dealing deliver patience).drain u w = (.ofExcept r, d) ∧
      Served u (handedOver u queue) w d := by
  have hactive : (w.unit u).status = .active := h.sees.status
  have hqueue : (w.unit u).queue = queue := h.sees.queue
  let m := Host.draining u w
  have hm : Served u [] w m := (Served.refl u w).setUnit .draining (w.unit u).queue
  have hmq : (m.unit u).queue = queue :=
    (congrArg UnitOfWork.queue (World.unit_setUnit_self w u _)).trans hqueue
  obtain ⟨left, hl⟩ : ∃ left, (w.unit u).limit = left + 1 :=
    ⟨(w.unit u).limit - 1, by have := (w.unit u).limit_pos; omega⟩
  rw [← hmq] at hq
  obtain ⟨r, v, hv, hs⟩ := hd.drainCycles patience hq (w.unit u).transaction (left + 1) left
  rw [hmq] at hs
  rw [← hl] at hv
  exact ⟨r, _, Host.drain_active _ u hactive hv, (hm.trans hs).setUnit .drained _⟩

/-- A transaction is over with an outcome, and its rows have settled with it; the calls were made on
the way. -/
structure Finished (shelf : Nat) (t : TransactionId) (o : Outcome)
    (calls : List (Call (Party Empty))) (w v : ShopWorld Empty H) : Prop where
  spares : Spares shelf t w v
  status : (v.transaction t).status = .completed o
  tables : ∀ k, (TableRef.mk k shelf).table v = ((TableRef.mk k shelf).table w).settle t o
  past : v.past = w.past ++ calls

theorem Finished.closed {o : Outcome} {calls : List (Call (Party Empty))}
    (h : Finished shelf t o calls w v) : (v.transaction t).status.isActive = false := by
  rw [h.status]
  rfl

theorem complete_kept (t : TransactionId) (o : Outcome) {s : Settings}
    {past : List (Call (Party Empty))} (hw : w.settings = s ∧ w.past = past)
    (hv : (dealing deliver patience).complete t o w = (.done (), v)) :
    v.settings = s ∧ v.past = past := by
  let I (v : ShopWorld Empty H) := v.settings = s ∧ v.past = past
  have hi : Host.Indifferent I := ⟨fun _ _ h => h, fun _ _ _ h => h, fun _ _ h => h⟩
  have hafter : ∀ p, ((dealing deliver patience).after p o).Keeps I := by
    intro p
    cases p with
    | other q => exact q.elim
    | stagedWrites r x =>
      exact Task.Keeps.atOnce (settle_keeps (fun _ _ h => h) (fun _ _ _ h => h) r x o)
  have hc := Host.complete_state _ t hi hafter hw
  rw [hv] at hc
  exact hc

variable (deliver patience) in
/-- A transaction at work can end with either outcome after its unit has been served. -/
theorem Working.complete (h : Working shelf t u queue w) {d : ShopWorld Empty H}
    (hs : Served u calls w d) (o : Outcome) :
    ∃ v, (dealing deliver patience).complete t o d = (.done (), v) ∧
      Finished shelf t o calls w v := by
  obtain ⟨ks, hn, hp, hks⟩ := h.sees.enlisted
  have htransaction : ∀ x, d.transaction x = w.transaction x := by
    intro x
    rw [World.transaction, hs.aside.transactions, World.transaction]
  have htable : ∀ r : TableRef, r.table d = r.table w := by
    intro r
    rw [TableRef.table, hs.tables, TableRef.table]
  have hown : ∀ r x, .stagedWrites r x ∈ (d.unit u).participants → x = t := by
    intro r x hm
    rw [hs.participants, hp] at hm
    obtain ⟨k, -, he⟩ := List.mem_map.mp hm
    cases he
    rfl
  obtain ⟨v, hv, hc⟩ := complete_unit (h := dealing deliver patience) (fun _ _ _ => rfl) o
    (fun q _ => q.elim) (by rw [htransaction, h.joined]) (hs.owner.trans h.sees.owner)
    (by rw [hs.aside.bound, h.bound]) hown
  obtain ⟨hsettings, hpast⟩ := complete_kept t o ⟨rfl, rfl⟩ hv
  have hsettled : ∀ k, (TableRef.mk k shelf).table v =
      ((TableRef.mk k shelf).table w).settle t o := by
    intro k
    rw [hc.tables, htable]
    intro hsome
    rw [htable, ← KeyedList.contains_eq_isSome] at hsome
    rw [hs.participants, hp]
    exact List.mem_map_of_mem ((hks k).mp hsome)
  refine ⟨v, hv, ⟨hsettings.trans hs.settings, ?_, ?_, ?_, ?_⟩, ?_, hsettled, hpast.trans hs.past⟩
  · intro x hx
    rw [hc.transactions x hx, htransaction]
  · intro x hx
    rw [hc.bound, KeyedList.get?_erase, if_neg hx, hs.aside.bound]
  · intro y hy _
    have hne : y ≠ u := by
      rintro rfl
      exact hy h.sees.owner
    rw [hc.units y hne, hs.aside.units y hne]
  · intro x hx k
    rw [hsettled, Table.staged_settle_of_ne _ o hx]
  · rw [hc.transaction]
    rfl

variable (deliver patience) in
theorem complete_fresh (hb : w.transaction t = .begin)
    (hstaged : ∀ k, ((TableRef.mk k shelf).table w).staged.get? t = none) (o : Outcome) :
    ∃ v, (dealing deliver patience).complete t o w = (.done (), v) ∧ Finished shelf t o [] w v := by
  refine ⟨_, Host.complete_alone _ t (by rw [hb]; rfl), ?_, ?_, ?_, ?_⟩
  · refine ⟨rfl, ?_, fun _ _ => rfl, fun _ _ _ => rfl, fun _ _ _ => rfl⟩
    exact fun x hx => World.transaction_setTransaction_of_ne _ _ hx
  · exact congrArg Transaction.status (World.transaction_setTransaction_self _ _ _)
  · exact fun k => (Table.settle_of_none (hstaged k) o).symm
  · exact (List.append_nil _).symm

/-- The messages that have been dispatched, on behalf of whatever unit. -/
def dispatchedIn (calls : List (Call (Party Empty))) : List Message :=
  calls.flatMap fun
    | .dispatched _ batch => batch
    | _ => []

theorem dispatchedIn_handedOver (u : UnitRef) (queue : List Message) :
    dispatchedIn (handedOver u queue) = queue := by
  unfold handedOver
  split
  · rename_i hq
    exact hq.symm
  · exact List.append_nil queue

theorem Working.askAll (h : Working shelf t u queue w) (hq : ∀ m ∈ queue, AboutStock m)
    (hd : Discreet deliver) (hp : 3 ≤ patience) :
    ∃ r d, (dealing deliver patience).askAll t patience 0 w = (.ofExcept r, d) ∧
      Served u (handedOver u queue) w d := by
  obtain ⟨r, d, hr, hs⟩ := h.drain hq hd patience
  have hjoined : (w.transaction t).synchronizations = [.unit u] := by rw [h.joined]
  obtain ⟨n, rfl⟩ : ∃ n, patience = n + 2 := ⟨patience - 2, by omega⟩
  cases r with
  | error e => exact ⟨.error e, d, Host.askAll_refused _ u t hjoined hr, hs⟩
  | ok _ =>
    have hlength := h.sees.participants_length
    rw [← hs.participants] at hlength
    have hparts : (dealing deliver (n + 2)).askParticipants u (n + 2) 0 d = (.done (), d) := by
      apply Host.askParticipants_agreed
      · intro p _
        cases p with
        | stagedWrites r x => rfl
        | other q => exact q.elim
      · omega
      · exact Nat.zero_le _
    refine ⟨.ok (), d, Host.askAll_agreed _ u t hjoined hr hparts ?_, hs⟩
    rw [World.transaction, hs.aside.transactions, ← World.transaction]
    exact hjoined

/-- An open transaction can be committed: with success, and then its messages have been dispatched,
or its rows are dropped. -/
theorem Phase.commit (h : Phase shelf t queue w) (ha : (w.transaction t).status.isActive = true)
    (hq : ∀ m ∈ queue, AboutStock m) (hd : Discreet deliver) (hp : 3 ≤ patience) :
    (∃ v calls, (dealing deliver patience).commit t w = (.done (), v) ∧
      dispatchedIn calls = queue ∧ Finished shelf t .committed calls w v) ∨
    ∃ e v calls, (dealing deliver patience).commit t w = (.failed e, v) ∧
      Finished shelf t .rolledBack calls w v := by
  cases h with
  | closed hc =>
    rw [hc] at ha
    cases ha
  | fresh hb hfree hstaged hnone =>
    obtain ⟨v, hv, hf⟩ := complete_fresh deliver patience hb hstaged .committed
    obtain ⟨n, rfl⟩ : ∃ n, patience = n + 1 := ⟨patience - 1, by omega⟩
    refine .inl ⟨v, [], Host.commit_agreed _ t (by rw [hb]; rfl) ?_ hv, hnone.symm, hf⟩
    change (dealing deliver (n + 1)).askAll t (n + 1) 0 w = _
    unfold Host.askAll
    rw [Task.bind_done (Task.gets_apply _ w), hb]
    rfl
  | @working u h =>
    have hactive : (w.transaction t).status = .active := by rw [h.joined]
    obtain ⟨r, d, hr, hs⟩ := h.askAll hq hd hp
    cases r with
    | ok _ =>
      obtain ⟨v, hv, hf⟩ := h.complete deliver patience hs .committed
      exact .inl ⟨v, _, Host.commit_agreed _ t hactive hr hv, dispatchedIn_handedOver u queue, hf⟩
    | error e =>
      obtain ⟨v, hv, hf⟩ := h.complete deliver patience
        (hs.record (.beforeCompletionFailed t e.message)) .rolledBack
      exact .inr ⟨_, v, _, Host.commit_refused _ t hactive hr hv, hf⟩

variable (deliver patience) in
theorem Phase.rollback (h : Phase shelf t queue w)
    (ha : (w.transaction t).status.isActive = true) :
    ∃ v calls, (dealing deliver patience).rollback t w = (.done (), v) ∧
      Finished shelf t .rolledBack calls w v := by
  cases h with
  | closed hc =>
    rw [hc] at ha
    cases ha
  | fresh hb hfree hstaged hnone =>
    obtain ⟨v, hv, hf⟩ := complete_fresh deliver patience hb hstaged .rolledBack
    exact ⟨v, [], Host.rollback_open _ t ha hv, hf⟩
  | @working u h =>
    obtain ⟨v, hv, hf⟩ := h.complete deliver patience (.refl u w) .rolledBack
    exact ⟨v, [], Host.rollback_open _ t ha hv, hf⟩

end Commit

end Shop

end Transactor
