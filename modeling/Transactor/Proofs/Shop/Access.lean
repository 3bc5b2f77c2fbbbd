import Transactor.Proofs.Shop.RollbackOnly

namespace Transactor.Shop

open Relation

/-- A write that has succeeded: what it leaves under an identifier, which is `none` if it removes.
-/
structure Write where
  table : TableRef
  transaction : TransactionId
  id : Uuid
  row : Option table.Row

/-- What a host remembers: calls and writes, the latest last, and what its dispatcher keeps. -/
structure Annals (D : Type) where
  past : List (Call (Party Empty))
  writes : List Write
  own : D

instance {D : Type} : Chronicle (Annals D) (Party Empty) where
  past := Annals.past
  note e s := { s with past := s.past ++ [e] }
  past_note _ _ := rfl

/-- Remembers more. -/
def Annals.observe {D : Type} (s : Annals D) (es : List (Call (Party Empty))) (ys : List Write) :
    Annals D :=
  { s with past := s.past ++ es, writes := s.writes ++ ys }

/-- The world of a shop that remembers, and in which nothing but tables takes part in transactions.
-/
abbrev Floor (D : Type) := ShopWorld Empty (Annals D)

/-- One use of a table. -/
inductive Access where
  | insert (r : TableRef) (a : Tracked r.Entity)
  | update (r : TableRef) (a : Tracked r.Entity)
  | remove (r : TableRef) (a : Tracked r.Entity)
  | load (r : TableRef) (id : Uuid)

namespace Access

variable {Q H D : Type} {u : UnitRef}

/-- Uses a table on behalf of a unit; what becomes of the aggregate is the caller's own. -/
def act (u : UnitRef) : Access → ShopAct Q H OrderingError Unit
  | .insert r a => fun w => let s := r.insert u (a, w); (s.1, s.2.2)
  | .update r a => fun w => let s := r.update u (a, w); (s.1, s.2.2)
  | .remove r a => fun w => let s := r.remove u (a, w); (s.1, s.2.2)
  | .load r id => fun w => let s := r.load u id w; (s.1.map fun _ => (), s.2)

/-- What it writes for a transaction if it succeeds. -/
def write? (t : TransactionId) : Access → Option Write
  | .insert r a | .update r a => some ⟨r, t, Aggregate.aggregateId a.body, some a.detached⟩
  | .remove r a => some ⟨r, t, Aggregate.aggregateId a.body, none⟩
  | .load _ _ => none

/-- What it has written for a transaction, given how it has ended. -/
def writes (x : Access) (t : TransactionId) : Except OrderingError Unit → List Write
  | .ok () => (x.write? t).toList
  | .error _ => []

theorem keeps {I : ShopWorld Q H → Prop} (hI : Upheld u I) (x : Access) : (x.act u).Keeps I := by
  intro w hw
  cases x with
  | insert r a => exact hI.insert r (a, w) hw
  | update r a => exact hI.update r (a, w) hw
  | remove r a => exact hI.remove r (a, w) hw
  | load r id => exact hI.load r id w hw

theorem step (x : Access) (w : ShopWorld Q H) : UnitStep u w (x.act u w).2 := by
  cases x with
  | insert r a => exact .insert r a w
  | update r a => exact .update r a w
  | remove r a => exact .remove r a w
  | load r id => exact .load r id w

/-- What a use of a table comes to, as far as the host is concerned: a row staged, or nothing. -/
inductive Ends (x : Access) (u : UnitRef) (w : ShopWorld Q H) :
    Except OrderingError Unit × ShopWorld Q H → Prop
  | wrote {y : Write} {v : ShopWorld Q H} (hy : x.write? (w.unit u).transaction = some y)
      (hv : v.host = (y.table.setTable w
        ((y.table.table w).stage y.transaction y.id y.row)).host) : Ends x u w (.ok (), v)
  | nothing {result : Except OrderingError Unit} {v : ShopWorld Q H} (hv : v.host = w.host)
      (hr : result = .ok () → x.write? (w.unit u).transaction = none) : Ends x u w (result, v)

theorem ends (x : Access) (w : ShopWorld Q H) : Ends x u w (x.act u w) := by
  have hwrite {r : TableRef} {id : Uuid} {row : Option r.Row}
      {s : Except OrderingError Unit × Tracked r.Entity × ShopWorld Q H}
      (h : TableRef.WriteEnd r u id row w s)
      (hx : x.write? (w.unit u).transaction = some ⟨r, (w.unit u).transaction, id, row⟩) :
      Ends x u w (s.1, s.2.2) := by
    cases h with
    | staged hv => exact .wrote hx hv
    | refused hv => exact .nothing hv fun he => by cases he
  cases x with
  | insert r a => exact hwrite (r.insert_end u w a) rfl
  | update r a => exact hwrite (r.update_end u w a) rfl
  | remove r a => exact hwrite (r.remove_end u w a) rfl
  | load r id => exact .nothing (r.load_unheard rfl).host fun _ => rfl

/-- Uses a table, and notes the messages that the unit has accepted meanwhile and what has been
written. A unit's queue grows by nothing but what it accepts. -/
def perform (x : Access) (u : UnitRef) : ShopAct Empty (Annals D) OrderingError Unit := fun w =>
  let s := x.act u w
  let ms := (s.2.unit u).queue.drop (w.unit u).queue.length
  (s.1, { s.2 with host := { s.2.host with
    host := s.2.host.host.observe (ms.map fun m => .registered u (.message m))
      (x.writes (w.unit u).transaction s.1) } })

end Access

/-- One thing that a dispatcher may do when it is called on behalf of a unit: register, use a table,
or do anything that leaves transactions, units, tables and what is remembered alone. -/
inductive Service {D : Type} (u : UnitRef) : Floor D → Floor D → Prop
  | register (r : Registration) (w : Floor D) :
      Service u w (WorldAct.noting (.registered u r) (WorldAct.register u r) w).2
  | access (x : Access) (w : Floor D) : Service u w (x.perform u w).2
  | own {w v : Floor D} (hs : SameRecords w v) (hp : v.past = w.past)
      (hw : v.host.host.writes = w.host.host.writes) : Service u w v

variable {Q H D : Type} {u : UnitRef}

namespace Access

variable (x : Access) (w : Floor D)

theorem perform_steps : ReflTransGen (UnitStep u) w (x.perform u w).2 :=
  (ReflTransGen.single (x.step w)).tail (.own ⟨rfl, rfl, rfl, rfl⟩)

theorem perform_past : ∃ ms : List Message,
    ((x.perform u w).2.unit u).queue = (w.unit u).queue ++ ms ∧
      (x.perform u w).2.past = w.past ++ ms.map fun m => .registered u (.message m) := by
  obtain ⟨ms, hq⟩ := queue_of_changes (x.step (u := u) w).changes
  have hhost := x.keeps (upheld_host u w.host.host) w rfl
  refine ⟨ms, hq.symm, ?_⟩
  have hdrop : ((x.act u w).2.unit u).queue.drop (w.unit u).queue.length = ms := by
    rw [← hq, List.drop_left]
  change (x.act u w).2.host.host.past ++ List.map _ (List.drop _ _) = w.host.host.past ++ _
  rw [hdrop, hhost]

end Access

theorem Service.steps {w v : Floor D} (h : Service u w v) : ReflTransGen (UnitStep u) w v := by
  cases h with
  | register r =>
    cases ha : (w.unit u).status.accepts with
    | true =>
      have hr := WorldAct.register_open w u (r := r) ha
      have hs : UnitStep u w (w.setUnit u ((w.unit u).add r)) := by
        have hu := UnitStep.register (u := u) r w
        rwa [hr] at hu
      rw [WorldAct.noting_ok hr]
      exact (ReflTransGen.single hs).tail (.own ⟨rfl, rfl, rfl, rfl⟩)
    | false =>
      rw [WorldAct.noting_error (WorldAct.register_closed w u ha)]
  | access x => exact x.perform_steps w
  | own hs hp hw => exact .single (.own hs)

end Transactor.Shop
