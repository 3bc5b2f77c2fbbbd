import Transactor.KeyedList
import Transactor.Task
import Transactor.Trace
import Transactor.Transaction
import Transactor.UnitOfWork

namespace Transactor

/-- A supply of identifiers that all share their upper half. -/
structure Supply where
  upper : Nat
  next : Nat

def Supply.current (s : Supply) : Uuid := .ofNat (s.upper * UInt64.size + s.next)

def Supply.advance (s : Supply) : Supply := { s with next := s.next + 1 }

/-- Everything that operations read and change. `P` are the host's parties, `S` is its state.
Virtual time is counted in nanoseconds, and the innermost deadline comes first. -/
structure World (P S : Type) where
  transactions : KeyedList TransactionId (Transaction P)
  units : KeyedList UnitRef (UnitOfWork P)
  bound : KeyedList TransactionId UnitRef
  settings : Settings
  supply : Supply
  clock : Instant
  elapsed : Nat
  deadlines : List Nat
  /-- The newest event first. -/
  trace : List TraceEvent
  host : S

namespace World

variable {P S ε α : Type}

def start (settings : Settings) (supply : Supply) (clock : Instant) (host : S) : World P S where
  transactions := ∅
  units := ∅
  bound := ∅
  settings := settings
  supply := supply
  clock := clock
  elapsed := 0
  deadlines := []
  trace := []
  host := host

/-- The transaction of an identifier; an unknown one counts as over. -/
def transaction (w : World P S) (t : TransactionId) : Transaction P :=
  w.transactions.getD t (.ended .rolledBack)

def setTransaction (w : World P S) (t : TransactionId) (x : Transaction P) : World P S :=
  { w with transactions := w.transactions.insert t x }

/-- The unit of work of a name; an unknown one counts as ended. -/
def unit (w : World P S) (u : UnitRef) : UnitOfWork P :=
  w.units.getD u (.ended ⟨.ofNat 0⟩)

def setUnit (w : World P S) (u : UnitRef) (x : UnitOfWork P) : World P S :=
  { w with units := w.units.insert u x }

def freshUnit (w : World P S) : UnitRef :=
  ⟨w.units.keys.foldr (fun u n => max (u.index + 1) n) 0⟩

def record (w : World P S) (e : TraceEvent) : World P S := { w with trace := e :: w.trace }

@[simp] theorem transaction_setTransaction_self (w : World P S) (t : TransactionId)
    (x : Transaction P) : (w.setTransaction t x).transaction t = x := by
  simp [transaction, setTransaction, KeyedList.getD]

theorem transaction_setTransaction_of_ne (w : World P S) {t r : TransactionId}
    (x : Transaction P) (h : r ≠ t) : (w.setTransaction t x).transaction r = w.transaction r := by
  simp [transaction, setTransaction, KeyedList.getD, KeyedList.get?_insert_of_ne _ _ h]

@[simp] theorem unit_setUnit_self (w : World P S) (u : UnitRef) (x : UnitOfWork P) :
    (w.setUnit u x).unit u = x := by
  simp [unit, setUnit, KeyedList.getD]

theorem unit_setUnit_of_ne (w : World P S) {u v : UnitRef} (x : UnitOfWork P) (h : v ≠ u) :
    (w.setUnit u x).unit v = w.unit v := by
  simp [unit, setUnit, KeyedList.getD, KeyedList.get?_insert_of_ne _ _ h]

@[simp] theorem transaction_setUnit (w : World P S) (u : UnitRef) (x : UnitOfWork P)
    (t : TransactionId) : (w.setUnit u x).transaction t = w.transaction t := rfl

@[simp] theorem unit_setTransaction (w : World P S) (t : TransactionId) (x : Transaction P)
    (u : UnitRef) : (w.setTransaction t x).unit u = w.unit u := rfl

@[simp] theorem transaction_record (w : World P S) (e : TraceEvent) (t : TransactionId) :
    (w.record e).transaction t = w.transaction t := rfl

@[simp] theorem unit_record (w : World P S) (e : TraceEvent) (u : UnitRef) :
    (w.record e).unit u = w.unit u := rfl

end World

/-- An operation on a world that ends at once. -/
abbrev WorldAct (P S ε α : Type) := Act (World P S) ε α

/-- An operation on a world that may wait. -/
abbrev WorldTask (P S ε α : Type) := Task (World P S) ε α

namespace WorldAct

variable {P S ε : Type}

def record (e : TraceEvent) : WorldAct P S ε Unit := Act.modify fun w => w.record e

def freshId : WorldAct P S ε Uuid := fun w =>
  (.ok w.supply.current, { w with supply := w.supply.advance })

def stamp : WorldAct P S ε Stamp := do
  let id ← freshId
  let time ← Act.gets World.clock
  return ⟨id, time⟩

/-- Changes a unit of work, or leaves it if the change fails. -/
def updateUnit (u : UnitRef) (f : UnitOfWork P → Except ε (UnitOfWork P)) : WorldAct P S ε Unit :=
  fun w =>
    match f (w.unit u) with
    | .ok x => (.ok (), w.setUnit u x)
    | .error e => (.error e, w)

def modifyUnit (u : UnitRef) (f : UnitOfWork P → UnitOfWork P) : WorldAct P S ε Unit :=
  Act.modify fun w => w.setUnit u (f (w.unit u))

/-- Changes a transaction, or leaves it if the change fails. -/
def updateTransaction (t : TransactionId) (f : Transaction P → Except ε (Transaction P)) :
    WorldAct P S ε Unit :=
  fun w =>
    match f (w.transaction t) with
    | .ok x => (.ok (), w.setTransaction t x)
    | .error e => (.error e, w)

def modifyTransaction (t : TransactionId) (f : Transaction P → Transaction P) :
    WorldAct P S ε Unit :=
  Act.modify fun w => w.setTransaction t (f (w.transaction t))

def register (u : UnitRef) (r : Registration) : WorldAct P S UnitOfWorkError Unit :=
  updateUnit u fun x => x.register r

def enlist (u : UnitRef) (p : P) : WorldAct P S UnitOfWorkError Unit :=
  updateUnit u fun x => x.enlist p

/-- Drops what a unit of work holds and ends it. -/
def discard (u : UnitRef) : WorldAct P S ε Unit := do
  let x ← Act.gets (World.unit · u)
  record (.unitDiscarded x.transaction x.queue.length)
  modifyUnit u UnitOfWork.discard

/-- Ends a unit of work when the outcome is known; messages that were never drained are dropped. -/
def completeUnit (u : UnitRef) (outcome : Outcome) : WorldAct P S ε Unit := do
  let x ← Act.gets (World.unit · u)
  if outcome = .committed ∧ 0 < x.queue.length then record (.undrained x.transaction x.queue.length)
  discard u

/-- A unit of work that no registry knows. -/
def newUnit (t : TransactionId) (settings : Settings) : WorldAct P S ε UnitRef := do
  record (.unitBegun t)
  let u ← Act.gets World.freshUnit
  Act.modify fun w => w.setUnit u (.begin t settings)
  return u

end WorldAct

end Transactor
