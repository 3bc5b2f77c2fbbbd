import Transactor.KeyedList
import Transactor.Shop.StockItem
import Transactor.Transaction

namespace Transactor.Shop

/-- The staged rows of one transaction; a row that it removes is `none`. -/
abbrev Staged (E : Type) := KeyedList Uuid (Option E)

structure Table (E : Type) where
  committed : KeyedList Uuid E
  staged : KeyedList TransactionId (Staged E)

namespace Table

variable {E : Type}

def empty : Table E := ⟨∅, ∅⟩

def visible (t : Table E) (tx : TransactionId) (id : Uuid) : Option E :=
  match (t.staged.get? tx).bind fun rows => rows.get? id with
  | some row => row
  | none => t.committed.get? id

def stage (t : Table E) (tx : TransactionId) (id : Uuid) (row : Option E) : Table E :=
  { t with staged := t.staged.insert tx ((t.staged.getD tx ∅).insert id row) }

/-- Makes one staged row a committed one. -/
def applyRow (committed : KeyedList Uuid E) (row : Uuid × Option E) : KeyedList Uuid E :=
  match row.2 with
  | some e => committed.insert row.1 e
  | none => committed.erase row.1

/-- Ends the staging of a transaction: its rows are applied if it has committed, and dropped if not.
-/
def settle (t : Table E) (tx : TransactionId) (outcome : Outcome) : Table E where
  committed :=
    match outcome with
    | .committed => (t.staged.getD tx ∅).entries.foldl applyRow t.committed
    | .rolledBack => t.committed
  staged := t.staged.erase tx

end Table

inductive Kind where
  | order
  | stockItem
  deriving DecidableEq

namespace Kind

abbrev Entity : Kind → Type
  | .order => Order
  | .stockItem => StockItem

instance : (k : Kind) → Aggregate k.Entity
  | .order => inferInstanceAs (Aggregate Order)
  | .stockItem => inferInstanceAs (Aggregate StockItem)

def typeName : Kind → String
  | .order => Order.typeName
  | .stockItem => StockItem.typeName

end Kind

/-- Names a table: the kind of its rows and a number. -/
structure TableRef where
  kind : Kind
  number : Nat
  deriving DecidableEq

abbrev TableRef.Entity (r : TableRef) : Type := r.kind.Entity

/-- A row is an aggregate as the table keeps it, with the record of its lifecycle. -/
abbrev TableRef.Row (r : TableRef) : Type := Tracked r.Entity

/-- All tables of each kind; one that has never been written is empty. -/
structure Tables where
  orders : KeyedList Nat (Table (Tracked Order))
  stock : KeyedList Nat (Table (Tracked StockItem))

namespace Tables

def empty : Tables := ⟨∅, ∅⟩

def get (ts : Tables) : (r : TableRef) → Table r.Row
  | ⟨.order, n⟩ => ts.orders.getD n .empty
  | ⟨.stockItem, n⟩ => ts.stock.getD n .empty

def set (ts : Tables) : (r : TableRef) → Table r.Row → Tables
  | ⟨.order, n⟩, t => { ts with orders := ts.orders.insert n t }
  | ⟨.stockItem, n⟩, t => { ts with stock := ts.stock.insert n t }

@[simp] theorem get_set_self (ts : Tables) (r : TableRef) (t : Table r.Row) :
    (ts.set r t).get r = t := by
  match r with
  | ⟨.order, n⟩ => simp [get, set, KeyedList.getD]
  | ⟨.stockItem, n⟩ => simp [get, set, KeyedList.getD]

theorem get_set_of_ne (ts : Tables) {r q : TableRef} (t : Table r.Row) (h : q ≠ r) :
    (ts.set r t).get q = ts.get q := by
  match r, q with
  | ⟨.order, n⟩, ⟨.order, m⟩ =>
    have hm : m ≠ n := fun e => h (by rw [e])
    simp [get, set, KeyedList.getD, KeyedList.get?_insert_of_ne _ _ hm]
  | ⟨.stockItem, n⟩, ⟨.stockItem, m⟩ =>
    have hm : m ≠ n := fun e => h (by rw [e])
    simp [get, set, KeyedList.getD, KeyedList.get?_insert_of_ne _ _ hm]
  | ⟨.order, n⟩, ⟨.stockItem, m⟩ => rfl
  | ⟨.stockItem, n⟩, ⟨.order, m⟩ => rfl

end Tables

end Transactor.Shop
