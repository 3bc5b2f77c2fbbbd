namespace Transactor

/-- How far an aggregate has come in its persistence lifecycle. -/
inductive Lifecycle where
  | none
  | loaded
  | prePersist
  | postPersisted
  | preUpdate
  | postUpdated
  | preRemove
  | postRemoved
  deriving DecidableEq

namespace Lifecycle

instance : Inhabited Lifecycle := ⟨.none⟩

/-- Every state, in the order in which lists show them. -/
def all : List Lifecycle :=
  [.none, .loaded, .prePersist, .postPersisted, .preUpdate, .postUpdated, .preRemove, .postRemoved]

theorem mem_all (s : Lifecycle) : s ∈ all := by cases s <;> decide

def name : Lifecycle → String
  | .none => "NONE"
  | .loaded => "LOADED"
  | .prePersist => "PRE_PERSIST"
  | .postPersisted => "POST_PERSISTED"
  | .preUpdate => "PRE_UPDATE"
  | .postUpdated => "POST_UPDATED"
  | .preRemove => "PRE_REMOVE"
  | .postRemoved => "POST_REMOVED"

def ofName? (s : String) : Option Lifecycle := all.find? fun l => l.name == s

@[simp] theorem ofName?_name (s : Lifecycle) : ofName? s.name = some s := by
  cases s <;> decide

def messageType : Lifecycle → String
  | .none => "aggregate.none"
  | .loaded => "aggregate.loaded"
  | .prePersist => "aggregate.pre_persist"
  | .postPersisted => "aggregate.post_persisted"
  | .preUpdate => "aggregate.pre_update"
  | .postUpdated => "aggregate.post_updated"
  | .preRemove => "aggregate.pre_remove"
  | .postRemoved => "aggregate.post_removed"

def isPre : Lifecycle → Bool
  | .prePersist | .preUpdate | .preRemove => true
  | _ => false

/-- The states that a write ends in. -/
def isPost : Lifecycle → Bool
  | .postPersisted | .postUpdated | .postRemoved => true
  | _ => false

def canMove : Lifecycle → Lifecycle → Bool
  | .none, .loaded | .none, .prePersist => true
  | .loaded, .loaded | .loaded, .prePersist | .loaded, .preUpdate | .loaded, .preRemove => true
  | .prePersist, .postPersisted => true
  | .preUpdate, .postUpdated => true
  | .preRemove, .postRemoved => true
  | .postPersisted, .loaded | .postUpdated, .loaded => true
  | _, _ => false

def reachable (s : Lifecycle) : List Lifecycle := all.filter s.canMove

end Lifecycle

/-- A callback of the persistence layer. -/
inductive PersistenceEvent where
  | postLoad
  | prePersist
  | postPersist
  | preUpdate
  | postUpdate
  | preRemove
  | postRemove
  deriving DecidableEq

def PersistenceEvent.target : PersistenceEvent → Lifecycle
  | .postLoad => .loaded
  | .prePersist => .prePersist
  | .postPersist => .postPersisted
  | .preUpdate => .preUpdate
  | .postUpdate => .postUpdated
  | .preRemove => .preRemove
  | .postRemove => .postRemoved

end Transactor
