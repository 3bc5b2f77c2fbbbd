import Transactor.World

namespace Transactor

/-- A call that succeeded, or a call of the host's code. `P` are those who are called. -/
inductive Call (P : Type) where
  | registered (u : UnitRef) (r : Registration)
  | enlisted (u : UnitRef) (p : P)
  | dispatched (u : UnitRef) (batch : List Message)
  | joined (t : TransactionId) (s : Synchronization P)
  | marked (t : TransactionId)
  | rolledBack (t : TransactionId)
  | agreed (p : P)
  | told (p : P) (outcome : Outcome)

namespace Call

variable {P : Type}

def joined? (t : TransactionId) : Call P → Option (Synchronization P)
  | .joined r s => if r = t then some s else none
  | _ => none

def enlisted? (u : UnitRef) : Call P → Option P
  | .enlisted v p => if v = u then some p else none
  | _ => none

def agreed? : Call P → Option P
  | .agreed p => some p
  | _ => none

end Call

/-- Who has joined a transaction, as often as it has accepted them. -/
def joinedTo {P : Type} (t : TransactionId) (es : List (Call P)) : List (Synchronization P) :=
  es.filterMap (Call.joined? t)

/-- Who has been enlisted in a unit of work. -/
def enlistedIn {P : Type} (u : UnitRef) (es : List (Call P)) : List P :=
  es.filterMap (Call.enlisted? u)

/-- Who has been asked before a completion and has agreed. -/
def agreedIn {P : Type} (es : List (Call P)) : List P := es.filterMap Call.agreed?

section Parts

variable {P : Type} (t : TransactionId) (u : UnitRef) (es fs : List (Call P))

@[simp] theorem joinedTo_append : joinedTo t (es ++ fs) = joinedTo t es ++ joinedTo t fs :=
  List.filterMap_append

@[simp] theorem enlistedIn_append :
    enlistedIn u (es ++ fs) = enlistedIn u es ++ enlistedIn u fs := List.filterMap_append

@[simp] theorem agreedIn_append : agreedIn (es ++ fs) = agreedIn es ++ agreedIn fs :=
  List.filterMap_append

@[simp] theorem joinedTo_joined (s : Synchronization P) : joinedTo t [.joined t s] = [s] := by
  simp [joinedTo, Call.joined?]

@[simp] theorem enlistedIn_enlisted (p : P) : enlistedIn u [.enlisted u p] = [p] := by
  simp [enlistedIn, Call.enlisted?]

end Parts

/-- A state that remembers calls, the latest last. -/
class Chronicle (S : Type) (P : outParam Type) where
  past : S → List (Call P)
  note : Call P → S → S
  past_note : ∀ e s, past (note e s) = past s ++ [e]

instance {P : Type} : Chronicle (List (Call P)) P where
  past es := es
  note e es := es ++ [e]
  past_note _ _ := rfl

variable {P Q S ε α : Type} [Chronicle S Q]

namespace World

def past (w : World P S) : List (Call Q) := Chronicle.past w.host

def note (e : Call Q) (w : World P S) : World P S := { w with host := Chronicle.note e w.host }

@[simp] theorem past_note (e : Call Q) (w : World P S) : (w.note e).past = w.past ++ [e] :=
  Chronicle.past_note e w.host

@[simp] theorem unit_note (e : Call Q) (w : World P S) (u : UnitRef) :
    (w.note e).unit u = w.unit u := rfl

@[simp] theorem transaction_note (e : Call Q) (w : World P S) (t : TransactionId) :
    (w.note e).transaction t = w.transaction t := rfl

@[simp] theorem past_setUnit (w : World P S) (u : UnitRef) (x : UnitOfWork P) :
    (w.setUnit u x).past = w.past := rfl

@[simp] theorem past_setTransaction (w : World P S) (t : TransactionId) (x : Transaction P) :
    (w.setTransaction t x).past = w.past := rfl

@[simp] theorem past_record (w : World P S) (e : TraceEvent) : (w.record e).past = w.past := rfl

end World

/-- Does something, and notes the call if that succeeds. -/
def WorldAct.noting (e : Call Q) (x : WorldAct P S ε α) : WorldAct P S ε α := do
  let a ← x
  Act.modify (World.note e)
  return a

theorem WorldAct.noting_ok {e : Call Q} {x : WorldAct P S ε α} {w v : World P S} {a : α}
    (h : x w = (.ok a, v)) : WorldAct.noting e x w = (.ok a, v.note e) := by
  simp only [noting, Act.bind_apply, h, Act.modify_apply, Act.pure_apply]

theorem WorldAct.noting_error {e : Call Q} {x : WorldAct P S ε α} {w v : World P S} {f : ε}
    (h : x w = (.error f, v)) : WorldAct.noting e x w = (.error f, v) := by
  simp only [noting, Act.bind_apply, h]

end Transactor
