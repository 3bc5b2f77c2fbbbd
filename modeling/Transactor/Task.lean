import Transactor.Act

namespace Transactor

/-- Why a computation was given up from outside. -/
inductive Interrupt where
  | deadline (level : Nat)
  | exhausted
  deriving DecidableEq

inductive Exit (ε α : Type) where
  | done (a : α)
  | failed (e : ε)
  | interrupted (i : Interrupt)

/-- A computation on `σ` that gives an `α`, fails with an `ε`, or is interrupted. -/
def Task (σ ε α : Type) : Type := σ → Exit ε α × σ

def Exit.ofExcept {ε α : Type} : Except ε α → Exit ε α
  | .ok a => .done a
  | .error e => .failed e

namespace Task

variable {σ ε ε' α β : Type}

def pure (a : α) : Task σ ε α := fun s => (.done a, s)

def bind (x : Task σ ε α) (f : α → Task σ ε β) : Task σ ε β := fun s =>
  match x s with
  | (.done a, s) => f a s
  | (.failed e, s) => (.failed e, s)
  | (.interrupted i, s) => (.interrupted i, s)

instance : Monad (Task σ ε) where
  pure := pure
  bind := bind

def fail (e : ε) : Task σ ε α := fun s => (.failed e, s)

def interrupt (i : Interrupt) : Task σ ε α := fun s => (.interrupted i, s)

def gets (f : σ → α) : Task σ ε α := fun s => (.done (f s), s)

def modify (f : σ → σ) : Task σ ε Unit := fun s => (.done (), f s)

def atOnce (x : Act σ ε α) : Task σ ε α := fun s =>
  let r := x s
  (.ofExcept r.1, r.2)

def attempt (x : Task σ ε α) : Task σ ε' (Except ε α) := fun s =>
  match x s with
  | (.done a, s) => (.done (.ok a), s)
  | (.failed e, s) => (.done (.error e), s)
  | (.interrupted i, s) => (.interrupted i, s)

def mapError (f : ε → ε') (x : Task σ ε α) : Task σ ε' α := fun s =>
  match x s with
  | (.done a, s) => (.done a, s)
  | (.failed e, s) => (.failed (f e), s)
  | (.interrupted i, s) => (.interrupted i, s)

/-- A computation that cannot fail does not under any other kind of failure. -/
def widen (x : Task σ Empty α) : Task σ ε α := x.mapError fun e => nomatch e

def ofExcept (x : Except ε α) : Task σ ε α := fun s => (.ofExcept x, s)

theorem bind_apply (x : Task σ ε α) (f : α → Task σ ε β) (s : σ) :
    (x >>= f) s = match x s with
      | (.done a, s) => f a s
      | (.failed e, s) => (.failed e, s)
      | (.interrupted i, s) => (.interrupted i, s) := rfl

@[simp] theorem pure_apply (a : α) (s : σ) : (Pure.pure a : Task σ ε α) s = (.done a, s) := rfl

@[simp] theorem fail_apply (e : ε) (s : σ) : (fail e : Task σ ε α) s = (.failed e, s) := rfl

@[simp] theorem gets_apply (f : σ → α) (s : σ) : (gets f : Task σ ε α) s = (.done (f s), s) := rfl

@[simp] theorem modify_apply (f : σ → σ) (s : σ) :
    (modify f : Task σ ε Unit) s = (.done (), f s) := rfl

theorem bind_eq_done {x : Task σ ε α} {f : α → Task σ ε β} {s t : σ} {b : β} :
    (x >>= f) s = (.done b, t) ↔ ∃ a u, x s = (.done a, u) ∧ f a u = (.done b, t) := by
  rw [bind_apply]
  cases h : x s with
  | mk r u => cases r <;> grind

end Task

end Transactor
