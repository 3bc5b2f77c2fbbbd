namespace Transactor

/-- A computation on `σ` that gives an `α` or fails with an `ε`. -/
def Act (σ ε α : Type) : Type := σ → Except ε α × σ

namespace Act

variable {σ τ ε ε' α β : Type}

def pure (a : α) : Act σ ε α := fun s => (.ok a, s)

def bind (x : Act σ ε α) (f : α → Act σ ε β) : Act σ ε β := fun s =>
  match x s with
  | (.ok a, s) => f a s
  | (.error e, s) => (.error e, s)

instance : Monad (Act σ ε) where
  pure := pure
  bind := bind

def fail (e : ε) : Act σ ε α := fun s => (.error e, s)

def get : Act σ ε σ := fun s => (.ok s, s)

def gets (f : σ → α) : Act σ ε α := fun s => (.ok (f s), s)

def modify (f : σ → σ) : Act σ ε Unit := fun s => (.ok (), f s)

/-- Fails or gives the value. -/
def ofExcept (x : Except ε α) : Act σ ε α := fun s => (x, s)

def attempt (x : Act σ ε α) : Act σ ε' (Except ε α) := fun s =>
  let r := x s
  (.ok r.1, r.2)

def mapError (f : ε → ε') (x : Act σ ε α) : Act σ ε' α := fun s =>
  let r := x s
  (r.1.mapError f, r.2)

/-- Runs on the first part of a pair. -/
def onFirst (x : Act σ ε α) : Act (σ × τ) ε α := fun s =>
  let r := x s.1
  (r.1, r.2, s.2)

/-- Runs on the second part of a pair. -/
def onSecond (x : Act τ ε α) : Act (σ × τ) ε α := fun s =>
  let r := x s.2
  (r.1, s.1, r.2)

/-- Runs on a pair of a given value and the state; the value's last form is the result if all goes
well. -/
def carrying (a : τ) (x : Act (τ × σ) ε Unit) : Act σ ε τ := fun s =>
  let r := x (a, s)
  (r.1.map fun _ => r.2.1, r.2.2)

theorem bind_apply (x : Act σ ε α) (f : α → Act σ ε β) (s : σ) :
    (x >>= f) s = match x s with
      | (.ok a, s) => f a s
      | (.error e, s) => (.error e, s) := rfl

@[simp] theorem pure_apply (a : α) (s : σ) : (Pure.pure a : Act σ ε α) s = (.ok a, s) := rfl

@[simp] theorem fail_apply (e : ε) (s : σ) : (fail e : Act σ ε α) s = (.error e, s) := rfl

@[simp] theorem gets_apply (f : σ → α) (s : σ) : (gets f : Act σ ε α) s = (.ok (f s), s) := rfl

@[simp] theorem modify_apply (f : σ → σ) (s : σ) :
    (modify f : Act σ ε Unit) s = (.ok (), f s) := rfl

@[simp] theorem ofExcept_apply (x : Except ε α) (s : σ) : (ofExcept x : Act σ ε α) s = (x, s) := rfl

theorem bind_eq_ok {x : Act σ ε α} {f : α → Act σ ε β} {s t : σ} {b : β} :
    (x >>= f) s = (.ok b, t) ↔ ∃ a u, x s = (.ok a, u) ∧ f a u = (.ok b, t) := by
  rw [bind_apply]
  cases h : x s with
  | mk r u => cases r <;> grind

end Act

end Transactor
