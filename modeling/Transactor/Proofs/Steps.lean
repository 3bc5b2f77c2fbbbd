import Mathlib.Logic.Relation
import Transactor.Task

namespace Transactor

open Relation

namespace Act

variable {σ τ ε ε' α β : Type} {I : σ → Prop}

/-- Whatever the result, what held before holds after. -/
def Keeps (I : σ → Prop) (x : Act σ ε α) : Prop := ∀ s, I s → I (x s).2

theorem Keeps.bind_of_ok {x : Act σ ε α} {f : α → Act σ ε β} (hx : Keeps I x)
    (hf : ∀ s a t, I s → x s = (.ok a, t) → I (f a t).2) : Keeps I (x >>= f) := by
  intro s hs
  have h := hx s hs
  rw [bind_apply]
  cases hr : x s with
  | mk r t =>
    rw [hr] at h
    cases r with
    | ok a => exact hf s a t hs hr
    | error e => exact h

theorem Keeps.bind {x : Act σ ε α} {f : α → Act σ ε β} (hx : Keeps I x)
    (hf : ∀ a, Keeps I (f a)) : Keeps I (x >>= f) := by
  apply hx.bind_of_ok
  intro s a t hs hr
  have h := hx s hs
  rw [hr] at h
  exact hf a t h

theorem Keeps.pure (a : α) : Keeps I (Pure.pure a : Act σ ε α) := fun _ hs => hs

theorem Keeps.fail (e : ε) : Keeps I (Act.fail e : Act σ ε α) := fun _ hs => hs

theorem Keeps.gets (f : σ → α) : Keeps I (Act.gets f : Act σ ε α) := fun _ hs => hs

theorem Keeps.get : Keeps I (Act.get : Act σ ε σ) := fun _ hs => hs

theorem Keeps.modify {f : σ → σ} (hf : ∀ s, I s → I (f s)) :
    Keeps I (Act.modify f : Act σ ε Unit) := hf

theorem Keeps.mapError {x : Act σ ε α} (f : ε → ε') (hx : Keeps I x) :
    Keeps I (x.mapError f) := hx

theorem Keeps.onFirst (x : Act τ ε α) : Keeps (fun s : τ × σ => I s.2) (Act.onFirst x) :=
  fun _ hs => hs

theorem Keeps.onSecond {x : Act σ ε α} (hx : Keeps I x) :
    Keeps (fun s : τ × σ => I s.2) (Act.onSecond x) := fun s hs => hx s.2 hs

theorem Keeps.carrying {x : Act (τ × σ) ε Unit} (a : τ) (hx : Keeps (fun s => I s.2) x) :
    Keeps I (Act.carrying a x) := fun s hs => hx (a, s) hs

end Act

namespace Task

variable {σ ε ε' α β : Type} {I : σ → Prop} {R : σ → σ → Prop}

/-- However the computation ends, what held before holds after. -/
def Keeps (I : σ → Prop) (x : Task σ ε α) : Prop := ∀ s, I s → I (x s).2

theorem Keeps.bind {x : Task σ ε α} {f : α → Task σ ε β} (hx : Keeps I x)
    (hf : ∀ a, Keeps I (f a)) : Keeps I (x >>= f) := by
  intro s hs
  have h := hx s hs
  rw [bind_apply]
  cases hr : x s with
  | mk r t =>
    rw [hr] at h
    cases r with
    | done a => exact hf a t h
    | failed e => exact h
    | interrupted i => exact h

theorem Keeps.pure (a : α) : Keeps I (Pure.pure a : Task σ ε α) := fun _ hs => hs

theorem Keeps.fail (e : ε) : Keeps I (Task.fail e : Task σ ε α) := fun _ hs => hs

theorem Keeps.interrupt (i : Interrupt) : Keeps I (Task.interrupt i : Task σ ε α) := fun _ hs => hs

theorem Keeps.gets (f : σ → α) : Keeps I (Task.gets f : Task σ ε α) := fun _ hs => hs

theorem Keeps.ofExcept (r : Except ε α) : Keeps I (Task.ofExcept r) := fun _ hs => hs

theorem Keeps.modify {f : σ → σ} (hf : ∀ s, I s → I (f s)) :
    Keeps I (Task.modify f : Task σ ε Unit) := hf

theorem Keeps.atOnce {x : Act σ ε α} (hx : x.Keeps I) : Keeps I (Task.atOnce x) := hx

theorem attempt_state (x : Task σ ε α) (s : σ) :
    ((x.attempt : Task σ ε' (Except ε α)) s).2 = (x s).2 := by
  unfold attempt
  cases h : x s with
  | mk r t => cases r <;> rfl

theorem mapError_state (f : ε → ε') (x : Task σ ε α) (s : σ) : (x.mapError f s).2 = (x s).2 := by
  unfold mapError
  cases h : x s with
  | mk r t => cases r <;> rfl

theorem Keeps.attempt {x : Task σ ε α} (hx : Keeps I x) :
    Keeps I (x.attempt : Task σ ε' (Except ε α)) := by
  intro s hs
  rw [attempt_state]
  exact hx s hs

theorem Keeps.mapError {x : Task σ ε α} (f : ε → ε') (hx : Keeps I x) :
    Keeps I (x.mapError f) := by
  intro s hs
  rw [mapError_state]
  exact hx s hs

theorem Keeps.widen {x : Task σ Empty α} (hx : Keeps I x) : Keeps I (x.widen : Task σ ε α) :=
  hx.mapError _

/-- The computation takes finitely many steps of a kind, and then gives a value or fails. -/
structure Within (R : σ → σ → Prop) (x : Task σ ε α) : Prop where
  steps : ∀ s, ReflTransGen R s (x s).2
  ends : ∀ s i, (x s).1 ≠ .interrupted i

theorem Within.atOnce {x : Act σ ε α} (h : ∀ s, x.Keeps (ReflTransGen R s)) :
    Within R (Task.atOnce x) where
  steps s := h s s .refl
  ends s i := by
    change Exit.ofExcept (x s).1 ≠ .interrupted i
    cases (x s).1 with
    | ok a => exact fun he => by cases he
    | error e => exact fun he => by cases he

theorem Within.pure (a : α) : Within R (Pure.pure a : Task σ ε α) where
  steps _ := .refl
  ends _ _ he := by cases he

theorem Within.bind {x : Task σ ε α} {f : α → Task σ ε β} (hx : Within R x)
    (hf : ∀ a, Within R (f a)) : Within R (x >>= f) where
  steps s := by
    have hs := hx.steps s
    rw [bind_apply]
    cases hr : x s with
    | mk r t =>
      rw [hr] at hs
      cases r with
      | done a => exact hs.trans ((hf a).steps t)
      | failed e => exact hs
      | interrupted i => exact hs
  ends s i := by
    have he := hx.ends s i
    rw [bind_apply]
    cases hr : x s with
    | mk r t =>
      rw [hr] at he
      cases r with
      | done a => exact (hf a).ends t i
      | failed e => exact fun h => by cases h
      | interrupted j =>
        intro h
        cases h
        exact he rfl

theorem Within.refine {R' : σ → σ → Prop} {x : Task σ ε α} (hx : Within R x)
    (h : ∀ s t, R s t → ReflTransGen R' s t) : Within R' x where
  steps s := by
    have hs := hx.steps s
    generalize (x s).2 = t at hs
    induction hs with
    | refl => exact .refl
    | tail _ hr ih => exact ih.trans (h _ _ hr)
  ends := hx.ends

theorem keeps_of_steps (hI : ∀ s t, R s t → I s → I t) {s t : σ} (h : ReflTransGen R s t)
    (hs : I s) : I t := by
  induction h with
  | refl => exact hs
  | tail _ hr ih => exact hI _ _ hr ih

theorem Within.keeps {x : Task σ ε α} (hx : Within R x) (hI : ∀ s t, R s t → I s → I t) :
    Keeps I x := fun s hs => keeps_of_steps hI (hx.steps s) hs

theorem Within.exit {x : Task σ ε α} (hx : Within R x) (s : σ) :
    ∃ r : Except ε α, x s = (.ofExcept r, (x s).2) := by
  have h := hx.ends s
  cases hr : x s with
  | mk r t =>
    rw [hr] at h
    cases r with
    | done a => exact ⟨.ok a, rfl⟩
    | failed e => exact ⟨.error e, rfl⟩
    | interrupted i => exact absurd rfl (h i)

end Task

end Transactor
