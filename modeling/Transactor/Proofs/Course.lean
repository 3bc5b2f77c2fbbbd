import Transactor.Act

namespace Transactor

/-- One operation of a machine. -/
structure Played (M σ ε α : Type) where
  op : M
  found : σ
  answer : Except ε α
  left : σ

namespace Played

variable {M σ ε α : Type} {play : M → Act σ ε α}

def of (play : M → Act σ ε α) (m : M) (s : σ) : Played M σ ε α :=
  ⟨m, s, (play m s).1, (play m s).2⟩

theorem of_eq {m : M} {s t : σ} {r : Except ε α} (h : play m s = (r, t)) :
    of play m s = ⟨m, s, r, t⟩ := by
  unfold of
  rw [h]

/-- The operations of a list in turn. One that was refused is no end to the others. -/
def course (play : M → Act σ ε α) : List M → σ → List (Played M σ ε α)
  | [], _ => []
  | m :: ms, s => of play m s :: course play ms (of play m s).left

/-- What each operation does by the invariant, given the past, holds at each place of a course. -/
theorem course_lawful {Inv : List (Played M σ ε α) → σ → Prop}
    {Lawful : List (Played M σ ε α) → Played M σ ε α → Prop}
    (hstep : ∀ past m s, Inv past s →
      Lawful past (of play m s) ∧ Inv (past ++ [of play m s]) (of play m s).left)
    (ms : List M) {s : σ} {past : List (Played M σ ε α)} (hs : Inv past s)
    {before later : List (Played M σ ε α)} {x : Played M σ ε α}
    (hx : course play ms s = before ++ x :: later) : Lawful (past ++ before) x := by
  induction ms generalizing s past before with
  | nil => exact absurd hx (by simp [course])
  | cons m ms ih =>
    obtain ⟨hlawful, hleft⟩ := hstep past m s hs
    cases before with
    | nil =>
      obtain ⟨rfl, -⟩ := List.cons.inj hx
      rw [List.append_nil]
      exact hlawful
    | cons y before =>
      obtain ⟨rfl, hrest⟩ := List.cons.inj hx
      have hlater := ih hleft hrest
      rw [List.append_assoc] at hlater
      exact hlater

theorem course_map {τ : Type} {see : σ → τ} {play' : M → Act τ ε α}
    (hsee : ∀ m s, play' m (see s) = ((play m s).1, see (play m s).2)) (ms : List M) (s : σ) :
    course play' ms (see s) =
      (course play ms s).map fun x => ⟨x.op, see x.found, x.answer, see x.left⟩ := by
  induction ms generalizing s with
  | nil => rfl
  | cons m ms ih =>
    rw [course, of_eq (hsee m s), ih]
    rfl

end Played

end Transactor
