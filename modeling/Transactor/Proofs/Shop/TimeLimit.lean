import Transactor.Proofs.Shop.DeliveryPlan
import Transactor.Proofs.Shop.Tenure

namespace Transactor

open Relation

theorem firstDeadline_eq_none {deadlines : List Nat} (h : firstDeadline deadlines = none) :
    deadlines = [] := by
  cases deadlines with
  | nil => rfl
  | cons d outer =>
    simp only [firstDeadline] at h
    grind

theorem firstDeadline_level {deadlines : List Nat} {d level : Nat}
    (h : firstDeadline deadlines = some (d, level)) : level < deadlines.length := by
  induction deadlines generalizing d level with
  | nil => cases h
  | cons e outer ih =>
    simp only [firstDeadline] at h
    grind

theorem firstDeadline_inner {d : Nat} {outer : List Nat} (h : ∀ e ∈ outer, d ≤ e) :
    firstDeadline (d :: outer) = some (d, outer.length) := by
  cases ho : firstDeadline outer with
  | none => simp only [firstDeadline, ho]
  | some p =>
    have hle := h p.1 (firstDeadline_mem ho)
    simp only [firstDeadline, ho, if_neg (Nat.not_lt.mpr hle)]

theorem firstDeadline_outer {d e level : Nat} {outer : List Nat}
    (ho : firstDeadline outer = some (e, level)) (h : e < d) :
    firstDeadline (d :: outer) = some (e, level) := by
  simp only [firstDeadline, ho, if_pos h]

namespace WorldTask

variable {P S ε α : Type} {timer : Timer} {limit now due later : Nat} {late : ε}
  {x : WorldTask P S ε α} {w v : World P S} {deadlines : List Nat}

/-- What a limit makes of how a computation under it has ended. -/
def closing (late : ε) (deadlines : List Nat) : Exit ε α × World P S → Exit ε α × World P S
  | (.interrupted (.deadline level), v) =>
    if level = deadlines.length then (.failed late, { v with deadlines := deadlines })
    else (.interrupted (.deadline level), { v with deadlines := deadlines })
  | (r, v) => (r, { v with deadlines := deadlines })

theorem within_apply (hdue : timer.wakes (now + limit) = due) :
    within timer limit late x (w.timed now deadlines) =
      closing late deadlines (x (w.timed now (due :: deadlines))) := by
  have hx : x { w.timed now deadlines with
      deadlines := timer.wakes ((w.timed now deadlines).elapsed + limit) ::
        (w.timed now deadlines).deadlines } = x (w.timed now (due :: deadlines)) :=
    hdue ▸ rfl
  rw [within, hx]
  generalize x (w.timed now (due :: deadlines)) = s
  obtain ⟨r, v⟩ := s
  match r with
  | .done a => rfl
  | .failed e => rfl
  | .interrupted .exhausted => rfl
  | .interrupted (.deadline level) => rfl

theorem within_ended (hdue : timer.wakes (now + limit) = due) {r : Except ε α}
    (hx : x (w.timed now (due :: deadlines)) = (.ofExcept r, v.timed later (due :: deadlines))) :
    within timer limit late x (w.timed now deadlines) = (.ofExcept r, v.timed later deadlines) := by
  rw [within_apply hdue, hx]
  cases r <;> rfl

theorem within_interrupted (hdue : timer.wakes (now + limit) = due) {level : Nat}
    (hx : x (w.timed now (due :: deadlines)) =
      (.interrupted (.deadline level), v.timed later (due :: deadlines))) :
    within timer limit late x (w.timed now deadlines) =
      if level = deadlines.length then (.failed late, v.timed later deadlines)
      else (.interrupted (.deadline level), v.timed later deadlines) := by
  rw [within_apply hdue, hx]
  rfl

theorem within_keeps {I : World P S → Prop} (hI : ∀ w ds, I w → I { w with deadlines := ds })
    (hx : x.Keeps I) : (within timer limit late x).Keeps I := by
  intro w hw
  let ds := timer.wakes (w.elapsed + limit) :: w.deadlines
  have hv := hx _ (hI w ds hw)
  unfold within
  generalize x { w with deadlines := ds } = s at hv ⊢
  obtain ⟨r, v⟩ := s
  dsimp only
  repeat' split
  all_goals exact hI v _ hv

end WorldTask

namespace Shop

variable {Q H : Type}

/-- Times are counted in grains: all waits of a delivery and its limit are multiples of a grain, and
the timer is exact for these. A grain of one excludes no wait and no limit. -/
structure Measured (timer : Timer) (grain limit : Nat) (plan : List Message → UnitRef → Plan Q) :
    Prop where
  exact : timer.Exact grain
  limit : grain ∣ limit
  waits : ∀ batch u, (plan batch u).Grained grain

namespace Plan

variable {timer : Timer} {grain : Nat} (htimer : timer.Exact grain) {p : Plan Q} (u : UnitRef)
  (hp : p.Grained grain) {w : ShopWorld Q H} {limit now : Nat} {late : DeliveryError}
  {deadlines : List Nat} (hnow : grain ∣ now)

section Limit

variable (hlimit : grain ∣ limit)

include htimer hp hnow hlimit

theorem within_inTime (hle : p.duration u w ≤ limit)
    (h : ∀ d ∈ deadlines, now + p.duration u w ≤ d) :
    WorldTask.within timer limit late (p.run timer u) (w.timed now deadlines) =
      (.ofExcept (p.result u w), (p.effects u w).timed (now + p.duration u w) deadlines) := by
  apply WorldTask.within_ended (htimer _ (Nat.dvd_add hnow hlimit))
  apply run_inTime htimer u hp hnow
  intro d hd
  obtain rfl | hd := List.mem_cons.mp hd
  · omega
  · exact h d hd

theorem within_late (hlt : limit < p.duration u w) (h : ∀ d ∈ deadlines, now + limit ≤ d) :
    WorldTask.within timer limit late (p.run timer u) (w.timed now deadlines) =
      (.failed late, (p.effectsWithin u limit w).timed (now + limit) deadlines) := by
  have hrun := run_late htimer u hp (w := w) hnow (firstDeadline_inner h)
    (Nat.le_add_right now limit) (by omega)
  rw [Nat.add_sub_cancel_left] at hrun
  rw [WorldTask.within_interrupted (htimer _ (Nat.dvd_add hnow hlimit)) hrun, if_pos rfl]

theorem within_outer {d level : Nat} (hf : firstDeadline deadlines = some (d, level))
    (hle : now ≤ d) (hlt : d < now + limit) (h : d < now + p.duration u w) :
    WorldTask.within timer limit late (p.run timer u) (w.timed now deadlines) =
      (.interrupted (.deadline level), (p.effectsWithin u (d - now) w).timed d deadlines) := by
  have hrun := run_late htimer u hp (w := w) hnow (firstDeadline_outer hf hlt) hle h
  rw [WorldTask.within_interrupted (htimer _ (Nat.dvd_add hnow hlimit)) hrun,
    if_neg (Nat.ne_of_lt (firstDeadline_level hf))]

end Limit

/-- Under a limit a plan ends in time, or is given up for that limit, or for an outer one. -/
theorem limit_cases (n : Nat) (deadlines : List Nat) (now limit : Nat) :
    (n ≤ limit ∧ ∀ d ∈ deadlines, now + n ≤ d) ∨
      (limit < n ∧ ∀ d ∈ deadlines, now + limit ≤ d) ∨
      ∃ d level, firstDeadline deadlines = some (d, level) ∧ d < now + limit ∧ d < now + n := by
  cases hf : firstDeadline deadlines with
  | none =>
    rw [firstDeadline_eq_none hf]
    by_cases hn : n ≤ limit
    · exact .inl ⟨hn, by simp⟩
    · exact .inr (.inl ⟨Nat.not_le.mp hn, by simp⟩)
  | some p =>
    have hle := firstDeadline_le hf
    by_cases hn : n ≤ limit
    · by_cases hp : now + n ≤ p.1
      · exact .inl ⟨hn, fun d hd => Nat.le_trans hp (hle d hd)⟩
      · exact .inr (.inr ⟨p.1, p.2, rfl, by omega, by omega⟩)
    · by_cases hp : now + limit ≤ p.1
      · exact .inr (.inl ⟨Nat.not_le.mp hn, fun d hd => Nat.le_trans hp (hle d hd)⟩)
      · exact .inr (.inr ⟨p.1, p.2, rfl, by omega, by omega⟩)

section Nested

variable {inner outer : Nat} {lateInner lateOuter : DeliveryError} (hinner : grain ∣ inner)
  (houter : grain ∣ outer)

include htimer hp hnow hinner houter

/-- Of two limits the inner one counts unless the outer one is used up earlier. -/
theorem within_within_inner (hle : inner ≤ outer) (hdeadlines : ∀ d ∈ deadlines, now ≤ d) :
    WorldTask.within timer outer lateOuter
        (WorldTask.within timer inner lateInner (p.run timer u)) (w.timed now deadlines) =
      WorldTask.within timer inner lateInner (p.run timer u) (w.timed now deadlines) := by
  have hdue := htimer _ (Nat.dvd_add hnow houter)
  obtain ⟨hn, hd⟩ | ⟨hn, hd⟩ | ⟨d, level, hf, hd, hn⟩ :=
    limit_cases (p.duration u w) deadlines now inner
  · rw [within_inTime htimer u hp hnow hinner hn hd]
    apply WorldTask.within_ended hdue
    apply within_inTime htimer u hp hnow hinner hn
    intro e he
    obtain rfl | he := List.mem_cons.mp he
    · omega
    · exact hd e he
  · rw [within_late htimer u hp hnow hinner hn hd]
    apply WorldTask.within_ended hdue (r := .error lateInner)
    apply within_late htimer u hp hnow hinner hn
    intro e he
    obtain rfl | he := List.mem_cons.mp he
    · omega
    · exact hd e he
  · have hd' := hdeadlines d (firstDeadline_mem hf)
    rw [within_outer htimer u hp hnow hinner hf hd' hd hn, WorldTask.within_interrupted hdue
      (within_outer htimer u hp hnow hinner (firstDeadline_outer hf (by omega)) hd' hd hn),
      if_neg (Nat.ne_of_lt (firstDeadline_level hf))]

theorem within_within_outer (hlt : outer < inner) (hdeadlines : ∀ d ∈ deadlines, now ≤ d) :
    WorldTask.within timer outer lateOuter
        (WorldTask.within timer inner lateInner (p.run timer u)) (w.timed now deadlines) =
      WorldTask.within timer outer lateOuter (p.run timer u) (w.timed now deadlines) := by
  have hdue := htimer _ (Nat.dvd_add hnow houter)
  obtain ⟨hn, hd⟩ | ⟨hn, hd⟩ | ⟨d, level, hf, hd, hn⟩ :=
    limit_cases (p.duration u w) deadlines now outer
  · rw [within_inTime htimer u hp hnow houter hn hd]
    apply WorldTask.within_ended hdue
    apply within_inTime htimer u hp hnow hinner (by omega)
    intro e he
    obtain rfl | he := List.mem_cons.mp he
    · omega
    · exact hd e he
  · have hrun : WorldTask.within timer inner lateInner (p.run timer u)
        (w.timed now ((now + outer) :: deadlines)) = _ :=
      within_outer htimer u hp hnow hinner (firstDeadline_inner hd) (Nat.le_add_right now outer)
        (by omega) (by omega)
    rw [Nat.add_sub_cancel_left] at hrun
    rw [within_late htimer u hp hnow houter hn hd, WorldTask.within_interrupted hdue hrun,
      if_pos rfl]
  · have hd' := hdeadlines d (firstDeadline_mem hf)
    rw [within_outer htimer u hp hnow houter hf hd' hd hn, WorldTask.within_interrupted hdue
      (within_outer htimer u hp hnow hinner (firstDeadline_outer hf hd) hd' (by omega) hn),
      if_neg (Nat.ne_of_lt (firstDeadline_level hf))]

end Nested

end Plan

section Bounded

variable {timer : Timer} {grain limit : Nat} {plan : List Message → UnitRef → Plan Q}
  (h : Measured timer grain limit plan) {batch : List Message} {u : UnitRef} {w : ShopWorld Q H}
  (hnow : grain ∣ w.elapsed)

include h hnow

theorem Measured.bounded_inTime (hle : (plan batch u).duration u w ≤ limit)
    (hd : ∀ d ∈ w.deadlines, w.elapsed + (plan batch u).duration u w ≤ d) :
    Dispatcher.bounded timer limit (Plan.dispatcher timer plan) batch u w =
      (.ofExcept ((plan batch u).result u w),
        ((plan batch u).effects u w).timed (w.elapsed + (plan batch u).duration u w) w.deadlines) :=
  Plan.within_inTime h.exact u (h.waits batch u) hnow h.limit hle hd

theorem Measured.bounded_late (hlt : limit < (plan batch u).duration u w)
    (hd : ∀ d ∈ w.deadlines, w.elapsed + limit ≤ d) :
    Dispatcher.bounded timer limit (Plan.dispatcher timer plan) batch u w =
      (.failed (.timedOut (limit / 1000000)),
        ((plan batch u).effectsWithin u limit w).timed (w.elapsed + limit) w.deadlines) :=
  Plan.within_late h.exact u (h.waits batch u) hnow h.limit hlt hd

/-- Two limits, one within the other, act as the smaller one alone. -/
theorem Measured.bounded_bounded {inner : Nat} (hinner : grain ∣ inner)
    (hd : ∀ d ∈ w.deadlines, w.elapsed ≤ d) :
    Dispatcher.bounded timer limit (Dispatcher.bounded timer inner (Plan.dispatcher timer plan))
        batch u w =
      Dispatcher.bounded timer (min inner limit) (Plan.dispatcher timer plan) batch u w := by
  obtain hlt | hle := Nat.lt_or_ge limit inner
  · rw [Nat.min_eq_right (Nat.le_of_lt hlt)]
    exact Plan.within_within_outer h.exact u (h.waits batch u) hnow hinner h.limit hlt hd
  · rw [Nat.min_eq_left hle]
    exact Plan.within_within_inner h.exact u (h.waits batch u) hnow hinner h.limit hle hd

end Bounded

end Shop

end Transactor
