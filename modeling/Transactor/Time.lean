import Transactor.World
namespace Transactor

/-- A timer: the time at which it wakes what is due at some time. Times are in nanoseconds. -/
structure Timer where
  wakes : Nat → Nat

/-- The timer that wakes at whole milliseconds only. -/
def Timer.milliseconds : Timer where
  wakes due := (due + 999999) / 1000000 * 1000000

/-- The earliest deadline and how many deadlines enclose it; of equal ones the innermost. -/
def firstDeadline : List Nat → Option (Nat × Nat)
  | [] => none
  | d :: outer =>
    match firstDeadline outer with
    | some (e, level) => if e < d then some (e, level) else some (d, outer.length)
    | none => some (d, outer.length)

namespace WorldTask

variable {P S ε α : Type} (timer : Timer)

/-- Waits in virtual time, which passes at once. If the wait would end beyond a deadline, time stops
at the first one, and what was to be done by it is given up. A deadline that is just reached is
kept. -/
def wait (duration : Nat) : WorldTask P S ε Unit := fun w =>
  let due := timer.wakes (w.elapsed + duration)
  match firstDeadline w.deadlines with
  | some (deadline, level) =>
    if deadline < due then (.interrupted (.deadline level), { w with elapsed := deadline })
    else (.done (), { w with elapsed := due })
  | none => (.done (), { w with elapsed := due })

/-- Runs a computation with a limit on the time that it may take in all, and fails with `late` if it
is given up for that. -/
def within (limit : Nat) (late : ε) (x : WorldTask P S ε α) : WorldTask P S ε α := fun w =>
  let (r, v) := x { w with deadlines := timer.wakes (w.elapsed + limit) :: w.deadlines }
  let v := { v with deadlines := w.deadlines }
  match r with
  | .interrupted (.deadline level) =>
    if level = w.deadlines.length then (.failed late, v) else (.interrupted (.deadline level), v)
  | r => (r, v)

end WorldTask

end Transactor
