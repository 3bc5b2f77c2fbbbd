import Transactor.Calendar

namespace Transactor

/-- Nanoseconds of one second. -/
def nanosPerSecond : Nat := 1000000000

/-- A day and a time of day. -/
structure Instant where
  date : Date
  hour : Nat
  minute : Nat
  second : Nat
  nano : Nat
  hour_lt : hour < 24
  minute_lt : minute < 60
  second_lt : second < 60
  nano_lt : nano < 2 * nanosPerSecond
  leap : nanosPerSecond ≤ nano → second = 59
  deriving DecidableEq

namespace Instant

/-- The instant at which a clock `offset` minutes ahead of universal time shows the given one. -/
def ofLocal? (t : Instant) (offset : Int) : Option Instant :=
  let minutes : Int := (t.hour * 60 + t.minute : Nat) - offset
  let day : Option Date :=
    if minutes < 0 then t.date.prev? else if minutes < 1440 then some t.date else t.date.next?
  day.map fun date =>
    { t with
      date
      hour := (minutes / 60 % 24).toNat
      minute := (minutes % 60).toNat
      hour_lt := by omega
      minute_lt := by omega }

@[simp] theorem ofLocal?_zero (t : Instant) : t.ofLocal? 0 = some t := by
  have hh := t.hour_lt
  have hm := t.minute_lt
  have h₁ : ¬ ((t.hour * 60 + t.minute : Nat) : Int) - 0 < 0 := by omega
  have h₂ : ((t.hour * 60 + t.minute : Nat) : Int) - 0 < 1440 := by omega
  have h₃ : (((t.hour * 60 + t.minute : Nat) : Int) - 0) / 60 % 24 = t.hour := by omega
  have h₄ : (((t.hour * 60 + t.minute : Nat) : Int) - 0) % 60 = t.minute := by omega
  simp only [ofLocal?, h₁, ↓reduceIte, h₂, Option.map_some, h₃, h₄, Int.toNat_natCast]

end Instant

end Transactor
