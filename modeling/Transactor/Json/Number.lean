namespace Transactor.Json

structure Numeral where
  negative : Bool
  whole : List Nat
  fraction : Option (List Nat)
  exponent : Option (Bool × List Nat)

inductive Number where
  | int (n : Int)
  | float (bits : UInt64)
  deriving DecidableEq

/-- The leading digits that fit in 64 bits: their value and how many they are. -/
structure Significand where
  value : Nat
  kept : Nat
  full : Bool

def Significand.push (s : Significand) (d : Nat) : Significand :=
  if !s.full && s.value * 10 + d < UInt64.size then ⟨s.value * 10 + d, s.kept + 1, false⟩
  else { s with full := true }

def Significand.read (value : Nat) (ds : List Nat) : Significand :=
  ds.foldl Significand.push ⟨value, 0, false⟩

def powerOfTen (n : Nat) : Float := Float.ofScientific 1 false n

/-- Scales by a power of ten; `none` if the result is too large. Each step takes off at most 308
places, and three steps bring anything down to zero. -/
def scale : Nat → Float → Int → Option Float
  | 0, _, _ => some 0
  | steps + 1, f, e =>
    if e.natAbs ≤ 308 then
      if 0 ≤ e then
        let g := f * powerOfTen e.natAbs
        if g.isInf then none else some g
      else some (f / powerOfTen e.natAbs)
    else if f == 0 then some f
    else if 0 ≤ e then none
    else scale steps (f / powerOfTen 308) (e + 308)

/-- The greatest exponent that is read as a number. -/
def maxExponent : Nat := 2147483647

/-- The exponent's value, if it is not beyond all bounds. -/
def exponentValue (acc : Nat) : List Nat → Option Nat
  | [] => some acc
  | d :: ds => if acc * 10 + d ≤ maxExponent then exponentValue (acc * 10 + d) ds else none

/-- The double of a numeral; `none` if it is too large. -/
def Numeral.double? (n : Numeral) : Option Float := do
  let whole := Significand.read 0 n.whole
  let all := Significand.read whole.value (n.fraction.getD [])
  let start : Int := ((n.whole.length - whole.kept : Nat) : Int) - all.kept
  let digits := all.value.toUInt64.toFloat
  let magnitude ← (match n.exponent with
    | none => scale 4 digits start
    | some (negative, ds) =>
      match exponentValue 0 ds with
      | some e => scale 4 digits (if negative then start - e else start + e)
      | none => if negative || all.value == 0 then some 0 else none : Option Float)
  return if n.negative then -magnitude else magnitude

def digitsValue (ds : List Nat) : Nat := ds.foldl (fun n d => n * 10 + d) 0

/-- The number of a numeral; `none` if it is too large for a double. Minus zero is a double. -/
def Numeral.number? (n : Numeral) : Option Number :=
  let m := digitsValue n.whole
  if n.fraction.isNone ∧ n.exponent.isNone ∧ n.negative = false ∧ m < UInt64.size then some (.int m)
  else if n.fraction.isNone ∧ n.exponent.isNone ∧ n.negative ∧ m ≤ UInt64.size / 2 ∧ m ≠ 0 then
    some (.int (-m))
  else n.double?.map fun f => .float f.toBits

end Transactor.Json
