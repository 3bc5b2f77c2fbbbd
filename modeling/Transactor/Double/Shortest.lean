namespace Transactor.Double

structure Fraction where
  num : Nat
  den : Nat

def Fraction.scaled (m : Nat) (q : Int) : Fraction :=
  if 0 ≤ q then ⟨m * Nat.pow 2 q.natAbs, 1⟩ else ⟨m, Nat.pow 2 q.natAbs⟩

def Fraction.decimal (a : Nat) (e : Int) : Fraction :=
  if 0 ≤ e then ⟨a * Nat.pow 10 e.natAbs, 1⟩ else ⟨a, Nat.pow 10 e.natAbs⟩

def Fraction.lt (a b : Fraction) : Bool := a.num * b.den < b.num * a.den

def Fraction.le (a b : Fraction) : Bool := a.num * b.den ≤ b.num * a.den

/-- The whole part of a number divided by 10^e. -/
def Fraction.floorAt (a : Fraction) (e : Int) : Nat :=
  if 0 ≤ e then a.num / (a.den * Nat.pow 10 e.natAbs)
  else a.num * Nat.pow 10 e.natAbs / a.den

def Fraction.distance (a b : Fraction) : Fraction :=
  let x := a.num * b.den
  let y := b.num * a.den
  ⟨(x - y) + (y - x), a.den * b.den⟩

/-- A finite double's magnitude m · 2^q. -/
structure Binary where
  significand : Nat
  exponent : Int

def isNegative (bits : UInt64) : Bool := bits >>> 63 == 1

def exponentField (bits : UInt64) : Nat := ((bits >>> 52) &&& 0x7ff).toNat

def significandField (bits : UInt64) : Nat := (bits &&& 0xfffffffffffff).toNat

def isFinite (bits : UInt64) : Bool := exponentField bits != 0x7ff

/-- The leading bit of a significand, which is not stored. -/
def hiddenBit : Nat := 0x10000000000000

def Binary.ofBits (bits : UInt64) : Binary :=
  if exponentField bits = 0 then ⟨significandField bits, -1074⟩
  else ⟨significandField bits + hiddenBit, (exponentField bits : Int) - 1075⟩

def Binary.value (b : Binary) : Fraction := .scaled b.significand b.exponent

/-- The upper end of the interval of reals that round to the number. -/
def Binary.upper (b : Binary) : Fraction := .scaled (2 * b.significand + 1) (b.exponent - 1)

/-- The lower end; below a power of two the neighbour is nearer. -/
def Binary.lower (b : Binary) : Fraction :=
  if b.significand = hiddenBit ∧ -1074 < b.exponent then
    .scaled (4 * b.significand - 1) (b.exponent - 2)
  else .scaled (2 * b.significand - 1) (b.exponent - 1)

/-- The ends themselves round to an even significand. -/
def Binary.roundsFrom (b : Binary) (x : Fraction) : Bool :=
  if b.significand % 2 = 0 then b.lower.le x && x.le b.upper else b.lower.lt x && x.lt b.upper

/-- The power of ten just above a number that is not zero. -/
def magnitude (x : Fraction) : Int :=
  if x.den ≤ x.num then (Nat.toDigits 10 (x.num / x.den)).length
  else
    let places := ((List.range 400).find? fun j => x.den ≤ x.num * Nat.pow 10 j).getD 400
    1 - places

structure Decimal where
  digits : Nat
  exponent : Int

/-- The better of the two points of a grid next to the number, if one rounds to it. -/
def onGrid (b : Binary) (e : Int) : Option Decimal :=
  let x := b.value
  let below := x.floorAt e
  let lo := Fraction.decimal below e
  let hi := Fraction.decimal (below + 1) e
  match b.roundsFrom lo, b.roundsFrom hi with
  | true, false => some ⟨below, e⟩
  | false, true => some ⟨below + 1, e⟩
  | false, false => none
  | true, true =>
    let dl := x.distance lo
    let dh := x.distance hi
    if dl.lt dh || (dl.le dh && below % 2 = 0) then some ⟨below, e⟩ else some ⟨below + 1, e⟩

/-- The grids of one digit, of two, up to 17; one of these holds a hit for every double. -/
def shortest (b : Binary) : Decimal :=
  if b.significand = 0 then ⟨0, 0⟩
  else
    let top := magnitude b.value
    ((List.range 17).findSome? fun n => onGrid b (top - (n + 1 : Nat))).getD ⟨0, 0⟩

end Transactor.Double
