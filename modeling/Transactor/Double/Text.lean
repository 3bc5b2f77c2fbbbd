import Transactor.Double.Shortest

namespace Transactor.Double

def zeros (n : Nat) : String := String.ofList (List.replicate n '0')

/-- Digits without trailing zeros, and the place of the point counted from their left end. -/
def placed (d : Decimal) : List Char × Int :=
  let ds := Nat.toDigits 10 d.digits
  ((ds.reverse.dropWhile (· == '0')).reverse, d.exponent + ds.length)

/-- All digits around the point, with at least one behind it. -/
def positional (ds : List Char) (point : Int) : String :=
  if point ≤ 0 then "0." ++ zeros point.natAbs ++ String.ofList ds
  else if ds.length ≤ point.toNat then
    String.ofList ds ++ zeros (point.toNat - ds.length) ++ ".0"
  else String.ofList (ds.take point.toNat) ++ "." ++ String.ofList (ds.drop point.toNat)

def scientific (ds : List Char) (point : Int) : String :=
  let e := point - 1
  let exponent := (if e < 0 then "e-" else "e+") ++ toString e.natAbs
  match ds with
  | [d] => String.ofList [d] ++ exponent
  | d :: ds => String.ofList [d] ++ "." ++ String.ofList ds ++ exponent
  | [] => "0"

def sign (bits : UInt64) : String := if isNegative bits then "-" else ""

/-- A finite double. It has an exponent where it would have five or more zeros behind the point
before its first digit, or more than 16 digits before the point. -/
def text (bits : UInt64) : String :=
  let (ds, point) := placed (shortest (Binary.ofBits bits))
  if ds.isEmpty then sign bits ++ "0.0"
  else if -5 < point ∧ point ≤ 16 then sign bits ++ positional ds point
  else sign bits ++ scientific ds point

end Transactor.Double
