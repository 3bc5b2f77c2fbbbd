import Transactor.Instant.Basic
import Transactor.Text.Blank

namespace Transactor.Instant

open Transactor.Text

/-- The number in decimal digits, filled up with zeros in front to the given width. -/
def padded (width n : Nat) : String :=
  let ds := Nat.toDigits 10 n
  String.ofList (List.replicate (width - ds.length) '0' ++ ds)

/-- Four digits; a year outside of 0 to 9999 shows its sign. -/
def yearText (year : Int) : String :=
  if year < 0 then "-" ++ padded 4 year.natAbs
  else if year ≤ 9999 then padded 4 year.natAbs
  else "+" ++ padded 4 year.natAbs

/-- The fewest of no, three, six or nine digits that lose nothing. -/
def fractionText (nano : Nat) : String :=
  if nano = 0 then ""
  else if nano % 1000000 = 0 then "." ++ padded 3 (nano / 1000000)
  else if nano % 1000 = 0 then "." ++ padded 6 (nano / 1000)
  else "." ++ padded 9 nano

/-- The second shown: 60 in a leap second. -/
def shownSecond (t : Instant) : Nat := if nanosPerSecond ≤ t.nano then t.second + 1 else t.second

def text (t : Instant) : String :=
  yearText t.date.year ++ "-" ++ padded 2 t.date.month ++ "-" ++ padded 2 t.date.day ++ "T"
    ++ padded 2 t.hour ++ ":" ++ padded 2 t.minute ++ ":" ++ padded 2 t.shownSecond
    ++ fractionText (t.nano % nanosPerSecond) ++ "Z"

def digitValue (c : Char) : Nat := c.toNat - '0'.toNat

def isDigit (c : Char) : Bool := '0' ≤ c && c ≤ '9'

def valueOf (ds : List Char) : Nat := ds.foldl (fun n c => n * 10 + digitValue c) 0

/-- At least one digit and at most `width` of them. -/
def readNumber (width : Nat) (s : List Char) : Option (Nat × List Char) :=
  let ds := (s.take width).takeWhile isDigit
  if ds.isEmpty then none else some (valueOf ds, s.drop ds.length)

/-- A number of one or two digits behind blanks. -/
def readPart (s : List Char) : Option (Nat × List Char) := readNumber 2 (trimStart s)

/-- Four digits at most, or a sign and any number of digits. -/
def readYear (s : List Char) : Option (Int × List Char) :=
  match trimStart s with
  | '-' :: s => (readNumber s.length s).map fun r => (-(r.1 : Int), r.2)
  | '+' :: s => (readNumber s.length s).map fun r => ((r.1 : Int), r.2)
  | s => (readNumber 4 s).map fun r => ((r.1 : Int), r.2)

/-- The character `c`, behind blanks. -/
def readMark (c : Char) (s : List Char) : Option (List Char) :=
  match trimStart s with
  | d :: s => if d = c then some s else none
  | [] => none

def readDate (s : List Char) : Option (Date × List Char) := do
  let (year, s) ← readYear s
  let (month, s) ← readPart (← readMark '-' s)
  let (day, s) ← readPart (← readMark '-' s)
  return (← Date.ofParts? year month day, s)

/-- A point and digits, of which the first nine count. -/
def readFraction (s : List Char) : Option (Nat × List Char) :=
  match s with
  | '.' :: s =>
    let ds := (s.take 9).takeWhile isDigit
    if ds.isEmpty then none
    else some (valueOf ds * Nat.pow 10 (9 - ds.length), (s.drop ds.length).dropWhile isDigit)
  | s => some (0, s)

def readTime (s : List Char) : Option ((Nat × Nat × Nat × Nat) × List Char) := do
  let (hour, s) ← readPart s
  let (minute, s) ← readPart (← readMark ':' s)
  let (second, s) ← readPart (← readMark ':' s)
  let (nano, s) ← readFraction s
  return ((hour, minute, second, nano), s)

/-- The instant of the parts; the second 60 runs on from the second 59. -/
def ofParts? (date : Date) (hour minute second nano : Nat) : Option Instant :=
  if h : hour < 24 ∧ minute < 60 ∧ nano < nanosPerSecond then
    if hs : second < 60 then
      some { date, hour, minute, second, nano
             hour_lt := h.1
             minute_lt := h.2.1
             second_lt := hs
             nano_lt := by have := h.2.2; omega
             leap := by have := h.2.2; omega }
    else if second = 60 then
      some { date, hour, minute
             second := 59
             nano := nano + nanosPerSecond
             hour_lt := h.1
             minute_lt := h.2.1
             second_lt := by omega
             nano_lt := by have := h.2.2; omega
             leap := fun _ => rfl }
    else none
  else none

def readPair (s : List Char) : Option (Nat × List Char) :=
  match s with
  | a :: b :: s => if isDigit a && isDigit b then some (valueOf [a, b], s) else none
  | _ => none

/-- Hours and minutes ahead of universal time, with a sign in front and possibly colons or blanks
between; less than a day. -/
def readShift (s : List Char) : Option (Int × List Char) := do
  let (sign, s) ← (match s with
    | '+' :: s => some (1, s)
    | '-' :: s => some (-1, s)
    | '\u2212' :: s => some (-1, s)
    | _ => none : Option (Int × List Char))
  let (hours, s) ← readPair s
  let (minutes, s) ← readPair (s.dropWhile fun c => c == ':' || isBlank c)
  if hours < 24 ∧ minutes < 60 then return (sign * (hours * 60 + minutes : Nat), s) else none

def readOffset (s : List Char) : Option (Int × List Char) :=
  if (s.take 3).map Char.toUpper = ['U', 'T', 'C'] then some (0, s.drop 3)
  else match s with
    | 'Z' :: s => some (0, s)
    | 'z' :: s => some (0, s)
    | s => readShift s

def readSeparator (s : List Char) : Option (List Char) :=
  match s with
  | c :: s => if c = 'T' ∨ c = 't' ∨ c = ' ' then some s else none
  | [] => none

def ofChars? (s : List Char) : Option Instant := do
  let (date, s) ← readDate s
  let ((hour, minute, second, nano), s) ← readTime (← readSeparator s)
  let (offset, s) ← readOffset (trimStart s)
  if (trimStart s).isEmpty then (← ofParts? date hour minute second nano).ofLocal? offset else none

def parse? (s : String) : Option Instant := ofChars? s.toList

end Transactor.Instant
