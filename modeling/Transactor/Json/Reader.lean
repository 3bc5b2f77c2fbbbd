import Transactor.Json.Draft

namespace Transactor.Json

def isSpace (c : Char) : Bool := c == ' ' || c == '\t' || c == '\n' || c == '\r'

def skipSpace (s : List Char) : List Char := s.dropWhile isSpace

/-- One character of a string, or the code of an escape. -/
inductive Piece where
  | char (c : Char)
  | code (n : Nat)

def isHighSurrogate (n : Nat) : Bool := 0xd800 ≤ n && n < 0xdc00

def isLowSurrogate (n : Nat) : Bool := 0xdc00 ≤ n && n < 0xe000

/-- Joins the codes of surrogate pairs; `none` if a half stands alone. -/
def assemble : List Piece → Option (List Char)
  | [] => some []
  | .char c :: r => (assemble r).map (c :: ·)
  | .code h :: .code l :: r =>
    if isHighSurrogate h && isLowSurrogate l then
      (assemble r).map (Char.ofNat (0x10000 + (h - 0xd800) * 0x400 + (l - 0xdc00)) :: ·)
    else if isHighSurrogate h || isLowSurrogate h then none
    else (assemble (.code l :: r)).map (Char.ofNat h :: ·)
  | .code n :: r =>
    if isHighSurrogate n || isLowSurrogate n then none
    else (assemble r).map (Char.ofNat n :: ·)

def hexValue? (c : Char) : Option Nat :=
  if '0' ≤ c ∧ c ≤ '9' then some (c.toNat - '0'.toNat)
  else if 'a' ≤ c ∧ c ≤ 'f' then some (c.toNat - 'a'.toNat + 10)
  else if 'A' ≤ c ∧ c ≤ 'F' then some (c.toNat - 'A'.toNat + 10)
  else none

def hexCode? (a b c d : Char) : Option Nat := do
  return ((← hexValue? a) * 16 + (← hexValue? b)) * 256 + (← hexValue? c) * 16 + (← hexValue? d)

def shortEscape? (c : Char) : Option Char :=
  match c with
  | '"' => some '"'
  | '\\' => some '\\'
  | '/' => some '/'
  | 'b' => some '\x08'
  | 'f' => some '\x0c'
  | 'n' => some '\n'
  | 'r' => some '\r'
  | 't' => some '\t'
  | _ => none

/-- The pieces up to the closing quote, in reverse, and the text behind it. -/
def readPieces (acc : List Piece) : List Char → Option (List Piece × List Char)
  | '"' :: s => some (acc, s)
  | '\\' :: 'u' :: a :: b :: c :: d :: s =>
    match hexCode? a b c d with
    | some n => readPieces (.code n :: acc) s
    | none => none
  | '\\' :: c :: s =>
    match shortEscape? c with
    | some c => readPieces (.char c :: acc) s
    | none => none
  | c :: s => if c.toNat < 0x20 || c == '\\' then none else readPieces (.char c :: acc) s
  | [] => none

/-- The text of a string behind its opening quote, if it stands for one. -/
def readString (s : List Char) : Option (Option String × List Char) :=
  (readPieces [] s).map fun r => ((assemble r.1.reverse).map String.ofList, r.2)

def isDigit (c : Char) : Bool := '0' ≤ c && c ≤ '9'

def readDigits (s : List Char) : List Nat × List Char :=
  ((s.takeWhile isDigit).map fun c => c.toNat - '0'.toNat, s.dropWhile isDigit)

def readFraction (s : List Char) : Option (Option (List Nat) × List Char) :=
  match s with
  | '.' :: s =>
    let (ds, s) := readDigits s
    if ds.isEmpty then none else some (some ds, s)
  | s => some (none, s)

def readExponent (s : List Char) : Option (Option (Bool × List Nat) × List Char) :=
  match s with
  | c :: s =>
    if c = 'e' ∨ c = 'E' then
      let (negative, s) := match s with
        | '-' :: s => (true, s)
        | '+' :: s => (false, s)
        | s => (false, s)
      let (ds, s) := readDigits s
      if ds.isEmpty then none else some (some (negative, ds), s)
    else some (none, c :: s)
  | [] => some (none, [])

/-- A numeral: no plus sign, and no zero in front of other digits. -/
def readNumeral (s : List Char) : Option (Numeral × List Char) := do
  let (negative, s) := match s with
    | '-' :: s => (true, s)
    | s => (false, s)
  let (whole, s) := readDigits s
  if whole.isEmpty || (whole.head? == some 0 && whole.length != 1) then none
  let (fraction, s) ← readFraction s
  let (exponent, s) ← readExponent s
  return (⟨negative, whole, fraction, exponent⟩, s)

def Draft.ofNumeral (n : Numeral) : Draft :=
  match n.number? with
  | some (.int n) => .int n
  | some (.float bits) => .float bits
  | none => .flawed

/-- Lists and objects may be nested one in the other one time less than this. -/
def depthLimit : Nat := 128

/-- The draft of a list or an object at a depth. -/
def Draft.bounded (depth : Nat) (d : Draft) : Draft := if depth + 1 < depthLimit then d else .flawed

/-- An object's draft; names that stand for no text spoil it. -/
def Draft.ofFields (fields : List (Option String × Draft)) : Draft :=
  match fields.mapM fun f => f.1.map fun name => (name, f.2) with
  | some fields => .object fields
  | none => .flawed

mutual
/-- A value and the text behind it. Each call uses up fuel, and each reads a character. -/
def readValue : Nat → Nat → List Char → Option (Draft × List Char)
  | 0, _, _ => none
  | fuel + 1, depth, s =>
    match skipSpace s with
    | 'n' :: 'u' :: 'l' :: 'l' :: s => some (.null, s)
    | 't' :: 'r' :: 'u' :: 'e' :: s => some (.bool true, s)
    | 'f' :: 'a' :: 'l' :: 's' :: 'e' :: s => some (.bool false, s)
    | '"' :: s => (readString s).map fun r => (r.1.elim .flawed .string, r.2)
    | '[' :: s =>
      match skipSpace s with
      | ']' :: s => some (Draft.bounded depth (.array []), s)
      | s => (readItems fuel (depth + 1) [] s).map fun r =>
          (Draft.bounded depth (.array r.1), r.2)
    | '\x7b' :: s =>
      match skipSpace s with
      | '\x7d' :: s => some (Draft.bounded depth (.object []), s)
      | s => (readFields fuel (depth + 1) [] s).map fun r =>
          (Draft.bounded depth (Draft.ofFields r.1), r.2)
    | s => (readNumeral s).map fun r => (Draft.ofNumeral r.1, r.2)

def readItems : Nat → Nat → List Draft → List Char → Option (List Draft × List Char)
  | 0, _, _, _ => none
  | fuel + 1, depth, acc, s =>
    match readValue fuel depth s with
    | none => none
    | some (d, s) =>
      match skipSpace s with
      | ',' :: s => readItems fuel depth (d :: acc) s
      | ']' :: s => some ((d :: acc).reverse, s)
      | _ => none

def readFields : Nat → Nat → List (Option String × Draft) → List Char →
    Option (List (Option String × Draft) × List Char)
  | 0, _, _, _ => none
  | fuel + 1, depth, acc, s =>
    match skipSpace s with
    | '"' :: s =>
      match readString s with
      | none => none
      | some (name, s) =>
        match skipSpace s with
        | ':' :: s =>
          match readValue fuel depth s with
          | none => none
          | some (d, s) =>
            match skipSpace s with
            | ',' :: s => readFields fuel depth ((name, d) :: acc) s
            | '\x7d' :: s => some (((name, d) :: acc).reverse, s)
            | _ => none
        | _ => none
    | _ => none
end

def Draft.parse? (s : String) : Option Draft :=
  let cs := s.toList
  match readValue (cs.length + 1) 0 cs with
  | some (d, rest) => if (skipSpace rest).isEmpty then some d else none
  | none => none

/-- The value of a whole text; of a repeated field the last one counts. -/
def parse? (s : String) : Option Json := ((Draft.parse? s).bind Draft.value?).map lastWins

end Transactor.Json
