import Transactor.Json.Basic
import Transactor.Error

namespace Transactor

namespace Json

mutual
/-- The identifiers that a value holds: the texts that are read as one, and the whole numbers of 64
bits, which stand for one each. -/
def identifiers : Json → List Uuid
  | .string s => (Uuid.parse? s).toList
  | .int n => if 0 ≤ n then [.ofNat n.toNat] else []
  | .array items => itemIdentifiers items
  | .object fields => fieldIdentifiers fields
  | _ => []

def itemIdentifiers : List Json → List Uuid
  | [] => []
  | j :: js => identifiers j ++ itemIdentifiers js

def fieldIdentifiers : List (String × Json) → List Uuid
  | [] => []
  | f :: fs => (Uuid.parse? f.1).toList ++ identifiers f.2 ++ fieldIdentifiers fs
end

mutual
def mapTexts (f : String → String) : Json → Json
  | .string s => .string (f s)
  | .array items => .array (mapItemTexts f items)
  | .object fields => .object (mapFieldTexts f fields)
  | j => j

def mapItemTexts (f : String → String) : List Json → List Json
  | [] => []
  | j :: js => mapTexts f j :: mapItemTexts f js

def mapFieldTexts (f : String → String) : List (String × Json) → List (String × Json)
  | [] => []
  | x :: xs => (f x.1, mapTexts f x.2) :: mapFieldTexts f xs
end

end Json

namespace Scenario

def mark (name : String) : String := "<" ++ name ++ ">"

/-- What is known of identifiers: those that a request holds, and the names of transactions. -/
structure Disclosure where
  given : List Uuid
  names : List (TransactionId × String)

/-- What stands in a text for an identifier. -/
def Disclosure.shown (d : Disclosure) (id : Uuid) : String :=
  match d.names.find? fun n => n.1.uuid = id with
  | some n => mark n.2
  | none => if id ∈ d.given then id.text else mark "id"

/-- The identifier in its written form at the start of a text. -/
def leadingId? (s : List Char) : Option Uuid :=
  (Uuid.ofHyphenated? (s.take 36)).filter fun id => id.text.toList = s.take 36

/-- Replaces the identifiers of a text. `skip` characters are left out first. -/
def Disclosure.redactChars (d : Disclosure) : (skip : Nat) → List Char → List Char
  | _, [] => []
  | skip + 1, _ :: s => d.redactChars skip s
  | 0, c :: s =>
    match leadingId? (c :: s) with
    | some id => (d.shown id).toList ++ d.redactChars 35 s
    | none => c :: d.redactChars 0 s

def Disclosure.redact (d : Disclosure) (s : String) : String :=
  String.ofList (d.redactChars 0 s.toList)

def Disclosure.redactJson (d : Disclosure) : Json → Json := Json.mapTexts d.redact

/-- A supply whose identifiers differ from all given ones: its upper half is the first number from
one on that no given one has there. -/
def freshSupply (given : List Uuid) : Nat :=
  let taken := given.map fun id => id.toNat / UInt64.size
  (((List.range (given.length + 1)).map (· + 1)).find? fun n => n ∉ taken).getD 0

end Scenario

end Transactor
