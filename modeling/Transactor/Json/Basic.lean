namespace Transactor

/-- A JSON value. Whole numbers of 64 bits, signed or not, are kept as they are; any other number is
a double, held by its bits. Fields stand in the order written. -/
inductive Json where
  | null
  | bool (b : Bool)
  | int (n : Int)
  | float (bits : UInt64)
  | string (s : String)
  | array (items : List Json)
  | object (fields : List (String × Json))

namespace Json

/-- The value of a field; of a repeated name the last one counts. -/
def field? (name : String) : Json → Option Json
  | .object fields => (fields.reverse.find? fun f => f.1 == name).map Prod.snd
  | _ => none

def setField (j : Json) (name : String) (value : Json) : Json :=
  match j with
  | .object fields => .object (fields.map fun f => if f.1 == name then (f.1, value) else f)
  | j => j

mutual
/-- Drops every field whose name comes again later. -/
def lastWins : Json → Json
  | .array items => .array (lastWinsItems items)
  | .object fields => .object (lastWinsFields fields)
  | j => j

def lastWinsItems : List Json → List Json
  | [] => []
  | j :: js => lastWins j :: lastWinsItems js

def lastWinsFields : List (String × Json) → List (String × Json)
  | [] => []
  | f :: fs =>
    let rest := lastWinsFields fs
    if fs.any fun g => g.1 == f.1 then rest else (f.1, lastWins f.2) :: rest
end

def strings (xs : List String) : Json := .array (xs.map .string)

def nat (n : Nat) : Json := .int n

def ofOption (f : α → Json) : Option α → Json
  | some a => f a
  | none => .null

end Json

end Transactor
