import Transactor.Json.Basic
import Transactor.Double.Text

namespace Transactor.Json

def escapeChar (c : Char) : List Char :=
  match c with
  | '"' => ['\\', '"']
  | '\\' => ['\\', '\\']
  | '\n' => ['\\', 'n']
  | '\r' => ['\\', 'r']
  | '\t' => ['\\', 't']
  | c =>
    if c.toNat < 0x20 then
      ['\\', 'u', '0', '0', Nat.digitChar (c.toNat / 16), Nat.digitChar (c.toNat % 16)]
    else [c]

def stringText (s : String) : String :=
  "\"" ++ String.ofList (s.toList.flatMap escapeChar) ++ "\""

def intText (n : Int) : String :=
  if n < 0 then "-" ++ String.ofList (Nat.toDigits 10 n.natAbs)
  else String.ofList (Nat.toDigits 10 n.natAbs)

def joined (xs : List String) : String := String.intercalate "," xs

mutual
/-- A double that is not finite has no JSON text and is shown as null. -/
def render : Json → String
  | .null => "null"
  | .bool b => if b then "true" else "false"
  | .int n => intText n
  | .float bits => if Double.isFinite bits then Double.text bits else "null"
  | .string s => stringText s
  | .array items => "[" ++ joined (renderItems items) ++ "]"
  | .object fields => "\x7b" ++ joined (renderFields fields) ++ "\x7d"

def renderItems : List Json → List String
  | [] => []
  | j :: js => render j :: renderItems js

def renderFields : List (String × Json) → List String
  | [] => []
  | f :: fs => (stringText f.1 ++ ":" ++ render f.2) :: renderFields fs
end

end Transactor.Json
