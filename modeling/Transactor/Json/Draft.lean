import Transactor.Json.Basic
import Transactor.Json.Number

namespace Transactor.Json

/-- A JSON value of which some parts may be unusable. Repeated fields are all kept. -/
inductive Draft where
  | flawed
  | null
  | bool (b : Bool)
  | int (n : Int)
  | float (bits : UInt64)
  | string (s : String)
  | array (items : List Draft)
  | object (fields : List (String × Draft))

mutual
def toDraft : Json → Draft
  | .null => .null
  | .bool b => .bool b
  | .int n => .int n
  | .float bits => .float bits
  | .string s => .string s
  | .array items => .array (toDrafts items)
  | .object fields => .object (toDraftFields fields)

def toDrafts : List Json → List Draft
  | [] => []
  | j :: js => toDraft j :: toDrafts js

def toDraftFields : List (String × Json) → List (String × Draft)
  | [] => []
  | f :: fs => (f.1, toDraft f.2) :: toDraftFields fs
end

namespace Draft

mutual
def value? : Draft → Option Json
  | .flawed => none
  | .null => some .null
  | .bool b => some (.bool b)
  | .int n => some (.int n)
  | .float bits => some (.float bits)
  | .string s => some (.string s)
  | .array items => (values? items).map .array
  | .object fields => (fieldValues? fields).map .object

def values? : List Draft → Option (List Json)
  | [] => some []
  | d :: ds => do return (← value? d) :: (← values? ds)

def fieldValues? : List (String × Draft) → Option (List (String × Json))
  | [] => some []
  | f :: fs => do return (f.1, ← value? f.2) :: (← fieldValues? fs)
end

end Draft

mutual
@[simp] theorem value?_toDraft : (j : Json) → j.toDraft.value? = some j
  | .null => rfl
  | .bool _ => rfl
  | .int _ => rfl
  | .float _ => rfl
  | .string _ => rfl
  | .array items => by simp [toDraft, Draft.value?, values?_toDrafts items]
  | .object fields => by simp [toDraft, Draft.value?, fieldValues?_toDraftFields fields]

theorem values?_toDrafts : (js : List Json) → Draft.values? (toDrafts js) = some js
  | [] => rfl
  | j :: js => by simp [toDrafts, Draft.values?, value?_toDraft j, values?_toDrafts js]

theorem fieldValues?_toDraftFields :
    (fs : List (String × Json)) → Draft.fieldValues? (toDraftFields fs) = some fs
  | [] => rfl
  | f :: fs => by
    simp [toDraftFields, Draft.fieldValues?, value?_toDraft f.2, fieldValues?_toDraftFields fs]
end

end Transactor.Json
