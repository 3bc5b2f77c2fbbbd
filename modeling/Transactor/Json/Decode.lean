import Transactor.Json.Draft
import Transactor.Double.Text
import Transactor.Text.Quoted
import Transactor.Uuid
import Transactor.Instant.Text

namespace Transactor.Json

/-- What an error says it has found. -/
inductive Found where
  | null
  | bool (b : Bool)
  | int (n : Int)
  | float (bits : UInt64)
  | string (s : String)
  | sequence
  | map
  | unitVariant

def Found.text : Found → String
  | .null => "null"
  | .bool b => "boolean `" ++ (if b then "true" else "false") ++ "`"
  | .int n => "integer `" ++ toString n ++ "`"
  | .float bits => "floating point `" ++ Double.text bits ++ "`"
  | .string s => "string " ++ Text.quoted s
  | .sequence => "sequence"
  | .map => "map"
  | .unitVariant => "unit variant"

inductive DecodeError where
  | wrongType (found : Found) (expected : String)
  | wrongValue (found : Found) (expected : String)
  | wrongLength (length : Nat) (expected : String)
  | missingField (name : String)
  | repeatedField (name : String)
  | unknownVariant (name : String) (known : List String)
  | badUuid (flaw : UuidFlaw)
  | badInstant
  | flawed

/-- The known names, as an error lists them. -/
def knownText (names : List String) : String :=
  match names with
  | [a, b] => "expected `" ++ a ++ "` or `" ++ b ++ "`"
  | names => "expected one of " ++ String.intercalate ", " (names.map fun n => "`" ++ n ++ "`")

def DecodeError.message : DecodeError → String
  | .wrongType found expected => "invalid type: " ++ found.text ++ ", expected " ++ expected
  | .wrongValue found expected => "invalid value: " ++ found.text ++ ", expected " ++ expected
  | .wrongLength n expected => "invalid length " ++ toString n ++ ", expected " ++ expected
  | .missingField name => "missing field `" ++ name ++ "`"
  | .repeatedField name => "duplicate field `" ++ name ++ "`"
  | .unknownVariant name known => "unknown variant `" ++ name ++ "`, " ++ knownText known
  | .badUuid flaw => "UUID parsing failed: " ++ flaw.message
  | .badInstant => "bad timestamp"
  | .flawed => "unusable value"

abbrev Decoded (α : Type) := Except DecodeError α

namespace Draft

/-- Refuses the draft as not of the expected kind. -/
def refuse (d : Draft) (expected : String) : Decoded α :=
  match d with
  | .flawed => .error .flawed
  | .null => .error (.wrongType .null expected)
  | .bool b => .error (.wrongType (.bool b) expected)
  | .int n => .error (.wrongType (.int n) expected)
  | .float bits => .error (.wrongType (.float bits) expected)
  | .string s => .error (.wrongType (.string s) expected)
  | .array _ => .error (.wrongType .sequence expected)
  | .object _ => .error (.wrongType .map expected)

def asString : Draft → Decoded String
  | .string s => .ok s
  | d => d.refuse "a string"

def asUuid : Draft → Decoded Uuid
  | .string s => (Uuid.read s).mapError .badUuid
  | d => d.refuse "a formatted UUID string"

def asInstant : Draft → Decoded Instant
  | .string s => match Instant.parse? s with
    | some t => .ok t
    | none => .error .badInstant
  | d => d.refuse "an RFC 3339 formatted date and time string"

def asWord : Draft → Decoded UInt32
  | .int n =>
    if 0 ≤ n ∧ n < UInt32.size then .ok (UInt32.ofNat n.toNat)
    else .error (.wrongValue (.int n) "u32")
  | d => d.refuse "u32"

def asValue (d : Draft) : Decoded Json :=
  match d.value? with
  | some j => .ok j
  | none => .error .flawed

def asOptional (decode : Draft → Decoded α) : Draft → Decoded (Option α)
  | .null => .ok none
  | d => (decode d).map some

def asList (decode : Draft → Decoded α) : Draft → Decoded (List α)
  | .array items => items.mapM decode
  | d => d.refuse "a sequence"

def field? (fields : List (String × Draft)) (name : String) (decode : Draft → Decoded α) :
    Decoded (Option α) :=
  match fields.filter fun f => f.1 == name with
  | [] => .ok none
  | [f] => (decode f.2).map some
  | _ => .error (.repeatedField name)

/-- The field's value, or the error that it is missing. -/
def required (name : String) : Option α → Decoded α
  | some a => .ok a
  | none => .error (.missingField name)

structure RecordShape where
  name : String
  size : Nat

def RecordShape.text (r : RecordShape) : String := "struct " ++ r.name

/-- The part at a place of a record written as a list. -/
def part (r : RecordShape) (items : List Draft) (i : Nat) (decode : Draft → Decoded α) :
    Decoded α :=
  match items[i]? with
  | some d => decode d
  | none =>
    .error (.wrongLength items.length (r.text ++ " with " ++ toString r.size ++ " elements"))

/-- Nothing may follow the last part. -/
def noMore (r : RecordShape) (items : List Draft) : Decoded Unit :=
  if items.length ≤ r.size then .ok ()
  else .error (.wrongLength items.length "fewer elements in array")

/-- A record from an object or from a list of its parts. -/
def asRecord (r : RecordShape) (ofFields : List (String × Draft) → Decoded α)
    (ofParts : List Draft → Decoded α) : Draft → Decoded α
  | .object fields => ofFields fields
  | .array items => do
    let a ← ofParts items
    noMore r items
    return a
  | d => d.refuse r.text

/-- A choice between names: a bare name, or an object with the name and its content. -/
def asVariant (known : List String) (bare : String → Decoded α)
    (content : String → Draft → Decoded α) : Draft → Decoded α
  | .string s => if s ∈ known then bare s else .error (.unknownVariant s known)
  | .object [f] =>
    if f.1 ∈ known then content f.1 f.2 else .error (.unknownVariant f.1 known)
  | .object _ => .error (.wrongValue .map "map with a single key")
  | d => d.refuse "string or map"

/-- The empty content of a bare name. -/
def asUnit : Draft → Decoded Unit
  | .null => .ok ()
  | d => d.refuse "unit"

end Draft

end Transactor.Json
