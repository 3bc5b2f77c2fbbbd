import Transactor.Text.Blank
import Transactor.Text.Decimal
import Transactor.Text.Quoted

namespace Transactor

/-- The most batches that one drain may hand over. -/
structure Settings where
  maxCycles : Nat
  deriving DecidableEq

structure InvalidSetting where
  key : String
  value : String
  reason : String
  deriving DecidableEq

def InvalidSetting.message (e : InvalidSetting) : String :=
  "invalid " ++ e.key ++ "=" ++ Text.quoted e.value ++ ": " ++ e.reason

namespace Settings

def default : Settings := ⟨128⟩

instance : Inhabited Settings := ⟨default⟩

def cyclesKey : String := "UNITWORK_MAX_CASCADE_CYCLES"

inductive BoundError where
  | numeral (e : Text.NumeralError)
  | zero
  deriving DecidableEq

def BoundError.reason : BoundError → String
  | .numeral e => e.message
  | .zero => "must allow at least one cycle"

/-- Reads a bound of 64 bits between blanks; it must allow a batch. -/
def readBound (raw : String) : Except BoundError Nat :=
  match Text.readNumeral Text.maxWord (Text.trim raw.toList) with
  | .error e => .error (.numeral e)
  | .ok 0 => .error .zero
  | .ok n => .ok n

/-- The settings under a lookup of variables; a variable that is not set leaves the default. -/
def ofLookup (lookup : String → Option String) : Except InvalidSetting Settings :=
  match lookup cyclesKey with
  | none => .ok default
  | some raw =>
    match readBound raw with
    | .ok n => .ok ⟨n⟩
    | .error e => .error ⟨cyclesKey, raw, e.reason⟩

/-- The settings under a lookup of raw variables; one that is no text counts as not set. -/
def ofBytes (lookup : String → Option ByteArray) : Except InvalidSetting Settings :=
  ofLookup fun key => (lookup key).bind String.fromUTF8?

/-- Sets the bound; zero becomes one. -/
def withMaxCycles (_ : Settings) (n : Nat) : Settings := ⟨max n 1⟩

end Settings

end Transactor
