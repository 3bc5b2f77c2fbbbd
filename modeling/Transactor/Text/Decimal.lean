namespace Transactor.Text

inductive NumeralError where
  | empty
  | invalidDigit
  | tooLarge
  deriving DecidableEq

def NumeralError.message : NumeralError → String
  | .empty => "cannot parse integer from empty string"
  | .invalidDigit => "invalid digit found in string"
  | .tooLarge => "number too large to fit in target type"

def digit? (c : Char) : Option Nat :=
  if '0' ≤ c ∧ c ≤ '9' then some (c.toNat - '0'.toNat) else none

/-- Reads digits from the left on top of the value read so far. A character that is no digit is
reported before an excess at the same place. -/
def readDigits (max : Nat) (acc : Nat) : List Char → Except NumeralError Nat
  | [] => .ok acc
  | c :: s =>
    match digit? c with
    | none => .error .invalidDigit
    | some d => if acc * 10 + d ≤ max then readDigits max (acc * 10 + d) s else .error .tooLarge

/-- The numeral's value if it is at most `max`. -/
def readNumeral (max : Nat) (s : List Char) : Except NumeralError Nat :=
  match s with
  | [] => .error .empty
  | '+' :: [] => .error .invalidDigit
  | '+' :: s => readDigits max 0 s
  | s => readDigits max 0 s

def maxWord : Nat := UInt64.size - 1

end Transactor.Text
