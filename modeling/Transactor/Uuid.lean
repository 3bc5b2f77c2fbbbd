namespace Transactor

structure Uuid where
  bits : BitVec 128
  deriving DecidableEq

namespace Uuid

def ofNat (n : Nat) : Uuid := ⟨BitVec.ofNat 128 n⟩

def toNat (u : Uuid) : Nat := u.bits.toNat

/-- The digit at a place counted from the right. -/
def nibble (u : Uuid) (i : Nat) : Nat := u.toNat / Nat.pow 16 i % 16

def digits (u : Uuid) : List Char := (List.range 32).map fun i => Nat.digitChar (u.nibble (31 - i))

/-- Puts the hyphens between the groups of 32 digits. -/
def hyphenate (ds : List Char) : List Char :=
  ds.take 8 ++ '-' :: (ds.drop 8).take 4 ++ '-' :: (ds.drop 12).take 4 ++ '-' :: (ds.drop 16).take 4
    ++ '-' :: ds.drop 20

def text (u : Uuid) : String := String.ofList (hyphenate u.digits)

def hexDigit? (c : Char) : Option Nat :=
  if '0' ≤ c ∧ c ≤ '9' then some (c.toNat - '0'.toNat)
  else if 'a' ≤ c ∧ c ≤ 'f' then some (c.toNat - 'a'.toNat + 10)
  else if 'A' ≤ c ∧ c ≤ 'F' then some (c.toNat - 'A'.toNat + 10)
  else none

/-- The number that the hexadecimal digits stand for, on top of the value read so far. -/
def readHex (acc : Nat) : List Char → Option Nat
  | [] => some acc
  | c :: s => do readHex (acc * 16 + (← hexDigit? c)) s

def ofDigits? (s : List Char) : Option Uuid :=
  if s.length = 32 then (readHex 0 s).map ofNat else none

/-- Removes the hyphens if they stand at the four places between the groups. -/
def unhyphenate? (s : List Char) : Option (List Char) :=
  let ds := s.take 8 ++ (s.drop 9).take 4 ++ (s.drop 14).take 4 ++ (s.drop 19).take 4 ++ s.drop 24
  if s.length = 36 ∧ s = hyphenate ds then some ds else none

def ofHyphenated? (s : List Char) : Option Uuid := (unhyphenate? s).bind ofDigits?

/-- The scheme that may stand in front of a hyphenated identifier, in either case. -/
def scheme : List Char := "urn:uuid:".toList

/-- Reads an identifier: bare digits, hyphenated digits, or hyphenated digits in braces or behind
the scheme. -/
def ofChars? (s : List Char) : Option Uuid :=
  match s.length with
  | 32 => ofDigits? s
  | 36 => ofHyphenated? s
  | 38 => if s.head? = some '\x7b' ∧ s.getLast? = some '\x7d' then ofHyphenated? (s.drop 1).dropLast
      else none
  | 45 => if (s.take 9).map Char.toLower = scheme then ofHyphenated? (s.drop 9) else none
  | _ => none

def parse? (s : String) : Option Uuid := ofChars? s.toList

end Uuid

/-- Why a text is no identifier. Places and groups are counted from 0. -/
inductive UuidFlaw where
  | character (c : Char) (place : Nat)
  | length (found : Nat)
  | groupCount (found : Nat)
  | groupLength (group expected found : Nat)
  deriving DecidableEq

namespace UuidFlaw

def message : UuidFlaw → String
  | .character c place =>
    "invalid character: found `" ++ String.singleton c ++ "` at " ++ toString place
  | .length n => "invalid length: found " ++ toString n
  | .groupCount n => "invalid group count: expected 5, found " ++ toString n
  | .groupLength group expected found =>
    "invalid group length in group " ++ toString group ++ ": expected " ++ toString expected
      ++ ", found " ++ toString found

def size (s : List Char) : Nat := (String.ofList s).utf8ByteSize

def braced (s : List Char) : Bool := s.head? = some '\x7b' && s.getLast? = some '\x7d'

def schemed (s : List Char) : Bool := (s.take 9).map Char.toLower = Uuid.scheme

/-- What is to be a hyphenated identifier, by its size and what stands around it. -/
def hyphenatedPart? (s : List Char) : Option (List Char) :=
  if size s = 36 then some s
  else if size s = 38 ∧ braced s then some (s.drop 1).dropLast
  else if size s = 45 ∧ schemed s then some (s.drop 9)
  else none

/-- What stands in braces or behind the scheme, and the number of characters in front of it. -/
def unwrap (s : List Char) : List Char × Nat :=
  if braced s then ((s.drop 1).dropLast, 1) else if schemed s then (s.drop 9, 9) else (s, 0)

def groupLengths (current : Nat) : List Char → List Nat
  | [] => [current]
  | c :: s => if c = '-' then current :: groupLengths 0 s else groupLengths (current + 1) s

/-- The first group that has not its length. If it is none of the first four it is the last, which
is taken to hold all of the text but the 24 characters in front of it, a brace too. -/
def wrongGroup (length : Nat) (groups : List Nat) : UuidFlaw :=
  match ((groups.zip [8, 4, 4, 4]).zipIdx).find? fun g => g.1.1 ≠ g.1.2 with
  | some ((found, expected), place) => .groupLength place expected found
  | none => .groupLength 4 12 (length - 24)

/-- The flaw by the groups: a strange character, or else groups of digits that are too many, too
few, too long or too short. `front` characters stand before them in a text of the given length. -/
def ofGroups (front length : Nat) (body : List Char) : UuidFlaw :=
  match body.findIdx? fun c => c ≠ '-' && (Uuid.hexDigit? c).isNone with
  | some i => .character (body.getD i '-') (front + i)
  | none =>
    let groups := groupLengths 0 body
    if groups.length ≠ 5 then .groupCount groups.length else wrongGroup length groups

/-- The flaw of a text that is no identifier. One that is longer than every spelling is not looked
into, and one of nothing but digits has too many or too few of them. -/
def ofChars (s : List Char) : UuidFlaw :=
  if 45 < size s then .length (size s)
  else match hyphenatedPart? s with
    | some body => ofGroups 0 body.length body
    | none =>
      if s.all fun c => (Uuid.hexDigit? c).isSome then .length s.length
      else ofGroups (unwrap s).2 s.length (unwrap s).1

end UuidFlaw

/-- Reads an identifier or tells the flaw of the text. -/
def Uuid.read (s : String) : Except UuidFlaw Uuid :=
  match Uuid.parse? s with
  | some u => .ok u
  | none => .error (.ofChars s.toList)

end Transactor
