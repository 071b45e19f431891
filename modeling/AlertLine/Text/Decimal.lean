/-!
# Decimal numbers

Reading a signed or unsigned number of fixed width from ASCII digits. A sign may stand in front,
leading zeros do not matter, and every failure has its cause: no digits, a character that is no
digit, or a value outside the width. A number with a point or a power of ten is only asked whether
it lies in the range of doubles.
-/

namespace AlertLine.Decimal

/-- Why a text is no number of the wanted width. -/
inductive ReadError where
  /-- Nothing to read. -/
  | empty
  /-- A character that is no digit, or a sign without digits. -/
  | invalidDigit
  /-- More than the greatest value. -/
  | tooLarge
  /-- Less than the least value. -/
  | tooSmall
  deriving DecidableEq, Repr

/-- The wording of each cause. -/
def ReadError.message : ReadError → String
  | .empty => "cannot parse integer from empty string"
  | .invalidDigit => "invalid digit found in string"
  | .tooLarge => "number too large to fit in target type"
  | .tooSmall => "number too small to fit in target type"

/-- One of the characters `0` to `9`. -/
def isDigit (c : Char) : Bool := '0' ≤ c && c ≤ '9'

/-- The value of a digit character. -/
def digitValue (c : Char) : Nat := c.toNat - '0'.toNat

/-- The number that a list of digit characters denotes in base ten. -/
def value (ds : List Char) : Nat :=
  ds.foldl (fun n d => 10 * n + digitValue d) 0

/-- Reads digits after the number `n`, as long as the value stays within `limit`. A character that
is no digit counts before an overflow at the same place, and an overflow before anything that
follows it. -/
def readDigits (limit : Nat) (overflow : ReadError) : Nat → List Char → Except ReadError Nat
  | n, [] => .ok n
  | n, d :: ds =>
    if isDigit d then
      let m := 10 * n + digitValue d
      if m ≤ limit then readDigits limit overflow m ds else .error overflow
    else .error .invalidDigit

/-- Reads a non-empty list of digits within `limit`. -/
def readNat (limit : Nat) (overflow : ReadError) (ds : List Char) : Except ReadError Nat :=
  if ds.isEmpty then .error .invalidDigit else readDigits limit overflow 0 ds

/-- Reads a signed number of 64 bits: an optional sign, then digits. -/
def readInt64 (s : String) : Except ReadError Int64 :=
  match s.toList with
  | [] => .error .empty
  | '-' :: ds => (readNat (UInt64.size / 2) .tooSmall ds).map fun n => Int64.ofInt (-(n : Int))
  | '+' :: ds => (readNat (UInt64.size / 2 - 1) .tooLarge ds).map fun n => Int64.ofInt n
  | ds => (readNat (UInt64.size / 2 - 1) .tooLarge ds).map fun n => Int64.ofInt n

/-- Reads an unsigned number of 64 bits: digits, with at most a plus sign in front. -/
def readUInt64 (s : String) : Except ReadError UInt64 :=
  match s.toList with
  | [] => .error .empty
  | '+' :: ds => (readNat (UInt64.size - 1) .tooLarge ds).map UInt64.ofNat
  | ds => (readNat (UInt64.size - 1) .tooLarge ds).map UInt64.ofNat

/-! ## The range of doubles -/

/-- The midpoint between the greatest double and the next power of two, from which on a number is
out of range. -/
def doubleLimit : Nat := Nat.pow 2 1024 - Nat.pow 2 970

/-- A power of ten such that smaller numbers are in range. -/
def safePower : Int := 308

/-- Whether a whole number, scaled by a power of ten, lies in the range of doubles. The power is
taken only where it is near the end of the range. -/
def isInRange (n : Nat) (scale : Int) : Bool :=
  let digits : Int := (Nat.toDigits 10 n).length
  if n == 0 || digits + scale ≤ safePower then true
  else if safePower + 1 < digits + scale then false
  else n * Nat.pow 10 scale.toNat < doubleLimit * Nat.pow 10 (-scale).toNat

/-- The decimal text of a signed number. -/
def ofInt64 (n : Int64) : String := n.toInt.repr

end AlertLine.Decimal
