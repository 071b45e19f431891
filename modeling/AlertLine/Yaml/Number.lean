import AlertLine.Text.Decimal
import AlertLine.Yaml.Basic

/-!
# Words and numbers in YAML

What a text without quotes stands for: nothing, a truth value, a whole number in one of four bases,
a number with a point, or just itself.
-/

namespace AlertLine.Yaml

/-- The words for nothing. -/
def nullWords : List String := ["~", "null", "Null", "NULL"]

/-- The words for the truth values. -/
def truthWords : List (String × Bool) :=
  [("true", true), ("True", true), ("TRUE", true),
   ("false", false), ("False", false), ("FALSE", false)]

/-! ## Whole numbers -/

/-- The number that digits denote in a base, if there are digits. -/
def digitsIn? (base : Nat) (cs : List Char) : Option Nat :=
  if cs.isEmpty then none
  else cs.foldlM (fun n c => ((hexDigit? c).filter (· < base)).map fun d => base * n + d) 0

/-- Several digits of which the first is a zero. They write a text. -/
def isPadded (cs : List Char) : Bool :=
  1 < cs.length && cs.head? == some '0' && cs.all Char.isDigit

/-- The characters behind a sign. -/
def dropSign : List Char → List Char
  | '+' :: cs => cs
  | '-' :: cs => cs
  | cs => cs

/-- The number that a text without a sign denotes: in decimal without leading zeros, or in base 16,
8 or 2 behind `0x`, `0o` or `0b`. -/
def magnitude? : List Char → Option Nat
  | '0' :: 'x' :: ds => digitsIn? 16 ds
  | '0' :: 'o' :: ds => digitsIn? 8 ds
  | '0' :: 'b' :: ds => digitsIn? 2 ds
  | ds => if isPadded ds then none else digitsIn? 10 ds

/-- The whole number that a text denotes. -/
def integer? (text : String) : Option Int :=
  match text.toList with
  | '+' :: cs => (magnitude? cs).map Int.ofNat
  | '-' :: cs => (magnitude? cs).map fun n => -(n : Int)
  | cs => (magnitude? cs).map Int.ofNat

/-- Whether a whole number has 64 bits, with or without a sign. -/
def hasWidth64 (n : Int) : Bool := -(UInt64.size / 2 : Nat) ≤ n && n < UInt64.size

/-- Whether a whole number has 128 bits, with or without a sign. -/
def hasWidth128 (n : Int) : Bool :=
  -(Nat.pow 2 127 : Nat) ≤ n && n < (Nat.pow 2 128 : Nat)

/-- The unsigned number of 64 bits that a text denotes. -/
def unsigned? (text : String) : Option UInt64 :=
  match integer? text with
  | some n => if 0 ≤ n && n < UInt64.size then some (UInt64.ofNat n.toNat) else none
  | none => none

/-! ## Numbers with a point -/

/-- The words for numbers that are not finite. -/
def unboundedWords : List String :=
  [".inf", ".Inf", ".INF", "+.inf", "+.Inf", "+.INF", "-.inf", "-.Inf", "-.INF",
   ".nan", ".NaN", ".NAN"]

/-- The power of ten behind the digits of a number; zero if none is written. -/
def exponent? : List Char → Option Int
  | [] => some 0
  | e :: cs =>
    if e == 'e' || e == 'E' then
      match cs with
      | '+' :: ds => (digitsIn? 10 ds).map Int.ofNat
      | '-' :: ds => (digitsIn? 10 ds).map fun n => -(n : Int)
      | ds => (digitsIn? 10 ds).map Int.ofNat
    else none

/-- Whether a text without a sign denotes a number in the range of doubles: digits, perhaps with a
point among or around them, and perhaps a power of ten. -/
def isDecimal (cs : List Char) : Bool :=
  let whole := cs.takeWhile Char.isDigit
  let behind := cs.dropWhile Char.isDigit
  let hasPoint := behind.head? == some '.'
  let fraction := if hasPoint then behind.tail.takeWhile Char.isDigit else []
  let rest := if hasPoint then behind.tail.dropWhile Char.isDigit else behind
  match digitsIn? 10 (whole ++ fraction), exponent? rest with
  | some n, some e => Decimal.isInRange n (e - fraction.length)
  | _, _ => false

/-- Whether a text denotes a number with a point or a power of ten, or one that is not finite. -/
def isReal (text : String) : Bool :=
  unboundedWords.contains text || isDecimal (dropSign text.toList)

end AlertLine.Yaml
