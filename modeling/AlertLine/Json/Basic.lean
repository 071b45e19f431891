import AlertLine.Text.Decimal

/-!
# JSON values

A document as a tree that forgets nothing a reader may ask about: objects keep the order of their
entries and repeated names, numbers keep whether they were written as integers, and a string may
have no Unicode reading (a lone surrogate, or bytes that are no UTF-8). Whether such a string is
an error depends on whether anyone looks at it.
-/

namespace AlertLine

/-- A number as written. -/
structure Json.Number where
  /-- Whether a minus sign stands in front. -/
  negative : Bool
  /-- The number in front of the decimal point. -/
  whole : Nat
  /-- The digits behind the decimal point; none if there is no point. -/
  fraction : List Char
  /-- The power of ten, if one is written. -/
  exponent : Option Int
  deriving DecidableEq, Repr

/-- What a string literal says, or nothing if it has no Unicode reading. -/
abbrev Json.Reading := Option String

/-- A JSON value. -/
inductive Json where
  /-- The literal `null`. -/
  | null
  /-- A truth value. -/
  | bool (b : Bool)
  /-- A number. -/
  | number (n : Json.Number)
  /-- A string. -/
  | string (s : Json.Reading)
  /-- Items in order. -/
  | array (items : List Json)
  /-- Named entries in order; a name may occur more than once. -/
  | object (entries : List (Json.Reading × Json))
  deriving Inhabited

namespace Json

/-- The number that stands for an integer. -/
def Number.ofInt (n : Int) : Number := ⟨n < 0, n.natAbs, [], none⟩

/-- The integer that a number was written as. A point, a power of ten and a minus sign in front
of zero make a number something else. -/
def Number.toInt? (n : Number) : Option Int :=
  if n.fraction.isEmpty && n.exponent.isNone then
    if n.negative then (if n.whole == 0 then none else some (-(n.whole : Int)))
    else some n.whole
  else none

/-- An integer is read back from the number that stands for it. -/
theorem Number.toInt?_ofInt (n : Int) : (Number.ofInt n).toInt? = some n := by
  cases n with
  | ofNat m =>
    have h : decide (Int.ofNat m < 0) = false :=
      decide_eq_false (Int.not_lt.2 (Int.natCast_nonneg m))
    unfold ofInt toInt?
    rw [h]
    rfl
  | negSucc m =>
    have h : decide (Int.negSucc m < 0) = true := decide_eq_true (Int.negSucc_lt_zero m)
    unfold ofInt toInt?
    rw [h]
    rfl

/-! ## The range of a number

A number that is no integer of 64 bits is taken as a double. Its digits are collected in 64 bits as
long as they fit; the sum and a power of ten are doubles, and so is their product. The number is
out of range if the product is.
-/

/-- Digits collected in 64 bits, and the power of ten that they are scaled by. -/
structure Mantissa where
  /-- The digits collected. -/
  value : Nat
  /-- The power of ten. -/
  scale : Int
  /-- Whether a digit did not fit. -/
  isFull : Bool

namespace Mantissa

/-- One more digit in front of the point: once one does not fit, it and all behind it only count. -/
def pushWhole (m : Mantissa) (c : Char) : Mantissa :=
  if m.isFull || UInt64.size ≤ 10 * m.value + Decimal.digitValue c then
    { m with scale := m.scale + 1, isFull := true }
  else { m with value := 10 * m.value + Decimal.digitValue c }

/-- One more digit behind the point: once one does not fit, it and all behind it are dropped. -/
def pushFraction (m : Mantissa) (c : Char) : Mantissa :=
  if m.isFull || UInt64.size ≤ 10 * m.value + Decimal.digitValue c then { m with isFull := true }
  else ⟨10 * m.value + Decimal.digitValue c, m.scale - 1, false⟩

end Mantissa

/-- The digits of a number, scaled by the place of its point. -/
def Number.mantissa (n : Number) : Mantissa :=
  let whole := (Nat.toDigits 10 n.whole).foldl Mantissa.pushWhole ⟨0, 0, false⟩
  n.fraction.foldl Mantissa.pushFraction { whole with isFull := false }

/-- The double nearest to a natural number; of two, the even one. -/
def nearestDouble (n : Nat) : Nat :=
  let unit := Nat.pow 2 (n.log2 - 52)
  let whole := n / unit
  let rest := n % unit
  if unit < 2 * rest || (2 * rest == unit && whole % 2 == 1) then (whole + 1) * unit
  else whole * unit

/-- The greatest power of ten that is a double. -/
def greatestPower : Nat := 308

/-- Whether a number is an integer of 64 bits or in the range of doubles. -/
def Number.isFinite (n : Number) : Bool :=
  let m := n.mantissa
  let scale := m.scale + n.exponent.getD 0
  if m.value == 0 || scale < 0 then true
  else if (greatestPower : Int) < scale then false
  else nearestDouble m.value * nearestDouble (Nat.pow 10 scale.toNat) < Decimal.doubleLimit

/-- A string with a reading. -/
def ofString (s : String) : Json := .string (some s)

/-- An integer. -/
def ofInt (n : Int) : Json := .number (.ofInt n)

/-- A signed number of 64 bits. -/
def ofInt64 (n : Int64) : Json := ofInt n.toInt

/-- A natural number. -/
def ofNat (n : Nat) : Json := ofInt n

/-- A value that may be missing, as `null` when it is. -/
def ofOption {α : Type} (f : α → Json) : Option α → Json
  | none => .null
  | some a => f a

/-- An object with the given names and values. -/
def obj (entries : List (String × Json)) : Json :=
  .object (entries.map fun e => (some e.1, e.2))

/-- Whether the value can be taken in whole: every string has a reading, every number is finite,
and containers nest at most `room` deep. -/
def isSound : Nat → Json → Bool
  | _, .null => true
  | _, .bool _ => true
  | _, .number n => n.isFinite
  | _, .string s => s.isSome
  | 0, .array _ => false
  | room + 1, .array items => items.all (isSound room)
  | 0, .object _ => false
  | room + 1, .object entries => entries.all fun e => e.1.isSome && isSound room e.2

end Json
end AlertLine
