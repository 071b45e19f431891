import AlertLine.Text.Utf8

/-!
# The twisted Edwards curve of Ed25519

Points of `-x² + y² = 1 + d x² y²` over the field of `2^255 - 19` elements, in extended
coordinates `(X : Y : Z : T)` with `x = X / Z`, `y = Y / Z` and `x y = T / Z`. The addition law is
complete, so it holds for doubling and for points of small order as well.
-/

namespace AlertLine.Edwards

/-- The order of the field. -/
def fieldOrder : Nat := Nat.pow 2 255 - 19

/-- The order of the base point. -/
def groupOrder : Nat := Nat.pow 2 252 + 27742317777372353535851937790883648493

/-- The constant of the curve equation. -/
def curveConstant : Nat :=
  37095705934669439343138083508754565189542113879843219016388785533085940283555

/-- A square root of minus one. -/
def rootOfMinusOne : Nat :=
  19681161376707505956807079304988542015446066515923890162744021073123829784752

/-- Sum of two field elements. -/
def add (a b : Nat) : Nat := (a + b) % fieldOrder

/-- Difference of two field elements. -/
def sub (a b : Nat) : Nat := (a + (fieldOrder - b % fieldOrder)) % fieldOrder

/-- Product of two field elements. -/
def mul (a b : Nat) : Nat := a * b % fieldOrder

/-- Power of a field element, by its exponent's bits from the `n`th downwards. -/
def powBits (a e : Nat) : Nat → Nat → Nat
  | 0, r => r
  | n + 1, r =>
    let r' := mul r r
    powBits a e n (if e.testBit n then mul r' a else r')

/-- Power of a field element with an exponent below `2^256`. -/
def pow (a e : Nat) : Nat := powBits a e 256 1

/-- The inverse of a field element other than zero. -/
def inverse (a : Nat) : Nat := pow a (fieldOrder - 2)

/-- A point in extended coordinates. -/
structure Point where
  /-- The coordinate `X`. -/
  X : Nat
  /-- The coordinate `Y`. -/
  Y : Nat
  /-- The common denominator. -/
  Z : Nat
  /-- The coordinate `T`, equal to `X Y / Z`. -/
  T : Nat

namespace Point

/-- The neutral element. -/
def zero : Point := ⟨0, 1, 1, 0⟩

/-- The base point, whose `y` is four fifths. -/
def base : Point :=
  ofAffine
    15112221349535400772501151409588531511454012693041857206046113283949847762202
    46316835694926478169428394003475163141307993866256225615783033603165251855960
where
  /-- The point with the given affine coordinates. -/
  ofAffine (x y : Nat) : Point := ⟨x, y, 1, mul x y⟩

/-- The sum of two points. -/
def plus (p q : Point) : Point :=
  let a := mul (sub p.Y p.X) (sub q.Y q.X)
  let b := mul (add p.Y p.X) (add q.Y q.X)
  let c := mul (mul (mul 2 curveConstant) p.T) q.T
  let d := mul (mul 2 p.Z) q.Z
  let e := sub b a
  let f := sub d c
  let g := add d c
  let h := add b a
  ⟨mul e f, mul g h, mul f g, mul e h⟩

/-- The point with the opposite `x`. -/
def negate (p : Point) : Point :=
  ⟨sub 0 p.X, p.Y, p.Z, sub 0 p.T⟩

/-- The multiple of a point by the scalar's bits from the `n`th downwards. -/
def multipleBits (k : Nat) (p : Point) : Nat → Point → Point
  | 0, r => r
  | n + 1, r =>
    let r' := plus r r
    multipleBits k p n (if k.testBit n then plus r' p else r')

/-- The multiple of a point by a scalar below `2^256`. -/
def multiple (k : Nat) (p : Point) : Point :=
  multipleBits k p 256 zero

end Point

/-- The number with the given bytes, least significant first. -/
def natOfBytes (bs : Bytes) : Nat :=
  bs.foldr (fun b n => b.toNat + 256 * n) 0

/-- The first `n` bytes of a number, least significant first. -/
def bytesOfNat : Nat → Nat → Bytes
  | 0, _ => []
  | n + 1, k => UInt8.ofNat (k % 256) :: bytesOfNat n (k / 256)

/-- A square root of `u / v`, if there is one. -/
def rootOfRatio (u v : Nat) : Option Nat :=
  let v3 := mul (mul v v) v
  let v7 := mul (mul v3 v3) v
  let r := mul (mul u v3) (pow (mul u v7) ((fieldOrder - 5) / 8))
  let check := mul v (mul r r)
  if check == u % fieldOrder then some r
  else if check == sub 0 u then some (mul r rootOfMinusOne)
  else none

/-- The point that thirty-two bytes stand for: `y` with the sign of `x` in the highest bit. A `y`
that is not reduced counts modulo the field order, and a sign on `x = 0` is ignored. -/
def Point.decode (bs : Bytes) : Option Point :=
  let n := natOfBytes bs
  let y := n % Nat.pow 2 255 % fieldOrder
  let yy := mul y y
  match rootOfRatio (sub yy 1) (add (mul curveConstant yy) 1) with
  | none => none
  | some r =>
    let x := if (r % 2 == 1) == n.testBit 255 then r else sub 0 r
    some ⟨x, y, 1, mul x y⟩

/-- The thirty-two bytes that stand for a point. -/
def Point.encode (p : Point) : Bytes :=
  let z := inverse p.Z
  let x := mul p.X z
  let y := mul p.Y z
  bytesOfNat 32 (y + x % 2 * Nat.pow 2 255)

end AlertLine.Edwards
