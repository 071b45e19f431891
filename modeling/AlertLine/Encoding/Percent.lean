import AlertLine.Text.Utf8

/-!
# Percent coding

A byte that may not stand by itself is written `%XX` in upper-case hexadecimal. Which bytes may
stand by themselves is a parameter. Decoding leaves a percent sign alone when no two hexadecimal
digits follow it.
-/

namespace AlertLine.Percent

/-- The upper-case hexadecimal digit of a number below sixteen. -/
def hexDigit (n : Nat) : Char :=
  if n < 10 then Char.ofNat ('0'.toNat + n) else Char.ofNat ('A'.toNat + (n - 10))

/-- The value of a hexadecimal digit in either case. -/
def hexValue? (b : UInt8) : Option Nat :=
  let n := b.toNat
  if 0x30 ≤ n && n ≤ 0x39 then some (n - 0x30)
  else if 0x41 ≤ n && n ≤ 0x46 then some (n - 0x41 + 10)
  else if 0x61 ≤ n && n ≤ 0x66 then some (n - 0x61 + 10)
  else none

/-- The escape of a byte. -/
def escape (b : UInt8) : List Char :=
  ['%', hexDigit (b.toNat / 16), hexDigit (b.toNat % 16)]

/-- The bytes as text: those that may stand alone as they are, all others escaped. -/
def encodeBytes (alone : UInt8 → Bool) (bs : Bytes) : List Char :=
  bs.flatMap fun b => if alone b then [Char.ofNat b.toNat] else escape b

/-- The text with every byte escaped that may not stand alone. -/
def encode (alone : UInt8 → Bool) (s : String) : String :=
  String.ofList (encodeBytes alone (Utf8.encode s))

/-- Decodes on, with the bytes so far in reverse. -/
def decodeFrom (done : Bytes) : Bytes → Bytes
  | [] => done.reverse
  | b :: rest =>
    if b == 0x25 then
      match rest with
      | h :: l :: rest' =>
        match hexValue? h, hexValue? l with
        | some x, some y => decodeFrom (UInt8.ofNat (16 * x + y) :: done) rest'
        | _, _ => decodeFrom (b :: done) (h :: l :: rest')
      | short => decodeFrom (b :: done) short
    else decodeFrom (b :: done) rest
termination_by bs => bs.length

/-- The bytes with each escape replaced by the byte that it stands for. -/
def decode (bs : Bytes) : Bytes :=
  decodeFrom [] bs

/-- Letters, digits and `-`, `.`, `_`, `~`: the characters that no URI component has to escape. -/
def isUnreserved (b : UInt8) : Bool :=
  let c := Char.ofNat b.toNat
  b < 0x80 && (c.isAlphanum || c == '-' || c == '.' || c == '_' || c == '~')

/-- A text as one segment of a path: everything but unreserved characters is escaped. -/
def encodeSegment (s : String) : String :=
  encode isUnreserved s

end AlertLine.Percent
