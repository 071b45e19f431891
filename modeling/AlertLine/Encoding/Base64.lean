import AlertLine.Text.Utf8

/-!
# Base64

The standard alphabet with padding, read strictly: whole groups of four characters, padding at
the end and nowhere else, unused trailing bits zero, no white space.
-/

namespace AlertLine.Base64

/-- The value of a character of the alphabet. -/
def value? (b : UInt8) : Option Nat :=
  let n := b.toNat
  if 0x41 ≤ n && n ≤ 0x5A then some (n - 0x41)
  else if 0x61 ≤ n && n ≤ 0x7A then some (n - 0x61 + 26)
  else if 0x30 ≤ n && n ≤ 0x39 then some (n - 0x30 + 52)
  else if n == 0x2B then some 62
  else if n == 0x2F then some 63
  else none

/-- The padding character. -/
def pad : UInt8 := 0x3D

/-- The bytes of a last group, which alone may be padded. -/
def decodeLast (a b c d : UInt8) : Option Bytes := do
  let x ← value? a
  let y ← value? b
  if c == pad && d == pad then
    if y % 16 == 0 then some [UInt8.ofNat (x * 4 + y / 16)] else none
  else
    let z ← value? c
    if d == pad then
      if z % 4 == 0 then
        some [UInt8.ofNat (x * 4 + y / 16), UInt8.ofNat (y % 16 * 16 + z / 4)]
      else none
    else
      let w ← value? d
      some [UInt8.ofNat (x * 4 + y / 16), UInt8.ofNat (y % 16 * 16 + z / 4),
        UInt8.ofNat (z % 4 * 64 + w)]

/-- The bytes of a group that others follow. -/
def decodeGroup (a b c d : UInt8) : Option Bytes :=
  if c == pad || d == pad then none else decodeLast a b c d

/-- Decodes on, with the bytes so far in reverse. -/
def decodeFrom (done : Bytes) : Bytes → Option Bytes
  | [] => some done.reverse
  | [a, b, c, d] => (decodeLast a b c d).map fun last => done.reverse ++ last
  | a :: b :: c :: d :: rest =>
    match decodeGroup a b c d with
    | some group => decodeFrom (group.reverse ++ done) rest
    | none => none
  | _ => none

/-- The bytes that a coded text stands for, if it is well-formed. -/
def decode (bs : Bytes) : Option Bytes :=
  decodeFrom [] bs

/-- The character for a value below sixty-four. -/
def character (n : Nat) : UInt8 :=
  if n < 26 then UInt8.ofNat (0x41 + n)
  else if n < 52 then UInt8.ofNat (0x61 + (n - 26))
  else if n < 62 then UInt8.ofNat (0x30 + (n - 52))
  else if n == 62 then 0x2B
  else 0x2F

/-- The coded form of a byte sequence. -/
def encode : Bytes → Bytes
  | [] => []
  | [a] => [character (a.toNat / 4), character (a.toNat % 4 * 16), pad, pad]
  | [a, b] =>
    [character (a.toNat / 4), character (a.toNat % 4 * 16 + b.toNat / 16),
      character (b.toNat % 16 * 4), pad]
  | a :: b :: c :: rest =>
    character (a.toNat / 4) :: character (a.toNat % 4 * 16 + b.toNat / 16) ::
      character (b.toNat % 16 * 4 + c.toNat / 64) :: character (c.toNat % 64) :: encode rest

end AlertLine.Base64
