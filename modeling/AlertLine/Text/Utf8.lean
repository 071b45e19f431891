/-!
# UTF-8

A byte sequence is read as a list of readings: a character for each well-formed sequence, and
one `none` for each maximal ill-formed part, so that strict and lenient decoding are two views
of one scan. A part that is ill-formed never takes in an ASCII byte.
-/

namespace AlertLine

/-- Raw bytes, as they arrive in a body or a header. -/
abbrev Bytes := List UInt8

namespace Utf8

/-- The bytes of a text. -/
def encode (s : String) : Bytes :=
  s.toUTF8.data.toList

/-- A continuation byte, `10xxxxxx`. -/
def isTail (b : UInt8) : Bool := 0x80 ≤ b && b ≤ 0xBF

/-- The six payload bits of a continuation byte. -/
def tailBits (b : UInt8) : Nat := b.toNat % 64

/-- The first continuation byte that may follow the lead byte of a longer sequence. The narrowed
ranges keep out overlong forms, surrogates and code points above U+10FFFF. -/
def isSecond (lead b : UInt8) : Bool :=
  if lead == 0xE0 then 0xA0 ≤ b && b ≤ 0xBF
  else if lead == 0xED then 0x80 ≤ b && b ≤ 0x9F
  else if lead == 0xF0 then 0x90 ≤ b && b ≤ 0xBF
  else if lead == 0xF4 then 0x80 ≤ b && b ≤ 0x8F
  else isTail b

/-- How many continuation bytes a lead byte asks for, if it can lead a sequence. -/
def tailCount (lead : UInt8) : Option Nat :=
  if lead < 0x80 then some 0
  else if 0xC2 ≤ lead && lead ≤ 0xDF then some 1
  else if 0xE0 ≤ lead && lead ≤ 0xEF then some 2
  else if 0xF0 ≤ lead && lead ≤ 0xF4 then some 3
  else none

/-- The reading of the first sequence of a non-empty input, and how many bytes it takes beyond
the lead byte. -/
def readFirst (lead : UInt8) (rest : Bytes) : Option Char × Nat :=
  match tailCount lead with
  | none => (none, 0)
  | some 0 => (some (Char.ofNat lead.toNat), 0)
  | some 1 =>
    match rest with
    | b :: _ =>
      if isSecond lead b then
        (some (Char.ofNat (lead.toNat % 32 * 64 + tailBits b)), 1)
      else (none, 0)
    | [] => (none, 0)
  | some 2 =>
    match rest with
    | b :: c :: _ =>
      if isSecond lead b then
        if isTail c then
          (some (Char.ofNat ((lead.toNat % 16 * 64 + tailBits b) * 64 + tailBits c)), 2)
        else (none, 1)
      else (none, 0)
    | [b] => (none, if isSecond lead b then 1 else 0)
    | [] => (none, 0)
  | some _ =>
    match rest with
    | b :: c :: d :: _ =>
      if isSecond lead b then
        if isTail c then
          if isTail d then
            (some (Char.ofNat
              (((lead.toNat % 8 * 64 + tailBits b) * 64 + tailBits c) * 64 + tailBits d)), 3)
          else (none, 2)
        else (none, 1)
      else (none, 0)
    | [b, c] => (none, if isSecond lead b then (if isTail c then 2 else 1) else 0)
    | [b] => (none, if isSecond lead b then 1 else 0)
    | [] => (none, 0)

/-- Scans on, with the readings so far in reverse. -/
def scanFrom (done : List (Option Char)) (bs : Bytes) : List (Option Char) :=
  match bs with
  | [] => done.reverse
  | lead :: rest =>
    let first := readFirst lead rest
    scanFrom (first.1 :: done) (rest.drop first.2)
termination_by bs.length
decreasing_by simp only [List.length_drop, List.length_cons]; omega

/-- The readings of a byte sequence: characters, and `none` for each maximal ill-formed part. -/
def scan (bs : Bytes) : List (Option Char) :=
  scanFrom [] bs

/-- The text that the bytes encode, if they are well-formed throughout. -/
def decode? (bs : Bytes) : Option String :=
  ((scan bs).mapM id).map String.ofList

/-- The text that the bytes encode, with U+FFFD for each ill-formed part. -/
def decodeLossy (bs : Bytes) : String :=
  String.ofList ((scan bs).map fun c => c.getD '\uFFFD')

end Utf8
end AlertLine
