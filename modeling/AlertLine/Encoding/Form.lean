import AlertLine.Encoding.Percent

/-!
# Form coding

The media type `application/x-www-form-urlencoded`: pairs joined by `&`, each a name and a value
around the first `=`, with `+` for a space. Reading never fails. Empty sequences are skipped, a
sequence without `=` is a name with an empty value, and bytes that are no UTF-8 become U+FFFD.
-/

namespace AlertLine.Form

/-- One name with its value. -/
abbrev Pair := String × String

/-- A space is what a plus sign stands for. -/
def plusToSpace (b : UInt8) : UInt8 :=
  if b == 0x2B then 0x20 else b

/-- The text of a coded name or value. -/
def decodeComponent (bs : Bytes) : String :=
  Utf8.decodeLossy (Percent.decode (bs.map plusToSpace))

/-- Splits a sequence at its first `=`. -/
def splitPair (bs : Bytes) : Bytes × Bytes :=
  (bs.takeWhile (· != 0x3D), (bs.dropWhile (· != 0x3D)).drop 1)

/-- The pair that a sequence stands for. -/
def decodePair (bs : Bytes) : Pair :=
  let parts := splitPair bs
  (decodeComponent parts.1, decodeComponent parts.2)

/-- The pairs of a coded body or query, in order. -/
def parse (bs : Bytes) : List Pair :=
  ((bs.splitOnP (· == 0x26)).filter fun part => !part.isEmpty).map decodePair

/-- The pairs of a query. -/
def parseQuery (query : String) : List Pair :=
  parse (Utf8.encode query)

/-- The characters that a form leaves as they are. -/
def isPlain (b : UInt8) : Bool :=
  let c := Char.ofNat b.toNat
  b < 0x80 && (c.isAlphanum || c == '*' || c == '-' || c == '.' || c == '_')

/-- One byte in its coded form. -/
def encodeByte (b : UInt8) : List Char :=
  if b == 0x20 then ['+'] else if isPlain b then [Char.ofNat b.toNat] else Percent.escape b

/-- A name or value in its coded form. -/
def encodeComponent (s : String) : String :=
  String.ofList ((Utf8.encode s).flatMap encodeByte)

/-- A pair in its coded form. -/
def encodePair (p : Pair) : String :=
  encodeComponent p.1 ++ "=" ++ encodeComponent p.2

/-- Pairs in their coded form. -/
def encode (ps : List Pair) : String :=
  "&".intercalate (ps.map encodePair)

end AlertLine.Form
