import AlertLine.Encoding.Percent
import AlertLine.Url.Basic
import AlertLine.Url.DomainName

/-!
# Hosts

A host is a domain name, an IPv4 address in any of its spellings, or an IPv6 address in brackets;
each is kept in its shortest usual form. Outside the web's schemes a host is any text without the
characters that separate the parts of an address.
-/

namespace AlertLine.Host

/-! ## IPv4 -/

/-- A digit in one of the bases of IPv4 parts. -/
def digitIn? (base : Nat) (c : Char) : Option Nat :=
  let d? :=
    if c.isDigit then some (c.toNat - '0'.toNat)
    else if 'a' ≤ c && c ≤ 'f' then some (c.toNat - 'a'.toNat + 10)
    else if 'A' ≤ c && c ≤ 'F' then some (c.toNat - 'A'.toNat + 10)
    else none
  d?.filter (· < base)

/-- The number that digits denote in a base; no digits denote zero. -/
def numberIn? (base : Nat) (cs : List Char) : Option Nat :=
  cs.foldlM (fun n c => (digitIn? base c).map fun d => base * n + d) 0

/-- One part of an IPv4 address: decimal, octal behind a zero, hexadecimal behind `0x`. -/
def ipv4Part? : List Char → Option Nat
  | [] => none
  | '0' :: 'x' :: cs => numberIn? 16 cs
  | '0' :: 'X' :: cs => numberIn? 16 cs
  | '0' :: c :: cs => numberIn? 8 (c :: cs)
  | cs => numberIn? 10 cs

/-- The parts of a name, without the empty one behind a last full stop. -/
def parts (name : List Char) : List (List Char) :=
  let ps := name.splitOnP (· == '.')
  if ps.getLast? = some [] && ps.length > 1 then ps.dropLast else ps

/-- Whether a name ends in a number, so that it can be nothing but an IPv4 address. -/
def endsInNumber (name : List Char) : Bool :=
  match (parts name).getLast? with
  | none => false
  | some last => (!last.isEmpty && last.all Char.isDigit) || (ipv4Part? last).isSome

/-- The address that parts make: all but the last are bytes, and the last fills what is left. -/
def ipv4OfParts? (numbers : List Nat) : Option Nat :=
  match numbers.reverse with
  | [] => none
  | last :: front =>
    let rest := Nat.pow 256 (4 - front.length)
    if front.length ≤ 3 && last < rest && front.all (· < 256) then
      some (front.reverse.foldl (fun n byte => 256 * n + byte) 0 * rest + last)
    else none

/-- The address that a name spells. -/
def ipv4? (name : List Char) : Option Nat :=
  ((parts name).mapM ipv4Part?).bind ipv4OfParts?

/-- An IPv4 address as four decimal bytes. -/
def ipv4Text (n : Nat) : String :=
  ".".intercalate ([24, 16, 8, 0].map fun shift => Nat.repr (n >>> shift % 256))

/-! ## IPv6 -/

/-- A piece of an IPv6 address: one to four hexadecimal digits. -/
def piece? (cs : List Char) : Option Nat :=
  if cs.isEmpty || cs.length > 4 then none else numberIn? 16 cs

/-- A byte of the IPv4 part of an IPv6 address: decimal, without leading zeros. -/
def byte? (cs : List Char) : Option Nat :=
  if cs.isEmpty || cs.length > 3 || (cs.length > 1 && cs.head? == some '0') then none
  else (numberIn? 10 cs).filter (· < 256)

/-- The two pieces that an IPv4 address makes at the end of an IPv6 address. -/
def embeddedIpv4? (cs : List Char) : Option (List Nat) := do
  match ← (cs.splitOnP (· == '.')).mapM byte? with
  | [a, b, c, d] => some [a * 256 + b, c * 256 + d]
  | _ => none

/-- Pieces with colons between them; the last may be an IPv4 address. -/
def pieces? : List (List Char) → Option (List Nat)
  | [] => some []
  | [last] => if last.contains '.' then embeddedIpv4? last else (piece? last).map ([·])
  | p :: ps => do some ((← piece? p) :: (← pieces? ps))

/-- Pieces with colons between them, or nothing at all. -/
def side? (allowsIpv4 : Bool) (cs : List Char) : Option (List Nat) :=
  if cs.isEmpty then some []
  else if !allowsIpv4 && cs.contains '.' then none
  else pieces? (cs.splitOnP (· == ':'))

/-- Splits a text at its first double colon. -/
def splitAtGap (before : List Char) : List Char → Option (List Char × List Char)
  | ':' :: ':' :: rest => some (before.reverse, rest)
  | c :: rest => splitAtGap (c :: before) rest
  | [] => none

/-- The eight pieces of an IPv6 address. A double colon stands for at least one piece of zero. -/
def ipv6? (cs : List Char) : Option (List Nat) := do
  match splitAtGap [] cs with
  | none =>
    let ps ← side? true cs
    if ps.length = 8 then some ps else none
  | some (front, back) =>
    let front ← side? false front
    let back ← side? true back
    if front.length + back.length < 8 then
      some (front ++ List.replicate (8 - front.length - back.length) 0 ++ back)
    else none

/-- How many pieces of zero a list begins with. -/
def zeroRun (ps : List Nat) : Nat := (ps.takeWhile (· == 0)).length

/-- Where the longest run of zeros begins, and its length; of equally long ones the first. -/
def longestZeroRun (ps : List Nat) : Nat × Nat :=
  (List.range ps.length).foldl
    (fun best i =>
      let run := zeroRun (ps.drop i)
      if best.2 < run then (i, run) else best)
    (0, 0)

/-- A piece in lower-case hexadecimal. -/
def pieceText (n : Nat) : String := String.ofList (Nat.toDigits 16 n)

/-- Pieces with colons between them. -/
def piecesText (ps : List Nat) : String := ":".intercalate (ps.map pieceText)

/-- An IPv6 address in brackets, with the longest run of at least two zeros left out. -/
def ipv6Text (ps : List Nat) : String :=
  let (start, count) := longestZeroRun ps
  let inner :=
    if 2 ≤ count then piecesText (ps.take start) ++ "::" ++ piecesText (ps.drop (start + count))
    else piecesText ps
  "[" ++ inner ++ "]"

/-! ## Hosts -/

/-- An IPv6 address in brackets. -/
def bracketed (cs : List Char) : Except UrlError String :=
  if cs.getLast? = some ']' then
    match ipv6? cs.tail.dropLast with
    | some ps => .ok (ipv6Text ps)
    | none => .error .invalidIpv6
  else .error .invalidIpv6

/-- The host of an address with one of the web's schemes. -/
def ofWeb (cs : List Char) : Except UrlError String :=
  if cs.head? = some '[' then bracketed cs
  else
    match Utf8.decode? (Percent.decode (Utf8.encode (String.ofList cs))) with
    | none => .error .invalidDomainName
    | some decoded =>
      match DomainName.toAscii decoded.toList with
      | none => .error .invalidDomainName
      | some name =>
        if name.isEmpty then .error .emptyHost
        else if endsInNumber name then
          match ipv4? name with
          | some n => .ok (ipv4Text n)
          | none => .error .invalidIpv4
        else .ok (String.ofList name)

/-- The characters that no host can have. -/
def isForbidden (c : Char) : Bool :=
  "\x00\t\n\r #/:<>?@[\\]^|".toList.contains c

/-- A byte that is written as it is unless the format says otherwise: a visible ASCII character
or a space. -/
def isPlain (b : UInt8) : Bool := 0x20 ≤ b && b < 0x7F

/-- The host of any other address. -/
def ofOther (cs : List Char) : Except UrlError String :=
  if cs.head? = some '[' then bracketed cs
  else if cs.any isForbidden then .error .invalidHostCharacter
  else .ok (Percent.encode isPlain (String.ofList cs))

end AlertLine.Host
