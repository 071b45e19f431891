import AlertLine.Json.Basic
import AlertLine.Text.Utf8

/-!
# JSON tokens

The words of a document: brackets, separators, literals, numbers and strings. Reading is one step
per character over an explicit mode, so a document of any length is read without nesting calls.
Characters come as readings of UTF-8; an ill-formed part is an error between tokens, and inside a
string it takes away the string's reading.
-/

namespace AlertLine.Json

/-- A word of a document. -/
inductive Token where
  /-- An opening brace. -/
  | beginObject
  /-- A closing brace. -/
  | endObject
  /-- An opening bracket. -/
  | beginArray
  /-- A closing bracket. -/
  | endArray
  /-- A colon. -/
  | colon
  /-- A comma. -/
  | comma
  /-- The literal `null`. -/
  | null
  /-- One of the literals `true` and `false`. -/
  | bool (b : Bool)
  /-- A number. -/
  | number (n : Number)
  /-- A string. -/
  | string (s : Reading)

/-- A part of a string literal. -/
inductive Piece where
  /-- A character, plain or escaped. -/
  | char (c : Char)
  /-- An escaped code unit of a surrogate pair. -/
  | surrogate (unit : Nat)
  /-- Bytes that are no UTF-8. -/
  | broken

/-- The characters that the pieces of a literal spell. An escaped high surrogate needs an escaped
low surrogate right behind it. -/
def readingOf (done : List Char) : List Piece → Option (List Char)
  | [] => some done.reverse
  | .char c :: rest => readingOf (c :: done) rest
  | .surrogate high :: .surrogate low :: rest =>
    if high < 0xDC00 && 0xDC00 ≤ low then
      readingOf (Char.ofNat (0x10000 + (high - 0xD800) * 0x400 + (low - 0xDC00)) :: done) rest
    else none
  | _ => none

/-- Where the reader stands between two characters. -/
inductive Mode where
  /-- Between tokens. -/
  | between
  /-- In a literal made of letters, read so far in reverse. -/
  | word (letters : List Char)
  /-- In a number, read so far in reverse. -/
  | number (characters : List Char)
  /-- In a string, read so far in reverse. -/
  | string (pieces : List Piece)
  /-- Behind a backslash in a string. -/
  | escape (pieces : List Piece)
  /-- In the four hexadecimal digits of an escape: how many were read, and their value. -/
  | hex (pieces : List Piece) (count value : Nat)

/-- The white space of JSON. -/
def isSpace (c : Char) : Bool :=
  c == ' ' || c == '\n' || c == '\t' || c == '\r'

/-- A character that can be part of a number. -/
def isNumberChar (c : Char) : Bool :=
  c.isDigit || c == '-' || c == '+' || c == '.' || c == 'e' || c == 'E'

/-- The value of a list of digits. -/
def digitsValue (ds : List Char) : Nat :=
  ds.foldl (fun v c => 10 * v + (c.toNat - '0'.toNat)) 0

/-- The power of ten behind an `e`: an optional sign and at least one digit. -/
def exponentOf? : List Char → Option Int
  | '+' :: ds => digits? ds
  | '-' :: ds => (digits? ds).map fun n => -n
  | ds => digits? ds
where
  /-- The value of at least one digit. -/
  digits? (ds : List Char) : Option Int :=
    if !ds.isEmpty && ds.all Char.isDigit then some (digitsValue ds : Int) else none

/-- What stands behind the whole part of a number: a fraction, a power of ten, both or neither. -/
def fractionAndExponent? (cs : List Char) : Option (List Char × Option Int) :=
  match cs with
  | [] => some ([], none)
  | '.' :: rest =>
    let ds := rest.takeWhile Char.isDigit
    if ds.isEmpty then none
    else
      match rest.dropWhile Char.isDigit with
      | [] => some (ds, none)
      | e :: power =>
        if e == 'e' || e == 'E' then (exponentOf? power).map fun n => (ds, some n) else none
  | e :: power =>
    if e == 'e' || e == 'E' then (exponentOf? power).map fun n => ([], some n) else none

/-- The number that an unsigned spelling denotes: no leading zeros, digits on both sides of a
point, digits behind an `e`. -/
def unsigned? (negative : Bool) (cs : List Char) : Option Number :=
  let ds := cs.takeWhile Char.isDigit
  if ds.isEmpty || (ds.length > 1 && ds.head? == some '0') then none
  else
    (fractionAndExponent? (cs.dropWhile Char.isDigit)).map fun fe =>
      ⟨negative, digitsValue ds, fe.1, fe.2⟩

/-- The number that a spelling denotes. -/
def Number.read? : List Char → Option Number
  | '-' :: cs => unsigned? true cs
  | cs => unsigned? false cs

/-- The literal that a word spells. -/
def wordToken? (letters : List Char) : Option Token :=
  if letters == ['n', 'u', 'l', 'l'] then some .null
  else if letters == ['t', 'r', 'u', 'e'] then some (.bool true)
  else if letters == ['f', 'a', 'l', 's', 'e'] then some (.bool false)
  else none

/-- The value of a hexadecimal digit. -/
def hexValue? (c : Char) : Option Nat :=
  if c.isDigit then some (c.toNat - '0'.toNat)
  else if 'a' ≤ c && c ≤ 'f' then some (c.toNat - 'a'.toNat + 10)
  else if 'A' ≤ c && c ≤ 'F' then some (c.toNat - 'A'.toNat + 10)
  else none

/-- The piece that a code unit stands for. -/
def pieceOfUnit (unit : Nat) : Piece :=
  if 0xD800 ≤ unit && unit ≤ 0xDFFF then .surrogate unit else .char (Char.ofNat unit)

/-- The character behind a backslash, for the escapes of one letter. -/
def shortEscape? (c : Char) : Option Char :=
  match c with
  | '"' => some '"'
  | '\\' => some '\\'
  | '/' => some '/'
  | 'b' => some '\x08'
  | 'f' => some '\x0c'
  | 'n' => some '\n'
  | 'r' => some '\r'
  | 't' => some '\t'
  | _ => none

/-- The tokens so far in reverse, and where the reader stands. -/
structure Lexing where
  /-- Where the reader stands. -/
  mode : Mode
  /-- The tokens so far, newest first. -/
  done : List Token

/-- A character that comes between tokens. -/
def Lexing.fresh (done : List Token) (c : Char) : Option Lexing :=
  if isSpace c then some ⟨.between, done⟩
  else
    match c with
    | '{' => some ⟨.between, .beginObject :: done⟩
    | '}' => some ⟨.between, .endObject :: done⟩
    | '[' => some ⟨.between, .beginArray :: done⟩
    | ']' => some ⟨.between, .endArray :: done⟩
    | ':' => some ⟨.between, .colon :: done⟩
    | ',' => some ⟨.between, .comma :: done⟩
    | '"' => some ⟨.string [], done⟩
    | _ =>
      if c.isDigit || c == '-' then some ⟨.number [c], done⟩
      else if c.isLower then some ⟨.word [c], done⟩
      else none

/-- One more character. -/
def Lexing.step (l : Lexing) (c? : Option Char) : Option Lexing :=
  match l.mode, c? with
  | .between, some c => fresh l.done c
  | .word letters, some c =>
    if c.isLower then some ⟨.word (c :: letters), l.done⟩
    else (wordToken? letters.reverse).bind fun t => fresh (t :: l.done) c
  | .number cs, some c =>
    if isNumberChar c then some ⟨.number (c :: cs), l.done⟩
    else (Number.read? cs.reverse).bind fun n => fresh (.number n :: l.done) c
  | .string ps, some c =>
    if c == '"' then
      some ⟨.between, .string ((readingOf [] ps.reverse).map String.ofList) :: l.done⟩
    else if c == '\\' then some ⟨.escape ps, l.done⟩
    else if c.toNat < 0x20 then none
    else some ⟨.string (.char c :: ps), l.done⟩
  | .string ps, none => some ⟨.string (.broken :: ps), l.done⟩
  | .escape ps, some c =>
    if c == 'u' then some ⟨.hex ps 0 0, l.done⟩
    else (shortEscape? c).map fun e => ⟨.string (.char e :: ps), l.done⟩
  | .hex ps count value, some c =>
    (hexValue? c).map fun d =>
      let value' := 16 * value + d
      if count == 3 then ⟨.string (pieceOfUnit value' :: ps), l.done⟩
      else ⟨.hex ps (count + 1) value', l.done⟩
  | _, none => none

/-- The tokens when the input ends. -/
def Lexing.finish (l : Lexing) : Option (List Token) :=
  match l.mode with
  | .between => some l.done.reverse
  | .word letters => (wordToken? letters.reverse).map fun t => (t :: l.done).reverse
  | .number cs => (Number.read? cs.reverse).map fun n => (.number n :: l.done).reverse
  | _ => none

/-- The tokens of a document, if it has nothing else. -/
def tokenize (cs : List (Option Char)) : Option (List Token) :=
  (cs.foldlM Lexing.step ⟨.between, []⟩).bind Lexing.finish

end AlertLine.Json
