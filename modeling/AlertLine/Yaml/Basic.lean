/-!
# YAML texts

The characters of a text with their places, and the tokens that a text is taken apart into. Where a
value ends is told by columns as much as by characters, so each character knows its own.

A text is read twice. The lenient rules say what it means; the strict rules ask more of blanks,
tabs and indentation, and a text has to keep them too.
-/

namespace AlertLine.Yaml

/-- The rules by which a text is taken apart. -/
inductive Rules where
  /-- The rules that give the content. -/
  | lenient
  /-- The rules that ask more of the layout. -/
  | strict
  deriving DecidableEq

/-! ## Characters -/

/-- One character of a text, with its place. -/
structure Cell where
  /-- The character. -/
  char : Char
  /-- How many characters stand in front of it. -/
  index : Nat
  /-- How many lines end in front of it. -/
  line : Nat
  /-- How many characters stand in front of it on its line. -/
  column : Nat
  /-- Whether only blanks stand in front of it on its line. -/
  leads : Bool

/-- What is left of a text. The last cell holds no character of it but marks its end. -/
abbrev Source := List Cell

/-- What stands behind the last character; no text holds it. -/
def endMark : Char := '\x00'

/-- A character that a text can hold. -/
def isAllowed (c : Char) : Bool :=
  let n := c.toNat
  n == 0x09 || n == 0x0A || n == 0x0D || (0x20 ≤ n && n ≤ 0x7E) || n == 0x85 ||
    (0xA0 ≤ n && n ≤ 0xFFFD) || 0x10000 ≤ n

/-- A space or a tab. -/
def isBlank (c : Char) : Bool := c == ' ' || c == '\t'

/-- A character that ends a line. -/
def isBreak (rules : Rules) (c : Char) : Bool :=
  c == '\n' || (rules = .lenient && (c == '\u2028' || c == '\u2029'))

/-- A character that ends a line, or the end. -/
def isLineEnd (rules : Rules) (c : Char) : Bool := isBreak rules c || c == endMark

/-- A character that sets tokens apart: a blank or what ends a line. -/
def isGap (rules : Rules) (c : Char) : Bool := isBlank c || isLineEnd rules c

/-- The brackets and the comma, which are tokens of their own inside brackets. -/
def isFlowMark (c : Char) : Bool :=
  c == ',' || c == '[' || c == ']' || c == '\x7b' || c == '\x7d'

/-- A character of a name. -/
def isNameChar (c : Char) : Bool := c.isAlphanum || c == '-' || c == '_'

/-- The value of a hexadecimal digit. -/
def hexDigit? (c : Char) : Option Nat :=
  if c.isDigit then some (c.toNat - '0'.toNat)
  else if 'a' ≤ c && c ≤ 'f' then some (c.toNat - 'a'.toNat + 10)
  else if 'A' ≤ c && c ≤ 'F' then some (c.toNat - 'A'.toNat + 10)
  else none

/-! ## Sources -/

/-- The characters with one line feed for each usual line break. -/
def unifyBreaks (rules : Rules) : List Char → List Char
  | [] => []
  | '\r' :: '\n' :: cs => '\n' :: unifyBreaks rules cs
  | '\r' :: cs => '\n' :: unifyBreaks rules cs
  | c :: cs => (if rules = .lenient ∧ c = '\u0085' then '\n' else c) :: unifyBreaks rules cs

/-- The cells of characters, the first of which has the given place. -/
def cellsFrom (rules : Rules) (index line column : Nat) (leads : Bool) : List Char → Source
  | [] => [⟨endMark, index, line, column, leads⟩]
  | c :: cs =>
    ⟨c, index, line, column, leads⟩ ::
      if isBreak rules c then cellsFrom rules (index + 1) (line + 1) 0 true cs
      else cellsFrom rules (index + 1) line (column + 1) (leads && isBlank c) cs

/-- The source of a text of characters that it can hold. -/
def sourceOf? (rules : Rules) (text : String) : Option Source :=
  if text.toList.all isAllowed then
    some (cellsFrom rules 0 0 0 true (unifyBreaks rules text.toList))
  else none

/-- The character at a distance. -/
def charAt (s : Source) (n : Nat) : Char := (s[n]?.map Cell.char).getD endMark

/-- Whether three of a character stand here by themselves. -/
def isMark (rules : Rules) (c : Char) (s : Source) : Bool :=
  charAt s 0 == c && charAt s 1 == c && charAt s 2 == c && isGap rules (charAt s 3)

/-- Whether a mark stands here with which a document begins or ends. -/
def isDocumentMark (rules : Rules) (s : Source) : Bool := isMark rules '-' s || isMark rules '.' s

/-- Drops blanks. -/
def dropBlanks (s : Source) : Source := s.dropWhile fun c => isBlank c.char

/-- Drops what is left of the line, up to what ends it. -/
def dropLine (rules : Rules) (s : Source) : Source :=
  s.dropWhile fun c => !isLineEnd rules c.char

/-- Drops the character that ends the line, unless it is the end. -/
def dropBreak (rules : Rules) (s : Source) : Source :=
  if isBreak rules (charAt s 0) then s.drop 1 else s

/-- Drops blanks, and a comment behind them. By strict rules a comment needs a blank. -/
def dropTrailing (rules : Rules) (s : Source) : Option Source :=
  let behind := dropBlanks s
  if charAt behind 0 == '#' then
    if rules = .strict ∧ behind.length = s.length then none else some (dropLine rules behind)
  else some behind

/-! ## Tokens -/

/-- A part of a text. -/
inductive Token where
  /-- The version of the format. -/
  | version (major minor : Nat)
  /-- What the beginning of a type stands for. -/
  | tagRule (handle replacement : String)
  /-- The mark with which a document begins. -/
  | documentStart
  /-- The mark with which a document ends. -/
  | documentEnd
  /-- A sequence by indentation begins. -/
  | blockSequence
  /-- A mapping by indentation begins. -/
  | blockMapping
  /-- A sequence or mapping by indentation ends. -/
  | blockEnd
  /-- A sequence in brackets begins. -/
  | flowSequence
  /-- A sequence in brackets ends. -/
  | flowSequenceEnd
  /-- A mapping in brackets begins. -/
  | flowMapping
  /-- A mapping in brackets ends. -/
  | flowMappingEnd
  /-- An item follows. -/
  | dash
  /-- A comma between items or entries. -/
  | comma
  /-- A key follows. -/
  | key
  /-- The value of a key follows. -/
  | value
  /-- The value that follows gets a name. -/
  | name (text : String)
  /-- A value that has a name. -/
  | reuse (text : String)
  /-- The type of the value that follows, by its beginning and its rest. -/
  | tag (handle suffix : String)
  /-- A text. -/
  | scalar (isPlain : Bool) (text : String)
  /-- The end. -/
  | finish
  deriving DecidableEq, Inhabited

end AlertLine.Yaml
