import AlertLine.Yaml.Basic

/-!
# Texts in YAML

The four ways to write a text: without quotes, in single quotes, in double quotes with escapes, and
as a block of lines. A text may go over several lines; outside of blocks its line breaks are folded.
Each reader gives the text and what is left behind it.
-/

namespace AlertLine.Yaml

/-- Where a text stands. -/
structure Place where
  /-- The rules that hold. -/
  rules : Rules
  /-- Whether it stands in brackets. -/
  inFlow : Bool
  /-- The column of the block around it; one less than the first if there is none. -/
  indent : Int

/-- What stands between two pieces of a text, the last character first. -/
inductive Gap where
  /-- Nothing. -/
  | empty
  /-- Blanks. -/
  | blanks (reversed : List Char)
  /-- Line breaks: the first, if it counts, and the others. -/
  | breaks (first : Option Char) (reversed : List Char)

/-- A gap with one more blank; behind a line break it does not count. -/
def Gap.addBlank (c : Char) : Gap → Gap
  | .empty => .blanks [c]
  | .blanks cs => .blanks (c :: cs)
  | .breaks first cs => .breaks first cs

/-- A gap with one more line break. -/
def Gap.addBreak (c : Char) : Gap → Gap
  | .empty | .blanks _ => .breaks (some c) []
  | .breaks first cs => .breaks first (c :: cs)

/-- Whether nothing stands between. -/
def Gap.isEmpty : Gap → Bool
  | .empty => true
  | _ => false

/-- Whether a line ends between. -/
def Gap.hasBreak : Gap → Bool
  | .breaks _ _ => true
  | _ => false

/-- What the text has for a gap, the last character first: a space for one line break, and one
fewer for more. -/
def Gap.reversed : Gap → List Char
  | .empty => []
  | .blanks cs => cs
  | .breaks none cs => cs
  | .breaks (some first) cs =>
    if first ≠ '\n' then cs ++ [first] else if cs.isEmpty then [' '] else cs

/-! ## Without quotes -/

/-- Whether a text without quotes ends in front of a character that is no blank. -/
def plainEnds (p : Place) (isPieceStart : Bool) (gap : Gap) (s : Source) : Bool :=
  let c := charAt s 0
  let next := charAt s 1
  let column : Nat := (s.head?.map Cell.column).getD 0
  let leads := s.head?.any Cell.leads
  c == endMark || (gap.hasBreak && !p.inFlow && column ≤ p.indent) ||
    (isPieceStart && c == '#') ||
    ((if p.rules = .lenient then column == 0 else leads) && isDocumentMark p.rules s) ||
    (c == ':' &&
      (isGap p.rules next || (p.rules = .strict && p.inFlow && isFlowMark next))) ||
    (p.inFlow && isFlowMark c)

/-- Whether a text without quotes cannot have a character where it does not end. -/
def plainFails (p : Place) (isPieceStart : Bool) (s : Source) : Bool :=
  let next := charAt s 1
  p.inFlow &&
    if p.rules = .lenient then charAt s 0 == ':' && (isFlowMark next || next == '?')
    else isPieceStart && charAt s 0 == '-' && isFlowMark next

/-- Whether a tab stands where it would indent. By strict rules it may on a line of blanks. -/
def isIndentingTab (p : Place) (gap : Gap) (c : Cell) (behind : Source) : Bool :=
  c.char == '\t' && gap.hasBreak && c.column ≤ p.indent &&
    !(p.rules = .strict && isLineEnd p.rules (charAt (dropBlanks behind) 0))

/-- Reads a text without quotes. With it comes whether a line ends behind it. -/
def readPlain (p : Place) (gap : Gap) (done : List Char) :
    Source → Option (String × Bool × Source)
  | [] => none
  | c :: cs =>
    let isPieceStart := !gap.isEmpty || done.isEmpty
    if isBlank c.char then
      if isIndentingTab p gap c cs then none
      else readPlain p (gap.addBlank c.char) done cs
    else if isBreak p.rules c.char then readPlain p (gap.addBreak c.char) done cs
    else if plainEnds p isPieceStart gap (c :: cs) then
      if done.isEmpty then none
      else some (String.ofList done.reverse, gap.hasBreak, c :: cs)
    else if plainFails p isPieceStart (c :: cs) then none
    else readPlain p .empty (c.char :: (gap.reversed ++ done)) cs

/-! ## In quotes -/

/-- The characters of the escapes of one letter. -/
def shortEscapes : List (Char × Char) :=
  [('0', '\x00'), ('a', '\x07'), ('b', '\x08'), ('t', '\t'), ('\t', '\t'), ('n', '\n'),
   ('v', '\x0b'), ('f', '\x0c'), ('r', '\r'), ('e', '\x1b'), (' ', ' '), ('"', '"'), ('/', '/'),
   ('\\', '\\'), ('N', '\u0085'), ('_', '\u00a0'), ('L', '\u2028'), ('P', '\u2029')]

/-- How many digits an escape by code point has. -/
def codePointDigits? (c : Char) : Option Nat :=
  match c with
  | 'x' => some 2
  | 'u' => some 4
  | 'U' => some 8
  | _ => none

/-- What the next character in quotes belongs to. -/
inductive QuotedPart where
  /-- The text. -/
  | text
  /-- An escape, as its letter. -/
  | escape
  /-- An escape, as one of the digits that are left. -/
  | digits (left value : Nat)

/-- Whether the layout forbids a character that is no blank to stand here in quotes. -/
def quotedFails (p : Place) (gap : Gap) (s : Source) : Bool :=
  match s with
  | [] => true
  | c :: _ =>
    c.char == endMark || (c.column == 0 && isDocumentMark p.rules s) ||
      (p.rules = .strict && !gap.isEmpty && c.column < p.indent)

/-- Reads on inside quotes; the text so far comes in reverse. In single quotes a quote is written
twice, in double quotes there are escapes. -/
def readQuoted (p : Place) (isDouble : Bool) :
    QuotedPart → Gap → List Char → Source → Option (String × Source)
  | _, _, _, [] => none
  | .escape, _, done, c :: cs =>
    if isBreak p.rules c.char then readQuoted p isDouble .text (.breaks none []) done cs
    else
      match shortEscapes.lookup c.char, codePointDigits? c.char with
      | some d, _ => readQuoted p isDouble .text .empty (d :: done) cs
      | none, some left => readQuoted p isDouble (.digits left 0) .empty done cs
      | none, none => none
  | .digits left value, _, done, c :: cs =>
    match hexDigit? c.char with
    | none => none
    | some d =>
      let value := 16 * value + d
      if 1 < left then readQuoted p isDouble (.digits (left - 1) value) .empty done cs
      else if value.isValidChar then
        readQuoted p isDouble .text .empty (Char.ofNat value :: done) cs
      else none
  | .text, gap, done, c :: cs =>
    if isBlank c.char then
      if p.rules = .strict && c.char == '\t' && gap.hasBreak && c.column < p.indent then none
      else readQuoted p isDouble .text (gap.addBlank c.char) done cs
    else if isBreak p.rules c.char then
      readQuoted p isDouble .text (gap.addBreak c.char) done cs
    else if quotedFails p gap (c :: cs) then none
    else
      let done := gap.reversed ++ done
      if isDouble && c.char == '\\' then readQuoted p isDouble .escape .empty done cs
      else if isDouble && c.char == '"' then some (String.ofList done.reverse, cs)
      else if !isDouble && c.char == '\'' then
        match cs with
        | [] => none
        | d :: cs =>
          if d.char == '\'' then readQuoted p isDouble .text .empty ('\'' :: done) cs
          else some (String.ofList done.reverse, d :: cs)
      else readQuoted p isDouble .text .empty (c.char :: done) cs

/-! ## As a block -/

/-- What becomes of the line breaks at the end of a block. -/
inductive Chomping where
  /-- None is kept. -/
  | strip
  /-- One is kept. -/
  | clip
  /-- All are kept. -/
  | keep
  deriving DecidableEq

/-- The header of a block. -/
structure BlockHeader where
  /-- What becomes of the last line breaks. -/
  chomping : Chomping
  /-- By how much the block is indented, if the header says so. -/
  increment : Option Nat

/-- Reads the sign of a header. -/
def readChomping (s : Source) : Option Chomping × Source :=
  match charAt s 0 with
  | '+' => (some .keep, s.drop 1)
  | '-' => (some .strip, s.drop 1)
  | _ => (none, s)

/-- Reads the digit of a header, which is not zero. -/
def readIncrement (s : Source) : Option (Option Nat × Source) :=
  let c := charAt s 0
  if c == '0' then none
  else if c.isDigit then some (some (c.toNat - '0'.toNat), s.drop 1)
  else some (none, s)

/-- Reads a header with its line break: a sign and a digit in either order, each once at most. -/
def readHeader (rules : Rules) (s : Source) : Option (BlockHeader × Source) := do
  let (before, s) := readChomping s
  let (increment, s) ← readIncrement s
  let (after, s) := if before.isSome then (none, s) else readChomping s
  let s ← dropTrailing rules s
  if isLineEnd rules (charAt s 0) then
    some (⟨(before.or after).getD .clip, increment⟩, dropBreak rules s)
  else none

/-- Drops the spaces that indent a line, up to a limit if there is one, and whole lines without
anything behind them. With what is left come the greatest column and the line breaks in reverse. By
lenient rules a tab cannot take the place of a space. -/
def dropIndentation (rules : Rules) (limit : Option Nat) (most : Nat) (breaks : List Char) :
    Source → Option (Nat × List Char × Source)
  | [] => none
  | c :: cs =>
    let most := max most c.column
    let isOpen := limit.all fun n => c.column < n
    if c.char == ' ' && isOpen then dropIndentation rules limit most breaks cs
    else if rules = .lenient && c.char == '\t' && isOpen then none
    else if isBreak rules c.char then dropIndentation rules limit most (c.char :: breaks) cs
    else some (most, breaks, c :: cs)

/-- The lines of a block that have been read. -/
structure BlockLines where
  /-- The text without the last line breaks, in reverse. -/
  done : List Char
  /-- The line break behind the last line. -/
  held : List Char
  /-- The line breaks of the empty lines behind it, in reverse. -/
  further : List Char
  /-- Whether the last line begins with a blank. -/
  endsBlank : Bool

/-- The lines with one more. A single line break is folded between lines that begin with no
blank. -/
def BlockLines.add (folds : Bool) (lines : BlockLines) (line : List Char)
    (held further : List Char) : BlockLines :=
  let beginsBlank := line.head?.any isBlank
  let joint :=
    if folds && lines.held == ['\n'] && !lines.endsBlank && !beginsBlank then
      if lines.further.isEmpty then [' '] else []
    else lines.held
  ⟨line.reverse ++ lines.further ++ joint ++ lines.done, held, further, beginsBlank⟩

/-- Reads the lines that are indented by `indent`. -/
def readLines (rules : Rules) (folds : Bool) (indent : Nat) :
    Nat → BlockLines → Source → Option (BlockLines × Source)
  | 0, _, _ => none
  | fuel + 1, lines, s =>
    let column := (s.head?.map Cell.column).getD 0
    if column ≠ indent || charAt s 0 == endMark ||
        (rules = .strict && indent == 0 && isMark rules '.' s) then some (lines, s)
    else
      let line := (s.takeWhile fun c => !isLineEnd rules c.char).map Cell.char
      let behind := dropLine rules s
      let held := if isBreak rules (charAt behind 0) then [charAt behind 0] else []
      match dropIndentation rules (some indent) 0 [] (dropBreak rules behind) with
      | none => none
      | some (_, further, rest) =>
        readLines rules folds indent fuel (lines.add folds line held further) rest

/-- The column of a block: what its header says, or else the column of its first line, but
further right than the block around it. -/
def blockColumn (p : Place) (header : BlockHeader) (most : Nat) : Nat :=
  match header.increment with
  | some n => p.indent.toNat + n
  | none =>
    let least := (p.indent + 1).toNat
    max most (if p.rules = .lenient then max least 1 else least)

/-- Reads a block from its header on. -/
def readBlock (p : Place) (folds : Bool) (s : Source) : Option (String × Source) := do
  let (header, body) ← readHeader p.rules s
  if p.rules = .strict ∧ charAt body 0 = '\t' then none
  else
    let limit := header.increment.map (p.indent.toNat + ·)
    let (most, breaks, first) ← dropIndentation p.rules limit 0 [] body
    let indent := blockColumn p header most
    let column : Nat := (first.head?.map Cell.column).getD 0
    if p.rules = .strict && charAt first 0 != endMark && column < indent && p.indent < column then
      none
    else
      let (lines, rest) ← readLines p.rules folds indent (first.length + 1)
        ⟨[], [], breaks, false⟩ first
      let text := match header.chomping with
        | .strip => lines.done
        | .clip => lines.held ++ lines.done
        | .keep => lines.further ++ lines.held ++ lines.done
      some (String.ofList text.reverse, rest)

end AlertLine.Yaml
