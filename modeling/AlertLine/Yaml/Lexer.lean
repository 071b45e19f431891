import AlertLine.Yaml.Scalar
import AlertLine.Yaml.Tag

/-!
# Taking a YAML text apart

A text becomes a list of tokens. Indentation opens and closes blocks: a token further right than
the block around it may open one, and a token further left closes all that begin right of it. A key
shows itself only by the colon behind it, so a token that may begin one is remembered, and the mark
of a key is put in front of it once the colon comes.

If the text breaks a rule, the list ends with the tokens that are settled by then, without the
token for the end.
-/

namespace AlertLine.Yaml

/-- A token that may begin a key. -/
structure KeyStart where
  /-- Whether nothing but a key can stand there. -/
  isRequired : Bool
  /-- How many tokens are in front of it. -/
  number : Nat
  /-- Where it begins. -/
  start : Cell

/-- An indentation that holds. -/
structure Indentation where
  /-- The column of the block around it. -/
  outer : Int
  /-- Whether a block is indented by it, or a value behind its key alone. -/
  isBlock : Bool

/-- A text that is being taken apart. -/
structure Scan where
  /-- What is left. -/
  rest : Source
  /-- The tokens so far, the last first, with the columns where they begin. -/
  tokens : List (Token × Nat)
  /-- How many tokens there are. -/
  count : Nat
  /-- Whether the next token may begin a key. -/
  allowsKey : Bool
  /-- The tokens that may begin keys: one place for every open bracket, the last first, and one
  outside of brackets. -/
  keys : List (Option KeyStart)
  /-- The column of the block, or one less than the first. -/
  indent : Int
  /-- The indentations that hold, the last first. -/
  indents : List Indentation
  /-- The place behind a quoted text or a bracket, where a colon needs no blank behind it. -/
  adjacentAt : Nat
  /-- Whether an entry in brackets has begun with a bracket or a mark of its own. -/
  opensMapping : Bool
  /-- For every open sequence in brackets, the last first, whether a single entry stands in it. -/
  pairs : List Bool

namespace Scan

/-- The first cell of what is left. -/
def here (s : Scan) : Cell := s.rest.head?.getD ⟨endMark, 0, 0, 0, true⟩

/-- Whether a bracket is open. -/
def inFlow (s : Scan) : Bool := 1 < s.keys.length

/-- Where a text would stand. -/
def place (rules : Rules) (s : Scan) : Place := ⟨rules, s.inFlow, s.indent⟩

/-- Adds a token that begins in a column. -/
def push (token : Token) (column : Nat) (s : Scan) : Scan :=
  { s with tokens := (token, column) :: s.tokens, count := s.count + 1 }

/-- Adds a token with a number of tokens in front of it. -/
def insert (number : Nat) (token : Token) (column : Nat) (s : Scan) : Scan :=
  let behind := s.count - number
  { s with
    tokens := s.tokens.take behind ++ (token, column) :: s.tokens.drop behind
    count := s.count + 1 }

/-- Drops characters. -/
def skip (n : Nat) (s : Scan) : Scan := { s with rest := s.rest.drop n }

/-! ## Keys -/

/-- Remembers that the next token may begin a key. A key that has to come cannot be given up by
lenient rules. -/
def saveKey (rules : Rules) (s : Scan) : Option Scan :=
  if s.allowsKey then
    let isAtBlock := !s.inFlow && s.indent == s.here.column
    let key : KeyStart := {
      isRequired := isAtBlock && (rules = .lenient || s.indents.head?.any Indentation.isBlock)
      number := s.count
      start := s.here }
    match s.keys with
    | some old :: others =>
      if rules = .lenient && old.isRequired then none
      else some { s with keys := some key :: others }
    | _ :: others => some { s with keys := some key :: others }
    | [] => some { s with keys := [some key] }
  else some s

/-- Gives up the token that may begin a key, unless a key has to come. -/
def dropKey (s : Scan) : Option Scan :=
  match s.keys with
  | some key :: others => if key.isRequired then none else some { s with keys := none :: others }
  | _ => some s

/-- Whether a key can no longer begin at a token: it stands on one line, and the colon comes within
1024 characters. By strict rules that does not hold in brackets. -/
def isStale (rules : Rules) (s : Scan) (key : KeyStart) : Bool :=
  !(rules = .strict && s.inFlow) &&
    (key.start.line < s.here.line || key.start.index + 1024 < s.here.index)

/-- Gives up the tokens that can no longer begin keys. -/
def dropStaleKeys (rules : Rules) (s : Scan) : Option Scan := do
  let keys ← s.keys.mapM fun
    | some key =>
      if s.isStale rules key then if key.isRequired then none else some none
      else some (some key)
    | none => some none
  some { s with keys := keys }

/-! ## Indentation -/

/-- Begins a block at a column if it is further right than the block around it; its token gets a
number of tokens in front of it, or becomes the last. A block takes the place of an indentation
behind a key. -/
def openBlock (column : Nat) (number : Option Nat) (token : Token) (s : Scan) : Scan :=
  if s.inFlow then s
  else
    let s : Scan := match s.indents with
      | ⟨outer, false⟩ :: others =>
        if s.indent ≤ column then { s with indent := outer, indents := others } else s
      | _ => s
    if s.indent < column then
      let s : Scan := { s with indent := column, indents := ⟨s.indent, true⟩ :: s.indents }
      match number with
      | some n => s.insert n token column
      | none => s.push token column
    else s

/-- The indentations that hold at a column, the column of the block, and how many blocks end. -/
def indentsAt (column : Int) (ended : Nat) : Int → List Indentation → Int × List Indentation × Nat
  | indent, [] => (indent, [], ended)
  | indent, i :: others =>
    if column < indent then indentsAt column (if i.isBlock then ended + 1 else ended) i.outer others
    else (indent, i :: others, ended)

/-- Ends the blocks that begin right of a column. -/
def closeBlocks (column : Int) (s : Scan) : Scan :=
  if s.inFlow then s
  else
    let (indent, indents, ended) := indentsAt column 0 s.indent s.indents
    (List.range ended).foldl (fun s _ => s.push .blockEnd s.here.column)
      { s with indent := indent, indents := indents }

/-- By strict rules, what stands behind a key of a block is indented by one column. -/
def indentValue (rules : Rules) (s : Scan) : Scan :=
  if rules = .strict && !s.inFlow && s.indents.head?.any Indentation.isBlock then
    { s with indent := s.indent + 1, indents := ⟨s.indent, false⟩ :: s.indents }
  else s

/-- Ends the indentations behind keys. -/
def closeValues (s : Scan) : Scan :=
  let (ended, blocks) := s.indents.span fun i => !i.isBlock
  { s with indent := (ended.getLast?.map Indentation.outer).getD s.indent, indents := blocks }

/-! ## Between tokens -/

/-- Drops blanks, comments and line breaks in front of a token by lenient rules. A tab is dropped
only where no key can begin; a line break outside of brackets allows one. -/
def dropLenient (inFlow allowsKey inComment : Bool) : Source → Bool × Source
  | [] => (allowsKey, [])
  | c :: cs =>
    if isBreak .lenient c.char then dropLenient inFlow (allowsKey || !inFlow) false cs
    else if inComment && c.char != endMark then dropLenient inFlow allowsKey true cs
    else if c.char == ' ' || (c.char == '\t' && (inFlow || !allowsKey)) then
      dropLenient inFlow allowsKey false cs
    else if c.char == '#' then dropLenient inFlow allowsKey true cs
    else (allowsKey, c :: cs)

/-- Drops blanks, comments and line breaks in front of a token by strict rules. A tab cannot take
the place of the indentation of a block, unless its line has nothing else. -/
def dropStrict (inFlow allowsKey inComment : Bool) (indent : Int) : Source → Option (Bool × Source)
  | [] => some (allowsKey, [])
  | c :: cs =>
    if isBreak .strict c.char then dropStrict inFlow (allowsKey || !inFlow) false indent cs
    else if inComment && c.char != endMark then dropStrict inFlow allowsKey true indent cs
    else if c.char == '\t' && c.leads && c.column < indent &&
        !(isLineEnd .strict (charAt (dropBlanks cs) 0) || charAt (dropBlanks cs) 0 == '#') then none
    else if isBlank c.char then dropStrict inFlow allowsKey false indent cs
    else if c.char == '#' then dropStrict inFlow allowsKey true indent cs
    else some (allowsKey, c :: cs)

/-- Drops what stands in front of the next token. -/
def dropBetween (rules : Rules) (s : Scan) : Option Scan :=
  let dropped := match rules with
    | .lenient => some (dropLenient s.inFlow s.allowsKey false s.rest)
    | .strict =>
      dropStrict s.inFlow s.allowsKey false (if s.indents.isEmpty then -1 else s.indent) s.rest
  dropped.map fun r => { s with allowsKey := r.1, rest := r.2 }

/-- By strict rules, drops blanks and a comment behind a token. -/
def dropBehind (rules : Rules) (s : Scan) : Option Scan :=
  match rules with
  | .lenient => some s
  | .strict => (dropTrailing rules s.rest).map fun rest => { s with rest := rest }

/-- Drops spaces, comments and line breaks behind the mark of a key, which by strict rules needs
one of them. -/
def dropKeySpace (inFlow allowsKey isFound inComment : Bool) : Source → Option (Bool × Source)
  | [] => none
  | c :: cs =>
    if isBreak .strict c.char then dropKeySpace inFlow (allowsKey || !inFlow) true false cs
    else if inComment && c.char != endMark then dropKeySpace inFlow allowsKey isFound true cs
    else if c.char == ' ' then dropKeySpace inFlow allowsKey true false cs
    else if c.char == '#' then dropKeySpace inFlow allowsKey isFound true cs
    else if isFound && c.char != '\t' then some (allowsKey, c :: cs)
    else none

/-! ## Tokens of one character -/

/-- Ends a single entry in brackets. -/
def endPair (s : Scan) : Scan :=
  match s.pairs with
  | true :: others =>
    { s with opensMapping := false, pairs := false :: others }.push .flowMappingEnd s.here.column
  | _ => s

/-- How many brackets can be open. -/
def greatestFlowDepth : Nat := 255

/-- Reads an opening bracket. -/
def openFlow (rules : Rules) (isMapping : Bool) (s : Scan) : Option Scan := do
  let column := s.here.column
  let s ← s.saveKey rules
  let s := s.indentValue rules
  if greatestFlowDepth < s.keys.length then none
  else
    let s := { s with keys := none :: s.keys, allowsKey := true }
    let s := if isMapping then { s with opensMapping := true }
      else { s with pairs := false :: s.pairs }
    let s ← (s.skip 1).dropBehind rules
    some (s.push (if isMapping then .flowMapping else .flowSequence) column)

/-- Reads a closing bracket. -/
def closeFlow (rules : Rules) (isMapping : Bool) (s : Scan) : Option Scan := do
  let column := s.here.column
  let s ← s.dropKey
  let s := { s with keys := if s.inFlow then s.keys.tail else s.keys, allowsKey := false }
  let s := if isMapping || rules = .lenient then s
    else
      let s := s.endPair
      { s with pairs := s.pairs.tail }
  let s ← (s.skip 1).dropBehind rules
  let s := if s.inFlow then { s with adjacentAt := s.here.index } else s
  some (s.push (if isMapping then .flowMappingEnd else .flowSequenceEnd) column)

/-- Reads a comma. -/
def readComma (rules : Rules) (s : Scan) : Option Scan := do
  let column := s.here.column
  let s ← s.dropKey
  let s := { s with allowsKey := true }
  let s := if rules = .strict then s.endPair else s
  let s ← (s.skip 1).dropBehind rules
  some (s.push .comma column)

/-- Whether strict rules forbid an item where it stands: directly below the name or the type of
something that is not indented. -/
def followsOuterProperty (s : Scan) : Bool :=
  s.here.column == 0 && -1 < s.indent &&
    match s.tokens with
    | (.name _, 0) :: _ | (.tag _ _, 0) :: _ => true
    | _ => false

/-- By strict rules, drops what stands behind the hyphen of an item. Another item can follow on the
line only behind spaces. -/
def dropBehindDash (s : Scan) : Option Scan := do
  let blanks := s.rest.takeWhile fun c => isBlank c.char
  let rest ← dropTrailing .strict s.rest
  let isItem := charAt rest 0 == '-' && isGap .strict (charAt rest 1)
  if isItem && blanks.any fun c => c.char == '\t' then none
  else
    let s := { s with rest := rest }
    some (if isBreak .strict (charAt rest 0) || isFlowMark (charAt rest 0) then
      s.indentValue .strict else s)

/-- Reads the hyphen of an item. -/
def readDash (rules : Rules) (s : Scan) : Option Scan := do
  let column := s.here.column
  let isForbidden := if s.inFlow then rules = .strict
    else !s.allowsKey || (rules = .strict && s.followsOuterProperty)
  if isForbidden then none
  else
    let s := (s.openBlock column none .blockSequence).skip 1
    let s ← if rules = .strict then s.dropBehindDash else some s
    let s ← s.dropKey
    some ({ s with allowsKey := true }.push .dash column)

/-- Reads the question mark of a key that may be any value. -/
def readKeyMark (rules : Rules) (s : Scan) : Option Scan := do
  let column := s.here.column
  if !s.inFlow && !s.allowsKey then none
  else
    let s := s.openBlock column none .blockMapping
    let s := if s.inFlow then { s with opensMapping := true } else s
    let s ← s.dropKey
    let s := { s with allowsKey := !s.inFlow }.skip 1
    match rules with
    | .lenient => some (s.push .key column)
    | .strict =>
      let (allowsKey, rest) ← dropKeySpace s.inFlow s.allowsKey false false s.rest
      some ({ s with allowsKey := allowsKey, rest := rest }.push .key column)

/-- By strict rules, what stands behind a colon with only tabs in between begins with no letter,
digit or hyphen. -/
def dropBehindColon (s : Scan) : Option Scan :=
  if charAt s.rest 0 == '\t' then do
    let blanks := s.rest.takeWhile fun c => isBlank c.char
    let rest ← dropTrailing .strict s.rest
    if blanks.all (fun c => c.char == '\t') && isNameChar (charAt rest 0) then none
    else some { s with rest := rest }
  else some s

/-- Puts the mark of a key in front of the token that begins it, in front of that the beginning of
a single entry in brackets, and the beginning of a block. -/
def settleKey (rules : Rules) (isPair : Bool) (line : Nat) (key : KeyStart) (s : Scan) :
    Option Scan :=
  let column := key.start.column
  let s := s.insert key.number .key column
  if isPair && key.start.line < line then none
  else
    let s := if isPair then s.insert key.number .flowMapping column else s
    let s := (s.openBlock column (some key.number) .blockMapping).indentValue rules
    some { s with keys := none :: s.keys.tail, allowsKey := false }

/-- Reads the colon in front of a value. -/
def readColon (rules : Rules) (s : Scan) : Option Scan := do
  let start := s.here
  let isPair := rules = .strict && !s.pairs.isEmpty && !s.opensMapping
  let s := if isPair then { s with pairs := true :: s.pairs.tail } else s
  let s := s.skip 1
  let s ← if rules = .strict then s.dropBehindColon else some s
  match s.keys with
  | some key :: _ =>
    let s ← s.settleKey rules isPair start.line key
    some (s.push .value start.column)
  | _ =>
    if !s.inFlow && !s.allowsKey then none
    else
      let s := if isPair then s.push .flowMapping start.column else s
      let s := (s.openBlock start.column none .blockMapping).indentValue rules
      some ({ s with allowsKey := !s.inFlow }.push .value start.column)

/-! ## Longer tokens -/

/-- Reads a mark with which a document begins or ends. By strict rules nothing but a comment stands
behind the second on its line. -/
def readMark (rules : Rules) (token : Token) (s : Scan) : Option Scan := do
  let s ← (s.closeBlocks (-1)).dropKey
  let s := ({ s with allowsKey := false }.push token 0).skip 3
  if rules = .strict ∧ token = .documentEnd then
    let s ← s.dropBehind rules
    if isLineEnd rules (charAt s.rest 0) then some s else none
  else some s

/-- Reads a directive. -/
def readDirectiveLine (rules : Rules) (s : Scan) : Option Scan := do
  let s ← (s.closeBlocks (-1)).dropKey
  let (token, rest) ← readDirective rules s.rest
  some ({ s with allowsKey := false, rest := rest }.push token 0)

/-- Reads the name that a value gets or has, or its type. -/
def readProperty (rules : Rules) (read : Source → Option (Token × Source)) (s : Scan) :
    Option Scan := do
  let column := s.here.column
  let s ← s.saveKey rules
  let (token, rest) ← read s.rest
  some ({ s with allowsKey := false, rest := rest }.push token column)

/-- Reads a text as a block of lines. -/
def readBlockText (rules : Rules) (folds : Bool) (s : Scan) : Option Scan := do
  let column := s.here.column
  let s ← if rules = .strict then s.saveKey rules else s.dropKey
  let s := s.closeValues
  let (text, rest) ← readBlock (s.place rules) folds (s.rest.drop 1)
  some ({ s with allowsKey := true, rest := rest }.push (.scalar false text) column)

/-- Whether strict rules allow what stands behind a text in quotes. -/
def mayFollowQuoted (inFlow isOneLine : Bool) (c : Char) : Bool :=
  isLineEnd .strict c || (c == ':' && (inFlow || isOneLine)) ||
    (inFlow && (c == ',' || c == ']' || c == '\x7d'))

/-- Reads a text in quotes. -/
def readQuotedText (rules : Rules) (isDouble : Bool) (s : Scan) : Option Scan := do
  let start := s.here
  let s ← s.saveKey rules
  let (text, rest) ← readQuoted (s.place rules) isDouble .text .empty [] (s.rest.drop 1)
  let s := { s with allowsKey := false, rest := rest }
  match rules with
  | .lenient => some (s.push (.scalar false text) start.column)
  | .strict =>
    let s ← s.dropBehind rules
    if mayFollowQuoted s.inFlow (start.line == s.here.line) s.here.char then
      let s ← s.dropBetween rules
      some ({ s with adjacentAt := s.here.index }.push (.scalar false text) start.column)
    else none

/-- Reads a text without quotes. By strict rules it is indented in brackets too. -/
def readPlainText (rules : Rules) (s : Scan) : Option Scan := do
  let column := s.here.column
  let s ← s.saveKey rules
  let s := s.closeValues
  if rules = .strict && s.inFlow && column ≤ s.indent then none
  else
    let (text, endsLine, rest) ← readPlain (s.place rules) .empty [] s.rest
    some ({ s with allowsKey := endsLine, rest := rest }.push (.scalar true text) column)

/-! ## All tokens -/

/-- The characters that a text without quotes cannot begin with by lenient rules. -/
def isIndicator (c : Char) : Bool :=
  isFlowMark c || "-?:#&*!|>'\"%@\x60".toList.contains c

/-- Whether a text without quotes can begin with two characters. -/
def beginsPlain (rules : Rules) (inFlow : Bool) (c next : Char) : Bool :=
  match rules with
  | .strict => c != '%' && c != '@' && c != '\x60'
  | .lenient =>
    (!isGap rules c && !isIndicator c) || (c == '-' && !isBlank next) ||
      (!inFlow && (c == '?' || c == ':') && !isGap rules next)

/-- Whether a colon stands in front of a value. -/
def isValueMark (rules : Rules) (s : Scan) : Bool :=
  let next := charAt s.rest 1
  isGap rules next ||
    (s.inFlow && (rules = .lenient || isFlowMark next || s.here.index == s.adjacentAt))

/-- Whether strict rules forbid a bracket directly behind a colon. -/
def isJammed (rules : Rules) (s : Scan) : Bool :=
  let next := charAt s.rest 1
  rules = .strict && !isGap rules next && s.here.index != s.adjacentAt &&
    (next == '[' || next == '\x7b')

/-- Reads a token that is no mark of a document and no directive. -/
def readInner (rules : Rules) (s : Scan) : Option Scan :=
  let c := charAt s.rest 0
  let next := charAt s.rest 1
  let isSetApart := isGap rules next
  if c == '[' then s.openFlow rules false
  else if c == '\x7b' then s.openFlow rules true
  else if c == ']' then s.closeFlow rules false
  else if c == '\x7d' then s.closeFlow rules true
  else if c == ',' then s.readComma rules
  else if c == '-' && isSetApart then s.readDash rules
  else if c == '?' && (isSetApart || (rules = .lenient && s.inFlow)) then s.readKeyMark rules
  else if c == ':' && s.isValueMark rules then
    if s.isJammed rules then none else s.readColon rules
  else if c == '*' then
    s.readProperty rules fun s => (readName rules (s.drop 1)).map fun r => (.reuse r.1, r.2)
  else if c == '&' then
    s.readProperty rules fun s => (readName rules (s.drop 1)).map fun r => (.name r.1, r.2)
  else if c == '!' then s.readProperty rules (readTag rules s.inFlow)
  else if c == '|' && !s.inFlow then s.readBlockText rules false
  else if c == '>' && !s.inFlow then s.readBlockText rules true
  else if c == '\'' then s.readQuotedText rules false
  else if c == '"' then s.readQuotedText rules true
  else if beginsPlain rules s.inFlow c next then s.readPlainText rules
  else none

/-- Whether a key has to come that can come no longer. -/
def lacksKey (s : Scan) : Bool := s.keys.any fun key => key.any KeyStart.isRequired

/-- Reads the end. -/
def readEnd (rules : Rules) (s : Scan) : Option Scan := do
  if rules = .strict && (s.inFlow || s.lacksKey) then none
  else
    let s ← (s.closeBlocks (-1)).dropKey
    some (s.push .finish 0)

/-- Reads the next token, and the tokens that come with it. -/
def readNext (rules : Rules) (s : Scan) : Option Scan := do
  let s ← s.dropBetween rules
  let s ← s.dropStaleKeys rules
  let s := s.closeBlocks s.here.column
  let s ←
    if s.here.char == endMark then s.readEnd rules
    else if s.here.column == 0 && s.here.char == '%' then s.readDirectiveLine rules
    else if s.here.column == 0 && isMark rules '-' s.rest then s.readMark rules .documentStart
    else if s.here.column == 0 && isMark rules '.' s.rest then s.readMark rules .documentEnd
    else if rules = .strict && s.here.column < s.indent then none
    else s.readInner rules
  s.dropStaleKeys rules

/-- The tokens in front of the first that may begin a key. -/
def settled (s : Scan) : List Token :=
  let firstOpen := (s.keys.filterMap fun key => key.map KeyStart.number).foldl min s.count
  ((s.tokens.drop (s.count - firstOpen)).map Prod.fst).reverse

/-- Reads tokens up to the end or to the first fault. -/
def readAll (rules : Rules) : Nat → Scan → List Token
  | 0, s => s.settled
  | fuel + 1, s =>
    match s.readNext rules with
    | none => s.settled
    | some next =>
      if next.tokens.head?.any fun t => t.1 == .finish then next.settled
      else readAll rules fuel next

end Scan

/-- The tokens of a source. -/
def tokensOf (rules : Rules) (source : Source) : List Token :=
  let rest := match rules, source with
    | .lenient, ⟨'\uFEFF', 0, _, _, _⟩ :: rest => rest
    | _, source => source
  Scan.readAll rules (rest.length + 1) {
    rest := rest
    tokens := []
    count := 0
    allowsKey := true
    keys := [none]
    indent := -1
    indents := []
    adjacentAt := 0
    opensMapping := false
    pairs := [] }

end AlertLine.Yaml
