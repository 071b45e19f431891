import AlertLine.Yaml.Lexer
import AlertLine.Yaml.Node

/-!
# Reading YAML

A text is well formed if the tokens of its documents make up values by the strict rules; its content
is the one document that its tokens make up by the lenient rules (`parse`). The readers recurse on a
supply of steps that the number of tokens bounds.
-/

namespace AlertLine.Yaml

/-- A text that is being read. -/
structure Reading where
  /-- The rules that hold. -/
  rules : Rules
  /-- The tokens that are left. -/
  tokens : List Token
  /-- What the names of values stand for, the newest first. -/
  names : List (String × Nat)
  /-- How many values have got names. -/
  count : Nat
  /-- The values with names that have been read. -/
  values : List (Nat × Node)
  /-- What handles stand for in this document. -/
  tagRules : List (String × String)

/-- A reader of tokens. -/
abbrev Reader := StateT Reading Option

namespace Reader

/-- The next token. -/
def peek : Reader Token := do
  match (← get).tokens with
  | token :: _ => pure token
  | [] => failure

/-- Passes over the next token. -/
def advance : Reader Unit := modify fun r => { r with tokens := r.tokens.tail }

/-- Passes over a token if it is the next; says whether it is. -/
def accept (token : Token) : Reader Bool := do
  if (← peek) == token then
    advance
    pure true
  else pure false

/-- Passes over a token that has to be the next. -/
def expect (token : Token) : Reader Unit := do
  if !(← accept token) then failure

/-- Whether a token has one of two forms in front of a key or its value. -/
def endsBlockPart (token : Token) : Bool := [.key, .value, .blockEnd].contains token

/-! ## What stands in front of values -/

/-- What can stand in front of a value. -/
structure Properties where
  /-- The number that its name got. -/
  number : Option Nat
  /-- Its type. -/
  tag : Option String

/-- Gives the next number to a name. -/
def newNumber (name : String) : Reader Nat := do
  let number := (← get).count
  modify fun r => { r with count := number + 1, names := (name, number) :: r.names }
  pure number

/-- What handles stand for unless a document says otherwise. -/
def standardTagRules : List (String × String) := [("!", "!"), ("!!", "tag:yaml.org,2002:")]

/-- The type that a handle and a suffix write. -/
def tagOf (handle suffix : String) : Reader String := do
  if handle.isEmpty then pure suffix
  else
    match ((← get).tagRules ++ standardTagRules).lookup handle with
    | some replacement => pure (replacement ++ suffix)
    | none => failure

/-- Reads what stands in front of a value: a name and a type in either order, each once. -/
def properties : Reader Properties := do
  match ← peek with
  | .name name =>
    advance
    let number ← newNumber name
    match ← peek with
    | .tag handle suffix =>
      advance
      pure ⟨some number, some (← tagOf handle suffix)⟩
    | _ => pure ⟨some number, none⟩
  | .tag handle suffix =>
    advance
    let tag ← tagOf handle suffix
    match ← peek with
    | .name name =>
      advance
      pure ⟨some (← newNumber name), some tag⟩
    | _ => pure ⟨none, some tag⟩
  | _ => pure ⟨none, none⟩

/-- A value with its name. -/
def named (p : Properties) (node : Node) : Reader Node := do
  match p.number with
  | some number => modify fun r => { r with values := (number, node) :: r.values }
  | none => pure ()
  pure node

/-- A value of which only what stands in front of it is written, if anything is. -/
def emptyNode (p : Properties) : Reader Node :=
  if p.number.isNone && p.tag.isNone then failure else named p (.scalar p.tag true "")

/-- A text with what stands in front of it. An exclamation mark alone is no type of a text. -/
def textNode (p : Properties) (isPlain : Bool) (text : String) : Reader Node :=
  named p (.scalar (p.tag.filter (· != "!")) isPlain text)

/-- The value with a name. -/
def reused (name : String) : Reader Node := do
  match (← get).names.lookup name with
  | some number => pure (.reuse number)
  | none => failure

/-! ## Values -/

mutual

/-- Reads a value. A block can begin only where one is allowed, and a block of items whose hyphens
are not indented only behind a key. -/
def node : Nat → (allowsBlock allowsItems : Bool) → Reader Node
  | 0, _, _ => failure
  | fuel + 1, allowsBlock, allowsItems => do
    match ← peek with
    | .reuse name =>
      advance
      reused name
    | _ =>
      let p ← properties
      match ← peek with
      | .scalar isPlain text =>
        advance
        textNode p isPlain text
      | .flowSequence =>
        advance
        named p (.sequence p.tag (← flowItems fuel true []))
      | .flowMapping =>
        advance
        named p (.mapping p.tag (← flowEntries fuel true []))
      | .dash =>
        if allowsItems then named p (.sequence p.tag (← bareItems fuel [])) else emptyNode p
      | .blockSequence =>
        if allowsBlock then
          advance
          named p (.sequence p.tag (← blockItems fuel []))
        else emptyNode p
      | .blockMapping =>
        if allowsBlock then
          advance
          named p (.mapping p.tag (← blockEntries fuel []))
        else emptyNode p
      | _ => emptyNode p

/-- Reads the items of a block; those so far come in reverse. -/
def blockItems : Nat → List Node → Reader (List Node)
  | 0, _ => failure
  | fuel + 1, done => do
    if ← accept .blockEnd then pure done.reverse
    else
      expect .dash
      let next ← peek
      let item ← if next == .dash || next == .blockEnd then pure .empty else node fuel true false
      blockItems fuel (item :: done)

/-- Reads items whose hyphens are not indented; those so far come in reverse. -/
def bareItems : Nat → List Node → Reader (List Node)
  | 0, _ => failure
  | fuel + 1, done => do
    if ← accept .dash then
      let next ← peek
      let item ← if next == .dash || endsBlockPart next then pure .empty else node fuel true false
      bareItems fuel (item :: done)
    else pure done.reverse

/-- Reads the entries of a block; those so far come in reverse. By strict rules a key may be
missing. -/
def blockEntries : Nat → List (Node × Node) → Reader (List (Node × Node))
  | 0, _ => failure
  | fuel + 1, done => do
    if ← accept .blockEnd then pure done.reverse
    else
      let key ←
        if ← accept .key then
          if endsBlockPart (← peek) then pure .empty else node fuel true true
        else if (← get).rules = .strict && (← peek) == .value then pure .empty
        else failure
      let value ←
        if ← accept .value then
          if endsBlockPart (← peek) then pure .empty else node fuel true true
        else pure .empty
      blockEntries fuel ((key, value) :: done)

/-- Reads the items of a sequence in brackets; those so far come in reverse. -/
def flowItems : Nat → (isFirst : Bool) → List Node → Reader (List Node)
  | 0, _, _ => failure
  | fuel + 1, isFirst, done => do
    if ← accept .flowSequenceEnd then pure done.reverse
    else
      if !isFirst then expect .comma
      if ← accept .flowSequenceEnd then pure done.reverse
      else
        let item ← if ← accept .key then flowPair fuel else node fuel false false
        flowItems fuel false (item :: done)

/-- Reads a mapping of one entry that stands in a sequence, behind the mark of its key. Without a
key the next token goes unread. -/
def flowPair : Nat → Reader Node
  | 0 => failure
  | fuel + 1 => do
    let next ← peek
    let key ←
      if [.value, .comma, .flowSequenceEnd].contains next then
        advance
        pure .empty
      else node fuel false false
    let value ←
      if ← accept .value then
        let next ← peek
        if next == .comma || next == .flowSequenceEnd then pure .empty else node fuel false false
      else pure .empty
    pure (.mapping none [(key, value)])

/-- Reads the entries of a mapping in brackets; those so far come in reverse. By strict rules a key
may be missing. -/
def flowEntries : Nat → (isFirst : Bool) → List (Node × Node) → Reader (List (Node × Node))
  | 0, _, _ => failure
  | fuel + 1, isFirst, done => do
    if ← accept .flowMappingEnd then pure done.reverse
    else
      if !isFirst then expect .comma
      if ← accept .flowMappingEnd then pure done.reverse
      else
        let entry ←
          if ← accept .key then
            let next ← peek
            let key ←
              if [.value, .comma, .flowMappingEnd].contains next then pure .empty
              else node fuel false false
            pure (key, ← flowValue fuel)
          else if (← get).rules = .strict && (← peek) == .value then
            pure (.empty, ← flowValue fuel)
          else
            pure (← node fuel false false, .empty)
        flowEntries fuel false (entry :: done)

/-- Reads the value of an entry in brackets. -/
def flowValue : Nat → Reader Node
  | 0 => failure
  | fuel + 1 => do
    if ← accept .value then
      let next ← peek
      if next == .comma || next == .flowMappingEnd then pure .empty else node fuel false false
    else pure .empty

end

/-! ## Documents -/

/-- How many steps are enough for the tokens that are left. -/
def steps : Reader Nat := do pure (4 * (← get).tokens.length + 8)

/-- A version that can be read by lenient rules. -/
def isKnownVersion (major minor : Nat) : Bool := major == 1 && (minor == 1 || minor == 2)

/-- Reads the directives in front of a document: the version once, and each handle once. -/
def directives (hasVersion : Bool) : Nat → Reader Unit
  | 0 => failure
  | fuel + 1 => do
    match ← peek with
    | .version major minor =>
      if hasVersion || ((← get).rules = .lenient && !isKnownVersion major minor) then failure
      advance
      directives true fuel
    | .tagRule handle replacement =>
      if ((← get).tagRules.lookup handle).isSome then failure
      advance
      modify fun r => { r with tagRules := (handle, replacement) :: r.tagRules }
      directives hasVersion fuel
    | _ => pure ()

/-- Whether a token begins a document with a mark. -/
def opensDocument : Token → Bool
  | .version _ _ | .tagRule _ _ | .documentStart => true
  | _ => false

/-- Whether a token stands behind a document without a value. -/
def endsDocument (token : Token) : Bool :=
  opensDocument token || token == .documentEnd || token == .finish

/-- Reads what stands in front of a document, up to its mark. -/
def openDocument : Reader Unit := do
  modify fun r => { r with tagRules := [] }
  directives false (← steps)
  expect .documentStart

/-- Reads the value of a document behind its mark. -/
def content : Reader Node := do
  if endsDocument (← peek) then pure .empty else node (← steps) true false

/-- Reads a document. Only where it is allowed, its mark may be missing. -/
def document (allowsBare : Bool) : Reader Node := do
  if opensDocument (← peek) then
    openDocument
    content
  else if allowsBare then
    modify fun r => { r with tagRules := [] }
    node (← steps) true false
  else failure

/-- Passes over marks of the end. -/
def dropEnds : Nat → Reader Unit
  | 0 => pure ()
  | fuel + 1 => do
    if ← accept .documentEnd then dropEnds fuel

/-- Reads all documents by strict rules; those so far come in reverse. Behind a mark of the end the
mark of the next document may be missing. -/
def documents : Nat → (allowsBare : Bool) → List Node → Reader (List Node)
  | 0, _, _ => failure
  | fuel + 1, allowsBare, done => do
    dropEnds (← steps)
    if (← peek) == .finish then pure done.reverse
    else
      let root ← document allowsBare
      if ← accept .documentEnd then documents fuel true (root :: done)
      else
        match ← peek with
        | .version _ _ | .tagRule _ _ => failure
        | _ => documents fuel false (root :: done)

/-- Reads the first document by lenient rules, if there is one. -/
def firstDocument : Reader (Option Node) := do
  if (← peek) == .finish then pure none
  else
    let root ← document true
    let _ ← accept .documentEnd
    pure (some root)

/-- Reads the beginning of one more document, up to the beginning of its value. -/
def anotherDocument : Reader Unit := do
  dropEnds (← steps)
  openDocument
  let next ← peek
  match next with
  | .reuse name =>
    let _ ← reused name
  | _ =>
    if !endsDocument next then
      let p ← properties
      match ← peek with
      | .scalar _ _ | .flowSequence | .flowMapping | .blockSequence | .blockMapping => pure ()
      | _ =>
        let _ ← emptyNode p

end Reader

/-- The tokens of a text as they are to be read. -/
def readingOf (rules : Rules) (source : Source) : Reading :=
  ⟨rules, tokensOf rules source, [], 0, [], []⟩

/-! ## Well formed texts -/

/-- How deep values can stand in one another. -/
def greatestDepth : Nat := 2000

/-- How often values are used again before it is asked how many have names. -/
def freeReuses : Nat := 100

/-- How often values can be used again for each that has a name. -/
def reusesPerName : Nat := 10

/-- Whether values are used again too often for the number of names. -/
def isOverused (tokens : List Token) : Bool :=
  let names := tokens.countP fun | .name _ => true | _ => false
  let reuses := tokens.countP fun | .reuse _ => true | _ => false
  freeReuses ≤ reuses && (names == 0 || reusesPerName * names < reuses)

/-- Whether a text keeps the strict rules. -/
def isWellFormed (text : String) : Bool :=
  match sourceOf? .strict text with
  | none => false
  | some source =>
    let start := readingOf .strict source
    match (Reader.documents (start.tokens.length + 1) true []).run start with
    | none => false
    | some (roots, _) => !isOverused start.tokens && depthOfItems roots ≤ greatestDepth

/-- The one document of a text that has one; a text without a document has an empty value. What
follows the document does not count unless it is a document itself. -/
def contentOf (text : String) : Option Document := do
  let source ← sourceOf? .lenient text
  let (root, behind) ← Reader.firstDocument.run (readingOf .lenient source)
  match root with
  | none => some ⟨.empty, []⟩
  | some root =>
    if (Reader.anotherDocument.run behind).isSome then none else some ⟨root, behind.values⟩

/-- The document of a well formed text. -/
def parse (text : String) : Option Document :=
  if isWellFormed text then contentOf text else none

end AlertLine.Yaml
