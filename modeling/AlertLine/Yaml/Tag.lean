import AlertLine.Yaml.Basic

/-!
# Types and directives

The type in front of a value, as it is written: in full between angle brackets, or as a handle with
a suffix. Lines in front of a document tell the version of the format and what handles stand for.
-/

namespace AlertLine.Yaml

/-- The characters of a type that are neither letters nor digits. -/
def isTagSign (c : Char) : Bool := "-_;/?:@&=+$.~*'()%".toList.contains c

/-- A character of a suffix. -/
def isSuffixChar (rules : Rules) (c : Char) : Bool :=
  c.isAlphanum || isTagSign c || (if rules = .strict then c == '#' else c == '!')

/-- A character of a type in full. -/
def isFullTagChar (rules : Rules) (c : Char) : Bool :=
  isSuffixChar rules c || c == '!' || c == ',' || c == '[' || c == ']'

/-- How many bytes begin with this one. -/
def sequenceLength? (byte : Nat) : Option Nat :=
  if byte < 0x80 then some 1
  else if 0xC0 ≤ byte && byte < 0xE0 then some 2
  else if 0xE0 ≤ byte && byte < 0xF0 then some 3
  else if 0xF0 ≤ byte && byte < 0xF8 then some 4
  else none

/-- The byte that a percent sign and two digits write. -/
def percentByte? (s : Source) : Option Nat := do
  if charAt s 0 == '%' then some (16 * (← hexDigit? (charAt s 1)) + (← hexDigit? (charAt s 2)))
  else none

/-- The bytes of a character that are written with percent signs, after the first; the number so
far is put in front. -/
def furtherBytes? (number : Nat) : Nat → Source → Option (Nat × Source)
  | 0, s => some (number, s)
  | left + 1, s => do
    let byte ← percentByte? s
    if 0x80 ≤ byte && byte < 0xC0 then furtherBytes? (256 * number + byte) left (s.drop 3)
    else none

/-- Reads a character that is written with percent signs. Its bytes in a row have to be the number
of a character by strict rules. -/
def readEscaped (rules : Rules) (s : Source) : Option (Char × Source) := do
  let byte ← percentByte? s
  let length ← sequenceLength? byte
  let (number, rest) ← furtherBytes? byte (length - 1) (s.drop 3)
  if rules = .strict ∧ !number.isValidChar then none else some (Char.ofNat number, rest)

/-- Reads on in a type, whose characters so far come in reverse. -/
def readTagChars (rules : Rules) (isPart : Char → Bool) :
    Nat → List Char → Source → Option (List Char × Source)
  | 0, _, _ => none
  | fuel + 1, done, s =>
    let c := charAt s 0
    if c == '%' then
      match readEscaped rules s with
      | some (d, rest) => readTagChars rules isPart fuel (d :: done) rest
      | none => none
    else if isPart c then readTagChars rules isPart fuel (c :: done) (s.drop 1)
    else some (done.reverse, s)

/-- Reads a handle: an exclamation mark, and perhaps a name and another one. -/
def readHandle (s : Source) : Option (List Char × Source) :=
  if charAt s 0 == '!' then
    let letters := ((s.drop 1).takeWhile fun c => isNameChar c.char).map Cell.char
    let rest := s.drop (letters.length + 1)
    if charAt rest 0 == '!' then some ('!' :: letters ++ ['!'], rest.drop 1)
    else some ('!' :: letters, rest)
  else none

/-- Whether a handle is closed by an exclamation mark of its own. -/
def isClosedHandle (handle : List Char) : Bool :=
  2 ≤ handle.length && handle.getLast? == some '!'

/-- Reads a type between angle brackets, behind the first of them. By lenient rules it is not
empty. -/
def readFullTag (rules : Rules) (s : Source) : Option (Token × Source) := do
  let (chars, rest) ← readTagChars rules (isFullTagChar rules) (s.length + 1) [] s
  if charAt rest 0 == '>' && !(rules = .lenient && chars.isEmpty) then
    some (.tag "" (String.ofList chars), rest.drop 1)
  else none

/-- Reads a type as a handle with a suffix. An exclamation mark alone is a type of its own. -/
def readShortTag (rules : Rules) (s : Source) : Option (Token × Source) := do
  let (handle, rest) ← readHandle s
  if isClosedHandle handle then
    let (suffix, rest) ← readTagChars rules (isSuffixChar rules) (rest.length + 1) [] rest
    if suffix.isEmpty then none
    else some (.tag (String.ofList handle) (String.ofList suffix), rest)
  else
    let (suffix, rest) ← readTagChars rules (isSuffixChar rules) (rest.length + 1)
      handle.tail.reverse rest
    if suffix.isEmpty then some (.tag "" "!", rest)
    else some (.tag "!" (String.ofList suffix), rest)

/-- Reads the type in front of a value. A gap has to follow it, or inside brackets a comma; by
strict rules any bracket will do there. -/
def readTag (rules : Rules) (inFlow : Bool) (s : Source) : Option (Token × Source) := do
  let (token, rest) ←
    if charAt s 1 == '<' then readFullTag rules (s.drop 2) else readShortTag rules s
  let next := charAt rest 0
  let isSetApart := isGap rules next ||
    (inFlow && if rules = .strict then isFlowMark next else next == ',')
  if isSetApart then some (token, rest) else none

/-- Reads the name of a value, behind its sign. By strict rules it goes up to the next gap or
bracket; by lenient rules it has letters, digits, hyphens and low lines, and only few other
characters can follow it. -/
def readName (rules : Rules) (s : Source) : Option (String × Source) :=
  let isPart (c : Cell) : Bool :=
    if rules = .strict then !isGap rules c.char && !isFlowMark c.char && c.char != '\uFEFF'
    else isNameChar c.char
  let letters := (s.takeWhile isPart).map Cell.char
  let rest := s.drop letters.length
  let next := charAt rest 0
  if letters.isEmpty then none
  else if rules = .lenient && !isGap rules next && !"?:,]\x7d%@\x60".toList.contains next then none
  else some (String.ofList letters, rest)

/-! ## Directives -/

/-- Reads a number of nine digits at most. -/
def readVersionNumber (s : Source) : Option (Nat × Source) :=
  let digits := (s.takeWhile fun c => c.char.isDigit).map Cell.char
  if digits.isEmpty || 9 < digits.length then none
  else
    let number := digits.foldl (fun n c => 10 * n + (c.toNat - '0'.toNat)) 0
    some (number, s.drop digits.length)

/-- Reads the version of the format. -/
def readVersion (s : Source) : Option (Token × Source) := do
  let (major, rest) ← readVersionNumber (dropBlanks s)
  if charAt rest 0 == '.' then
    let (minor, rest) ← readVersionNumber (rest.drop 1)
    some (.version major minor, rest)
  else none

/-- Reads what a handle stands for. -/
def readTagRule (rules : Rules) (s : Source) : Option (Token × Source) := do
  let (handle, rest) ← readHandle (dropBlanks s)
  let prefixStart := dropBlanks rest
  let isSetApart := rules = .strict || prefixStart.length < rest.length
  if !isSetApart || (2 ≤ handle.length && !isClosedHandle handle) then none
  else
    let (replacement, rest) ←
      readTagChars rules (isFullTagChar rules) (prefixStart.length + 1) [] prefixStart
    let first := charAt prefixStart 0
    let isWellBegun := rules = .lenient || first == '!' || first == '%' || isSuffixChar rules first
    if replacement.isEmpty || !isWellBegun || !isGap rules (charAt rest 0) then none
    else some (.tagRule (String.ofList handle) (String.ofList replacement), rest)

/-- Reads a directive with its line, from the percent sign on. Strict rules pass over an unknown
one. -/
def readDirective (rules : Rules) (s : Source) : Option (Token × Source) := do
  let letters := ((s.drop 1).takeWhile fun c => isNameChar c.char).map Cell.char
  let rest := s.drop (letters.length + 1)
  if letters.isEmpty || !isGap rules (charAt rest 0) then none
  else
    let (token, rest) ←
      match String.ofList letters with
      | "YAML" => readVersion rest
      | "TAG" => readTagRule rules rest
      | _ => if rules = .strict then some (.tagRule "" "", dropLine rules rest) else none
    let rest ← dropTrailing rules rest
    if isLineEnd rules (charAt rest 0) then some (token, dropBreak rules rest) else none

end AlertLine.Yaml
