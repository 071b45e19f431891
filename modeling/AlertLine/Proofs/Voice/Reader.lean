import AlertLine.Text.Decimal
import AlertLine.Voice.Markup
import Mathlib.Tactic.Common

/-!
# Reading call markup

The way back from a document to what a caller hears. Reading is one step per character: a text runs
up to the next tag, a tag up to its closing bracket, and a bracket within quotes is a part of the
tag. A tag is read as its name and its attributes, with the five predefined entities replaced; an
element ends at the closing tag of its own name. The tree that comes out is then read as
instructions, each with the attributes that it needs.

The reader knows nothing of the texts that are spoken, nor of the way a document was written.
-/

namespace AlertLine
namespace Markup

/-! ## Characters -/

/-- A character as it comes through: control characters other than line feed and tab are spaces. -/
def plainChar (c : Char) : Char :=
  if isControl c && c != '\n' && c != '\t' then ' ' else c

/-- A text as it comes through. -/
def plain (s : String) : String := s.map plainChar

/-- The characters that open and close elements and attributes. -/
def delimiters : List Char := ['<', '>', '"', '\'']

/-- The predefined entities. -/
def entities : List (List Char × Char) :=
  [("amp".toList, '&'), ("lt".toList, '<'), ("gt".toList, '>'), ("quot".toList, '"'),
    ("apos".toList, '\'')]

/-- The characters that a text stands for, behind the given part of the name of an entity. -/
def unescapeFrom : Option (List Char) → List Char → Option (List Char)
  | none, [] => some []
  | some _, [] => none
  | none, c :: cs =>
    if c = '&' then unescapeFrom (some []) cs else (unescapeFrom none cs).map (c :: ·)
  | some name, c :: cs =>
    if c = ';' then
      (entities.lookup name.reverse).bind fun e => (unescapeFrom none cs).map (e :: ·)
    else unescapeFrom (some (c :: name)) cs

/-- The text that characters stand for. -/
def unescape (cs : List Char) : Option String :=
  (unescapeFrom none cs).map String.ofList

/-! ## Tags -/

/-- An attribute: its name and its value. -/
abbrev Attribute := String × String

/-- What stands between two brackets. -/
inductive Tag where
  /-- The declaration of a document. -/
  | declaration
  /-- The start of an element. -/
  | opening (name : String) (attributes : List Attribute)
  /-- An element without contents. -/
  | single (name : String) (attributes : List Attribute)
  /-- The end of an element. -/
  | closing (name : String)
  deriving DecidableEq, Repr

/-- A character of the name of an element or of an attribute. -/
def isNameChar (c : Char) : Bool := c.isAlphanum || c == '-' || c == '_' || c == ':'

/-- A name, if there is nothing else. -/
def nameOf? (cs : List Char) : Option String :=
  if !cs.isEmpty && cs.all isNameChar then some (String.ofList cs) else none

/-- The name of the attribute that stands in front of a quote. -/
def keyOf? : List Char → Option String
  | ' ' :: cs => if cs.getLast? = some '=' then nameOf? cs.dropLast else none
  | _ => none

/-- Attributes out of what stands between the quotes of a tag, and whether the tag is its own
end. -/
def attributesOf? : List (List Char) → Option (List Attribute × Bool)
  | [[]] => some ([], false)
  | [['/']] => some ([], true)
  | key :: value :: rest => do
    let name ← keyOf? key
    let value ← unescape value
    let (attributes, isSingle) ← attributesOf? rest
    some ((name, value) :: attributes, isSingle)
  | _ => none

/-- The tag that stands between two brackets. -/
def Tag.read? : List Char → Option Tag
  | '?' :: cs => if cs.getLast? = some '?' then some .declaration else none
  | '/' :: cs => (nameOf? cs).map .closing
  | cs => do
    let name ← nameOf? (cs.takeWhile isNameChar)
    let (attributes, isSingle) ← attributesOf? ((cs.dropWhile isNameChar).splitOnP (· == '"'))
    some (if isSingle then .single name attributes else .opening name attributes)

/-! ## Trees -/

/-- A part of a document. -/
inductive Node where
  /-- A text, not empty. -/
  | text (s : String)
  /-- An element with its attributes and its contents in order. -/
  | element (name : String) (attributes : List Attribute) (contents : List Node)
  deriving Repr

/-- An element that is not closed yet. -/
structure OpenElement where
  /-- Its name. -/
  name : String
  /-- Its attributes. -/
  attributes : List Attribute
  /-- What stands before it in the element around it, newest first. -/
  before : List Node

/-- A document of which the first part is read. -/
structure Building where
  /-- The contents of the innermost open element, newest first. -/
  contents : List Node
  /-- The open elements, innermost first. -/
  outer : List OpenElement

namespace Building

/-- One more part. -/
def push (b : Building) (n : Node) : Building := { b with contents := n :: b.contents }

/-- Takes in what stands before a tag. -/
def takeText (b : Building) (cs : List Char) : Option Building :=
  if cs.isEmpty then some b else (unescape cs).map fun s => b.push (.text s)

/-- Takes in a tag. A declaration stands in front of everything. -/
def takeTag (b : Building) : Tag → Option Building
  | .declaration => if b.contents.isEmpty && b.outer.isEmpty then some b else none
  | .opening name attributes => some ⟨[], ⟨name, attributes, b.contents⟩ :: b.outer⟩
  | .single name attributes => some (b.push (.element name attributes []))
  | .closing name =>
    match b.outer with
    | [] => none
    | o :: outer =>
      if o.name = name then
        some ⟨.element name o.attributes b.contents.reverse :: o.before, outer⟩
      else none

end Building

/-- Where the reader stands, with the characters since the last bracket in reverse. -/
inductive Place where
  /-- Between tags. -/
  | text (characters : List Char)
  /-- In a tag. -/
  | tag (characters : List Char)
  /-- Between the quotes of an attribute. -/
  | quoted (characters : List Char)

/-- What is read so far. -/
structure Scan where
  /-- Where the reader stands. -/
  place : Place
  /-- What the brackets so far have given. -/
  building : Building

namespace Scan

/-- One more character. -/
def step (s : Scan) (c : Char) : Option Scan :=
  match s.place with
  | .text cs =>
    if c = '<' then (s.building.takeText cs.reverse).map fun b => ⟨.tag [], b⟩
    else some ⟨.text (c :: cs), s.building⟩
  | .tag cs =>
    if c = '<' then none
    else if c = '>' then do
      let tag ← Tag.read? cs.reverse
      let b ← s.building.takeTag tag
      some ⟨.text [], b⟩
    else if c = '"' then some ⟨.quoted (c :: cs), s.building⟩
    else some ⟨.tag (c :: cs), s.building⟩
  | .quoted cs =>
    -- a closing bracket between quotes is a character like any other
    if c = '<' then none
    else if c = '"' then some ⟨.tag (c :: cs), s.building⟩
    else some ⟨.quoted (c :: cs), s.building⟩

/-- The document when the input ends: one element with nothing around it. -/
def finish (s : Scan) : Option Node :=
  match s.place, s.building with
  | .text [], ⟨[n], []⟩ => some n
  | _, _ => none

end Scan

/-- The tree of a document. -/
def treeOf? (document : String) : Option Node :=
  (document.toList.foldlM Scan.step ⟨.text [], ⟨[], []⟩⟩).bind Scan.finish

/-! ## Instructions -/

/-- An instruction as it is read from a document, with the voice that speaks. -/
inductive Heard where
  /-- Speak a text. -/
  | say (voice language text : String)
  /-- Take keys while the children play: how many, and how long to wait for them. -/
  | gather (keyCount timeoutSeconds : UInt8) (children : List Heard)
  /-- Wait so many seconds. -/
  | pause (seconds : UInt8)
  /-- End the call. -/
  | hangup
  deriving Repr

/-- The number that an attribute gives. -/
def numberOf? (attributes : List Attribute) (name : String) : Option UInt8 := do
  let digits ← attributes.lookup name
  let n ← (Decimal.readNat 255 .tooLarge digits.toList).toOption
  some (.ofNat n)

/-- The text that an element contains, if it contains nothing else. -/
def textOf? : List Node → Option String
  | [] => some ""
  | [.text s] => some s
  | _ => none

mutual

/-- The instruction that an element stands for. -/
def Node.heard? : Node → Option Heard
  | .text _ => none
  | .element name attributes contents =>
    if name = "Say" then do
      some (.say (← attributes.lookup "voice") (← attributes.lookup "language")
        (← textOf? contents))
    else if name = "Gather" then do
      some (.gather (← numberOf? attributes "numDigits") (← numberOf? attributes "timeout")
        (← Node.allHeard? contents))
    else if name = "Pause" then (numberOf? attributes "length").map .pause
    else if name = "Hangup" then some .hangup
    else none

/-- The instructions that elements stand for, in order. -/
def Node.allHeard? : List Node → Option (List Heard)
  | [] => some []
  | n :: ns => do some ((← n.heard?) :: (← Node.allHeard? ns))

end

/-- The instructions of a document. -/
def read? (document : String) : Option (List Heard) :=
  match treeOf? document with
  | some (.element name _ contents) =>
    if name = "Response" then Node.allHeard? contents else none
  | _ => none

/-- An element that is not closed makes no document. -/
example : (read? "<Response><Pause length=\"1\"></Response>").isNone = true := by decide

end Markup

/-! ## What a reader should find -/

namespace Verb

open Markup

mutual

/-- The element that an instruction should be read as. -/
def node (speaker : Speaker) : Verb → Node
  | .say text =>
    .element "Say" [("voice", plain speaker.voice), ("language", plain speaker.language)]
      (if text.isEmpty then [] else [.text (plain text)])
  | .gather keyCount timeoutSeconds children =>
    .element "Gather" [("numDigits", keyCount.toNat.repr), ("timeout", timeoutSeconds.toNat.repr),
      ("method", "POST")] (nodes speaker children)
  | .pause seconds => .element "Pause" [("length", seconds.toNat.repr)] []
  | .hangup => .element "Hangup" [] []

/-- The elements that instructions should be read as. -/
def nodes (speaker : Speaker) : List Verb → List Node
  | [] => []
  | v :: vs => node speaker v :: nodes speaker vs

end

mutual

/-- The instruction that should be read, spoken by the given voice. -/
def heard (speaker : Speaker) : Verb → Heard
  | .say text => .say (plain speaker.voice) (plain speaker.language) (plain text)
  | .gather keyCount timeoutSeconds children =>
    .gather keyCount timeoutSeconds (allHeard speaker children)
  | .pause seconds => .pause seconds
  | .hangup => .hangup

/-- The instructions that should be read, in order. -/
def allHeard (speaker : Speaker) : List Verb → List Heard
  | [] => []
  | v :: vs => heard speaker v :: allHeard speaker vs

end

end Verb
end AlertLine
