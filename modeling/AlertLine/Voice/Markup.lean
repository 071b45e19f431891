/-!
# Call markup

What a caller hears, as a tree of instructions, and its XML form. Every text goes through one
escape, which also turns control characters other than line feed and tab into spaces; so no text
can open or close an element or an attribute.
-/

namespace AlertLine

/-- One instruction of a call. -/
inductive Verb where
  /-- Speak a text. -/
  | say (text : String)
  /-- Take keys while the children play: how many, and how long to wait for them. -/
  | gather (keyCount timeoutSeconds : UInt8) (children : List Verb)
  /-- Wait so many seconds. -/
  | pause (seconds : UInt8)
  /-- End the call. -/
  | hangup
  deriving Repr

/-- The instructions of one answer, in order. -/
structure Prompt where
  /-- The instructions. -/
  verbs : List Verb
  deriving Repr

/-- The voice that speaks. -/
structure Speaker where
  /-- The name of the voice. -/
  voice : String
  /-- The language that it speaks. -/
  language : String
  deriving DecidableEq, Repr

namespace Markup

/-- A control character of Unicode. -/
def isControl (c : Char) : Bool :=
  c.toNat < 0x20 || (0x7F ≤ c.toNat && c.toNat ≤ 0x9F)

/-- One character as it stands in text and in attributes. -/
def escapedChar (c : Char) : List Char :=
  match c with
  | '&' => "&amp;".toList
  | '<' => "&lt;".toList
  | '>' => "&gt;".toList
  | '"' => "&quot;".toList
  | '\'' => "&apos;".toList
  | c => if isControl c && c != '\n' && c != '\t' then [' '] else [c]

/-- A text as it stands between tags and between the quotes of an attribute. -/
def escaped (s : String) : List Char :=
  s.toList.flatMap escapedChar

/-- A number in decimal digits. -/
def decimal (n : UInt8) : List Char := n.toNat.repr.toList

/-- An attribute behind a space. -/
def attributeChars (name : String) (value : List Char) : List Char :=
  ' ' :: (name.toList ++ '=' :: '"' :: (value ++ ['"']))

mutual

/-- The element of an instruction. -/
def verbChars (speaker : Speaker) : Verb → List Char
  | .say text =>
    "<Say".toList ++ attributeChars "voice" (escaped speaker.voice) ++
      attributeChars "language" (escaped speaker.language) ++ '>' :: escaped text ++
      "</Say>".toList
  | .gather keyCount timeoutSeconds children =>
    "<Gather".toList ++ attributeChars "numDigits" (decimal keyCount) ++
      attributeChars "timeout" (decimal timeoutSeconds) ++
      attributeChars "method" "POST".toList ++ '>' :: verbsChars speaker children ++
      "</Gather>".toList
  | .pause seconds => "<Pause".toList ++ attributeChars "length" (decimal seconds) ++ "/>".toList
  | .hangup => "<Hangup/>".toList

/-- The elements of instructions in order. -/
def verbsChars (speaker : Speaker) : List Verb → List Char
  | [] => []
  | v :: vs => verbChars speaker v ++ verbsChars speaker vs

end

/-- What a document opens with. -/
def header : String := "<?xml version=\"1.0\" encoding=\"UTF-8\"?><Response>"

/-- What a document closes with. -/
def footer : String := "</Response>"

end Markup

/-- The document of a prompt, spoken by the given voice. -/
def Prompt.render (speaker : Speaker) (p : Prompt) : String :=
  String.ofList
    (Markup.header.toList ++ Markup.verbsChars speaker p.verbs ++ Markup.footer.toList)

end AlertLine
