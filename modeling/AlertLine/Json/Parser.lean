import AlertLine.Json.Token

/-!
# Reading JSON

A document is a value and nothing else. The reader keeps the containers it is in on a stack, so
nesting costs no calls; how deep a value may nest is for whoever takes it in to say.
-/

namespace AlertLine.Json

/-- A container that a value is being read for, with what it holds so far in reverse. -/
inductive Frame where
  /-- An array. -/
  | array (items : List Json)
  /-- An object, and the name of the entry being read. -/
  | object (entries : List (Reading × Json)) (name : Reading)

/-- What may come next. -/
inductive Parsing where
  /-- A value. -/
  | value (stack : List Frame)
  /-- A value or the end of an array just opened. -/
  | itemOrEnd (stack : List Frame)
  /-- A name or the end of an object just opened. -/
  | nameOrEnd (stack : List Frame)
  /-- A name, behind a comma. -/
  | entryName (entries : List (Reading × Json)) (stack : List Frame)
  /-- The colon behind a name. -/
  | colon (entries : List (Reading × Json)) (name : Reading) (stack : List Frame)
  /-- A comma or the end of an array. -/
  | afterItem (items : List Json) (stack : List Frame)
  /-- A comma or the end of an object. -/
  | afterEntry (entries : List (Reading × Json)) (stack : List Frame)
  /-- Nothing. -/
  | finished (v : Json)

/-- A value has been read. -/
def Parsing.complete (v : Json) : List Frame → Parsing
  | [] => .finished v
  | .array items :: stack => .afterItem (v :: items) stack
  | .object entries name :: stack => .afterEntry ((name, v) :: entries) stack

/-- The first token of a value. -/
def Parsing.begin (stack : List Frame) : Token → Option Parsing
  | .null => some (complete .null stack)
  | .bool b => some (complete (.bool b) stack)
  | .number n => some (complete (.number n) stack)
  | .string s => some (complete (.string s) stack)
  | .beginArray => some (.itemOrEnd stack)
  | .beginObject => some (.nameOrEnd stack)
  | _ => none

/-- One more token. -/
def Parsing.step : Parsing → Token → Option Parsing
  | .value stack, t => begin stack t
  | .itemOrEnd stack, .endArray => some (complete (.array []) stack)
  | .itemOrEnd stack, t => begin (.array [] :: stack) t
  | .nameOrEnd stack, .endObject => some (complete (.object []) stack)
  | .nameOrEnd stack, .string s => some (.colon [] s stack)
  | .entryName entries stack, .string s => some (.colon entries s stack)
  | .colon entries name stack, .colon => some (.value (.object entries name :: stack))
  | .afterItem items stack, .comma => some (.value (.array items :: stack))
  | .afterItem items stack, .endArray => some (complete (.array items.reverse) stack)
  | .afterEntry entries stack, .comma => some (.entryName entries stack)
  | .afterEntry entries stack, .endObject => some (complete (.object entries.reverse) stack)
  | _, _ => none

/-- The value when the tokens end. -/
def Parsing.finish : Parsing → Option Json
  | .finished v => some v
  | _ => none

/-- The value that a list of tokens spells. -/
def ofTokens (ts : List Token) : Option Json :=
  (ts.foldlM Parsing.step (.value [])).bind Parsing.finish

/-- The value of a document. -/
def parse (document : Bytes) : Option Json :=
  (tokenize (Utf8.scan document)).bind ofTokens

/-- The value of a document given as text. -/
def parseText (document : String) : Option Json :=
  (tokenize (document.toList.map some)).bind ofTokens

end AlertLine.Json
