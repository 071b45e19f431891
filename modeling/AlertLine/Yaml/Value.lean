import AlertLine.Yaml.Node
import AlertLine.Yaml.Number

/-!
# Values of a YAML document

What the values of a document stand for, each text read as its type says or as its spelling
suggests. Here a mapping can take in the entries of others under the key `<<` (`Value.merged`).
Not every document has such a reading: keys are texts and differ, a value is not inside itself, and
a whole number has no more than 64 bits.
-/

namespace AlertLine.Yaml

/-- What a value stands for. -/
inductive Value where
  /-- Nothing. -/
  | null
  /-- A truth value. -/
  | truth (b : Bool)
  /-- A whole number. -/
  | integer (n : Int)
  /-- A number that is not written as a whole number. -/
  | real
  /-- A text. -/
  | text (s : String)
  /-- Values in order. -/
  | sequence (items : List Value)
  /-- Keys with their values, in order. -/
  | mapping (entries : List (String × Value))
  /-- A value with a type of its own. -/
  | tagged (value : Value)
  deriving Inhabited

/-! ## Texts -/

/-- What stands in front of the names of types that all documents share. -/
def sharedTag (name : String) : String := "tag:yaml.org,2002:" ++ name

/-- Whether a type belongs to the document. -/
def isLocalTag (tag : String) : Bool := tag.startsWith "!"

/-- A whole number, if it has 64 bits. -/
def Value.ofInteger? (n : Int) : Option Value := if hasWidth64 n then some (.integer n) else none

/-- What a text without quotes and without a type stands for. A whole number has to be of 64 bits
unless it has more than 128; then it is taken with a point. -/
def Value.ofPlain? (text : String) : Option Value :=
  if text.isEmpty || nullWords.contains text then some .null
  else
    match truthWords.lookup text, (integer? text).filter hasWidth128 with
    | some b, _ => some (.truth b)
    | none, some n => ofInteger? n
    | none, none =>
      if !isPadded (dropSign text.toList) && isReal text then some .real else some (.text text)

/-- What a text stands for. One of the shared types has to fit it; a type of another kind makes it
a text. -/
def Value.ofScalar? (tag : Option String) (isPlain : Bool) (text : String) : Option Value :=
  let untyped := if isPlain then ofPlain? text else some (.text text)
  match tag with
  | none => untyped
  | some tag =>
    if isLocalTag tag then untyped.map .tagged
    else if tag == sharedTag "bool" then (truthWords.lookup text).map .truth
    else if tag == sharedTag "int" then (integer? text).bind ofInteger?
    else if tag == sharedTag "float" then if isReal text then some .real else none
    else if tag == sharedTag "null" then if nullWords.contains text then some .null else none
    else if tag == sharedTag "binary" then none
    else some (.text text)

/-! ## Values in values -/

/-- A value with the type that its document gives it. -/
def Value.typed (tag : Option String) (value : Value) : Value :=
  if tag.any isLocalTag then .tagged value else value

/-- How deep values can stand in one another. -/
def greatestValueDepth : Nat := 128

/-- A reader of values, which can go back to named values a limited number of times. -/
abbrev Resolver := StateT Nat Option

/-- Goes to the value where one is used again. -/
def Document.jump (d : Document) : Node → Resolver Node
  | .reuse number => do
    match (← get), d.get? number with
    | left + 1, some node =>
      set left
      pure node
    | _, _ => failure
  | node => pure node

/-- Whether no key stands twice. -/
def keysDiffer : List (String × Value) → Bool
  | [] => true
  | (key, _) :: entries => (entries.lookup key).isNone && keysDiffer entries

/-- What a value stands for, if values stand in one another at most `depth` deep. -/
def Document.valueOf (d : Document) (depth : Nat) (node : Node) : Resolver Value := do
  match ← d.jump node, depth with
  | .scalar tag isPlain text, _ =>
    match Value.ofScalar? tag isPlain text with
    | some value => pure value
    | none => failure
  | .sequence tag items, depth + 1 =>
    pure (.typed tag (.sequence (← items.mapM (d.valueOf depth))))
  | .mapping tag entries, depth + 1 => do
    let entries ← entries.mapM fun e => do
      match ← d.valueOf depth e.1 with
      | .text key => pure (key, ← d.valueOf depth e.2)
      | _ => failure
    if keysDiffer entries then pure (.typed tag (.mapping entries)) else failure
  | _, _ => failure

/-! ## Merging -/

/-- The key under which a mapping takes in the entries of others. -/
def mergeKey : String := "<<"

/-- The entries of a mapping. -/
def Value.ownEntries? : Value → Option (List (String × Value))
  | .mapping entries => some entries
  | _ => none

/-- The entries that a value under the merge key brings: those of a mapping, or of several, of
which the last counts. -/
def mergeSource? : Value → Option (List (String × Value))
  | .sequence items => (items.mapM Value.ownEntries?).map fun sources => sources.reverse.flatten
  | value => value.ownEntries?

/-- Entries with those that they take in. An entry of a mapping itself counts more than one that is
taken in. -/
def mergedEntries? (entries : List (String × Value)) : Option (List (String × Value)) :=
  match entries.lookup mergeKey with
  | none => some entries
  | some source =>
    let own := entries.filter fun e => e.1 != mergeKey
    (mergeSource? source).map fun taken =>
      (own ++ taken).eraseDupsBy fun e f => e.1 == f.1

/-- A value in which every mapping has the entries that it takes in, for values of some depth. -/
def Value.merged? : Nat → Value → Option Value
  | depth + 1, .sequence items => (items.mapM (merged? depth)).map .sequence
  | depth + 1, .mapping entries => do
    let entries ← mergedEntries? entries
    let entries ← entries.mapM fun e => (merged? depth e.2).map fun value => (e.1, value)
    some (.mapping entries)
  | depth + 1, .tagged value => (merged? depth value).map .tagged
  | _, value => some value

/-- How often a document goes back to named values, for each mark that its values are written
with. -/
def jumpsPerMark : Nat := 100

/-- What a document stands for. -/
def Document.value? (d : Document) : Option Value := do
  let (value, _) ← (d.valueOf greatestValueDepth d.root).run (jumpsPerMark * d.root.size)
  value.merged? (2 * greatestValueDepth + 1)

/-- A value without the types of its own. -/
def Value.untagged : Value → Value
  | .tagged value => value.untagged
  | value => value

end AlertLine.Yaml
