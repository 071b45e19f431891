/-!
# YAML documents

What a document says before it is asked for anything: texts, sequences and mappings, each with the
type that is written in front of it. A value with a name is kept apart under a number, and stands
for itself wherever it is used again.
-/

namespace AlertLine.Yaml

/-- A value of a document. -/
inductive Node where
  /-- A text, with or without quotes; what it stands for is for the reader to say. -/
  | scalar (tag : Option String) (isPlain : Bool) (text : String)
  /-- Values in order. -/
  | sequence (tag : Option String) (items : List Node)
  /-- Keys with their values, in order. -/
  | mapping (tag : Option String) (entries : List (Node × Node))
  /-- The value with a number. -/
  | reuse (number : Nat)
  deriving Inhabited

/-- The value of a place where nothing is written. -/
def Node.empty : Node := .scalar none true ""

mutual

/-- How deep values stand in one another. -/
def Node.depth : Node → Nat
  | .scalar _ _ _ | .reuse _ => 0
  | .sequence _ items => 1 + depthOfItems items
  | .mapping _ entries => 1 + depthOfEntries entries

/-- The greatest depth of some values. -/
def depthOfItems : List Node → Nat
  | [] => 0
  | node :: nodes => max node.depth (depthOfItems nodes)

/-- The greatest depth of some keys and values. -/
def depthOfEntries : List (Node × Node) → Nat
  | [] => 0
  | (key, value) :: entries => max (max key.depth value.depth) (depthOfEntries entries)

end

mutual

/-- How many marks a value is written with: one for a text or a name, and two for the beginning and
the end of a sequence or mapping. -/
def Node.size : Node → Nat
  | .scalar _ _ _ | .reuse _ => 1
  | .sequence _ items => 2 + sizeOfItems items
  | .mapping _ entries => 2 + sizeOfEntries entries

/-- How many marks some values are written with. -/
def sizeOfItems : List Node → Nat
  | [] => 0
  | node :: nodes => node.size + sizeOfItems nodes

/-- How many marks some keys and values are written with. -/
def sizeOfEntries : List (Node × Node) → Nat
  | [] => 0
  | (key, value) :: entries => key.size + value.size + sizeOfEntries entries

end

/-- A document. -/
structure Document where
  /-- Its value. -/
  root : Node
  /-- The values with numbers. -/
  values : List (Nat × Node)

/-- The value with a number. -/
def Document.get? (d : Document) (number : Nat) : Option Node := d.values.lookup number

/-- A value itself where it is used again. -/
def Document.resolve? (d : Document) : Node → Option Node
  | .reuse number => d.get? number
  | node => some node

end AlertLine.Yaml
