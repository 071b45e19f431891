/-!
# Ranges of code points

A class of characters as the list of its ranges, and a table that gives characters a text each. A
large table is kept as one text of words such as `FF21-FF3A=61`: a code point or a run of them in
hexadecimal, and what the first of them becomes. The others of a run follow in step.
-/

namespace AlertLine.Text

/-- An ASCII character. -/
def isAscii (c : Char) : Bool := c.toNat < 0x80

/-- Whether a code point lies in one of the ranges. -/
def inRanges (ranges : List (Nat × Nat)) (n : Nat) : Bool :=
  ranges.any fun r => r.1 ≤ n && n ≤ r.2

/-- A run of code points with what the first of them becomes. -/
structure TableEntry where
  /-- The first code point of the run. -/
  first : Nat
  /-- The last code point of the run. -/
  last : Nat
  /-- The code points that the first becomes. -/
  image : List Nat

/-- A table of characters that become others. -/
abbrev Table : Type := List TableEntry

/-- The value of a digit of a table. -/
def hexDigit (c : Char) : Nat :=
  if c.isDigit then c.toNat - '0'.toNat else c.toNat - 'A'.toNat + 10

/-- The number that digits of a table denote. -/
def hexNumber (cs : List Char) : Nat := cs.foldl (fun n c => 16 * n + hexDigit c) 0

/-- The entry that a word spells. -/
def TableEntry.ofWord (word : List Char) : TableEntry :=
  let keys := ((word.takeWhile (· != '=')).splitOnP (· == '-')).map hexNumber
  let image := ((word.dropWhile (· != '=')).drop 1).splitOnP (· == '.')
  ⟨keys.headD 0, keys.getLastD 0, image.map hexNumber⟩

/-- The table that a text spells: words with spaces or line ends between them. -/
def Table.ofText (text : String) : Table :=
  ((text.toList.splitOnP fun c => c == ' ' || c == '\n').filter (!·.isEmpty)).map
    TableEntry.ofWord

/-- What a character becomes, if the table has it. -/
def Table.get? (table : Table) (c : Char) : Option (List Char) :=
  (table.find? fun e => e.first ≤ c.toNat && c.toNat ≤ e.last).map fun e =>
    e.image.map fun n => Char.ofNat (n + (c.toNat - e.first))

example : (Table.ofText "C0=41.300 FF21-FF3A=61").get? '\uFF22' = some ['b'] := by decide +kernel

end AlertLine.Text
