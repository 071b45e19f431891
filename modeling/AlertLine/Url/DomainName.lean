import AlertLine.Text.Direction
import AlertLine.Text.Joining
import AlertLine.Text.LetterCase
import AlertLine.Text.Printable
import AlertLine.Url.Punycode
import AlertLine.Url.Replacement

/-!
# Domain names

A domain name in its ASCII form. Characters are first brought into one form: lower case, usual
width and shape, letters and their accents joined, invisible characters dropped. Then each label
that has other than ASCII characters is coded. A label that comes coded has to be the code of a
label in that one form.
-/

namespace AlertLine.DomainName

open Text (isAscii inRanges)

/-! ## Characters in one form -/

/-- The characters of other than ASCII that leave no trace in a name. -/
def droppedRanges : List (Nat × Nat) :=
  [(0xAD, 0xAD), (0x34F, 0x34F), (0x115F, 0x1160), (0x17B4, 0x17B5), (0x180B, 0x180F),
   (0x200B, 0x200B), (0x2060, 0x2064), (0x206A, 0x206F), (0x3164, 0x3164), (0xFE00, 0xFE0F),
   (0xFEFF, 0xFEFF), (0xFFA0, 0xFFA0), (0x1BCA0, 0x1BCA3), (0x1D173, 0x1D17A), (0xE0100, 0xE01EF)]

/-- Characters that are shown and yet cannot stand in a name: signs that would bring a full stop
with them, and descriptions of characters. -/
def excludedRanges : List (Nat × Nat) :=
  [(0x2024, 0x2026), (0x2488, 0x249B), (0x2FF0, 0x2FFF), (0x31EF, 0x31EF), (0x33C2, 0x33C2),
   (0x33C7, 0x33C7), (0x33D8, 0x33D8), (0xFE12, 0xFE12), (0xFE19, 0xFE19), (0xFE30, 0xFE30),
   (0xFE52, 0xFE52), (0xFFFC, 0xFFFD), (0x1F100, 0x1F100)]

/-- Characters of other than ASCII that no name can have. -/
def isExcluded (c : Char) : Bool :=
  if c == Text.nonJoiner || c == Text.joiner then false
  else !Text.isPrintable c || inRanges excludedRanges c.toNat

/-- What a character becomes in a name that can have it. -/
def unifiedChar (c : Char) : Option (List Char) :=
  if isAscii c then some [c.toLower]
  else if inRanges droppedRanges c.toNat then some []
  else
    match replacements.get? c with
    | some cs => some cs
    | none => if isExcluded c then none else some (Text.lowerChar c)

/-- A name with its characters in one form. -/
def unified (cs : List Char) : Option (List Char) :=
  (cs.mapM unifiedChar).map fun texts => Text.composed texts.flatten

/-- The ASCII characters that no name can have. -/
def isDenied (c : Char) : Bool :=
  c.toNat ≤ 0x20 || c.toNat == 0x7F || "%#/:<>?@[\\]^|".toList.contains c

/-! ## Labels -/

/-- What stands in front of a coded label. -/
def codedMark : List Char := ['x', 'n', '-', '-']

/-- The greatest number of characters that are coded. -/
def greatestCoded : Nat := 1000

/-- The greatest number of characters of a code. -/
def greatestCode : Nat := 2000

/-- A label as it is written, and the characters it stands for. -/
structure Label where
  /-- The ASCII form. -/
  written : List Char
  /-- The characters in one form. -/
  chars : List Char

/-- The label of a code: a label in one form with other than ASCII characters. -/
def ofCode (code : List Char) : Option Label := do
  if code.getLast?.all (· == '-') || greatestCode < code.length then none
  else
    let chars ← Punycode.decode code
    if chars.all isAscii || chars.any isDenied || unified chars != some chars then none
    else some ⟨codedMark ++ code, chars⟩

/-- The label of characters in one form. -/
def ofChars (chars : List Char) : Option Label :=
  if codedMark.isPrefixOf chars then
    if chars.all isAscii then ofCode (chars.drop codedMark.length) else none
  else if chars.all isAscii then some ⟨chars, chars⟩
  else if greatestCoded < chars.length then none
  else some ⟨codedMark ++ Punycode.encode chars, chars⟩

/-- Whether a label is well formed by itself: it does not begin with a mark, and joiners stand
where they make a difference. -/
def Label.isFit (label : Label) : Bool :=
  (label.chars.head?.all fun c => !Text.isMark c) && Text.joinersFit [] label.chars

/-- Whether labels are well formed side by side: once one has a character that is written from the
right, each keeps one direction. -/
def keepDirections (labels : List Label) : Bool :=
  !(labels.any fun label => label.chars.any fun c => (Text.direction c).isFromRight) ||
    labels.all fun label => Text.keepsOneDirection label.chars

/-- The ASCII form of a name. -/
def toAscii (name : List Char) : Option (List Char) := do
  let chars ← unified name
  if chars.any isDenied then none
  else
    let labels ← (chars.splitOnP (· == '.')).mapM ofChars
    if labels.all Label.isFit && keepDirections labels then
      some (['.'].intercalate (labels.map Label.written))
    else none

end AlertLine.DomainName
