import AlertLine.Text.Marks

/-!
# Writing direction

Whether a character is written to the right or to the left, and what may stand beside it in a
label: a label in a name with a right-to-left character begins with a letter of its direction, ends
with a letter or a digit, and mixes no letters of the other direction in.
-/

namespace AlertLine.Text

/-- How a character takes part in the direction of a text. -/
inductive Direction where
  /-- Letters written to the right. -/
  | rightward
  /-- Letters written to the left. -/
  | leftward
  /-- Digits of Latin and of eastern Arabic texts. -/
  | europeanNumber
  /-- Digits of Arabic texts. -/
  | arabicNumber
  /-- Signs that take the direction around them. -/
  | neutral
  /-- Marks, which follow their letter. -/
  | mark
deriving DecidableEq, Repr

/-- Arabic digits and the signs in numbers of such digits. -/
def arabicNumberRanges : List (Nat × Nat) :=
  [(0x660, 0x669), (0x66B, 0x66C), (0x10D30, 0x10D39), (0x10D40, 0x10D49), (0x10E60, 0x10E7E)]

/-- Digits of other than ASCII that are used like the ASCII ones. -/
def europeanNumberRanges : List (Nat × Nat) :=
  [(0x6F0, 0x6F9), (0x102E1, 0x102FB)]

/-- The signs that take the direction around them. -/
def neutralRanges : List (Nat × Nat) :=
  [(0xA1, 0xD7), (0xF7, 0xF7), (0x2B9, 0x2BA), (0x2C2, 0x2CF), (0x2D2, 0x2ED), (0x2EF, 0x2FF),
   (0x375, 0x375), (0x3F6, 0x3F6), (0x58A, 0x58F), (0x606, 0x607), (0x609, 0x60A), (0x60C, 0x60C),
   (0x60E, 0x60F), (0x66A, 0x66A), (0x6DE, 0x6DE), (0x6E9, 0x6E9), (0x7F6, 0x7F9), (0x9F2, 0x9F3),
   (0x9FB, 0x9FB), (0xAF1, 0xAF1), (0xBF3, 0xBFA), (0xC78, 0xC7E), (0xE3F, 0xE3F), (0xF3A, 0xF3D),
   (0x1390, 0x1399), (0x1400, 0x1400), (0x169B, 0x169C), (0x17DB, 0x17DB), (0x17F0, 0x180A),
   (0x1940, 0x1945), (0x19DE, 0x19FF), (0x200C, 0x214D), (0x218A, 0x2335), (0x237B, 0x2394),
   (0x2396, 0x26AB), (0x26AD, 0x27FF), (0x2900, 0x2BFF), (0x2CE5, 0x2CEA), (0x2CF9, 0x2CFF),
   (0x2E00, 0x3004), (0x3008, 0x3020), (0x3030, 0x3030), (0x3037, 0x3037), (0x303D, 0x303F),
   (0x30A0, 0x30A0), (0x30FB, 0x30FB), (0x31C0, 0x31E5), (0x4DC0, 0x4DFF), (0xA490, 0xA4C6),
   (0xA60D, 0xA60F), (0xA673, 0xA67F), (0xA700, 0xA721), (0xA788, 0xA788), (0xA828, 0xA82B),
   (0xA838, 0xA839), (0xA874, 0xA877), (0xAB6A, 0xAB6B), (0xFBC3, 0xFE46), (0x10101, 0x10101),
   (0x10140, 0x1018C), (0x10190, 0x101A0), (0x1091F, 0x1091F), (0x10B39, 0x10B3F),
   (0x10D6E, 0x10D6E), (0x10ED0, 0x10ED8), (0x11052, 0x11065), (0x11660, 0x1166C),
   (0x11FD5, 0x11FF1), (0x16FE2, 0x16FE2), (0x1CC00, 0x1CEF0), (0x1D1E9, 0x1D245),
   (0x1D300, 0x1D356), (0x1E2FF, 0x1E2FF), (0x1EEF0, 0x1F12F), (0x1F16D, 0x1F16F),
   (0x1F1AD, 0x1F1AD), (0x1F260, 0x1FBFA)]

/-- The blocks of the scripts that are written to the left. -/
def leftwardRanges : List (Nat × Nat) :=
  [(0x590, 0x8FF), (0xFB1D, 0xFDFF), (0xFE70, 0xFEFF), (0x10800, 0x10FFF), (0x1E800, 0x1EFFF)]

/-- Whether a mark follows its letter: five do not, and one does that takes room. -/
def isDirectionMark (c : Char) : Bool :=
  (isNonspacing c &&
      !inRanges [(0xCBF, 0xCBF), (0xCC6, 0xCC6), (0x11A07, 0x11A08), (0x11C3F, 0x11C3F)] c.toNat) ||
    c.toNat == 0x1171E

/-- The direction of a character that a name can have. -/
def direction (c : Char) : Direction :=
  if isAscii c then
    if c.isAlpha then .rightward else if c.isDigit then .europeanNumber else .neutral
  else if isDirectionMark c then .mark
  else if inRanges arabicNumberRanges c.toNat then .arabicNumber
  else if inRanges europeanNumberRanges c.toNat then .europeanNumber
  else if inRanges neutralRanges c.toNat then .neutral
  else if inRanges leftwardRanges c.toNat then .leftward
  else .rightward

/-- Whether a character makes its text one of two directions. -/
def Direction.isFromRight : Direction → Bool
  | .leftward | .arabicNumber => true
  | _ => false

/-- Directions that keep the rule of a label written to the right. -/
def keepsRightward (ds : List Direction) : Bool :=
  (ds.getLast?.all fun d => d == .rightward || d == .europeanNumber) &&
    ds.all fun d => d != .leftward && d != .arabicNumber

/-- Directions that keep the rule of a label written to the left. -/
def keepsLeftward (ds : List Direction) : Bool :=
  (ds.getLast?.all fun d => d == .leftward || d == .europeanNumber || d == .arabicNumber) &&
    ds.all (· != .rightward) && !(ds.contains .europeanNumber && ds.contains .arabicNumber)

/-- Whether a label may stand in a name with right-to-left characters. -/
def keepsOneDirection (label : List Char) : Bool :=
  match label.map direction with
  | [] => true
  | first :: rest =>
    let rest := (rest.reverse.dropWhile (· == .mark)).reverse
    match first with
    | .rightward => keepsRightward rest
    | .leftward => keepsLeftward rest
    | _ => false

end AlertLine.Text
