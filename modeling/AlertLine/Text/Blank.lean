/-!
# Blank characters

White space as Unicode defines it: the twenty-five characters with the property `White_Space`.
Trimming and splitting into words use this class everywhere, so that a no-break space or an
ideographic space around a keyword counts as nothing.
-/

namespace AlertLine.Text

/-- The characters with the Unicode property `White_Space`. -/
def isBlank (c : Char) : Bool :=
  let n := c.toNat
  (0x09 ≤ n && n ≤ 0x0D) || n == 0x20 || n == 0x85 || n == 0xA0 || n == 0x1680 ||
    (0x2000 ≤ n && n ≤ 0x200A) || n == 0x2028 || n == 0x2029 || n == 0x202F || n == 0x205F ||
    n == 0x3000

/-- The characters left when the blanks at both ends are dropped. -/
def trimChars (cs : List Char) : List Char :=
  ((cs.dropWhile isBlank).reverse.dropWhile isBlank).reverse

/-- The text without the blanks at its two ends. -/
def trim (s : String) : String :=
  String.ofList (trimChars s.toList)

/-- A text that has nothing but blanks, such as the empty one. -/
def isBlankText (s : String) : Bool :=
  s.toList.all isBlank

/-- The longest runs without blanks, in order. -/
def wordsOf (cs : List Char) : List (List Char) :=
  (cs.splitOnP isBlank).filter fun w => !w.isEmpty

/-- The words of a text: its longest runs without blanks, in order. -/
def words (s : String) : List String :=
  (wordsOf s.toList).map String.ofList

@[simp] theorem trimChars_nil : trimChars [] = [] := rfl

end AlertLine.Text
