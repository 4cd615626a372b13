/-!
# White space

The characters of Unicode's White_Space property, and the removal of white space
from both ends of a text.

## The model

A text is a list of characters. The property is a table of ten ranges; it holds
of twenty-five characters, among them the no-break space, the line and paragraph
separators and the ideographic space, and not of the zero-width space or the byte
order mark.
-/

namespace StatusWait.Text

/-- The ranges of Unicode's White_Space property, first and last code point. -/
def blankRanges : List (Nat × Nat) :=
  [(0x0009, 0x000D), (0x0020, 0x0020), (0x0085, 0x0085), (0x00A0, 0x00A0), (0x1680, 0x1680),
   (0x2000, 0x200A), (0x2028, 0x2029), (0x202F, 0x202F), (0x205F, 0x205F), (0x3000, 0x3000)]

-- The property holds of twenty-five characters.
example : (blankRanges.flatMap fun r => List.range' r.1 (r.2 + 1 - r.1)).length = 25 := by decide

/-- A character of the White_Space property. -/
def isBlank (c : Char) : Bool :=
  blankRanges.any fun r => r.1 ≤ c.toNat && c.toNat ≤ r.2

/-- A text without the white space it begins with. -/
def trimStart (cs : List Char) : List Char := cs.dropWhile isBlank

/-- A text without the white space it ends with. -/
def trimEnd (cs : List Char) : List Char := (cs.reverse.dropWhile isBlank).reverse

/-- A text without the white space at its two ends. -/
def trim (cs : List Char) : List Char := trimEnd (trimStart cs)

end StatusWait.Text
