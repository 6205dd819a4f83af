import ClientBoundary.Text.Range

/-!
# Blank characters

The characters that count as white space in any script, and the removal of blanks at the ends of a
text.
-/

namespace ClientBoundary.Text

/-- The blank characters, as closed ranges. -/
def blankRanges : List (Nat × Nat) :=
  [(0x09, 0x0D), (0x1C, 0x20), (0x85, 0x85), (0xA0, 0xA0), (0x1680, 0x1680), (0x2000, 0x200A),
   (0x2028, 0x2029), (0x202F, 0x202F), (0x205F, 0x205F), (0x3000, 0x3000)]

/-- Whether a character is white space. -/
def isBlank (c : Char) : Bool :=
  inRanges blankRanges c.toNat

/-- A list of characters without the blanks at its end. -/
def dropBlankEnd (cs : List Char) : List Char :=
  (cs.reverse.dropWhile isBlank).reverse

/-- A text without the blanks at its two ends. -/
def strip (text : String) : String :=
  String.ofList (dropBlankEnd (text.toList.dropWhile isBlank))

end ClientBoundary.Text
