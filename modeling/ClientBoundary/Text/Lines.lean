/-!
# Lines

A line ends at any of the characters that separate lines or paragraphs, a carriage return and a
following line feed counting as one end. The end belongs to the line it ends, so the lines of a
text concatenate to the text.
-/

namespace ClientBoundary.Text

/-- Whether a character ends a line. -/
def isLineEnd (c : Char) : Bool :=
  c == '\n' || c == '\x0b' || c == '\x0c' || c == '\r' || c == '\x1c' || c == '\x1d' ||
    c == '\x1e' || c == '\x85' || c == '\u2028' || c == '\u2029'

/-- Puts a character in front of the first of some lines. -/
def consLine (c : Char) : List (List Char) → List (List Char)
  | [] => [[c]]
  | line :: lines => (c :: line) :: lines

/-- The lines of `cs`, each with its end. -/
def splitLines : List Char → List (List Char)
  | [] => []
  | '\r' :: '\n' :: cs => ['\r', '\n'] :: splitLines cs
  | c :: cs => if isLineEnd c then [c] :: splitLines cs else consLine c (splitLines cs)

/-- A line without its end. -/
def dropLineEnd (line : List Char) : List Char :=
  (line.reverse.dropWhile isLineEnd).reverse

/-- The lines of a text, each with its end. -/
def lines (text : String) : List String :=
  (splitLines text.toList).map String.ofList

/-- The lines of a text without their ends. -/
def bareLines (text : String) : List String :=
  (splitLines text.toList).map fun line ↦ String.ofList (dropLineEnd line)

@[simp] theorem flatten_consLine (c : Char) (lines : List (List Char)) :
    (consLine c lines).flatten = c :: lines.flatten := by
  cases lines <;> simp [consLine]

/-- No character is lost or added by splitting into lines. -/
theorem flatten_splitLines (cs : List Char) : (splitLines cs).flatten = cs := by
  fun_induction splitLines cs with
  | case1 => rfl
  | case2 cs ih => simp [ih]
  | case3 c cs _ h ih => simp [ih]
  | case4 c cs _ h ih => simp [ih]

end ClientBoundary.Text
