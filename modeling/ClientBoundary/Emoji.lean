import ClientBoundary.Text.Blank

/-!
# Emoji

One or more characters that are shown as one picture. They lie outside ASCII or stand on the keys of
a telephone, so that none of them is blank, a control character or a character of markup.
-/

namespace ClientBoundary

open Text

/-- Whether a character can be part of an emoji. -/
def isPictorial (c : Char) : Bool :=
  (0xa0 ≤ c.toNat && !isBlank c) || c.isDigit || c == '#' || c == '*'

/-- Characters that are shown as one picture. -/
structure Emoji where
  chars : List Char
  ne_nil : chars ≠ []
  isPictorial : ∀ c ∈ chars, isPictorial c = true

/-- The emoji of these characters, if they are one. -/
def Emoji.ofChars? (cs : List Char) : Option Emoji :=
  if h : cs ≠ [] ∧ cs.all ClientBoundary.isPictorial = true then
    some ⟨cs, h.1, List.all_eq_true.mp h.2⟩
  else none

end ClientBoundary
