import ClientBoundary.Emoji
import ClientBoundary.Terminal.Emoji.Table
import ClientBoundary.Text.Case
import ClientBoundary.Text.Fields

/-!
# Names of emoji

The emoji of a code is looked up by its name, in whatever case that is written. An ending `-emoji`
or `-text` of the code chooses how the emoji looks.

## Main declarations

* `Terminal.emojiNamed?`: the emoji of a name.
* `Terminal.emoji?`: the emoji of a code.
-/

namespace ClientBoundary.Terminal

open Text EmojiTable

/-- Pairs up names and emoji. -/
def pairUp : List (List Char) → List (List Char × Emoji)
  | name :: cs :: rest =>
    match Emoji.ofChars? cs with
    | some emoji => (name, emoji) :: pairUp rest
    | none => pairUp rest
  | _ => []

/-- The names and emoji in a block of the table. -/
def entriesOf (block : String) : List (List Char × Emoji) :=
  pairUp ((fields isBlank block.toList).filter (· != []))

/-- The emoji of a name. Names in digits have a block of their own. -/
def emojiNamed? (name : List Char) : Option Emoji :=
  if name.all Char.isDigit then (entriesOf numerals).lookup name
  else (table.flatMap entriesOf).lookup name

/-- A code divided into name and variation selector. -/
def divideCode (code : List Char) : List Char × List Char :=
  if "-emoji".toList.isSuffixOf code then (code.take (code.length - 6), ['\ufe0f'])
  else if "-text".toList.isSuffixOf code then (code.take (code.length - 5), ['\ufe0e'])
  else (code, [])

/-- The emoji of a code. -/
def emoji? (code : List Char) : Option Emoji :=
  let (name, selector) := divideCode code
  (emojiNamed? (lowerAfter [] name)).bind fun emoji ↦ Emoji.ofChars? (emoji.chars ++ selector)

end ClientBoundary.Terminal
