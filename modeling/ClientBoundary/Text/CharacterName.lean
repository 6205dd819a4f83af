import ClientBoundary.Text.Blank
import ClientBoundary.Text.CharacterName.Aliases
import ClientBoundary.Text.CharacterName.Alphabets
import ClientBoundary.Text.CharacterName.Ancient
import ClientBoundary.Text.CharacterName.Ideographic
import ClientBoundary.Text.CharacterName.Pictographs
import ClientBoundary.Text.CharacterName.Pictorial
import ClientBoundary.Text.CharacterName.Syllabaries
import ClientBoundary.Text.CharacterName.Symbols
import ClientBoundary.Text.Fields
import ClientBoundary.Text.Hex
import ClientBoundary.Text.Range

/-!
# Characters by name

Finding a character by its name in the Unicode character database, version 14. Most names stand in
tables and are found in any case, aliases included. The characters of a few scripts are named by
their number. Unified ideographs and Hangul syllables are named by rule, the latter by the sounds
that make them up, and these names are found in capitals only.

## Main declarations

* `CharacterName.listed?`, `CharacterName.numbered?`: names in tables and names with a number.
* `CharacterName.ideograph?`, `CharacterName.syllable?`: names by rule.
* `CharacterName.find?`: the character of a name.
-/

namespace ClientBoundary.Text.CharacterName

/-- Looks through the entries of a block for a name of the given words, `code` being the character
of the next name and `previous` the name before it. -/
def findEntry? (wanted : List (List Char)) (code : Nat) (previous : List (List Char)) :
    List (List Char) → Option Nat
  | [] => none
  | entry :: entries =>
    match entry with
    | [] => findEntry? wanted code previous entries
    | '@' :: digits => findEntry? wanted ((hexNumber? 0 digits).getD 0) [] entries
    | shared :: rest =>
      let words := previous.take (shared.toNat - 48) ++
        if rest = [] then [] else fields (· == ' ') rest
      if words = wanted then some code else findEntry? wanted (code + 1) words entries

/-- The entries of a block, without the blanks before them. -/
def entriesOf (block : String) : List (List Char) :=
  (fields (· == ';') block.toList).map (·.dropWhile isBlank)

/-- All blocks of names. -/
def blocks : List String :=
  alphabets ++ syllabaries ++ symbols ++ ideographic ++ ancient ++ pictorial ++ pictographs ++
    aliases

/-- The character with a name in the tables, in whatever case the name is written. -/
def listed? (name : List Char) : Option Nat :=
  let wanted := fields (· == ' ') (name.map Char.toUpper)
  blocks.findSome? fun block ↦ findEntry? wanted 0 [] (entriesOf block)

/-- The beginnings of names that end in the number of their character, and the characters so
named. -/
def numberedNames : List (String × List (Nat × Nat)) :=
  [("CJK COMPATIBILITY IDEOGRAPH-", [(0xF900, 0xFA6D), (0xFA70, 0xFAD9), (0x2F800, 0x2FA1D)]),
   ("KHITAN SMALL SCRIPT CHARACTER-", [(0x18B00, 0x18CD5)]),
   ("NUSHU CHARACTER-", [(0x1B170, 0x1B2FB)])]

/-- What follows `start` in `cs`. -/
def after? (start cs : List Char) : Option (List Char) :=
  if start.isPrefixOf cs then some (cs.drop start.length) else none

/-- The character named by a number behind a fixed beginning. -/
def numbered? (name : List Char) : Option Nat :=
  numberedNames.findSome? fun (start, ranges) ↦ do
    let digits ← after? start.toList (name.map Char.toUpper)
    let n ← hexNumber? 0 digits
    if inRanges ranges n && digits.length == (if n < 0x10000 then 4 else 5) then some n else none

/-- The unified ideographs. -/
def ideographRanges : List (Nat × Nat) :=
  [(0x3400, 0x4DBF), (0x4E00, 0x9FFF), (0x20000, 0x2A6DF), (0x2A700, 0x2B738), (0x2B740, 0x2B81D),
   (0x2B820, 0x2CEA1), (0x2CEB0, 0x2EBE0), (0x30000, 0x3134A)]

/-- The unified ideograph with a number, which is written with four or five digits. -/
def ideograph? (digits : List Char) : Option Nat := do
  let n ← hexNumber? 0 digits
  if inRanges ideographRanges n && digits.all (fun c ↦ !c.isLower) &&
    (digits.length == 4 || digits.length == 5) then some n else none

/-- The names of the first sounds of a syllable. -/
def initials : List String :=
  ["G", "GG", "N", "D", "DD", "R", "M", "B", "BB", "S", "SS", "", "J", "JJ", "C", "K", "T", "P", "H"]

/-- The names of the vowels of a syllable. -/
def vowels : List String :=
  ["A", "AE", "YA", "YAE", "EO", "E", "YEO", "YE", "O", "WA", "WAE", "OE", "YO", "U", "WEO", "WE",
   "WI", "YU", "EU", "YI", "I"]

/-- The names of the last sounds of a syllable. -/
def finals : List String :=
  ["", "G", "GG", "GS", "N", "NJ", "NH", "D", "L", "LG", "LM", "LB", "LS", "LT", "LP", "LH", "M",
   "B", "BS", "S", "SS", "NG", "J", "C", "K", "T", "P", "H"]

/-- The longest of some sounds that `cs` starts with, by its place, and what follows it; `place` is
that of the first of them. -/
def sound? (place : Nat) (cs : List Char) : List String → Option (Nat × List Char)
  | [] => none
  | sound :: sounds =>
    match after? sound.toList cs, sound? (place + 1) cs sounds with
    | some rest, some (other, shorter) =>
      if shorter.length < rest.length then some (other, shorter) else some (place, rest)
    | some rest, none => some (place, rest)
    | none, found => found

/-- The Hangul syllable made up of sounds. -/
def syllable? (cs : List Char) : Option Nat := do
  let (l, cs) ← sound? 0 cs initials
  let (v, cs) ← sound? 0 cs vowels
  let (t, cs) ← sound? 0 cs finals
  if cs = [] then some (0xAC00 + (l * 21 + v) * 28 + t) else none

/-- The character of a name, if there is one. -/
def find? (name : List Char) : Option Nat :=
  match after? "HANGUL SYLLABLE ".toList name, after? "CJK UNIFIED IDEOGRAPH-".toList name with
  | some sounds, _ => syllable? sounds
  | none, some digits => ideograph? digits
  | none, none => (numbered? name).or (listed? name)

end ClientBoundary.Text.CharacterName
