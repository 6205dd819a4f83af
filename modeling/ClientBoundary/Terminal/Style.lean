import ClientBoundary.Terminal.ColorName
import ClientBoundary.Text.Case
import ClientBoundary.Text.Digit

/-!
# Styles

A style switches traits of text on or off and names a colour, a background and a link. It is
defined by words, and two definitions of the same style have the same normal form: the traits in a
fixed order by their full names, then the colour, the background and the link.

## Main declarations

* `Trait`, `Style`, `Style.ofWords`: a style and the words that define it.
* `NumberFault`: a number in a colour that cannot be read, which is not forgiven.
* `Style.definition`: the normal form of a style.
* `Style.normalize`: the normal form of a definition, or the definition itself in lower case if it
  defines no style.
-/

namespace ClientBoundary.Terminal

open Text

/-- What a style switches on or off. -/
inductive Trait where
  | bold
  | dim
  | italic
  | underline
  | blink
  | blink2
  | reverse
  | conceal
  | strike
  | underline2
  | frame
  | encircle
  | overline
  deriving DecidableEq, Repr

namespace Trait

/-- The traits in the order in which they are written. -/
def all : List Trait :=
  [.bold, .dim, .italic, .underline, .blink, .blink2, .reverse, .conceal, .strike, .underline2,
   .frame, .encircle, .overline]

/-- The full name of a trait. -/
def name : Trait → String
  | .bold => "bold"
  | .dim => "dim"
  | .italic => "italic"
  | .underline => "underline"
  | .blink => "blink"
  | .blink2 => "blink2"
  | .reverse => "reverse"
  | .conceal => "conceal"
  | .strike => "strike"
  | .underline2 => "underline2"
  | .frame => "frame"
  | .encircle => "encircle"
  | .overline => "overline"

/-- The short name of a trait, if it has one. -/
def shortName? : Trait → Option String
  | .bold => some "b"
  | .dim => some "d"
  | .italic => some "i"
  | .underline => some "u"
  | .reverse => some "r"
  | .conceal => some "c"
  | .strike => some "s"
  | .underline2 => some "uu"
  | .overline => some "o"
  | _ => none

/-- The trait that a word names in full or in short. -/
def ofName? (word : String) : Option Trait :=
  all.find? fun t ↦ word == t.name || t.shortName? == some word

end Trait

/-- A number that cannot be read. -/
inductive NumberFault where
  | empty
  /-- It has more digits than are read. -/
  | long (digits : Nat)
  deriving DecidableEq, Repr

/-- The wording of a fault. -/
def NumberFault.message : NumberFault → String
  | .empty => "invalid literal for int() with base 10: ''"
  | .long digits =>
    "Exceeds the limit (4300 digits) for integer string conversion: " ++
      s!"value has {digits} digits; use sys.set_int_max_str_digits() to increase the limit"

/-- The number that the digits of a colour spell. -/
def readNumber (cs : List Char) : Except NumberFault Nat :=
  if cs = [] then .error .empty
  else if 4300 < cs.length then .error (.long cs.length)
  else .ok (digitsValue cs)

/-- What stands between `start` and a closing parenthesis at the end. -/
def argument? (start : String) (cs : List Char) : Option (List Char) :=
  if start.toList.isPrefixOf cs ∧ cs.getLast? = some ')' ∧ start.length < cs.length then
    some ((cs.drop start.length).dropLast)
  else none

/-- Whether the three numbers of a mixed colour can be mixed. -/
def isMixture (cs : List Char) : Except NumberFault Bool :=
  match fields (· == ',') cs with
  | [red, green, blue] => do
    let red ← readNumber red
    let green ← readNumber green
    let blue ← readNumber blue
    return red ≤ 255 && green ≤ 255 && blue ≤ 255
  | _ => .ok false

/-- Whether a word in lower case is a colour: a name, a number of the palette, six hexadecimal
digits or a mixture. -/
def isColor (word : String) : Except NumberFault Bool :=
  let cs := word.toList
  if word = "default" ∨ colorNames.contains cs then .ok true
  else if cs.head? = some '#' then
    .ok (cs.length = 7 && cs.tail.all fun c ↦ c.isDigit || ('a' ≤ c && c ≤ 'f'))
  else
    match argument? "color(" cs with
    | some number =>
      .ok (0 < number.length && number.length ≤ 3 && number.all Char.isDigit &&
        digitsValue number ≤ 255)
    | none =>
      match argument? "rgb(" cs with
      | some numbers =>
        if numbers ≠ [] ∧ numbers.all (fun c ↦ isDigit c || c == ',') then isMixture numbers
        else .ok false
      | none => .ok false

/-- How text looks. -/
structure Style where
  traits : List (Trait × Bool) := []
  color : Option String := none
  background : Option String := none
  link : Option String := none

namespace Style

/-- The style that words define on top of another, or nothing if they define none. -/
def addWords (style : Style) : List String → Except NumberFault (Option Style)
  | [] => .ok (some style)
  | [word] => do
    match Trait.ofName? (lower word) with
    | some t => return some { style with traits := (t, true) :: style.traits }
    | none =>
      if ← isColor (lower word) then return some { style with color := some (lower word) }
      else return none
  | word :: next :: words => do
    match lower word with
    | "on" =>
      if ← isColor (lower next) then
        addWords { style with background := some (lower next) } words
      else return none
    | "not" =>
      match Trait.ofName? next with
      | some t => addWords { style with traits := (t, false) :: style.traits } words
      | none => return none
    | "link" => addWords { style with link := some next } words
    | word =>
      match Trait.ofName? word with
      | some t => addWords { style with traits := (t, true) :: style.traits } (next :: words)
      | none =>
        if ← isColor word then addWords { style with color := some word } (next :: words)
        else return none

/-- The style that a definition defines, or nothing if it defines none. -/
def ofWords (definition : String) : Except NumberFault (Option Style) :=
  if strip definition = "none" then .ok (some {})
  else
    addWords {} (((fields isBlank definition.toList).filter (· != [])).map String.ofList)

/-- The words for a trait in a style that says something of it. -/
def traitWords (style : Style) (t : Trait) : List String :=
  match style.traits.lookup t with
  | some true => [t.name]
  | some false => ["not", t.name]
  | none => []

/-- The normal form of a style. -/
def definition (style : Style) : String :=
  let words := Trait.all.flatMap style.traitWords ++ style.color.toList ++
    (style.background.toList.flatMap (["on", ·])) ++ (style.link.toList.flatMap (["link", ·]))
  if words = [] then "none" else " ".intercalate words

/-- The normal form of a definition, or the definition in lower case if it defines no style. -/
def normalize (text : String) : Except NumberFault String := do
  match ← ofWords text with
  | some style => return style.definition
  | none => return lower (strip text)

end Style

end ClientBoundary.Terminal
