import ClientBoundary.Markup

/-!
# Consoles

What the commands print on. A console belongs to another library and is given by its operations: it
escapes text so that its tags do not count, renders markup, finds faults in it and sets characters
in lines. Markup that the program puts together itself, from its own tags and escaped text, has no
faults; text that is put into markup as it is may have some.

## Main declarations

* `Console`, `MarkupFault`: a console and why it refuses markup.
* `Console.line`, `Console.wrappedLine`: lines of markup without faults.
* `Console.checkedLine`: a line of markup that may have faults.
* `Console.plainLine`: a line without markup.
-/

namespace ClientBoundary

/-- Why a console refuses markup: its tags, or a number in one of its styles, cannot be read. -/
inductive MarkupFault where
  | tags (message : String)
  | number (message : String)
  deriving DecidableEq, Repr

/-- The wording of a fault. -/
def MarkupFault.message : MarkupFault → String
  | .tags message | .number message => message

/-- The operations of a console. -/
structure Console where
  /-- The emoji that a code names. -/
  emoji? : List Char → Option Emoji
  /-- A text with its tags protected, to be put into markup. -/
  escape : List Char → List Char
  /-- The characters that markup prints. -/
  render : List Char → List Char
  /-- What is wrong with markup that is to be printed, wrapped or whole. -/
  fault? : (wrapped : Bool) → List Char → Option MarkupFault
  /-- The characters that text without markup prints. -/
  plain : List Char → List Char
  /-- Characters set in lines, which are wrapped or kept whole. -/
  lay : (wrapped : Bool) → List Char → String

namespace Console

variable (console : Console)

/-- Text from elsewhere as it is put into markup. -/
def escaped (text : String) : String :=
  String.ofList (console.escape text.toList)

/-- A line of markup that is kept whole. -/
def line (markup : String) : String :=
  console.lay false (console.render markup.toList)

/-- A line of markup that is wrapped. -/
def wrappedLine (markup : String) : String :=
  console.lay true (console.render markup.toList)

/-- A line of markup, or what is wrong with it. -/
def checkedLine (wrapped : Bool) (markup : String) : Except MarkupFault String :=
  match console.fault? wrapped markup.toList with
  | some fault => .error fault
  | none => .ok (console.lay wrapped (console.render markup.toList))

/-- A line without markup, which is kept whole. -/
def plainLine (text : String) : String :=
  console.lay false (console.plain text.toList)

end Console

end ClientBoundary
