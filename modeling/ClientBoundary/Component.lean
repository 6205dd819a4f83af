import ClientBoundary.Grammar

/-!
# Names derived from a component's file

The two files of a split stand beside the source with a tag before the suffix, and the component is
named after the stem of the file: its runs of identifier characters, each with a capital first
letter.

Source: SPEC_FULL.md, §4.3, the identifier and the client specifier, and §4.6, the sibling names.

## Main declarations

* `siblingPath`: the path with a tag before its suffix.
* `componentIdentifier`, `clientName`: the names of the component and of its client half.
* `clientSpecifier`: the module specifier of the client half.
-/

namespace ClientBoundary

open Text

/-- The path beside `path` with `tag` put before the suffix. -/
def siblingPath (path : Path) (tag : String) : Except Failure Path :=
  path.withName s!"{path.stem}.{tag}{path.suffix}"

/-- Whether a character can stand in an identifier. -/
def isIdentifierChar (c : Char) : Bool :=
  c.isAlphanum || c == '_' || c == '$'

/-- A word with a capital first letter. -/
def capitalize : List Char → List Char
  | [] => []
  | c :: cs => c.toUpper :: cs

/-- The identifier made of the words of `cs`, which is never empty and starts with no digit. -/
def identifierOf (cs : List Char) : List Char :=
  match (fields (!isIdentifierChar ·) cs).flatMap capitalize with
  | [] => "Component".toList
  | c :: rest => if c.isDigit then '_' :: c :: rest else c :: rest

/-- The name of the component in a file. -/
def componentIdentifier (path : Path) : String :=
  String.ofList (identifierOf path.stem.toList)

/-- The name under which the server half imports the client half. -/
def clientName (path : Path) : String :=
  componentIdentifier path ++ "Client"

/-- The specifier from which the server half imports the client half. -/
def clientSpecifier (path : Path) : Except Failure String := do
  let client ← siblingPath path "client"
  return "./" ++ client.name

end ClientBoundary
