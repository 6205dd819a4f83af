import ClientBoundary.Path
import ClientBoundary.Text.Blank
import ClientBoundary.Text.Case

/-!
# Grammars

A source is parsed with one of two grammars, both of which know JSX. The grammar comes from the
name of a language, in any case and with blanks around it, or else from the suffix of the file.

Source: SPEC_FULL.md, §5, parsing, and §4.7 for the files that are linted.

## Main declarations

* `Grammar.ofName`, `Grammar.ofPath`, `Grammar.resolve`: how a grammar is chosen.
* `isComponentFile`: whether the linter looks at a file.
* `Path.isTypeScript`: whether a file may hold type annotations, by its suffix.
-/

namespace ClientBoundary

open Text

/-- The grammars that sources are parsed with. -/
inductive Grammar where
  | javascript
  | tsx
  deriving DecidableEq, Repr

/-- The name of a grammar. -/
def Grammar.name : Grammar → String
  | .javascript => "javascript"
  | .tsx => "tsx"

/-- The grammar of a language. -/
def Grammar.ofName (language : String) : Except Failure Grammar :=
  match lower (strip language) with
  | "javascript" | "js" | "jsx" => .ok .javascript
  | "ts" | "tsx" | "typescript" => .ok .tsx
  | _ => .error (.unsupportedLanguage language)

/-- The grammar of a file, by its suffix. -/
def Grammar.ofPath (path : Path) : Except Failure Grammar :=
  match lower path.suffix with
  | ".cjs" | ".js" | ".jsx" | ".mjs" => .ok .javascript
  | ".cts" | ".mts" | ".ts" | ".tsx" => .ok .tsx
  | suffix => .error (.unsupportedExtension suffix)

/-- The grammar of a named language if the name is not empty, and otherwise that of the file. -/
def Grammar.resolve (language : Option String) (path : Option Path) : Except Failure Grammar :=
  match language.filter (· != ""), path with
  | some language, _ => ofName language
  | none, some path => ofPath path
  | none, none => .error .noLanguage

/-- Whether a file has one of the suffixes of typed sources. -/
def Path.isTypeScript (path : Path) : Bool :=
  [".ts", ".tsx", ".mts", ".cts"].contains (lower path.suffix)

/-- Whether a name has a suffix that the linter looks at. -/
def hasComponentSuffix (name : List Char) : Bool :=
  [".js", ".jsx", ".ts", ".tsx"].any fun suffix ↦ suffix.toList.isSuffixOf name

/-- Whether the linter looks at a file of this name; one line feed at its end does not count. -/
def isComponentFile (filename : String) : Bool :=
  let cs := filename.toList
  hasComponentSuffix cs || (cs.getLast? == some '\n' && hasComponentSuffix cs.dropLast)

end ClientBoundary
