import ClientBoundary.CodeTree

/-!
# Sources on one line

A statement of one of a few plain forms has a text and, for the byte it starts at, a parse tree.
Some of them side by side, one blank between two, are a source together with its parse tree.

## Main definitions

* `OneLine`: a statement on one line.
* `OneLine.source`, `OneLine.parser`: the bytes of a source and the parser that knows its tree.
-/

namespace ClientBoundary

namespace ParseTree

/-- A node without fault on the first line of a source. -/
def onFirstLine (rule : String) (field : Option String) (named : Bool) (start stop : Nat)
    (children : List ParseTree) : ParseTree :=
  .node ⟨rule, field, named, false, false, false, ⟨start, stop⟩, ⟨0, start⟩, ⟨0, stop⟩⟩ children

/-- A keyword or a punctuation mark. -/
def token (text : String) (start : Nat) : ParseTree :=
  onFirstLine text none false start (start + text.utf8ByteSize) []

/-- An identifier. -/
def identifier (field : Option String) (name : String) (start : Nat) : ParseTree :=
  onFirstLine "identifier" field true start (start + name.utf8ByteSize) []

/-- A string literal in single quotes. -/
def stringLiteral (field : Option String) (content : String) (start : Nat) : ParseTree :=
  let stop := start + 1 + content.utf8ByteSize
  onFirstLine "string" field true start (stop + 1)
    [token "'" start, onFirstLine "string_fragment" none true (start + 1) stop [], token "'" stop]

/-- What follows the clause of an import that ends at `stop`. -/
def importTail (origin : String) (stop : Nat) : List ParseTree :=
  [token "from" (stop + 1), stringLiteral (some "source") origin (stop + 6),
    token ";" (stop + 8 + origin.utf8ByteSize)]

end ParseTree

/-- A statement on one line. -/
inductive OneLine where
  | directive
  | importDefault (name origin : String)
  | importNamed (name origin : String)
  | exportDefault (name : String)
  | mention (name : String)

namespace OneLine

open ParseTree

/-- The text of a statement. -/
def text : OneLine → String
  | directive => "'use client';"
  | importDefault name origin => "import " ++ name ++ " from '" ++ origin ++ "';"
  | importNamed name origin => "import \x7b " ++ name ++ " \x7d from '" ++ origin ++ "';"
  | exportDefault name => "export default " ++ name ++ ";"
  | mention name => name ++ ";"

/-- The children of the parse tree of a statement that starts at `start`. -/
def children (start : Nat) : OneLine → List ParseTree
  | directive => [stringLiteral none "use client" start, token ";" (start + 12)]
  | importDefault name origin =>
    let stop := start + 7 + name.utf8ByteSize
    token "import" start ::
      onFirstLine "import_clause" none true (start + 7) stop [identifier none name (start + 7)] ::
      importTail origin stop
  | importNamed name origin =>
    let last := start + 10 + name.utf8ByteSize
    let specifier := onFirstLine "import_specifier" none true (start + 9) (last - 1)
      [identifier (some "name") name (start + 9)]
    let names := onFirstLine "named_imports" none true (start + 7) (last + 1)
      [token "\x7b" (start + 7), specifier, token "\x7d" last]
    token "import" start ::
      onFirstLine "import_clause" none true (start + 7) (last + 1) [names] ::
      importTail origin (last + 1)
  | exportDefault name =>
    [token "export" start, token "default" (start + 7), identifier (some "value") name (start + 15),
      token ";" (start + 15 + name.utf8ByteSize)]
  | mention name => [identifier none name start, token ";" (start + name.utf8ByteSize)]

/-- The grammar rule of a statement. -/
def rule : OneLine → String
  | directive | mention _ => "expression_statement"
  | importDefault _ _ | importNamed _ _ => "import_statement"
  | exportDefault _ => "export_statement"

/-- The parse trees of statements side by side from the byte `start` on. -/
def trees (start : Nat) : List OneLine → List ParseTree
  | [] => []
  | s :: ss =>
    let stop := start + s.text.utf8ByteSize
    onFirstLine s.rule none true start stop (s.children start) :: trees (stop + 1) ss

/-- The bytes of statements side by side. -/
def source (statements : List OneLine) : Bytes :=
  Utf8.encode (" ".intercalate (statements.map text))

/-- A parser that answers with the parse tree of the given statements. -/
def parser (statements : List OneLine) : Parser := fun _ _ ↦
  some (onFirstLine "program" none true 0 (source statements).length (trees 0 statements))

end OneLine

end ClientBoundary
