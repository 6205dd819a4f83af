import ClientBoundary.Failure
import ClientBoundary.Grammar
import ClientBoundary.ParseTree

/-!
# Code trees

The tree of a source that was accepted. Every node has a kind, an ordinal in pre-order, and a text
if it is a name or a string. Names in the position of an element's name are kept apart from
references to variables.

Source: SPEC_FULL.md, §3, `SyntaxNode` and `NodeKind`.

## Main declarations

* `NodeKind`, `Node`, `CodeTree`: kinds, nodes and trees of them.
* `NodeKind.ofRaw`: the kind of a node.
* `CodeTree.ofParseTree`: numbers the nodes and reads their texts.
* `CodeTree.ofSource`: the tree of a source, or its first syntax error.
* `CodeTree.statements`: the statements of a module.
-/

namespace ClientBoundary

/-- The kinds of nodes that the analysis tells apart. -/
inductive NodeKind where
  | program
  | importDeclaration
  | defaultExport
  | namedExport
  | expressionStatement
  | call
  | member
  | identifier
  | propertyName
  | jsxAttribute
  | jsxName
  | string
  | functionDeclaration
  | comment
  | other
  deriving DecidableEq, Repr

/-- A node of a code tree. -/
structure Node where
  /-- The ordinal of the node in pre-order. -/
  id : Nat
  kind : NodeKind
  rule : String
  field : Option String
  named : Bool
  span : Span
  first : Point
  last : Point
  /-- The text of a name, or the body of a string. -/
  text : Option String
  deriving DecidableEq, Repr

/-- The tree of a source. -/
abbrev CodeTree := Tree Node

/-- A parser gives a tree for a source under a grammar. -/
abbrev Parser := Grammar → Bytes → Option ParseTree

/-- Whether a rule stands for an identifier. -/
def isIdentifierRule (rule : String) : Bool :=
  rule == "identifier" || rule == "shorthand_property_identifier" ||
    rule == "shorthand_property_identifier_pattern"

/-- Whether a rule stands for a tag of an element. -/
def isTagRule (rule : String) : Bool :=
  rule == "jsx_opening_element" || rule == "jsx_closing_element" ||
    rule == "jsx_self_closing_element"

/-- Whether a child in `field` of a node of `rule` is part of an element's name, given whether the
node itself is. -/
def namesElement (inName : Bool) (rule : String) (field : Option String) : Bool :=
  inName || rule == "jsx_namespace_name" || (isTagRule rule && field == some "name")

/-- The kind of a node with the given children, `inName` saying whether it is part of an element's
name. -/
def NodeKind.ofRaw (inName : Bool) (raw : RawNode) (children : List ParseTree) : NodeKind :=
  if inName && (isIdentifierRule raw.rule || raw.rule == "property_identifier") then .jsxName
  else if isIdentifierRule raw.rule then .identifier
  else
    match raw.rule with
    | "program" => .program
    | "import_statement" => .importDeclaration
    | "export_statement" =>
      if children.any (·.label.rule == "default") then .defaultExport else .namedExport
    | "expression_statement" => .expressionStatement
    | "call_expression" => .call
    | "member_expression" => .member
    | "property_identifier" => .propertyName
    | "jsx_attribute" => .jsxAttribute
    | "string" => .string
    | "function_declaration" => .functionDeclaration
    | "comment" => .comment
    | "hash_bang_line" => .comment
    | _ => .other

/-- The text of a node: names as they stand, strings without their quotes. -/
def nodeText (bytes : Bytes) (kind : NodeKind) (span : Span) :
    Except Utf8.Fault (Option String) :=
  match kind with
  | .identifier | .propertyName | .jsxName => (span.text bytes).map some
  | .string =>
    if span.start + 2 ≤ span.stop then
      (Span.text ⟨span.start + 1, span.stop - 1⟩ bytes).map some
    else .ok none
  | _ => .ok none

/-- The node that a node of the parse tree becomes. -/
def RawNode.toNode (raw : RawNode) (id : Nat) (kind : NodeKind) (text : Option String) : Node where
  id := id
  kind := kind
  rule := raw.rule
  field := raw.field
  named := raw.named
  span := raw.span
  first := raw.first
  last := raw.last
  text := text

namespace CodeTree

mutual

/-- Numbers the nodes of a tree from `id` on and reads their texts, children first; also gives the
number that comes next. -/
def number (bytes : Bytes) (inName : Bool) (id : Nat) :
    ParseTree → Except Utf8.Fault (CodeTree × Nat)
  | .node raw ts => do
    let (children, next) ← numberForest bytes (namesElement inName raw.rule) (id + 1) ts
    let kind := NodeKind.ofRaw inName raw ts
    let text ← nodeText bytes kind raw.span
    return (.node (raw.toNode id kind text) children, next)

/-- Numbers the nodes of several trees, `inName` saying of each field whether it is part of an
element's name. -/
def numberForest (bytes : Bytes) (inName : Option String → Bool) (id : Nat) :
    List ParseTree → Except Utf8.Fault (List CodeTree × Nat)
  | [] => .ok ([], id)
  | t :: ts => do
    let (child, next) ← number bytes (inName t.label.field) id t
    let (children, next) ← numberForest bytes inName next ts
    return (child :: children, next)

end

/-- The code tree of a parse tree. -/
def ofParseTree (bytes : Bytes) (tree : ParseTree) : Except Utf8.Fault CodeTree :=
  (number bytes false 0 tree).map Prod.fst

/-- The code tree of a parse tree in which no fault is found. -/
def ofAccepted (bytes : Bytes) (tree : ParseTree) : Except Failure CodeTree :=
  match tree.firstFault with
  | some raw => .error (.syntaxError (raw.first.row + 1) (raw.first.column + 1))
  | none => (ofParseTree bytes tree).mapError .illFormed

/-- The code tree of a source. -/
def ofSource (parser : Parser) (grammar : Grammar) (bytes : Bytes) : Except Failure CodeTree :=
  match parser grammar bytes with
  | some tree => ofAccepted bytes tree
  | none => .error .noTree

/-- The first child in a field. -/
def childInField? (t : CodeTree) (field : String) : Option CodeTree :=
  t.children.find? (·.label.field == some field)

/-- The first child that is named. -/
def firstNamedChild? (t : CodeTree) : Option CodeTree :=
  t.children.find? (·.label.named)

/-- The source text of a tree. -/
def sourceText (t : CodeTree) (bytes : Bytes) : Except Failure String :=
  (t.label.span.text bytes).mapError .illFormed

/-- The statements of a module: the named children of its root, comments excepted. -/
def statements (t : CodeTree) : List CodeTree :=
  t.children.filter fun s ↦ s.label.named && s.label.kind != .comment

end CodeTree

end ClientBoundary
