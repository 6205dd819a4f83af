import ClientBoundary.CodeTree
import ClientBoundary.StringLiteral

/-!
# The client directive

A module declares itself client code by a first statement that consists of the string
`use client`, however it is spelled and however many parentheses surround it.

Source: SPEC_FULL.md, §4.1, the explicit directive.
-/

namespace ClientBoundary

/-- The value of the directive. -/
def clientDirective : String := "use client"

namespace CodeTree

mutual

/-- An expression without the parentheses around it, if anything is inside them. -/
def insideParentheses? : CodeTree → Option CodeTree
  | .node n ts =>
    if n.rule == "parenthesized_expression" then firstInside? ts else some (.node n ts)

/-- The first named tree of several, without the parentheses around it. -/
def firstInside? : List CodeTree → Option CodeTree
  | [] => none
  | t :: ts => if t.label.named then insideParentheses? t else firstInside? ts

end

/-- Whether a statement is the client directive. -/
def isDirective (statement : CodeTree) : Bool :=
  statement.label.kind == .expressionStatement &&
    match firstInside? statement.children with
    | some expression =>
      expression.label.kind == .string &&
        expression.label.text.any (StringLiteral.denotes · clientDirective)
    | none => false

/-- Whether a module carries the client directive. -/
def hasDirective (program : CodeTree) : Bool :=
  program.statements.head?.any isDirective

end CodeTree

end ClientBoundary
