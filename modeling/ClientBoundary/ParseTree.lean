import ClientBoundary.Position
import ClientBoundary.Tree

/-!
# Parse trees

The tree that a parser gives for a source: every node carries its rule in the grammar, the field
of its parent that it fills, the bytes it covers and what the parser says about errors. A parser
recovers from errors and always gives a tree, so a tree is accepted only if no fault is found in
it. Trees are handed over in pre-order, each node with its number of children.

Source: SPEC_FULL.md, §5, the first syntax error.

## Main declarations

* `RawNode`, `ParseTree`: a node as the parser gives it, and a tree of them.
* `ParseTree.ofRows?`: the tree that a pre-order listing describes.
* `ParseTree.firstFault`: the first fault of a tree.
-/

namespace ClientBoundary

/-- A node as the parser gives it. -/
structure RawNode where
  /-- The rule of the grammar that the node stands for. -/
  rule : String
  /-- The field of the parent that the node fills. -/
  field : Option String
  /-- Whether the rule has a name in the grammar, as opposed to a literal token. -/
  named : Bool
  /-- Whether the node covers text that fits no rule. -/
  isError : Bool
  /-- Whether the parser inserted the node. -/
  isMissing : Bool
  /-- Whether the parser reports an error in the node or below it. -/
  hasError : Bool
  span : Span
  first : Point
  last : Point
  deriving DecidableEq, Repr

/-- A tree as the parser gives it. -/
abbrev ParseTree := Tree RawNode

namespace ParseTree

/-- Puts a node in front of a forest, taking the first `arity` trees as its children. -/
def attach (row : RawNode × Nat) (forest : List ParseTree) : List ParseTree :=
  .node row.1 (forest.take row.2) :: forest.drop row.2

/-- The tree whose nodes in pre-order, each with its number of children, are `rows`. -/
def ofRows? (rows : List (RawNode × Nat)) : Option ParseTree :=
  match rows.foldr attach [] with
  | [tree] => some tree
  | _ => none

mutual

/-- The first fault of a tree: an error node, a missing node, or a node in which the parser reports
an error that no child accounts for. -/
def firstFault : ParseTree → Option RawNode
  | .node raw ts =>
    if raw.isError || raw.isMissing then some raw
    else if raw.hasError then some ((forestFault ts).getD raw)
    else none

/-- The first fault of several trees. -/
def forestFault : List ParseTree → Option RawNode
  | [] => none
  | t :: ts => (firstFault t).or (forestFault ts)

end

end ParseTree

end ClientBoundary
