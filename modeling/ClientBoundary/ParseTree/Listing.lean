import ClientBoundary.ParseTree
import ClientBoundary.Text.Fields

/-!
# Listings of parse trees

A parse tree as text: one line for every node in pre-order, with the fields of the node divided by
tabs. The fields are the rule, the field of the parent or nothing, the flags, the two offsets, row
and column of the start, row and column of the end, and the number of children. The flags are
letters: `n` for a named rule, `e` for an error, `m` for a missing node, `h` for an error in the
node or below it.

## Main declarations

* `ParseTree.rowOfLine?`: the node on one line.
* `ParseTree.ofListing?`: the tree of a whole listing.
-/

namespace ClientBoundary.ParseTree

open Text

/-- The number that a field spells. -/
def number? (field : List Char) : Option Nat :=
  (String.ofList field).toNat?

/-- The node on a line of a listing, and its number of children. -/
def rowOfLine? (line : List Char) : Option (RawNode × Nat) :=
  match fields (· == '\t') line with
  | [rule, field, flags, start, stop, row, column, lastRow, lastColumn, arity] => do
    let raw : RawNode := {
      rule := String.ofList rule
      field := if field = [] then none else some (String.ofList field)
      named := flags.contains 'n'
      isError := flags.contains 'e'
      isMissing := flags.contains 'm'
      hasError := flags.contains 'h'
      span := ⟨← number? start, ← number? stop⟩
      first := ⟨← number? row, ← number? column⟩
      last := ⟨← number? lastRow, ← number? lastColumn⟩ }
    return (raw, ← number? arity)
  | _ => none

/-- The tree that a listing describes. -/
def ofListing? (text : String) : Option ParseTree := do
  let lines := (fields (· == '\n') text.toList).filter (· != [])
  let rows ← lines.mapM rowOfLine?
  ofRows? rows

end ClientBoundary.ParseTree
