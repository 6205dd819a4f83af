import ClientBoundary.Block
import ClientBoundary.Directive
import ClientBoundary.ImportDeclaration
import ClientBoundary.Partition

/-!
# The client half of a split

The client half is the directive followed by the code of the source: its imports, its other
statements and its default export. A directive that leads the source is not repeated.

Source: SPEC_FULL.md, §4.4, `generate_client`.

## Main declarations

* `Partition.leadingDirective?`: the directive that leads the source.
* `clientBlocks`, `clientText`: the client half.
-/

namespace ClientBoundary

/-- The first of the statements that start earliest. -/
def earliest? : List CodeTree → Option CodeTree
  | [] => none
  | s :: ss =>
    match earliest? ss with
    | none => some s
    | some t => if t.label.span.start < s.label.span.start then some t else some s

/-- The earliest statement, if it is the directive. -/
def Partition.leadingDirective? (partition : Partition) : Option CodeTree :=
  (earliest? (partition.imports ++ partition.other ++ partition.defaultExport.toList)).filter
    (·.isDirective)

/-- The other statements without the directive that leads the source. -/
def Partition.remaining (partition : Partition) : List CodeTree :=
  partition.other.filter fun s ↦
    partition.leadingDirective?.all fun directive ↦ s.label.id != directive.label.id

/-- The blocks of the client half. -/
def clientBlocks (partition : Partition) : List Block :=
  [.line s!"'{clientDirective}';", .line ""] ++
    partition.imports.map .copy ++
    (if partition.imports.any (·.isFrameworkImport) then [] else [.line frameworkImport]) ++
    [.line ""] ++
    partition.remaining.map .copy ++
    partition.defaultExport.toList.map .copy

/-- The text of the client half. -/
def clientText (bytes : Bytes) (partition : Partition) : Except Failure String :=
  renderBlocks bytes (clientBlocks partition)

end ClientBoundary
