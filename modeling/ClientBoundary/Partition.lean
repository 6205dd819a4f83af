import ClientBoundary.CodeTree

/-!
# Partition of a module

The statements of a module fall into imports, the default export and all others. A module has at
most one default export, and it is tainted as a whole if any statement that is no import is.

Source: SPEC_FULL.md, §4.2, `partition_module`.

## Main declarations

* `Partition`, `Partition.ofStatements`: the three buckets.
* `partitionModule`: the buckets of a module and whether it is tainted.
-/

namespace ClientBoundary

/-- The statements of a module in three buckets. -/
structure Partition where
  imports : List CodeTree
  other : List CodeTree
  defaultExport : Option CodeTree

namespace Partition

/-- The partition of a module without statements. -/
def empty : Partition := ⟨[], [], none⟩

/-- Puts a statement behind the others in its bucket. -/
def add (partition : Partition) (statement : CodeTree) : Except Failure Partition :=
  match statement.label.kind with
  | .importDeclaration => .ok { partition with imports := partition.imports ++ [statement] }
  | .defaultExport =>
    match partition.defaultExport with
    | none => .ok { partition with defaultExport := some statement }
    | some _ => .error (.secondDefaultExport (statement.label.first.row + 1))
  | _ => .ok { partition with other := partition.other ++ [statement] }

/-- The partition of a list of statements. -/
def ofStatements (statements : List CodeTree) : Except Failure Partition :=
  statements.foldlM add empty

end Partition

/-- The partition of a module, and whether a statement that is no import satisfies `isTainted`. -/
def partitionModule (isTainted : CodeTree → Bool) (program : CodeTree) :
    Except Failure (Partition × Bool) := do
  let partition ← Partition.ofStatements program.statements
  return (partition, program.statements.any fun s ↦
    s.label.kind != .importDeclaration && isTainted s)

end ClientBoundary
