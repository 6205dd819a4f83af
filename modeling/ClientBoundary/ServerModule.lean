import ClientBoundary.Block
import ClientBoundary.ImportDeclaration
import ClientBoundary.Partition

/-!
# The server half of a split

The server half imports the framework, the client half and everything else the source imports, and
exports a function that renders the client half with the properties it is given. The function has
the name of the source's default export, or else of the component, made longer until it differs
from every imported name.

Source: SPEC_FULL.md, §4.3, `generate_server`.

## Main declarations

* `delegateName?`: the name of the default export.
* `freeName`: the first free name of a series.
* `serverBlocks`, `serverText`: the server half.
-/

namespace ClientBoundary

/-- The name of the function that a default export declares. -/
def delegateName? (defaultExport : Option CodeTree) : Option String := do
  let statement ← defaultExport
  let declaration ← statement.childInField? "declaration"
  if declaration.label.kind = .functionDeclaration then
    let name ← declaration.childInField? "name"
    name.label.text
  else none

/-- The name `base` made longer `n` times. -/
def longerName (base : String) : Nat → String
  | 0 => base
  | n + 1 => longerName base n ++ "Server"

/-- The first of the names `base`, `baseServer`, `baseServerServer`, … that is not taken. -/
def freeName (base : String) (taken : List String) : String :=
  let steps := (List.range taken.length).find? fun n ↦ !taken.contains (longerName base n)
  longerName base (steps.getD taken.length)

/-- The first declaration that imports the framework. -/
def Partition.frameworkImport? (partition : Partition) : Option CodeTree :=
  partition.imports.find? (·.isFrameworkImport)

/-- The declarations that import anything but the framework. -/
def Partition.carriedImports (partition : Partition) : List CodeTree :=
  partition.imports.filter (!·.isFrameworkImport)

/-- The names that the imports of the server half bind. -/
def serverNames (path : Path) (partition : Partition) : List String :=
  clientName path ::
    (match partition.frameworkImport? with
      | some statement => statement.boundNames
      | none => [frameworkName]) ++
    partition.carriedImports.flatMap (·.boundNames)

/-- The name of the function that the server half exports. -/
def serverFunctionName (path : Path) (partition : Partition) : String :=
  let name := (delegateName? partition.defaultExport).filter (· != "")
  freeName (name.getD (componentIdentifier path)) (serverNames path partition)

/-- The blocks of the server half. -/
def serverBlocks (path : Path) (partition : Partition) : List Block :=
  let parameter := if path.isTypeScript then "props: any" else "props"
  (match partition.frameworkImport? with
    | some statement => .copy statement
    | none => .line frameworkImport) ::
    .clientImport path ::
    partition.carriedImports.map .copy ++
    [.line "",
     .line s!"export default function {serverFunctionName path partition}({parameter}) \x7b",
     .line s!"  return <{clientName path} \x7b...props\x7d />;",
     .line "\x7d"]

/-- The text of the server half. -/
def serverText (bytes : Bytes) (path : Path) (partition : Partition) : Except Failure String :=
  renderBlocks bytes (serverBlocks path partition)

end ClientBoundary
