import ClientBoundary.CodeTree

/-!
# Import declarations

Where a declaration imports from and which local names it binds.

Source: SPEC_FULL.md, §4.3, the names that imports bind.

## Main declarations

* `CodeTree.importSource?`, `CodeTree.isFrameworkImport`: the module imported from.
* `CodeTree.boundNames`: the local names a declaration binds.
-/

namespace ClientBoundary

/-- Whether a module specifier names the user interface framework. -/
def isFrameworkModule (source : Option String) : Bool :=
  source == some "react" || source == some "react/jsx-runtime"

/-- The line that imports the framework under its usual name. -/
def frameworkImport : String := "import React from 'react';"

/-- The name that `frameworkImport` binds. -/
def frameworkName : String := "React"

namespace CodeTree

/-- The module specifier of a declaration. -/
def importSource? (statement : CodeTree) : Option String :=
  match statement.childInField? "source" with
  | some source => if source.label.kind = .string then source.label.text else none
  | none => none

/-- Whether a declaration imports the framework. -/
def isFrameworkImport (statement : CodeTree) : Bool :=
  isFrameworkModule statement.importSource?

/-- The text of a node, unless it is empty. -/
def nonemptyText? (t : CodeTree) : Option String :=
  t.label.text.filter (· != "")

/-- The local names that a node itself binds: a specifier binds its alias or else its name, a
clause and a namespace bind the identifiers directly below them. -/
def namesBoundAt (t : CodeTree) : List String :=
  if t.label.rule == "import_specifier" then
    match (t.childInField? "alias").or (t.childInField? "name") with
    | some name => (nonemptyText? name).toList
    | none => []
  else if t.label.rule == "import_clause" || t.label.rule == "namespace_import" then
    (t.children.filter (·.label.rule == "identifier")).filterMap nonemptyText?
  else []

/-- The local names that a declaration binds, in document order. -/
def boundNames (statement : CodeTree) : List String :=
  statement.subtrees.flatMap namesBoundAt

end CodeTree

end ClientBoundary
