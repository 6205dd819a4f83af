import ClientBoundary.Workspace

/-!
# Tools

The operations as tools of an assistant. A tool takes a path or the code itself; where both are
given, the code counts. Code is analysed with the typed grammar unless another language is named.

Source: SPEC_FULL.md, §5, the tools of the server.
-/

namespace ClientBoundary.Tool

/-- The report on a file or on code. -/
def analyze (workspace : Workspace) (parser : Parser) (path code language : Option String) :
    Except Failure Analysis :=
  match code, path with
  | some code, _ => do
    let grammar ← Grammar.resolve (some ((language.filter (· != "")).getD "tsx")) none
    analyzeSource parser grammar (Utf8.encode code) none
  | none, some path => workspace.analyzeFile parser path language
  | none, none => .error .noInput

/-- Splits a file and, if `apply` is set, writes the two halves. -/
def split (workspace : Workspace) (parser : Parser) (path : String) (apply : Bool) :
    Workspace × Except Failure Split :=
  workspace.applySplit parser path apply none

/-- The file name under which code is linted where none is given. -/
def defaultFilename : String := "component.tsx"

/-- The diagnostics of a file or of code. -/
def lint (workspace : Workspace) (parser : Parser) (path code : Option String)
    (filename : String) : Except Failure (List Diagnostic) :=
  match code, path with
  | some code, _ =>
    lintSource parser workspace.environment (Utf8.encode code) filename {} none
  | none, some path => workspace.lintFile parser path {} none
  | none, none => .error .noInput

end ClientBoundary.Tool
