import ClientBoundary.Classification
import ClientBoundary.Edit

/-!
# Linting a source

In a component file without the directive every client-only feature is a problem. The fix is
the directive, inserted where the first statement starts, or a split.

Source: SPEC_FULL.md, §4.7, `lint_source`.

## Main declarations

* `Diagnostic`: a problem, where it is and how to fix it.
* `lintSource`: the problems of a source, in document order.
* `fixSource`: the source with the fixes of its problems applied.
* `lintLog`: the log entries of linting a source.
-/

namespace ClientBoundary

/-- A problem found by the linter; line and column count from one. -/
structure Diagnostic where
  message : String
  name : String
  kind : FeatureKind
  line : Nat
  column : Nat
  suggestion : Option String := none
  fix : Option Edit := none
  deriving DecidableEq, Repr

/-- What the linter is asked to add to its diagnostics. -/
structure LintOptions where
  /-- Whether a diagnostic carries the edit that inserts the directive. -/
  autoFix : Bool := false
  /-- Whether a diagnostic suggests a split. -/
  suggestSplit : Bool := false
  deriving DecidableEq, Repr

/-- The name of the rule that the linter enforces. -/
def lintRule : String := "no-client-in-server"

/-- The wording of a diagnostic about a feature. -/
def featureMessage (name : String) : String :=
  s!"Client-only feature '{name}' used in a server component. " ++
    "Add 'use client' or split into a client component."

/-- The edit that inserts the directive where the first statement starts. -/
def directiveEdit (program : CodeTree) : Edit :=
  let offset := (program.statements.head?.map fun s ↦ s.label.span.start).getD 0
  ⟨offset, offset, s!"'{clientDirective}';\n"⟩

/-- The diagnostic about a feature. -/
def Feature.diagnostic (suggestion : Option String) (fix : Option Edit) (feature : Feature) :
    Diagnostic where
  message := featureMessage feature.name
  name := feature.name
  kind := feature.kind
  line := feature.node.first.row + 1
  column := feature.node.first.column + 1
  suggestion := suggestion
  fix := fix

/-- The diagnostics of a module. -/
def lintProgram (filename : String) (options : LintOptions) (program : CodeTree) :
    List Diagnostic :=
  if program.hasDirective then []
  else
    let fix := if options.autoFix then some (directiveEdit program) else none
    let suggestion :=
      if options.suggestSplit then some s!"Run: rsc-guardian split {filename} --dry-run" else none
    (classify program (some filename)).features.map (·.diagnostic suggestion fix)

/-- The grammar with which the linter reads a file. -/
def lintGrammar (environment : Environment) (filename : String) (language : Option String) :
    Except Failure Grammar :=
  Grammar.resolve (environment.languageOr language) (some (Path.ofString filename))

/-- The diagnostics of a source. -/
def lintSource (parser : Parser) (environment : Environment) (bytes : Bytes) (filename : String)
    (options : LintOptions) (language : Option String) : Except Failure (List Diagnostic) :=
  if isComponentFile filename then do
    let grammar ← lintGrammar environment filename language
    let program ← CodeTree.ofSource parser grammar bytes
    return lintProgram filename options program
  else .ok []

/-- Applies the fixes of some diagnostics to a source. -/
def fixSource (bytes : Bytes) (diagnostics : List Diagnostic) : Bytes :=
  Edit.applyAll bytes (diagnostics.filterMap Diagnostic.fix)

/-- The log entries of linting a source. -/
def lintLog (parser : Parser) (environment : Environment) (bytes : Bytes) (filename : String)
    (language : Option String) : List LogEntry :=
  if isComponentFile filename then
    match lintGrammar environment filename language with
    | .error _ => []
    | .ok grammar =>
      match CodeTree.ofSource parser grammar bytes with
      | .error _ => []
      | .ok program =>
        if program.hasDirective then []
        else
          let classification := classify program (some filename)
          [classification.entry,
           { severity := .debug
             origin := "rsc_guardian.core.lint"
             message := s!"{filename}: {classification.features.length} diagnostic(s)" }]
  else []

end ClientBoundary
