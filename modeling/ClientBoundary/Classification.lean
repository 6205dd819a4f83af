import ClientBoundary.Directive
import ClientBoundary.Environment
import ClientBoundary.Feature
import ClientBoundary.Text.Sorted
import ClientBoundary.Tree.Search

/-!
# Classification of a module

The features of a module in document order, the nodes that are tainted because a feature stands at
or below them, and the report drawn from the features. Features inside import declarations are
recorded, but they taint nothing.

Source: SPEC_FULL.md, §3, `AnalysisResult`, and §4.1, `classify`.

## Main declarations

* `Analysis`: the report on a module.
* `Classification`, `classify`: features, taint and report.
* `analyzeSource`: the report on a source.
-/

namespace ClientBoundary

open Text

/-- The report on a module. -/
structure Analysis where
  path : Option String
  hasDirective : Bool
  hooks : List String
  browserGlobals : List String
  eventHandlers : List String
  deriving DecidableEq, Repr

/-- Whether the module uses any client-only feature. -/
def Analysis.hasFeatures (analysis : Analysis) : Bool :=
  !(analysis.hooks.isEmpty && analysis.browserGlobals.isEmpty && analysis.eventHandlers.isEmpty)

/-- Whether the module needs a directive that it lacks. -/
def Analysis.needsDirective (analysis : Analysis) : Bool :=
  !analysis.hasDirective && analysis.hasFeatures

/-- The outcome of classifying a module. -/
structure Classification where
  /-- The ordinals of the tainted nodes. -/
  tainted : List Nat
  features : List Feature
  analysis : Analysis

/-- Whether a node is tainted. -/
def Classification.isTainted (classification : Classification) (t : CodeTree) : Bool :=
  classification.tainted.contains t.label.id

/-- The features found in a statement, in document order. -/
def statementFeatures (statement : CodeTree) : List Feature :=
  (statement.search Feature.isAt).visited.filterMap Feature.detect

/-- The nodes of a statement that are tainted, children before parents; none of an import. -/
def statementTaint (statement : CodeTree) : List CodeTree :=
  if statement.label.kind = .importDeclaration then []
  else (statement.search Feature.isAt).matched

/-- Whether a statement taints its module. -/
def taintsModule (statement : CodeTree) : Bool :=
  statement.label.kind != .importDeclaration && (statement.search Feature.isAt).holds

/-- The names of the features of one kind, increasing. -/
def namesOfKind (kind : FeatureKind) (features : List Feature) : List String :=
  sortedDistinct ((features.filter (·.kind = kind)).map Feature.name)

/-- Classifies a module. -/
def classify (program : CodeTree) (path : Option String) : Classification :=
  let statements := program.statements
  let features := statements.flatMap statementFeatures
  let tainted := (statements.flatMap statementTaint).map fun t ↦ t.label.id
  { tainted := if statements.any taintsModule then tainted ++ [program.label.id] else tainted
    features := features
    analysis :=
      { path := path
        hasDirective := program.hasDirective
        hooks := namesOfKind .hook features
        browserGlobals := namesOfKind .browserGlobal features
        eventHandlers := namesOfKind .eventHandler features } }

/-- The log entry that a classification leaves. -/
def Classification.entry (classification : Classification) : LogEntry where
  severity := .debug
  origin := "rsc_guardian.core.classify"
  message :=
    let path := (classification.analysis.path.filter (· != "")).getD "<source>"
    s!"Classified {path}: {classification.features.length} feature(s), " ++
      s!"{classification.tainted.length} tainted node(s)"

/-- The report on a source. -/
def analyzeSource (parser : Parser) (grammar : Grammar) (bytes : Bytes) (path : Option String) :
    Except Failure Analysis := do
  let program ← CodeTree.ofSource parser grammar bytes
  return (classify program path).analysis

end ClientBoundary
