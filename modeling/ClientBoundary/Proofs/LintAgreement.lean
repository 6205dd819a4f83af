import ClientBoundary.Lint
import ClientBoundary.Proofs.OneLine
import ClientBoundary.Proofs.Taint
import Mathlib.Data.List.Forall2

/-!
# Linting and analysing agree

The linter gives up at the directive before it classifies anything, while the report on a source
draws its answer from three sorted lists of names. Both go back to the same features, one for each
node of the statements that introduces one, so they fail alike, reach the same verdict and give the
same names.

## Main definitions

* `ListsNames`: the distinct names of the diagnostics of one kind, in increasing order.
* `Reports`: a diagnostic tells of the feature that a node introduces.

## Main results

* `features_classify`: the features of a module are those of the nodes of its statements.
* `hasFeatures_classify_iff`: a report shows a feature exactly when there is one.
* `lintSource_agrees`: linting a source against the report on it.
-/

namespace ClientBoundary

open Text ClientBoundary.Tree

/-! ### Sorted names -/

theorem pairwise_insertDistinct {text : String} {texts : List String}
    (h : texts.Pairwise (· < ·)) : (insertDistinct text texts).Pairwise (· < ·) := by
  induction texts with
  | nil => simp [insertDistinct]
  | cons other rest ih =>
    obtain ⟨hfirst, hrest⟩ := List.pairwise_cons.mp h
    unfold insertDistinct
    split_ifs with hlt heq
    · refine List.pairwise_cons.mpr ⟨?_, h⟩
      intro name hname
      rcases List.mem_cons.mp hname with rfl | hname
      · exact hlt
      · exact String.lt_trans hlt (hfirst name hname)
    · exact h
    · refine List.pairwise_cons.mpr ⟨?_, ih hrest⟩
      intro name hname
      rcases mem_insertDistinct.mp hname with rfl | hname
      · by_contra hnot
        exact heq (String.le_antisymm (String.not_lt.mp hnot) (String.not_lt.mp hlt))
      · exact hfirst name hname

/-- Sorted names increase from each to the next, so that none occurs twice. -/
theorem pairwise_sortedDistinct (texts : List String) :
    (sortedDistinct texts).Pairwise (· < ·) := by
  induction texts with
  | nil => exact List.Pairwise.nil
  | cons text texts ih => exact pairwise_insertDistinct ih

/-! ### Features and their names -/

theorem mem_namesOfKind_iff {kind : FeatureKind} {features : List Feature} {name : String} :
    name ∈ namesOfKind kind features ↔ ∃ f ∈ features, f.kind = kind ∧ f.name = name := by
  simp [namesOfKind, and_assoc]

/-- A feature remembers the node that introduces it. -/
theorem Feature.node_of_detect {t : CodeTree} {feature : Feature}
    (h : Feature.detect t = some feature) : feature.node = t.label := by
  unfold detect at h
  split at h
  · obtain ⟨name, -, rfl⟩ := Option.map_eq_some_iff.mp h
    rfl
  · obtain ⟨name, -, rfl⟩ := Option.map_eq_some_iff.mp h
    rfl
  · obtain ⟨name, -, rfl⟩ := Option.map_eq_some_iff.mp h
    rfl
  · cases h

/-- The features of a module, in document order, are those that the nodes of its statements
introduce. -/
theorem features_classify (program : CodeTree) (path : Option String) :
    (classify program path).features =
      (program.statements.flatMap subtrees).filterMap Feature.detect := by
  have hstatement : statementFeatures = fun s ↦ s.subtrees.filterMap Feature.detect := by
    funext s
    rw [statementFeatures, search_eq]
  simp only [classify, hstatement, List.filterMap_flatMap]

/-- The features of some nodes, one for each node that introduces one. -/
theorem forall₂_filterMap_detect (nodes : List CodeTree) :
    List.Forall₂ (fun t feature ↦ Feature.detect t = some feature) (nodes.filter Feature.isAt)
      (nodes.filterMap Feature.detect) := by
  induction nodes with
  | nil => exact .nil
  | cons t nodes ih =>
    cases hdetect : Feature.detect t with
    | none => simpa [Feature.isAt, hdetect] using ih
    | some feature => simpa [Feature.isAt, hdetect] using ih

/-- A report shows a feature exactly when the module has one, whatever its kind. -/
theorem hasFeatures_classify_iff {program : CodeTree} {path : Option String} :
    (classify program path).analysis.hasFeatures = true ↔
      (classify program path).features ≠ [] := by
  have hnames (kind : FeatureKind) (features : List Feature) :
      namesOfKind kind features = [] ↔ ∀ f ∈ features, f.kind ≠ kind := by
    rw [List.eq_nil_iff_forall_not_mem]
    simp only [mem_namesOfKind_iff]
    constructor
    · intro h f hf hkind
      exact h f.name ⟨f, hf, hkind, rfl⟩
    · rintro h name ⟨f, hf, hkind, -⟩
      exact h f hf hkind
  rw [Analysis.hasFeatures, Bool.not_eq_true', ← Bool.not_eq_true, not_iff_not]
  simp only [classify, Bool.and_eq_true, List.isEmpty_iff, hnames]
  rw [List.eq_nil_iff_forall_not_mem]
  constructor
  · rintro ⟨⟨hhook, hglobal⟩, hhandler⟩ f hf
    cases hkind : f.kind with
    | hook => exact hhook f hf hkind
    | browserGlobal => exact hglobal f hf hkind
    | eventHandler => exact hhandler f hf hkind
  · intro h
    exact ⟨⟨fun f hf ↦ absurd hf (h f), fun f hf ↦ absurd hf (h f)⟩, fun f hf ↦ absurd hf (h f)⟩

/-! ### Diagnostics -/

/-- The names are the distinct names of the diagnostics of one kind, in increasing order. -/
def ListsNames (kind : FeatureKind) (diagnostics : List Diagnostic) (names : List String) : Prop :=
  names.Pairwise (· < ·) ∧
    ∀ name, name ∈ names ↔ ∃ d ∈ diagnostics, d.kind = kind ∧ d.name = name

/-- The diagnostic tells of the feature that the node introduces, at the place of the node. -/
def Reports (t : CodeTree) (d : Diagnostic) : Prop :=
  ∃ feature, Feature.detect t = some feature ∧ d.name = feature.name ∧ d.kind = feature.kind ∧
    d.line = t.label.first.row + 1 ∧ d.column = t.label.first.column + 1

theorem listsNames_diagnostics (kind : FeatureKind) (features : List Feature)
    (suggestion : Option String) (fix : Option Edit) :
    ListsNames kind (features.map (·.diagnostic suggestion fix)) (namesOfKind kind features) := by
  refine ⟨pairwise_sortedDistinct _, fun name ↦ ?_⟩
  simp [mem_namesOfKind_iff, Feature.diagnostic]

theorem forall₂_reports (nodes : List CodeTree) (suggestion : Option String) (fix : Option Edit) :
    List.Forall₂ Reports (nodes.filter Feature.isAt)
      ((nodes.filterMap Feature.detect).map (·.diagnostic suggestion fix)) := by
  rw [List.forall₂_map_right_iff]
  refine (forall₂_filterMap_detect nodes).imp ?_
  intro t feature hdetect
  refine ⟨feature, hdetect, rfl, rfl, ?_⟩
  simp [Feature.diagnostic, Feature.node_of_detect hdetect]

/-- The linter finds nothing in a module with the directive, and otherwise one problem for each
feature. -/
theorem exists_lintProgram_eq (filename : String) (options : LintOptions) (program : CodeTree)
    (path : Option String) :
    ∃ suggestion fix, lintProgram filename options program =
      if program.hasDirective then []
      else (classify program path).features.map (·.diagnostic suggestion fix) := by
  simp only [features_classify, lintProgram]
  exact ⟨_, _, rfl⟩

/-- The linter finds problems exactly where the report misses the directive. -/
theorem lintProgram_eq_nil_iff {filename : String} {options : LintOptions} {program : CodeTree}
    {path : Option String} :
    lintProgram filename options program = [] ↔
      (classify program path).analysis.needsDirective = false := by
  obtain ⟨suggestion, fix, hlint⟩ := exists_lintProgram_eq filename options program path
  have hdirective : (classify program path).analysis.hasDirective = program.hasDirective := rfl
  rw [hlint, Analysis.needsDirective, hdirective]
  cases program.hasDirective with
  | true => simp
  | false =>
    rw [Bool.not_false, Bool.true_and, ← Bool.not_eq_true, hasFeatures_classify_iff, not_not]
    simp

/-! ### Sources -/

section LintSource

variable {parser : Parser} {environment : Environment} {bytes : Bytes} {filename : String}
  {options : LintOptions} {language : Option String} {grammar : Grammar}

theorem lintSource_eq (hfile : isComponentFile filename = true)
    (hgrammar : lintGrammar environment filename language = .ok grammar) :
    lintSource parser environment bytes filename options language =
      (CodeTree.ofSource parser grammar bytes).map (lintProgram filename options) := by
  unfold lintSource
  rw [if_pos hfile, hgrammar]
  rfl

/-- Linting finds nothing, or the source is read as a module and the problems are those of it. -/
theorem eq_nil_or_exists_lintProgram {diagnostics : List Diagnostic}
    (h : lintSource parser environment bytes filename options language = .ok diagnostics) :
    diagnostics = [] ∨ isComponentFile filename = true ∧ ∃ grammar program,
      lintGrammar environment filename language = .ok grammar ∧
      CodeTree.ofSource parser grammar bytes = .ok program ∧
      lintProgram filename options program = diagnostics := by
  unfold lintSource at h
  split_ifs at h with hfile
  · simp only [bind_eq_ok_iff, pure_eq_ok_iff] at h
    obtain ⟨grammar, hgrammar, program, hprogram, hlint⟩ := h
    exact Or.inr ⟨hfile, grammar, program, hgrammar, hprogram, hlint⟩
  · exact Or.inl (Except.ok.inj h).symm

/-- **Linting and analysing agree.** On a component file whose grammar is known the linter fails
exactly as the report on the source does. Otherwise it finds nothing exactly when the report needs
no directive, and the names of what it finds are, for each kind, those of the report, with one
diagnostic for each node of the statements that introduces a feature. -/
theorem lintSource_agrees (path : Option String) (hfile : isComponentFile filename = true)
    (hgrammar : lintGrammar environment filename language = .ok grammar) :
    (∀ failure, lintSource parser environment bytes filename options language = .error failure ↔
      analyzeSource parser grammar bytes path = .error failure) ∧
    ∀ analysis, analyzeSource parser grammar bytes path = .ok analysis →
      ∃ program diagnostics, CodeTree.ofSource parser grammar bytes = .ok program ∧
        lintSource parser environment bytes filename options language = .ok diagnostics ∧
        (diagnostics = [] ↔ analysis.needsDirective = false) ∧
        (diagnostics ≠ [] →
          ListsNames .hook diagnostics analysis.hooks ∧
          ListsNames .browserGlobal diagnostics analysis.browserGlobals ∧
          ListsNames .eventHandler diagnostics analysis.eventHandlers ∧
          List.Forall₂ Reports
            ((program.statements.flatMap subtrees).filter fun t ↦ (Feature.detect t).isSome)
            diagnostics) := by
  rw [lintSource_eq hfile hgrammar]
  unfold analyzeSource
  cases hprogram : CodeTree.ofSource parser grammar bytes with
  | error fault =>
    constructor
    · intro failure
      simp [Except.map, bind, Except.bind]
    · intro analysis hanalysis
      cases hanalysis
  | ok program =>
    constructor
    · intro failure
      exact iff_of_false nofun nofun
    · intro analysis hanalysis
      obtain rfl : (classify program path).analysis = analysis := Except.ok.inj hanalysis
      refine ⟨program, _, rfl, rfl, lintProgram_eq_nil_iff, fun hne ↦ ?_⟩
      obtain ⟨suggestion, fix, hlint⟩ := exists_lintProgram_eq filename options program path
      rw [hlint] at hne ⊢
      split_ifs at hne ⊢ with hdirective
      · exact absurd rfl hne
      · refine ⟨listsNames_diagnostics _ _ _ _, listsNames_diagnostics _ _ _ _,
          listsNames_diagnostics _ _ _ _, ?_⟩
        rw [features_classify]
        exact forall₂_reports _ suggestion fix

end LintSource

/-- A source that names one browser global in an import and another one twice. -/
def globalsLine : List OneLine :=
  [.importNamed "window" "w", .mention "alert", .mention "alert"]

/-- The linter finds a problem at each of three places, and the report gives the two names. -/
theorem lintSource_agrees_globals :
    ∃ analysis program diagnostics,
      isComponentFile "a.tsx" = true ∧ lintGrammar {} "a.tsx" none = .ok .tsx ∧
      analyzeSource (OneLine.parser globalsLine) .tsx (OneLine.source globalsLine) none =
        .ok analysis ∧
      CodeTree.ofSource (OneLine.parser globalsLine) .tsx (OneLine.source globalsLine) =
        .ok program ∧
      lintSource (OneLine.parser globalsLine) {} (OneLine.source globalsLine) "a.tsx" {} none =
        .ok diagnostics ∧
      diagnostics ≠ [] ∧ analysis.browserGlobals = ["alert", "window"] ∧
      ListsNames .browserGlobal diagnostics analysis.browserGlobals ∧
      List.Forall₂ Reports
        ((program.statements.flatMap subtrees).filter fun t ↦ (Feature.detect t).isSome)
        diagnostics := by
  have hfile : isComponentFile "a.tsx" = true := by decide +kernel
  have hgrammar : lintGrammar {} "a.tsx" none = .ok .tsx := by decide +kernel
  obtain ⟨analysis, hanalysis, hreport⟩ := exists_ok_of_toOption
    (x := analyzeSource (OneLine.parser globalsLine) .tsx (OneLine.source globalsLine) none)
    (f := fun analysis ↦ (analysis.needsDirective, analysis.browserGlobals))
    (b := (true, ["alert", "window"])) (by decide +kernel)
  obtain ⟨hneeds, hnames⟩ := Prod.mk.inj hreport
  obtain ⟨program, diagnostics, hprogram, hlint, hnil, hfound⟩ :=
    (lintSource_agrees none hfile hgrammar).2 analysis hanalysis
  have hne : diagnostics ≠ [] := by simp [hnil, hneeds]
  obtain ⟨-, hglobals, -, hnodes⟩ := hfound hne
  exact ⟨analysis, program, diagnostics, hfile, hgrammar, hanalysis, hprogram, hlint, hne, hnames,
    hglobals, hnodes⟩

end ClientBoundary
