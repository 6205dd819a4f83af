import ClientBoundary.Proofs.LintAgreement
import ClientBoundary.Proofs.LintSteps
import ClientBoundary.Proofs.SplitEffects
import ClientBoundary.Proofs.TerminalLaws

/-!
# Exit statuses

A command ends with status one when the operation behind it fails, and a command that lints files
also when problems remain; otherwise it ends with status zero. Printing could get in the way in one
place only, the names of a report, which are put into markup as they are. Names without an opening
bracket hold no tags, the parser is assumed to find no others, and the console is assumed to accept
them.

## Main definitions

* `Ending.status`, `Ending.TellsWhether`: the exit status, and what it says.
* `PlainNames`: the names in an accepted source have no opening bracket.
* `Workspace.HasTrouble`, `Workspace.MeetsTrouble`: a file, or one of several, cannot be linted or
  keeps its problems.

## Main results

* `runs_printReport`: the report on an accepted source can be printed.
* `Workspace.not_meetsTrouble_iff`: when linting files leaves no trouble.
* `command_status`: the exit status of a command.
-/

namespace ClientBoundary

open ClientBoundary.Tree

/-! ### Statuses -/

/-- The status with which a command ends. What is not handled ends it with status one, and
words that cannot be read end it with status two. -/
def Ending.status : Ending → Nat
  | .exit status => status
  | .usage => 2
  | .crash _ => 1

/-- The status is one exactly when something fails, and zero otherwise. -/
def Ending.TellsWhether (ending : Ending) (fails : Prop) : Prop :=
  (ending.status = 1 ↔ fails) ∧ (ending.status = 0 ↔ ¬ fails)

theorem Stop.IsFailure.status_ending {stop : Stop} (h : stop.IsFailure) :
    (Ending.ofResult (.error stop)).status = 1 := by
  cases stop with
  | exit status => exact h
  | crash reason => rfl

section TellsWhether

variable {command : CommandM Unit} {before after : Workspace} {fails : Prop}

theorem Runs.tellsWhether_of_ok (h : Runs command before (.ok ()) after) (hnot : ¬ fails) :
    (Outcome.ofCommand before command).ending.TellsWhether fails := by
  rw [h.outcome.2]
  exact ⟨iff_of_false Nat.zero_ne_one hnot, iff_of_true rfl hnot⟩

theorem Runs.tellsWhether_of_error {stop : Stop} (h : Runs command before (.error stop) after)
    (hstop : stop.IsFailure) (hfails : fails) :
    (Outcome.ofCommand before command).ending.TellsWhether fails := by
  rw [h.outcome.2, Ending.TellsWhether, hstop.status_ending]
  exact ⟨iff_of_true rfl hfails, iff_of_false Nat.one_ne_zero (not_not_intro hfails)⟩

/-- A command that ends as an operation does tells whether the operation fails. -/
theorem Runs.tellsWhether {α : Type} {operation : Except Failure α} {result : Except Stop Unit}
    (h : Runs command before result after) (hmirrors : Mirrors operation result) :
    (Outcome.ofCommand before command).ending.TellsWhether
      (∃ failure, operation = .error failure) := by
  cases hmirrors with
  | ok a => exact h.tellsWhether_of_ok (by simp)
  | error failure hstop => exact h.tellsWhether_of_error hstop ⟨failure, rfl⟩

end TellsWhether

/-! ### Printing plain texts -/

section Report

variable {console : Console}

/-- A name without an opening bracket can be printed. -/
theorem exists_nameLine_eq_ok (hconsole : console.AcceptsMarkup) {name : String}
    (h : '[' ∉ name.toList) : ∃ line, nameLine console name = .ok line := by
  have hplain : '[' ∉ s!"  - {name}".toList := by
    change '[' ∉ ("  - " ++ name).toList
    simp [h]
  unfold nameLine Console.checkedLine
  rw [hconsole.text true (Markup.not_hasTag_of_notMem hplain)]
  exact ⟨_, rfl⟩

/-- The names of one kind can be printed if none of them has an opening bracket. -/
theorem runs_printNames (hconsole : console.AcceptsMarkup) (title : String) {names : List String}
    (h : ∀ name ∈ names, '[' ∉ name.toList) (workspace : Workspace) :
    Runs (printNames console title names) workspace (.ok ()) workspace := by
  refine (runs_printOut _ workspace).bind ?_
  split_ifs with hempty
  · exact runs_printOut _ workspace
  · clear hempty
    induction names with
    | nil => exact runs_pure () workspace
    | cons name names ih =>
      obtain ⟨line, hline⟩ := exists_nameLine_eq_ok hconsole (h name List.mem_cons_self)
      rw [List.forM_eq_forM, List.forM_cons, hline]
      refine (runs_printOut line workspace).bind ?_
      exact ih fun other hother ↦ h other (List.mem_cons_of_mem name hother)

/-- A report can be printed if its names have no opening brackets. -/
theorem runs_printReport (hconsole : console.AcceptsMarkup) (file : String) {analysis : Analysis}
    (hhooks : ∀ name ∈ analysis.hooks, '[' ∉ name.toList)
    (hglobals : ∀ name ∈ analysis.browserGlobals, '[' ∉ name.toList)
    (hhandlers : ∀ name ∈ analysis.eventHandlers, '[' ∉ name.toList) (workspace : Workspace) :
    Runs (printReport console file analysis) workspace (.ok ()) workspace := by
  refine (runs_printOut _ workspace).bind ?_
  refine (runs_printOut _ workspace).bind ?_
  refine (runs_printOut _ workspace).bind ?_
  refine (runs_printNames hconsole _ hhooks workspace).bind ?_
  refine (runs_printNames hconsole _ hglobals workspace).bind ?_
  refine (runs_printNames hconsole _ hhandlers workspace).bind ?_
  refine (runs_printOut _ workspace).bind ?_
  split_ifs
  · exact (runs_printOut _ workspace).bind (runs_printOut _ workspace)
  · exact runs_pure () workspace

end Report

/-! ### Names in accepted sources -/

/-- The names in an accepted source have no opening bracket, which is punctuation in both
grammars. -/
def PlainNames (parser : Parser) : Prop :=
  ∀ grammar bytes program, CodeTree.ofSource parser grammar bytes = .ok program →
    ∀ u ∈ program.subtrees, u.label.kind = .identifier ∨ u.label.kind = .propertyName →
      ∀ text, u.label.text = some text → '[' ∉ text.toList

/-- A feature has the name that stands at a node within the one that introduces it. -/
theorem Feature.exists_name_of_detect {t : CodeTree} {feature : Feature}
    (h : Feature.detect t = some feature) :
    ∃ u ∈ t.subtrees, (u.label.kind = .identifier ∨ u.label.kind = .propertyName) ∧
      u.label.text = some feature.name := by
  have hchild {s u : CodeTree} {p : CodeTree → Bool} (hfind : s.children.find? p = some u) :
      u ∈ s.subtrees :=
    mem_subtrees_of_mem_children (List.mem_of_find?_eq_some hfind) u.self_mem_subtrees
  have hfilter {u : CodeTree} {p : String → Bool} {name : String}
      (htext : u.label.text.filter p = some name) : u.label.text = some name :=
    (Option.filter_eq_some_iff.mp htext).1
  unfold detect at h
  split at h
  · obtain ⟨name, hname, rfl⟩ := Option.map_eq_some_iff.mp h
    obtain ⟨callee, hcallee, hname⟩ := Option.bind_eq_some_iff.mp hname
    split at hname
    · rename_i hkind
      exact ⟨callee, hchild hcallee, Or.inl hkind, hfilter hname⟩
    · obtain ⟨property, hproperty, hname⟩ := Option.bind_eq_some_iff.mp hname
      split_ifs at hname with hkind
      have hmem := mem_subtrees_of_mem_children (List.mem_of_find?_eq_some hcallee)
        (hchild hproperty)
      exact ⟨property, hmem, Or.inr hkind, hfilter hname⟩
    · cases hname
  · rename_i hkind
    obtain ⟨name, hname, rfl⟩ := Option.map_eq_some_iff.mp h
    exact ⟨t, t.self_mem_subtrees, Or.inl hkind, hfilter hname⟩
  · obtain ⟨name, hname, rfl⟩ := Option.map_eq_some_iff.mp h
    obtain ⟨child, hfind, hname⟩ := Option.bind_eq_some_iff.mp hname
    split_ifs at hname with hkind
    exact ⟨child, hchild hfind, Or.inr hkind, hfilter hname⟩
  · cases h

/-- The names that the report on an accepted source lists have no opening bracket. -/
theorem PlainNames.notMem_of_mem_namesOfKind {parser : Parser} (hnames : PlainNames parser)
    {grammar : Grammar} {bytes : Bytes} {program : CodeTree}
    (hprogram : CodeTree.ofSource parser grammar bytes = .ok program) {path : Option String}
    {kind : FeatureKind} {name : String}
    (h : name ∈ namesOfKind kind (classify program path).features) : '[' ∉ name.toList := by
  obtain ⟨feature, hfeature, -, rfl⟩ := mem_namesOfKind_iff.mp h
  rw [features_classify, List.mem_filterMap] at hfeature
  obtain ⟨t, ht, hdetect⟩ := hfeature
  obtain ⟨s, hs, hts⟩ := List.mem_flatMap.mp ht
  obtain ⟨u, hu, hkind, htext⟩ := Feature.exists_name_of_detect hdetect
  have hmem := mem_subtrees_of_mem_children (CodeTree.mem_statements_iff.mp hs).1
    (mem_subtrees_trans hts hu)
  exact hnames grammar bytes program hprogram u hmem hkind feature.name htext

/-- The command that reports on a file ends as the operation does. -/
theorem exists_mirroring_runs_runAnalyze (context : CommandContext)
    (hconsole : context.console.AcceptsMarkup) (hnames : PlainNames context.parser) (file : String)
    (language : Option String) (workspace : Workspace) :
    ∃ result, Mirrors (workspace.analyzeFile context.parser file language) result ∧
      Runs (runAnalyze context file language) workspace result workspace := by
  refine (runs_currentWorkspace workspace).exists_bind ?_
  refine (runs_printLog context _ workspace).exists_bind ?_
  cases hanalysis : workspace.analyzeFile context.parser file language with
  | error failure =>
    obtain ⟨stop, hstop, hfail⟩ := exists_runs_orFail_error context failure workspace
    exact ⟨.error stop, .error failure hstop, hfail.bind_error⟩
  | ok analysis =>
    refine ⟨.ok (), .ok analysis, (runs_orFail_ok context analysis workspace).bind ?_⟩
    simp only [Workspace.analyzeFile, analyzeSource, bind_eq_ok_iff, pure_eq_ok_iff] at hanalysis
    obtain ⟨source, -, grammar, -, program, hprogram, rfl⟩ := hanalysis
    have hplain (kind : FeatureKind) (name : String) :
        name ∈ namesOfKind kind (classify program (some source.path.toString)).features →
          '[' ∉ name.toList :=
      hnames.notMem_of_mem_namesOfKind hprogram
    exact runs_printReport hconsole file (hplain .hook) (hplain .browserGlobal)
      (hplain .eventHandler) workspace

/-! ### Linting files -/

namespace Workspace

section Lint

variable {parser : Parser} {options : LintOptions} {language : Option String}
  {workspace after : Workspace} {file : String} {files : List String} {problems : Nat}

/-- A file cannot be linted, its fixed source cannot be written back, or it has problems that are
not fixed. -/
def HasTrouble (parser : Parser) (options : LintOptions) (language : Option String)
    (workspace : Workspace) (file : String) : Prop :=
  (∃ failure, workspace.lintFile parser file options language = .error failure) ∨
    (options.autoFix = true ∧ ∃ source d ds failure,
      workspace.readSource file = .ok source ∧
      workspace.lintFile parser file options language = .ok (d :: ds) ∧
      (workspace.saveSource source (fixSource source.bytes (d :: ds))).2 = .error failure) ∨
    options.autoFix = false ∧
      ∃ d ds, workspace.lintFile parser file options language = .ok (d :: ds)

/-- Going through files in order, each in the workspace that those before it leave, one is met that
has trouble. -/
def MeetsTrouble (parser : Parser) (options : LintOptions) (language : Option String)
    (workspace : Workspace) (files : List String) : Prop :=
  ∃ before file rest problems reached, files = before ++ file :: rest ∧
    workspace.lintSteps parser options language before = (reached, .ok problems) ∧
    reached.HasTrouble parser options language file

/-- A file has no trouble exactly when its step succeeds and leaves no problems. -/
theorem not_hasTrouble_iff :
    ¬ workspace.HasTrouble parser options language file ↔
      ∃ next, workspace.lintStep parser options language file = (next, .ok 0) := by
  rcases workspace.lintStep_cases parser options language file with
    ⟨failure, hfile, hstep⟩ | ⟨source, d, ds, after, saved, hfix, hsource, hfile, hsave, hstep⟩ |
      ⟨diagnostics, hnil, hfile, hstep⟩
  · exact iff_of_false (not_not_intro (Or.inl ⟨failure, hfile⟩)) (by simp [hstep])
  · cases saved with
    | error failure =>
      refine iff_of_false (not_not_intro (Or.inr (Or.inl ⟨hfix, ?_⟩))) (by simp [hstep, Except.map])
      exact ⟨source, d, ds, failure, hsource, hfile, by rw [hsave]⟩
    | ok _ =>
      refine iff_of_true ?_ ⟨after, hstep⟩
      simp [HasTrouble, hfile, hfix, hsource, hsave]
  · cases hfix : options.autoFix with
    | true =>
      obtain rfl := hnil hfix
      exact iff_of_true (by simp [HasTrouble, hfile, hfix]) ⟨workspace, hstep⟩
    | false =>
      cases diagnostics with
      | nil => exact iff_of_true (by simp [HasTrouble, hfile]) ⟨workspace, hstep⟩
      | cons d ds =>
        exact iff_of_false (not_not_intro (Or.inr (Or.inr ⟨hfix, d, ds, hfile⟩))) (by simp [hstep])

/-- A file whose step fails has trouble. -/
theorem hasTrouble_of_lintStep_eq_error {failure : Failure}
    (h : workspace.lintStep parser options language file = (after, .error failure)) :
    workspace.HasTrouble parser options language file := by
  by_contra hnone
  obtain ⟨next, hstep⟩ := not_hasTrouble_iff.mp hnone
  simp [h] at hstep

/-- Trouble is met at the first file or, if that can be linted, among the others. -/
theorem meetsTrouble_cons_iff :
    workspace.MeetsTrouble parser options language (file :: files) ↔
      workspace.HasTrouble parser options language file ∨
        ∃ here next, workspace.lintStep parser options language file = (next, .ok here) ∧
          next.MeetsTrouble parser options language files := by
  constructor
  · rintro ⟨before, trouble, rest, problems, reached, hfiles, hbefore, htrouble⟩
    cases before with
    | nil =>
      obtain ⟨rfl, rfl⟩ := List.cons.inj hfiles
      obtain ⟨rfl, -⟩ := Prod.mk.inj hbefore
      exact Or.inl htrouble
    | cons first before =>
      obtain ⟨rfl, rfl⟩ := List.cons.inj hfiles
      obtain ⟨here, next, later, hhere, hlater, -⟩ := lintSteps_cons_eq_ok_iff.mp hbefore
      exact Or.inr ⟨here, next, hhere, before, trouble, rest, later, reached, rfl, hlater, htrouble⟩
  · rintro (htrouble | ⟨here, next, hhere, before, trouble, rest, later, reached, rfl, hlater, h⟩)
    · exact ⟨[], file, files, 0, workspace, rfl, rfl, htrouble⟩
    · exact ⟨file :: before, trouble, rest, here + later, reached, rfl,
        lintSteps_cons_eq_ok_iff.mpr ⟨here, next, later, hhere, hlater, rfl⟩, h⟩

/-- No trouble is met exactly when all steps succeed and no problems remain. -/
theorem not_meetsTrouble_iff :
    ¬ workspace.MeetsTrouble parser options language files ↔
      ∃ after, workspace.lintSteps parser options language files = (after, .ok 0) := by
  induction files generalizing workspace with
  | nil =>
    refine iff_of_true ?_ ⟨workspace, rfl⟩
    rintro ⟨before, trouble, rest, problems, reached, hfiles, -⟩
    simp at hfiles
  | cons file files ih =>
    rw [meetsTrouble_cons_iff, not_or, not_hasTrouble_iff]
    constructor
    · rintro ⟨⟨next, hhere⟩, hlater⟩
      have hnone : ¬ next.MeetsTrouble parser options language files :=
        fun htrouble ↦ hlater ⟨0, next, hhere, htrouble⟩
      obtain ⟨after, hafter⟩ := ih.mp hnone
      exact ⟨after, lintSteps_cons_eq_ok_iff.mpr ⟨0, next, 0, hhere, hafter, rfl⟩⟩
    · rintro ⟨after, hafter⟩
      obtain ⟨here, next, later, hhere, hlater, hsum⟩ := lintSteps_cons_eq_ok_iff.mp hafter
      obtain ⟨rfl, rfl⟩ : here = 0 ∧ later = 0 := by omega
      refine ⟨⟨next, hhere⟩, ?_⟩
      rintro ⟨here, next', hhere', htrouble⟩
      obtain ⟨rfl, -⟩ := Prod.mk.inj (hhere.symm.trans hhere')
      exact ih.mpr ⟨after, hlater⟩ htrouble

/-- Steps that fix nothing leave the workspace as it is. -/
theorem lintSteps_fst_eq_self (hfix : options.autoFix = false) (workspace : Workspace)
    (files : List String) :
    (workspace.lintSteps parser options language files).1 = workspace := by
  have hstep (file : String) : (workspace.lintStep parser options language file).1 = workspace := by
    rcases workspace.lintStep_cases parser options language file with
      ⟨failure, -, hstep⟩ | ⟨source, d, ds, after, saved, hfixed, -⟩ | ⟨diagnostics, -, -, hstep⟩
    · rw [hstep]
    · simp [hfix] at hfixed
    · rw [hstep]
  induction files with
  | nil => rfl
  | cons file files ih =>
    rw [lintSteps]
    rcases hhere : workspace.lintStep parser options language file with ⟨next, failure | here⟩
    · simpa [hhere] using hstep file
    · obtain rfl : next = workspace := by simpa [hhere] using hstep file
      exact ih

end Lint

/-- Files behind the first one that fails do not matter to what the command prints and does. -/
theorem outcome_lint_failing {context : CommandContext} {fix suggest : Bool}
    {language : Option String} {workspace reached after : Workspace} {before : List String}
    {file : String} {problems : Nat} {failure : Failure}
    (hbefore : workspace.lintSteps context.parser ⟨fix, suggest⟩ language before =
      (reached, .ok problems))
    (hfile : reached.lintStep context.parser ⟨fix, suggest⟩ language file =
      (after, .error failure))
    (rest rest' : List String) :
    Outcome.ofCommand workspace
        ((Request.lint (before ++ file :: rest) fix suggest language).run context) =
      .ofCommand workspace
        ((Request.lint (before ++ file :: rest') fix suggest language).run context) := by
  have hall := run_lintAll_failing context hbefore hfile 0 rest rest' "" ""
  have hrun : (runLint context (before ++ file :: rest) ⟨fix, suggest⟩ language).run.run
        ⟨workspace, "", ""⟩ =
      (runLint context (before ++ file :: rest') ⟨fix, suggest⟩ language).run.run
        ⟨workspace, "", ""⟩ := by
    unfold runLint
    rw [ExceptT.run_bind, ExceptT.run_bind, StateT.run_bind, StateT.run_bind, hall]
  simp only [Outcome.ofCommand, Request.run, hrun]

/-- The command that lints files leaves the workspace that the steps leave, and it ends well exactly
if they meet no trouble. -/
theorem runs_runLint_cases (context : CommandContext) (files : List String) (fix suggest : Bool)
    (language : Option String) (workspace : Workspace) :
    (¬ workspace.MeetsTrouble context.parser ⟨fix, suggest⟩ language files ∧
      Runs ((Request.lint files fix suggest language).run context) workspace (.ok ())
        (workspace.lintSteps context.parser ⟨fix, suggest⟩ language files).1) ∨
    ∃ stop : Stop, stop.IsFailure ∧
      workspace.MeetsTrouble context.parser ⟨fix, suggest⟩ language files ∧
      Runs ((Request.lint files fix suggest language).run context) workspace (.error stop)
        (workspace.lintSteps context.parser ⟨fix, suggest⟩ language files).1 := by
  match hsteps : workspace.lintSteps context.parser ⟨fix, suggest⟩ language files with
  | (after, .ok problems) =>
    by_cases hzero : problems = 0
    · subst hzero
      exact Or.inl ⟨not_meetsTrouble_iff.mpr ⟨after, hsteps⟩, runs_runLint hsteps⟩
    · refine Or.inr ⟨.exit 1, rfl, ?_, runs_runLint_problems hsteps hzero⟩
      by_contra hnone
      obtain ⟨last, hlast⟩ := not_meetsTrouble_iff.mp hnone
      exact hzero (Except.ok.inj (Prod.mk.inj (hsteps.symm.trans hlast)).2)
  | (after, .error failure) =>
    obtain ⟨stop, hstop, hrun⟩ := exists_runs_runLint_error hsteps
    obtain ⟨before, file, rest, problems, reached, rfl, hbefore, hfile⟩ :=
      exists_failing_of_lintSteps_eq_error hsteps
    exact Or.inr ⟨stop, hstop, ⟨before, file, rest, problems, reached, rfl, hbefore,
      hasTrouble_of_lintStep_eq_error hfile⟩, hrun⟩

end Workspace

/-! ### All commands -/

theorem applySplit_eq_error_iff {workspace : Workspace} {parser : Parser} {file : String}
    {write : Bool} {language : Option String} :
    (∃ failure, (workspace.applySplit parser file write language).2 = .error failure) ↔
      (∃ failure, workspace.splitFile parser file language = .error failure) ∨
      ∃ split failure, workspace.splitFile parser file language = .ok split ∧ write = true ∧
        split.needsSplit = true ∧ (workspace.writeSplit split).2 = .error failure := by
  rcases workspace.applySplit_cases parser file write language with
    ⟨failure, hsplit, happly⟩ | ⟨split, hsplit, ⟨happly, hnot⟩ | ⟨happly, hwrite, _, -, hpaths⟩⟩
  · exact iff_of_true ⟨failure, by rw [happly]⟩ (Or.inl ⟨failure, hsplit⟩)
  · refine iff_of_false (by simp [happly]) ?_
    rintro (⟨failure, hfailed⟩ | ⟨split', failure, hsplit', hwrite, hneeds, -⟩)
    · simp [hsplit] at hfailed
    · obtain rfl := Except.ok.inj (hsplit.symm.trans hsplit')
      exact hnot ⟨hwrite, hneeds⟩
  · rw [happly]
    simp [hsplit, hwrite, hpaths.needed]

/-- **The exit status of a command.** The command that reports on a file, given that names have no
opening bracket and that the console accepts markup, and the command that splits a file
end with status one exactly when the operation fails, which for a split that is applied and needed
includes writing it, and with status zero otherwise. The command that lints files ends with status
one exactly when, going through them in order, one of them cannot be linted, cannot be written back
or keeps its problems. Without fixing it changes nothing. At a file whose step fails it stops in the
workspace that this step leaves, and the whole outcome is the same whatever files would follow. -/
theorem command_status (context : CommandContext) (workspace : Workspace) :
    (context.console.AcceptsMarkup → PlainNames context.parser → ∀ file language,
      (Outcome.ofCommand workspace
        ((Request.analyze file language).run context)).ending.TellsWhether
        (∃ failure, workspace.analyzeFile context.parser file language = .error failure)) ∧
    (∀ file apply dryRun language,
      (Outcome.ofCommand workspace
        ((Request.split file apply dryRun language).run context)).ending.TellsWhether
        ((∃ failure, workspace.splitFile context.parser file language = .error failure) ∨
          ∃ split failure, workspace.splitFile context.parser file language = .ok split ∧
            (apply = true ∧ dryRun = false) ∧ split.needsSplit = true ∧
            (workspace.writeSplit split).2 = .error failure)) ∧
    ∀ files fix suggest language,
      (Outcome.ofCommand workspace
        ((Request.lint files fix suggest language).run context)).ending.TellsWhether
        (workspace.MeetsTrouble context.parser ⟨fix, suggest⟩ language files) ∧
      (fix = false → (Outcome.ofCommand workspace
        ((Request.lint files fix suggest language).run context)).workspace = workspace) ∧
      ∀ before file rest problems reached after failure, files = before ++ file :: rest →
        workspace.lintSteps context.parser ⟨fix, suggest⟩ language before =
          (reached, .ok problems) →
        reached.lintStep context.parser ⟨fix, suggest⟩ language file = (after, .error failure) →
        (Outcome.ofCommand workspace
          ((Request.lint files fix suggest language).run context)).workspace = after ∧
        ∀ rest', Outcome.ofCommand workspace
            ((Request.lint (before ++ file :: rest') fix suggest language).run context) =
          .ofCommand workspace ((Request.lint files fix suggest language).run context) := by
  refine ⟨?_, ?_, ?_⟩
  · intro hconsole hnames file language
    obtain ⟨result, hmirrors, hruns⟩ :=
      exists_mirroring_runs_runAnalyze context hconsole hnames file language workspace
    exact hruns.tellsWhether hmirrors
  · intro file apply dryRun language
    obtain ⟨result, hmirrors, hruns⟩ :=
      exists_mirroring_runs_runSplit context file apply dryRun language workspace
    have htells := hruns.tellsWhether hmirrors
    simp only [applySplit_eq_error_iff, Bool.and_eq_true, Bool.not_eq_true'] at htells
    exact htells
  · intro files fix suggest language
    have hcases := Workspace.runs_runLint_cases context files fix suggest language workspace
    refine ⟨?_, ?_, ?_⟩
    · rcases hcases with ⟨hnone, hruns⟩ | ⟨stop, hstop, htrouble, hruns⟩
      · exact hruns.tellsWhether_of_ok hnone
      · exact hruns.tellsWhether_of_error hstop htrouble
    · rintro rfl
      have hself := @Workspace.lintSteps_fst_eq_self context.parser ⟨false, suggest⟩ language rfl
        workspace files
      rw [hself] at hcases
      rcases hcases with ⟨-, hruns⟩ | ⟨stop, -, -, hruns⟩
      · exact hruns.outcome.1
      · exact hruns.outcome.1
    · rintro before file rest problems reached after failure rfl hbefore hfile
      obtain ⟨stop, -, hruns⟩ := Workspace.exists_runs_runLint_error
        (Workspace.lintSteps_failing hbefore hfile rest)
      exact ⟨hruns.outcome.1, fun rest' ↦ Workspace.outcome_lint_failing hbefore hfile rest' rest⟩

/-- A parser that knows one source only, which names a browser global. -/
def windowParser : Parser := fun grammar bytes ↦
  if bytes = OneLine.source [.mention "window"] then
    OneLine.parser [.mention "window"] grammar bytes
  else none

theorem plainNames_windowParser : PlainNames windowParser := by
  intro grammar bytes program hprogram u hu _ text htext
  obtain ⟨raw, hraw, hfault, htree⟩ := CodeTree.ofSource_eq_ok_iff.mp hprogram
  unfold windowParser at hraw
  split_ifs at hraw with hbytes
  subst hbytes
  have hknown : CodeTree.ofSource (OneLine.parser [.mention "window"]) .tsx
      (OneLine.source [.mention "window"]) = .ok program :=
    CodeTree.ofSource_eq_ok_iff.mpr ⟨raw, hraw, hfault, htree⟩
  obtain ⟨known, hsame, hplain⟩ := exists_ok_of_toOption
    (x := CodeTree.ofSource (OneLine.parser [.mention "window"]) .tsx
      (OneLine.source [.mention "window"]))
    (f := fun program : CodeTree ↦ program.subtrees.all fun u ↦
      u.label.text.all fun text ↦ !text.toList.contains '[')
    (b := true) (by decide +kernel)
  obtain rfl := Except.ok.inj (hsame.symm.trans hknown)
  have hnode := List.all_eq_true.mp hplain u hu
  simpa [htext] using hnode

/-- Beside a source with a problem: reporting on it succeeds, splitting it fails where its client
half cannot be written, linting it finds the problem, fixing it fails on a full disk, and linting a
missing file first never comes to it. -/
theorem command_status_window :
    Terminal.console.AcceptsMarkup ∧ PlainNames windowParser ∧
    (Outcome.ofCommand clientPlaceTaken ((Request.analyze "a.tsx" none).run
      ⟨windowParser, "", 30, Terminal.console⟩)).ending.status = 0 ∧
    (Outcome.ofCommand clientPlaceTaken ((Request.split "a.tsx" true false none).run
      ⟨windowParser, "", 30, Terminal.console⟩)).ending.status = 1 ∧
    (Outcome.ofCommand clientPlaceTaken ((Request.lint ["a.tsx"] false false none).run
      ⟨windowParser, "", 30, Terminal.console⟩)).ending.status = 1 ∧
    (Outcome.ofCommand fullDisk ((Request.lint ["a.tsx"] true false none).run
      ⟨windowParser, "", 30, Terminal.console⟩)).ending.status = 1 ∧
    Outcome.ofCommand clientPlaceTaken ((Request.lint ["b.tsx", "a.tsx"] false false none).run
      ⟨windowParser, "", 30, Terminal.console⟩) =
    .ofCommand clientPlaceTaken ((Request.lint ["b.tsx"] false false none).run
      ⟨windowParser, "", 30, Terminal.console⟩) := by
  have htrouble {workspace : Workspace} {options : LintOptions} (h : (workspace.lintStep
      windowParser options none "a.tsx").2.toOption ≠ some 0) :
      workspace.MeetsTrouble windowParser options none ["a.tsx"] := by
    refine ⟨[], "a.tsx", [], 0, workspace, rfl, rfl, ?_⟩
    by_contra hnone
    obtain ⟨next, hstep⟩ := Workspace.not_hasTrouble_iff.mp hnone
    exact h (by rw [hstep]; rfl)
  obtain ⟨hanalyze, hsplit, hlint⟩ :=
    command_status ⟨windowParser, "", 30, Terminal.console⟩ clientPlaceTaken
  obtain ⟨-, -, hlintFull⟩ := command_status ⟨windowParser, "", 30, Terminal.console⟩ fullDisk
  refine ⟨Terminal.acceptsMarkup_console, plainNames_windowParser, ?_, ?_, ?_, ?_, ?_⟩
  · refine (hanalyze Terminal.acceptsMarkup_console plainNames_windowParser "a.tsx" none).2.mpr ?_
    obtain ⟨analysis, hanalysis, -⟩ := exists_ok_of_toOption
      (x := clientPlaceTaken.analyzeFile windowParser "a.tsx" none)
      (f := Analysis.browserGlobals) (b := ["window"]) (by decide +kernel)
    simp [hanalysis]
  · refine (hsplit "a.tsx" true false none).1.mpr ?_
    obtain ⟨split, hsplit, hfacts⟩ := exists_ok_of_toOption
      (x := clientPlaceTaken.splitFile windowParser "a.tsx" none)
      (f := fun split ↦ (split.needsSplit, (clientPlaceTaken.writeSplit split).2.toOption.isSome))
      (b := (true, false)) (by decide +kernel)
    obtain ⟨hneeds, hfailed⟩ := Prod.mk.inj hfacts
    cases hwrite : (clientPlaceTaken.writeSplit split).2 with
    | ok written => simp [hwrite, Except.toOption] at hfailed
    | error failure => exact Or.inr ⟨split, failure, hsplit, ⟨rfl, rfl⟩, hneeds, hwrite⟩
  · exact (hlint ["a.tsx"] false false none).1.1.mpr (htrouble (by decide +kernel))
  · exact (hlintFull ["a.tsx"] true false none).1.1.mpr (htrouble (by decide +kernel))
  · have hmissing : clientPlaceTaken.readSource "b.tsx" = .error (.fileNotFound "/b.tsx") := rfl
    have hstep : clientPlaceTaken.lintStep windowParser ⟨false, false⟩ none "b.tsx" =
        (clientPlaceTaken, .error (.fileNotFound "/b.tsx")) := by
      rw [Workspace.lintStep, hmissing]
    exact ((hlint ["b.tsx"] false false none).2.2 [] "b.tsx" [] 0 clientPlaceTaken _ _ rfl rfl
      hstep).2 ["a.tsx"]

end ClientBoundary
