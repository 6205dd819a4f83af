import ClientBoundary.Proofs.CommandRuns

/-!
# Linting step by step

What the command that lints files does to the workspace and how it ends can be said without the two
streams. Each file is one step, which leaves a workspace and fails or gives the number of problems
that remain. A step that fails ends the command, and it may have changed the workspace, if it failed
while a source was written back. The command ends well if all steps succeed and no problems remain.
What it prints is gathered along the steps: the log of each file and what is found in it, and at the
end the failure of the last one, if it fails.

## Main definitions

* `Workspace.lintStep`, `Workspace.lintSteps`: what linting one file and several files does.
* `Workspace.gather`, `Workspace.allLines`, `Workspace.allEntries`: what linting files prints and
  leaves in the log.

## Main results

* `Workspace.lintStep_cases`: the ways in which a step ends.
* `Workspace.prints_lintOne`, `Workspace.prints_lintAll`: linting files does what their steps say.
* `Workspace.lintSteps_failing`, `Workspace.exists_failing_of_lintSteps_eq_error`,
  `Workspace.run_lintAll_failing`: linting files ends at the first one that fails.
* `Workspace.outcome_lint`, `Workspace.exists_lintSteps_of_ending`: the same for the whole command.
-/

namespace ClientBoundary

namespace Workspace

/-- What linting one file does: the workspace it leaves and the number of problems that remain. -/
def lintStep (parser : Parser) (options : LintOptions) (language : Option String)
    (workspace : Workspace) (file : String) : Workspace × Except Failure Nat :=
  match workspace.readSource file with
  | .error failure => (workspace, .error failure)
  | .ok source =>
    match lintSource parser workspace.environment source.bytes source.path.toString options
        language with
    | .error failure => (workspace, .error failure)
    | .ok diagnostics =>
      if options.autoFix && !diagnostics.isEmpty then
        match workspace.saveSource source (fixSource source.bytes diagnostics) with
        | (workspace, .error failure) => (workspace, .error failure)
        | (workspace, .ok ()) => (workspace, .ok 0)
      else (workspace, .ok diagnostics.length)

/-- What linting files in order does. -/
def lintSteps (parser : Parser) (options : LintOptions) (language : Option String) :
    Workspace → List String → Workspace × Except Failure Nat
  | workspace, [] => (workspace, .ok 0)
  | workspace, file :: files =>
    match workspace.lintStep parser options language file with
    | (workspace, .error failure) => (workspace, .error failure)
    | (workspace, .ok here) =>
      let later := lintSteps parser options language workspace files
      (later.1, later.2.map (here + ·))

section Steps

variable {parser : Parser} {options : LintOptions} {language : Option String}
  {workspace after reached : Workspace} {file : String} {files : List String} {problems : Nat}
  {failure : Failure}

/-! ### Steps -/

theorem lintFile_eq_ok_iff {diagnostics : List Diagnostic} :
    workspace.lintFile parser file options language = .ok diagnostics ↔
      ∃ source, workspace.readSource file = .ok source ∧
        lintSource parser workspace.environment source.bytes source.path.toString options
          language = .ok diagnostics :=
  bind_eq_ok_iff

/-- A file cannot be linted; or it has diagnostics that are to be fixed, and its fixed source is
written back or not; or its diagnostics are counted. -/
theorem lintStep_cases (parser : Parser) (options : LintOptions) (language : Option String)
    (workspace : Workspace) (file : String) :
    (∃ failure, workspace.lintFile parser file options language = .error failure ∧
      workspace.lintStep parser options language file = (workspace, .error failure)) ∨
    (∃ source d ds after saved, options.autoFix = true ∧
      workspace.readSource file = .ok source ∧
      workspace.lintFile parser file options language = .ok (d :: ds) ∧
      workspace.saveSource source (fixSource source.bytes (d :: ds)) = (after, saved) ∧
      workspace.lintStep parser options language file = (after, saved.map fun () ↦ 0)) ∨
    ∃ diagnostics, (options.autoFix = true → diagnostics = []) ∧
      workspace.lintFile parser file options language = .ok diagnostics ∧
      workspace.lintStep parser options language file = (workspace, .ok diagnostics.length) := by
  unfold lintStep
  cases hsource : workspace.readSource file with
  | error failure =>
    exact Or.inl ⟨failure, by simp [lintFile, hsource, bind, Except.bind], rfl⟩
  | ok source =>
    cases hlint : lintSource parser workspace.environment source.bytes source.path.toString options
        language with
    | error failure =>
      exact Or.inl ⟨failure, by simp [lintFile, hsource, hlint, bind, Except.bind], by simp [hlint]⟩
    | ok diagnostics =>
      have hfile := lintFile_eq_ok_iff.mpr ⟨source, hsource, hlint⟩
      simp only [hlint]
      cases hfix : options.autoFix with
      | false => exact Or.inr (Or.inr ⟨diagnostics, by simp, hfile, by simp⟩)
      | true =>
        cases diagnostics with
        | nil => exact Or.inr (Or.inr ⟨[], by simp, hfile, by simp⟩)
        | cons d ds =>
          match hsave : workspace.saveSource source (fixSource source.bytes (d :: ds)) with
          | (after, .error failure) =>
            exact Or.inr (Or.inl ⟨source, d, ds, after, _, rfl, rfl, hfile, hsave, rfl⟩)
          | (after, .ok ()) =>
            exact Or.inr (Or.inl ⟨source, d, ds, after, _, rfl, rfl, hfile, hsave, rfl⟩)

theorem lintSteps_cons_eq_ok_iff :
    workspace.lintSteps parser options language (file :: files) = (after, .ok problems) ↔
      ∃ here next later, workspace.lintStep parser options language file = (next, .ok here) ∧
        next.lintSteps parser options language files = (after, .ok later) ∧
        problems = here + later := by
  rw [lintSteps]
  match workspace.lintStep parser options language file with
  | (next, .error failure) => simp
  | (next, .ok here) =>
    match hlater : next.lintSteps parser options language files with
    | (last, .error failure) => simp [Except.map, hlater]
    | (last, .ok later) => simp [Except.map, hlater, eq_comm]

/-- Linting files ends at the first one that fails, in the workspace that this one leaves. -/
theorem lintSteps_failing {before : List String}
    (hbefore : workspace.lintSteps parser options language before = (reached, .ok problems))
    (hfile : reached.lintStep parser options language file = (after, .error failure))
    (rest : List String) :
    workspace.lintSteps parser options language (before ++ file :: rest) =
      (after, .error failure) := by
  induction before generalizing workspace problems with
  | nil =>
    obtain ⟨rfl, -⟩ := Prod.mk.inj hbefore
    rw [List.nil_append, lintSteps, hfile]
  | cons first before ih =>
    obtain ⟨here, next, later, hhere, hlater, -⟩ := lintSteps_cons_eq_ok_iff.mp hbefore
    rw [List.cons_append, lintSteps, hhere]
    simp only [ih hlater, Except.map]

/-- If linting files fails, it does so at one of them, after the steps of those before it. -/
theorem exists_failing_of_lintSteps_eq_error
    (h : workspace.lintSteps parser options language files = (after, .error failure)) :
    ∃ before file rest problems reached, files = before ++ file :: rest ∧
      workspace.lintSteps parser options language before = (reached, .ok problems) ∧
      reached.lintStep parser options language file = (after, .error failure) := by
  induction files generalizing workspace with
  | nil => simp [lintSteps] at h
  | cons file files ih =>
    rw [lintSteps] at h
    match hhere : workspace.lintStep parser options language file with
    | (next, .error fault) =>
      rw [hhere] at h
      exact ⟨[], file, files, 0, workspace, rfl, rfl, hhere.trans h⟩
    | (next, .ok here) =>
      rw [hhere] at h
      match hlater : next.lintSteps parser options language files with
      | (last, .error fault) =>
        simp only [hlater, Except.map] at h
        obtain ⟨before, failing, rest, problems, reached, rfl, hbefore, hfailing⟩ :=
          ih (hlater.trans h)
        exact ⟨file :: before, failing, rest, here + problems, reached, rfl,
          lintSteps_cons_eq_ok_iff.mpr ⟨here, next, problems, hhere, hbefore, rfl⟩, hfailing⟩
      | (last, .ok later) => simp [hlater, Except.map] at h

end Steps

/-! ### What linting files prints -/

/-- The lines that linting a file prints, if it does not fail: that it was fixed, or what was found
in it. -/
def lintedLines (console : Console) (parser : Parser) (options : LintOptions)
    (language : Option String) (workspace : Workspace) (file : String) : List String :=
  match (workspace.lintStep parser options language file).2,
      workspace.lintFile parser file options language with
  | .ok _, .ok diagnostics =>
    if options.autoFix && !diagnostics.isEmpty then [fixedLine console file]
    else diagnostics.map (diagnosticLines console file)
  | _, _ => []

/-- What `visit` gives for the files that are linted in order, up to the first one that fails and
with it. -/
def gather (visit : Workspace → String → List α) (parser : Parser) (options : LintOptions)
    (language : Option String) : Workspace → List String → List α
  | _, [] => []
  | workspace, file :: files =>
    visit workspace file ++
      match workspace.lintStep parser options language file with
      | (_, .error _) => []
      | (next, .ok _) => gather visit parser options language next files

/-- The lines that linting files prints. -/
def allLines (console : Console) (parser : Parser) (options : LintOptions)
    (language : Option String) : Workspace → List String → List String :=
  gather (lintedLines console parser options language) parser options language

/-- The log entries of linting files. -/
def allEntries (parser : Parser) (options : LintOptions) (language : Option String) :
    Workspace → List String → List LogEntry :=
  gather (fun workspace file ↦ workspace.lintFileLog parser file language) parser options
    language

section Prints

variable {options : LintOptions} {language : Option String} {workspace : Workspace}
  {file : String} {files : List String} {problems : Nat} {failure : Failure}

theorem gather_cons_of_ok {visit : Workspace → String → List α} {parser : Parser}
    (h : workspace.lintStep parser options language file = (after, .ok problems)) :
    gather visit parser options language workspace (file :: files) =
      visit workspace file ++ gather visit parser options language after files := by
  rw [gather, h]

theorem gather_cons_of_error {visit : Workspace → String → List α} {parser : Parser}
    (h : workspace.lintStep parser options language file = (after, .error failure)) :
    gather visit parser options language workspace (file :: files) = visit workspace file := by
  rw [gather, h, List.append_nil]

theorem lintedLines_of_error {console : Console} {parser : Parser}
    (h : workspace.lintStep parser options language file = (after, .error failure)) :
    workspace.lintedLines console parser options language file = [] := by
  rw [lintedLines, h]

variable (options language workspace file) in
/-- Linting one file prints what is found in it, or tells of the failure of its step. -/
theorem prints_lintOne (context : CommandContext) :
    Prints (lintOne context options language file) workspace
      ((workspace.lintStep context.parser options language file).2.mapError
        (failureStop context.console))
      (workspace.lintStep context.parser options language file).1
      (String.join (workspace.lintedLines context.console context.parser options language file))
      (showLog context.time context.threshold
          (workspace.lintFileLog context.parser file language) ++
        toldText context.console (workspace.lintStep context.parser options language file).2) := by
  refine (prints_currentWorkspace workspace).silent_bind (.printLog_bind ?_)
  unfold lintedLines lintStep
  cases hsource : workspace.readSource file with
  | error failure => exact prints_orFail_error_bind context failure _ workspace
  | ok source =>
    have hfile : workspace.lintFile context.parser file options language =
        lintSource context.parser workspace.environment source.bytes source.path.toString options
          language := by
      rw [lintFile, hsource]
      rfl
    refine .orFail_bind ?_
    rw [hfile]
    dsimp only
    cases lintSource context.parser workspace.environment source.bytes source.path.toString options
        language with
    | error failure => exact prints_orFail_error_bind context failure _ workspace
    | ok diagnostics =>
      refine .orFail_bind ?_
      dsimp only
      by_cases hfix : (options.autoFix && !diagnostics.isEmpty) = true
      · simp only [if_pos hfix]
        rcases workspace.saveSource source (fixSource source.bytes diagnostics) with
          ⟨after, failure | saved⟩
        · exact (prints_setWorkspace workspace after).silent_bind
            (prints_orFail_error_bind context failure _ after)
        · refine (prints_setWorkspace workspace after).silent_bind (.orFail_bind ?_)
          dsimp only
          rw [if_pos hfix, String.join_cons, String.join_nil, String.append_empty]
          exact (prints_printOut _ after).bind_silent (prints_pure 0 after)
      · simp only [if_neg hfix]
        exact (prints_printOut _ workspace).bind_silent (prints_pure _ workspace)

/-- Linting files prints what is found in them, and tells of the failure of the last one that is
linted. -/
theorem prints_lintAll (context : CommandContext) (options : LintOptions)
    (language : Option String) (workspace : Workspace) (total : Nat) (files : List String) :
    Prints (lintAll context options language total files) workspace
      (((workspace.lintSteps context.parser options language files).2.map (total + ·)).mapError
        (failureStop context.console))
      (workspace.lintSteps context.parser options language files).1
      (String.join (workspace.allLines context.console context.parser options language files))
      (showLog context.time context.threshold
          (workspace.allEntries context.parser options language files) ++
        toldText context.console
          (workspace.lintSteps context.parser options language files).2) := by
  induction files generalizing workspace total with
  | nil => exact prints_pure total workspace
  | cons file files ih =>
    have hone := prints_lintOne options language workspace file context
    rw [lintSteps, allLines, allEntries]
    rcases hstep : workspace.lintStep context.parser options language file with
      ⟨next, failure | here⟩
    · rw [hstep] at hone
      rw [gather_cons_of_error hstep, gather_cons_of_error hstep]
      exact hone.bind_error
    · have hfirst : Prints (lintOne context options language file) workspace (.ok here) next
          (String.join (workspace.lintedLines context.console context.parser options language file))
          (showLog context.time context.threshold
            (workspace.lintFileLog context.parser file language)) := by
        simpa [hstep, toldText, Except.mapError] using hone
      have hrest := ih next (total + here)
      rw [gather_cons_of_ok hstep, gather_cons_of_ok hstep, String.join_append, showLog_append,
        String.append_assoc]
      dsimp only
      rcases hlater : next.lintSteps context.parser options language files with
        ⟨last, failure | later⟩
      · rw [hlater] at hrest
        exact hfirst.bind hrest
      · simp only [hlater, Except.map, Nat.add_assoc] at hrest ⊢
        exact hfirst.bind hrest

end Prints

/-! ### Linting files without what is printed -/

section Runs

variable {context : CommandContext} {options : LintOptions} {language : Option String}
  {workspace after reached : Workspace} {file : String} {files : List String} {problems : Nat}
  {failure : Failure}

/-- A file whose step succeeds is linted with the result of the step. -/
theorem runs_lintOne
    (h : workspace.lintStep context.parser options language file = (after, .ok problems)) :
    Runs (lintOne context options language file) workspace (.ok problems) after := by
  have hprints := prints_lintOne options language workspace file context
  rw [h] at hprints
  exact hprints.runs

/-- A file whose step fails ends the command. -/
theorem exists_runs_lintOne_error
    (h : workspace.lintStep context.parser options language file = (after, .error failure)) :
    ∃ stop : Stop, stop.IsFailure ∧
      Runs (lintOne context options language file) workspace (.error stop) after := by
  have hprints := prints_lintOne options language workspace file context
  rw [h] at hprints
  exact ⟨_, isFailure_failureStop _ failure, hprints.runs⟩

/-- Files whose steps succeed are linted with the problems that remain. -/
theorem runs_lintAll
    (h : workspace.lintSteps context.parser options language files = (after, .ok problems)) :
    Runs (lintAll context options language 0 files) workspace (.ok problems) after := by
  have hprints := prints_lintAll context options language workspace 0 files
  rw [h] at hprints
  simpa only [Except.map, Except.mapError, Nat.zero_add] using hprints.runs

/-- A file whose step fails ends the linting of all files. -/
theorem exists_runs_lintAll_error
    (h : workspace.lintSteps context.parser options language files = (after, .error failure)) :
    ∃ stop : Stop, stop.IsFailure ∧
      Runs (lintAll context options language 0 files) workspace (.error stop) after := by
  have hprints := prints_lintAll context options language workspace 0 files
  rw [h] at hprints
  exact ⟨_, isFailure_failureStop _ failure, hprints.runs⟩

variable (context) in
/-- Files behind the first one that fails do not matter to what linting prints and does. -/
theorem run_lintAll_failing {before : List String}
    (hbefore : workspace.lintSteps context.parser options language before = (reached, .ok problems))
    (hfile : reached.lintStep context.parser options language file = (after, .error failure))
    (total : Nat) (rest rest' : List String) (out err : String) :
    (lintAll context options language total (before ++ file :: rest)).run.run
        ⟨workspace, out, err⟩ =
      (lintAll context options language total (before ++ file :: rest')).run.run
        ⟨workspace, out, err⟩ := by
  induction before generalizing workspace problems total out err with
  | nil =>
    obtain ⟨rfl, -⟩ := Prod.mk.inj hbefore
    obtain ⟨stop, -, hrun⟩ := exists_runs_lintOne_error hfile
    exact hrun.run_bind_eq_of_error _ _ out err
  | cons first before ih =>
    obtain ⟨here, next, later, hhere, hlater, -⟩ := lintSteps_cons_eq_ok_iff.mp hbefore
    exact (runs_lintOne hhere).run_bind_eq (ih hlater (total + here)) out err

end Runs

/-! ### The whole command -/

section Command

variable {context : CommandContext} {files : List String} {fix suggest : Bool}
  {language : Option String} {workspace after : Workspace} {problems : Nat} {failure : Failure}

/-- The command ends well if all steps succeed and no problems remain. -/
theorem runs_runLint
    (h : workspace.lintSteps context.parser ⟨fix, suggest⟩ language files = (after, .ok 0)) :
    Runs ((Request.lint files fix suggest language).run context) workspace (.ok ()) after :=
  (runs_lintAll h).bind (runs_printOut _ after)

/-- The command ends with status one if problems remain. -/
theorem runs_runLint_problems
    (h : workspace.lintSteps context.parser ⟨fix, suggest⟩ language files = (after, .ok problems))
    (hproblems : problems ≠ 0) :
    Runs ((Request.lint files fix suggest language).run context) workspace (.error (.exit 1))
      after := by
  refine (runs_lintAll h).bind ?_
  rw [if_neg hproblems]
  exact (runs_printOut _ after).bind (runs_throw _ after)

/-- The command fails if a step does. -/
theorem exists_runs_runLint_error
    (h : workspace.lintSteps context.parser ⟨fix, suggest⟩ language files =
      (after, .error failure)) :
    ∃ stop : Stop, stop.IsFailure ∧
      Runs ((Request.lint files fix suggest language).run context) workspace (.error stop)
        after := by
  obtain ⟨stop, hstop, hall⟩ := exists_runs_lintAll_error h
  exact ⟨stop, hstop, hall.bind_error⟩

variable (context) in
/-- When all steps succeed, the command leaves the last workspace, and it ends well if no problems
remain. -/
theorem outcome_lint
    (h : workspace.lintSteps context.parser ⟨fix, suggest⟩ language files = (after, .ok problems)) :
    (Outcome.ofCommand workspace
        ((Request.lint files fix suggest language).run context)).workspace = after ∧
    ((Outcome.ofCommand workspace
        ((Request.lint files fix suggest language).run context)).ending = .exit 0 ↔
      problems = 0) := by
  by_cases hzero : problems = 0
  · subst hzero
    exact ⟨(runs_runLint h).outcome.1, iff_of_true (runs_runLint h).outcome.2 rfl⟩
  · have hrun := runs_runLint_problems h hzero
    refine ⟨hrun.outcome.1, iff_of_false ?_ hzero⟩
    rw [hrun.outcome.2]
    exact Stop.IsFailure.ending_ne rfl

/-- A command that lints files ends well only if all steps succeed. -/
theorem exists_lintSteps_of_ending
    (h : (Outcome.ofCommand workspace
        ((Request.lint files fix suggest language).run context)).ending = .exit 0) :
    ∃ after, workspace.lintSteps context.parser ⟨fix, suggest⟩ language files = (after, .ok 0) := by
  match hsteps : workspace.lintSteps context.parser ⟨fix, suggest⟩ language files with
  | (after, .ok problems) =>
    obtain rfl := (outcome_lint context hsteps).2.mp h
    exact ⟨after, rfl⟩
  | (after, .error failure) =>
    obtain ⟨stop, hstop, hrun⟩ := exists_runs_runLint_error hsteps
    rw [hrun.outcome.2] at h
    exact absurd h hstop.ending_ne

end Command

end Workspace

end ClientBoundary
