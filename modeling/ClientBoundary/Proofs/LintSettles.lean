import ClientBoundary.Proofs.DirectiveLines
import ClientBoundary.Proofs.Files
import ClientBoundary.Proofs.LintSteps

/-!
# Fixing files settles in one run

The command that fixes files reads each file in turn, inserts the directive if the file has
problems, and writes it back. A file may be listed several times and under several spellings, so a
later turn may find a file that an earlier one has fixed. What the turns keep up is that every
file had its turn without problems left, and that every other place is as before or holds what was
there with the directive inserted once. When the command ends well, linting the files again finds
no problem and fixing them again changes nothing.

## Main definitions

* `Workspace.IsClean`: a file that can be read and has no problems.
* `Workspace.IsFixed`: a source in which the directive was inserted once.
* `Fixing`: what the turns of the command keep up.

## Main results

* `Fixing.step`, `Fixing.run`: one turn and all turns.
* `lint_fix_settles`: what holds after the command.
-/

namespace ClientBoundary

namespace Workspace

/-! ### Clean files -/

/-- The file can be read and has no problems, whatever diagnostics would carry. -/
def IsClean (parser : Parser) (language : Option String) (workspace : Workspace) (file : String) :
    Prop :=
  ∃ source, workspace.readSource file = .ok source ∧ ∀ options,
    lintSource parser workspace.environment source.bytes source.path.toString options language =
      .ok []

/-- Linting clean files finds nothing and changes nothing. -/
theorem lintSteps_of_isClean {parser : Parser} {language : Option String} {workspace : Workspace}
    {files : List String} (h : ∀ file ∈ files, workspace.IsClean parser language file)
    (options : LintOptions) :
    workspace.lintSteps parser options language files = (workspace, .ok 0) := by
  induction files with
  | nil => rfl
  | cons file files ih =>
    obtain ⟨source, hsource, hlint⟩ := h file List.mem_cons_self
    have hstep : workspace.lintStep parser options language file = (workspace, .ok 0) := by
      simp [lintStep, hsource, hlint options]
    exact lintSteps_cons_eq_ok_iff.mpr
      ⟨0, workspace, 0, hstep, ih fun f hf ↦ h f (List.mem_cons_of_mem file hf), rfl⟩

/-- Spellings of one place give one source. -/
theorem eq_of_parts_eq {workspace : Workspace} {file file' : String} {source source' : SourceFile}
    (h : workspace.readSource file = .ok source) (h' : workspace.readSource file' = .ok source')
    (hparts : source.path.parts = source'.path.parts) : source = source' := by
  obtain ⟨-, hpath, -, hlookup, -⟩ := readSource_eq_ok_iff.mp h
  obtain ⟨-, hpath', -, hlookup', -⟩ := readSource_eq_ok_iff.mp h'
  obtain ⟨path, bytes⟩ := source
  obtain ⟨path', bytes'⟩ := source'
  have hsame : path = path' := by
    dsimp only at hpath hpath' hparts
    rw [hpath, hpath'] at hparts ⊢
    exact congrArg (Path.mk .single) hparts
  subst hsame
  have hbytes : bytes = bytes' := by simpa using hlookup.symm.trans hlookup'
  rw [hbytes]

/-- With the same directories, a file that could be read can be read again if there still is a text
in its place. -/
theorem readSource_of_lookup {before after : Workspace} {file : String} {source : SourceFile}
    {bytes : Bytes} (hdirectory : after.directory = before.directory)
    (hrefusals : after.refusals = before.refusals)
    (hsame : ∀ location, after.files.isDirectory location = before.files.isDirectory location)
    (h : before.readSource file = .ok source)
    (hlookup : after.files.lookup source.path.parts = some (.file bytes))
    (htext : ∃ text, Utf8.decode bytes = .ok text) :
    after.readSource file = .ok ⟨source.path, bytes⟩ := by
  obtain ⟨hnull, hpath, hlong, -, -, hread⟩ := readSource_eq_ok_iff.mp h
  refine readSource_eq_ok_iff.mpr ⟨hnull, ?_, ?_, hlookup, htext, ?_⟩
  · rw [hdirectory]
    exact hpath
  · rw [FileStore.isTooLong_congr hsame]
    exact hlong
  · rw [hrefusals]
    exact hread

section Save

variable {workspace after : Workspace} {file : String} {source : SourceFile} {bytes : Bytes}

/-- Writing a source back changes what is found in its place. -/
theorem lookup_saveSource (h : workspace.readSource file = .ok source)
    (hsave : workspace.saveSource source bytes = (after, .ok ())) :
    (∀ location, after.files.lookup location =
      if location = source.path.parts then some (.file bytes)
      else workspace.files.lookup location) ∧
    ∀ location, after.files.isDirectory location = workspace.files.isDirectory location := by
  obtain ⟨-, -, -, hlookup, -⟩ := readSource_eq_ok_iff.mp h
  have hfile : workspace.files.isDirectory source.path.parts = false := by
    simp [FileStore.isDirectory, hlookup]
  have hne : source.path.parts ≠ [] := by
    intro hnil
    simp [hnil, FileStore.lookup] at hlookup
  rw [saveSource_eq_ok hsave]
  exact ⟨fun location ↦ FileStore.lookup_insert _ hne location _,
    FileStore.isDirectory_insert_file hfile _⟩

/-- A source that was written back is read as it was written. -/
theorem readSource_saveSource_self (h : workspace.readSource file = .ok source)
    (hsave : workspace.saveSource source bytes = (after, .ok ()))
    (htext : ∃ text, Utf8.decode bytes = .ok text) :
    after.readSource file = .ok ⟨source.path, bytes⟩ := by
  obtain ⟨hsaved, hsame⟩ := lookup_saveSource h hsave
  have hafter := saveSource_eq_ok hsave
  exact readSource_of_lookup (by rw [hafter]) (by rw [hafter]) hsame h (by rw [hsaved, if_pos rfl])
    htext

/-- A source in another place is read as before. -/
theorem readSource_saveSource_of_ne {other : String} {source' : SourceFile}
    (h : workspace.readSource file = .ok source)
    (hsave : workspace.saveSource source bytes = (after, .ok ()))
    (h' : workspace.readSource other = .ok source')
    (hne : source'.path.parts ≠ source.path.parts) :
    after.readSource other = .ok source' := by
  obtain ⟨hsaved, hsame⟩ := lookup_saveSource h hsave
  obtain ⟨-, -, -, hlookup, htext, -⟩ := readSource_eq_ok_iff.mp h'
  have hafter := saveSource_eq_ok hsave
  exact readSource_of_lookup (by rw [hafter]) (by rw [hafter]) hsame h'
    (by rw [hsaved, if_neg hne, hlookup]) htext

end Save

/-- The directive was inserted once into a source, before its first statement. -/
def IsFixed (parser : Parser) (language : Option String) (before after : Workspace)
    (source : SourceFile) : Prop :=
  ∃ grammar program first,
    lintGrammar before.environment source.path.toString language = .ok grammar ∧
    CodeTree.ofSource parser grammar source.bytes = .ok program ∧
    program.statements.head? = some first ∧
    after.files.lookup source.path.parts =
      some (.file (withDirective source.bytes first.label.span.start))

end Workspace

/-! ### The turns of the command -/

/-- What the turns of the command keep up: the files that had their turn are clean, and each place
is as before or is that of such a file and holds its source with the directive inserted once. -/
structure Fixing (parser : Parser) (language : Option String) (before now : Workspace)
    (done : List String) : Prop where
  directory_eq : now.directory = before.directory
  environment_eq : now.environment = before.environment
  refusals_eq : now.refusals = before.refusals
  isDirectory_eq : ∀ location,
    now.files.isDirectory location = before.files.isDirectory location
  isClean : ∀ file ∈ done, now.IsClean parser language file
  lookup_eq_or : ∀ location, now.files.lookup location = before.files.lookup location ∨
    ∃ file ∈ done, ∃ source, before.readSource file = .ok source ∧
      source.path.parts = location ∧ before.IsFixed parser language now source

namespace Fixing

variable {parser : Parser} {language : Option String} {before now next : Workspace}
  {done files : List String} {file : String} {options : LintOptions} {problems : Nat}

theorem refl (parser : Parser) (language : Option String) (workspace : Workspace) :
    Fixing parser language workspace workspace [] where
  directory_eq := rfl
  environment_eq := rfl
  refusals_eq := rfl
  isDirectory_eq _ := rfl
  isClean := by simp
  lookup_eq_or _ := Or.inl rfl

/-- A file has one path throughout. -/
theorem path_eq (h : Fixing parser language before now done) {source source' : SourceFile}
    (hsource : before.readSource file = .ok source)
    (hsource' : now.readSource file = .ok source') : source.path = source'.path := by
  rw [(Workspace.readSource_eq_ok_iff.mp hsource).2.1,
    (Workspace.readSource_eq_ok_iff.mp hsource').2.1, h.directory_eq]

/-- A file without problems has its turn and nothing changes. -/
theorem keep (h : Fixing parser language before now done)
    (hclean : now.IsClean parser language file) :
    Fixing parser language before now (done ++ [file]) where
  directory_eq := h.directory_eq
  environment_eq := h.environment_eq
  refusals_eq := h.refusals_eq
  isDirectory_eq := h.isDirectory_eq
  isClean := by
    intro f hf
    rcases List.mem_append.mp hf with hf | hf
    · exact h.isClean f hf
    · obtain rfl := List.mem_singleton.mp hf
      exact hclean
  lookup_eq_or := by
    intro location
    rcases h.lookup_eq_or location with hsame | ⟨f, hf, hisFixed⟩
    · exact Or.inl hsame
    · exact Or.inr ⟨f, List.mem_append_left _ hf, hisFixed⟩

/-- A file with problems has its turn: none of the files before it has its place, so it is as
before, and with the directive it is clean. -/
theorem fix (hparser : AcceptsDirective parser) (hboundary : StartsAtCharacters parser)
    (h : Fixing parser language before now done) (hfix : options.autoFix = true)
    {source : SourceFile} {diagnostics : List Diagnostic}
    (hsource : now.readSource file = .ok source)
    (hlint : lintSource parser now.environment source.bytes source.path.toString options language =
      .ok diagnostics) (hne : diagnostics ≠ [])
    (hsave : now.saveSource source (fixSource source.bytes diagnostics) = (next, .ok ())) :
    Fixing parser language before next (done ++ [file]) := by
  obtain ⟨-, -, -, hlookup, htext, -⟩ := Workspace.readSource_eq_ok_iff.mp hsource
  obtain ⟨grammar, program, first, hgrammar, hprogram, hfirst, hfixed, hfixedText, hisFixed⟩ :=
    lintSource_fixed hparser hboundary htext hfix hlint hne
  rw [hfixed] at hsave
  have hnext := Workspace.saveSource_eq_ok hsave
  obtain ⟨hsaved, hdirectories⟩ := Workspace.lookup_saveSource hsource hsave
  -- A file that had its turn in the same place would be this very source without problems.
  have hother : ∀ f ∈ done, ∀ s, now.readSource f = .ok s → s.path.parts ≠ source.path.parts := by
    intro f hf s hs hparts
    obtain ⟨s', hs', hnil⟩ := h.isClean f hf
    obtain rfl := Except.ok.inj (hs'.symm.trans hs)
    obtain rfl := Workspace.eq_of_parts_eq hs hsource hparts
    exact hne (Except.ok.inj (hlint.symm.trans (hnil options)))
  have hbefore : before.files.lookup source.path.parts = some (.file source.bytes) := by
    rcases h.lookup_eq_or source.path.parts with hsame | ⟨f, hf, s, hs, hparts, -⟩
    · rw [← hsame, hlookup]
    · obtain ⟨s', hs', -⟩ := h.isClean f hf
      exact absurd (h.path_eq hs hs' ▸ hparts) (hother f hf s' hs')
  constructor
  case directory_eq =>
    rw [hnext]
    exact h.directory_eq
  case environment_eq =>
    rw [hnext]
    exact h.environment_eq
  case refusals_eq =>
    rw [hnext]
    exact h.refusals_eq
  case isDirectory_eq =>
    intro location
    rw [hdirectories, h.isDirectory_eq]
  case isClean =>
    intro f hf
    rcases List.mem_append.mp hf with hf | hf
    · obtain ⟨s, hs, hnil⟩ := h.isClean f hf
      refine ⟨s, Workspace.readSource_saveSource_of_ne hsource hsave hs (hother f hf s hs), ?_⟩
      rw [hnext]
      exact hnil
    · obtain rfl := List.mem_singleton.mp hf
      refine ⟨_, Workspace.readSource_saveSource_self hsource hsave hfixedText, ?_⟩
      rw [hnext]
      exact hisFixed
  case lookup_eq_or =>
    intro location
    by_cases hplace : location = source.path.parts
    · right
      refine ⟨file, by simp, source, ?_, hplace.symm, grammar, program, first, ?_, hprogram, hfirst,
        by rw [hsaved, if_pos rfl]⟩
      · exact Workspace.readSource_of_lookup h.directory_eq.symm h.refusals_eq.symm
          (fun l ↦ (h.isDirectory_eq l).symm) hsource hbefore htext
      · rw [← h.environment_eq]
        exact hgrammar
    · rcases h.lookup_eq_or location with hsame | ⟨f, hf, s, hs, hparts, hkept⟩
      · left
        rw [hsaved, if_neg hplace, hsame]
      · obtain ⟨grammar', program', first', hgrammar', hprogram', hfirst', hheld⟩ := hkept
        refine Or.inr ⟨f, List.mem_append_left _ hf, s, hs, hparts, grammar', program', first',
          hgrammar', hprogram', hfirst', ?_⟩
        rw [hsaved, if_neg (by rw [hparts]; exact hplace), hheld]

/-- One turn of the command. -/
theorem step (hparser : AcceptsDirective parser) (hboundary : StartsAtCharacters parser)
    (h : Fixing parser language before now done) (hfix : options.autoFix = true)
    (hstep : now.lintStep parser options language file = (next, .ok problems)) :
    Fixing parser language before next (done ++ [file]) := by
  rcases now.lintStep_cases parser options language file with
    ⟨failure, -, hfailed⟩ | ⟨source, d, ds, after, saved, -, hsource, hlint, hsave, hdone⟩ |
      ⟨diagnostics, hnil, hlint, hdone⟩
  · simp [hfailed] at hstep
  · obtain ⟨source', hsource', hlint⟩ := Workspace.lintFile_eq_ok_iff.mp hlint
    obtain rfl := Except.ok.inj (hsource.symm.trans hsource')
    cases saved with
    | error failure => simp [hdone, Except.map] at hstep
    | ok _ =>
      obtain ⟨rfl, -⟩ := Prod.mk.inj (hdone.symm.trans hstep)
      exact h.fix hparser hboundary hfix hsource hlint (List.cons_ne_nil d ds) hsave
  · obtain rfl := hnil hfix
    obtain ⟨rfl, -⟩ := Prod.mk.inj (hdone.symm.trans hstep)
    obtain ⟨source, hsource, hlint⟩ := Workspace.lintFile_eq_ok_iff.mp hlint
    exact h.keep ⟨source, hsource, lintSource_eq_nil_congr hlint⟩

/-- All turns of the command, by induction on the files that are left. -/
theorem run (hparser : AcceptsDirective parser) (hboundary : StartsAtCharacters parser)
    (h : Fixing parser language before now done) (hfix : options.autoFix = true)
    (hsteps : now.lintSteps parser options language files = (next, .ok problems)) :
    Fixing parser language before next (done ++ files) := by
  induction files generalizing now done problems with
  | nil =>
    obtain ⟨rfl, -⟩ := Prod.mk.inj hsteps
    rw [List.append_nil]
    exact h
  | cons file files ih =>
    obtain ⟨here, middle, later, hhere, hlater, -⟩ :=
      Workspace.lintSteps_cons_eq_ok_iff.mp hsteps
    rw [List.append_cons]
    exact ih (h.step hparser hboundary hfix hhere) hlater

/-- A file that had its turn holds what it held, or this with the directive inserted once. -/
theorem exists_source (h : Fixing parser language before now done) (hfile : file ∈ done) :
    ∃ source, before.readSource file = .ok source ∧
      (now.files.lookup source.path.parts = some (.file source.bytes) ∨
        before.IsFixed parser language now source) := by
  obtain ⟨source, hsource, -⟩ := h.isClean file hfile
  obtain ⟨-, -, -, hlookup, htext, -⟩ := Workspace.readSource_eq_ok_iff.mp hsource
  have hread {bytes : Bytes}
      (hbytes : before.files.lookup source.path.parts = some (.file bytes))
      (hdecodes : ∃ text, Utf8.decode bytes = .ok text) :
      before.readSource file = .ok ⟨source.path, bytes⟩ :=
    Workspace.readSource_of_lookup h.directory_eq.symm h.refusals_eq.symm
      (fun l ↦ (h.isDirectory_eq l).symm) hsource hbytes hdecodes
  rcases h.lookup_eq_or source.path.parts with hsame | ⟨f, hf, s, hs, hparts, hisFixed⟩
  · rw [hsame] at hlookup
    exact ⟨source, hread hlookup htext, Or.inl (hsame.trans hlookup)⟩
  · obtain ⟨-, -, -, hheld, hdecodes, -⟩ := Workspace.readSource_eq_ok_iff.mp hs
    rw [hparts] at hheld
    have hsource' := hread hheld hdecodes
    rw [← Workspace.eq_of_parts_eq hs hsource' hparts] at hsource'
    exact ⟨s, hsource', Or.inr hisFixed⟩

end Fixing

/-! ### The whole command -/

/-- **Fixing files settles in one run.** If a parser sees the inserted directive and lets no first
statement start inside a character, then after fixing files with success linting them finds no
problem and fixing them again changes nothing. Every listed file holds what it held, or this with
the directive inserted once before its first statement, and all other places are as before. -/
theorem lint_fix_settles {parser : Parser} {workspace : Workspace} {files : List String}
    {suggest : Bool} {language : Option String} {time : String} {threshold : Nat}
    {console : Console} {outcome : Outcome} (hparser : AcceptsDirective parser)
    (hboundary : StartsAtCharacters parser)
    (houtcome : outcome = .ofCommand workspace
      ((Request.lint files true suggest language).run ⟨parser, time, threshold, console⟩))
    (hexit : outcome.ending = .exit 0) :
    (∀ time threshold console suggest, (Outcome.ofCommand outcome.workspace
      ((Request.lint files false suggest language).run
        ⟨parser, time, threshold, console⟩)).ending = .exit 0) ∧
    (∀ time threshold console suggest, (Outcome.ofCommand outcome.workspace
      ((Request.lint files true suggest language).run
        ⟨parser, time, threshold, console⟩)).workspace = outcome.workspace) ∧
    (∀ file ∈ files, ∃ source, workspace.readSource file = .ok source ∧
      (outcome.workspace.files.lookup source.path.parts = some (.file source.bytes) ∨
        workspace.IsFixed parser language outcome.workspace source)) ∧
    ∀ location, (∀ file ∈ files, ∀ source, workspace.readSource file = .ok source →
        source.path.parts ≠ location) →
      outcome.workspace.files.lookup location = workspace.files.lookup location := by
  subst houtcome
  obtain ⟨after, hsteps⟩ := Workspace.exists_lintSteps_of_ending hexit
  rw [(Workspace.outcome_lint ⟨parser, time, threshold, console⟩ hsteps).1]
  have hfixing : Fixing parser language workspace after ([] ++ files) :=
    (Fixing.refl parser language workspace).run hparser hboundary rfl hsteps
  rw [List.nil_append] at hfixing
  have hclean (suggest fix : Bool) :
      after.lintSteps parser ⟨fix, suggest⟩ language files = (after, .ok 0) :=
    Workspace.lintSteps_of_isClean hfixing.isClean _
  refine ⟨?_, ?_, ?_, ?_⟩
  · intro time threshold console suggest
    exact (Workspace.outcome_lint ⟨parser, time, threshold, console⟩ (hclean suggest false)).2.mpr
      rfl
  · intro time threshold console suggest
    exact (Workspace.outcome_lint ⟨parser, time, threshold, console⟩ (hclean suggest true)).1
  · intro file hfile
    exact hfixing.exists_source hfile
  · intro location hunlisted
    rcases hfixing.lookup_eq_or location with hsame | ⟨file, hfile, source, hsource, hparts, -⟩
    · exact hsame
    · exact absurd hparts (hunlisted file hfile source hsource)

open DirectiveLines

/-- A workspace with one source. -/
def oneSource (bytes : Bytes) : Workspace where
  files := ⟨[(["a.tsx"], .file bytes)]⟩
  directory := ⟨.single, []⟩
  environment := {}

/-- A statement that names a browser global. -/
def windowStatement : Bytes := Utf8.encode "window;"

/-- A file that is listed under two spellings is fixed once. -/
theorem lint_fix_settles_plain :
    ∃ outcome : Outcome, AcceptsDirective (parser [] windowStatement) ∧
      StartsAtCharacters (parser [] windowStatement) ∧
      outcome = .ofCommand (oneSource windowStatement)
        ((Request.lint ["a.tsx", "./a.tsx"] true false none).run
          ⟨parser [] windowStatement, "", 0, Terminal.console⟩) ∧
      outcome.ending = .exit 0 ∧
      (∀ time threshold console suggest, (Outcome.ofCommand outcome.workspace
        ((Request.lint ["a.tsx", "./a.tsx"] false suggest none).run
          ⟨parser [] windowStatement, time, threshold, console⟩)).ending = .exit 0) ∧
      (∃ source, (oneSource windowStatement).readSource "./a.tsx" = .ok source ∧
        (outcome.workspace.files.lookup source.path.parts = some (.file source.bytes) ∨
          (oneSource windowStatement).IsFixed (parser [] windowStatement) none outcome.workspace
            source)) ∧
      outcome.workspace.files.lookup ["a.tsx"] =
        some (.file (withDirective windowStatement 0)) := by
  have hname : 7 ≤ windowStatement.length := by decide +kernel
  have hlast : Span.text ⟨windowStatement.length - 7, windowStatement.length - 1⟩
      windowStatement = .ok "window" := by decide +kernel
  have hparser : AcceptsDirective (parser [] windowStatement) := acceptsDirective hname hlast
  have hboundary : StartsAtCharacters (parser [] windowStatement) := startsAtCharacters hname hlast
  have hresult : ((oneSource windowStatement).lintSteps (parser [] windowStatement) ⟨true, false⟩
      none ["a.tsx", "./a.tsx"]).2 = .ok 0 := by decide +kernel
  have hheld : ((oneSource windowStatement).lintSteps (parser [] windowStatement) ⟨true, false⟩ none
      ["a.tsx", "./a.tsx"]).1.files.lookup ["a.tsx"] =
        some (.file (withDirective windowStatement 0)) := by decide +kernel
  have hsteps : (oneSource windowStatement).lintSteps (parser [] windowStatement) ⟨true, false⟩ none
      ["a.tsx", "./a.tsx"] = (_, .ok 0) := Prod.ext rfl hresult
  obtain ⟨hafter, hending⟩ :=
    Workspace.outcome_lint ⟨parser [] windowStatement, "", 0, Terminal.console⟩ hsteps
  have hexit := hending.mpr rfl
  obtain ⟨hagain, -, hfiles, -⟩ := lint_fix_settles hparser hboundary rfl hexit
  refine ⟨_, hparser, hboundary, rfl, hexit, hagain, hfiles "./a.tsx" (by simp), ?_⟩
  rw [hafter]
  exact hheld

/-- The first byte of a character of two bytes. -/
def leadingByte : Bytes := [0xc3]

/-- The second byte of the character and a statement that names a browser global. -/
def trailingBytes : Bytes := 0xa9 :: windowStatement

/-- Where a statement starts inside a character, seeing the inserted directive is not enough: the
fixed file is no text, and linting it fails. -/
theorem lint_fix_unsettled_accented :
    ∃ outcome : Outcome, AcceptsDirective (parser leadingByte trailingBytes) ∧
      outcome = .ofCommand (oneSource (Utf8.encode "éwindow;"))
        ((Request.lint ["a.tsx"] true false none).run
          ⟨parser leadingByte trailingBytes, "", 0, Terminal.console⟩) ∧
      outcome.ending = .exit 0 ∧
      (Outcome.ofCommand outcome.workspace ((Request.lint ["a.tsx"] false false none).run
        ⟨parser leadingByte trailingBytes, "", 0, Terminal.console⟩)).ending ≠ .exit 0 := by
  have hname : 7 ≤ trailingBytes.length := by decide +kernel
  have hlast : Span.text ⟨trailingBytes.length - 7, trailingBytes.length - 1⟩ trailingBytes =
      .ok "window" := by decide +kernel
  have hresult : ((oneSource (Utf8.encode "éwindow;")).lintSteps (parser leadingByte trailingBytes)
      ⟨true, false⟩ none ["a.tsx"]).2 = .ok 0 := by decide +kernel
  have hagain : (((oneSource (Utf8.encode "éwindow;")).lintSteps (parser leadingByte trailingBytes)
      ⟨true, false⟩ none ["a.tsx"]).1.lintSteps (parser leadingByte trailingBytes) ⟨false, false⟩
      none ["a.tsx"]).2.toOption = none := by decide +kernel
  have hsteps : (oneSource (Utf8.encode "éwindow;")).lintSteps (parser leadingByte trailingBytes)
      ⟨true, false⟩ none ["a.tsx"] = (_, .ok 0) := Prod.ext rfl hresult
  obtain ⟨hafter, hexit⟩ :=
    Workspace.outcome_lint ⟨parser leadingByte trailingBytes, "", 0, Terminal.console⟩ hsteps
  refine ⟨_, acceptsDirective hname hlast, rfl, hexit.mpr rfl, ?_⟩
  rw [hafter]
  intro hending
  obtain ⟨last, hfound⟩ := Workspace.exists_lintSteps_of_ending hending
  simp [hfound, Except.toOption] at hagain

end ClientBoundary
