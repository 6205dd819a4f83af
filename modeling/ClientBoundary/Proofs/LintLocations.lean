import ClientBoundary.Proofs.ComponentFiles
import ClientBoundary.Proofs.Files
import ClientBoundary.Proofs.LintSteps
import ClientBoundary.Proofs.OneLine
import ClientBoundary.Proofs.TerminalLaws

/-!
# Locations in the report of the linter

The line of a diagnostic starts with its location: the file as it was given, the line and the
column, with colons between them. The file is escaped, so that it is not read as tags, but the
location is still read otherwise. On a console that reads markup and escapes tags it is printed as
it is exactly when all its stretches are inert. In the location of a file whose name has no
characters of markup there is one code, the line, so that what matters is whether the number of the
line names an emoji.

## Main definitions

* `location`: the location of a diagnostic.
* `Workspace.reported`: the diagnostics that linting files without fixing reports.

## Main results

* `prefix_diagnosticLines_iff`: when the line of a diagnostic starts with its location.
* `isInert_location_iff`: when it does for a file without characters of markup.
* `Workspace.exists_out_runLint`: what linting files prints.
* `lint_location_iff`: when the locations of a whole report are printed as they are.
-/

namespace ClientBoundary

open Markup Text ClientBoundary.Path

/-! ### Locations -/

theorem isDigit_of_mem_toString {n : Nat} {c : Char} (h : c ∈ (toString n).toList) :
    c.isDigit = true := by
  rw [Nat.toString_eq_ofList_toDigits, String.toList_ofList] at h
  exact Nat.isDigit_of_mem_toDigits (by decide) (by decide) h

/-- The location of a diagnostic. -/
def location (file : String) (d : Diagnostic) : String :=
  s!"{file}:{d.line}:{d.column}"

/-- What follows the file in a location. -/
def place (d : Diagnostic) : List Char :=
  ':' :: (toString d.line).toList ++ ':' :: (toString d.column).toList

theorem toList_location (file : String) (d : Diagnostic) :
    (location file d).toList = file.toList ++ place d := by
  simp [location, place, toString]

/-- What follows the file consists of colons and digits. -/
theorem place_facts {d : Diagnostic} {c : Char} (h : c ∈ place d) :
    isControl c = false ∧ isBlank c = false ∧ c ≠ '[' ∧ c ≠ ']' := by
  have hdigit (hc : c.isDigit = true) :
      isControl c = false ∧ isBlank c = false ∧ c ≠ '[' ∧ c ≠ ']' := by
    obtain ⟨hcontrol, hmarkup, hblank, hclosing⟩ := digit_facts hc
    refine ⟨hcontrol, hblank, ?_, hclosing⟩
    rintro rfl
    exact absurd hmarkup (by decide)
  simp only [place, List.cons_append, List.mem_cons, List.mem_append] at h
  rcases h with rfl | hline | rfl | hcolumn
  · decide
  · exact hdigit (isDigit_of_mem_toString hline)
  · decide
  · exact hdigit (isDigit_of_mem_toString hcolumn)

/-- The markup of the line of a diagnostic. -/
theorem exists_diagnosticLines_eq (console : Console) (file : String) (d : Diagnostic) :
    ∃ rest more, diagnosticLines console file d =
      console.lay false (console.render (console.escape file.toList ++
        (place d ++ withTag [' ', ' '] 0 ['r', 'e', 'd'] rest))) ++ more := by
  unfold diagnosticLines Console.line
  refine ⟨"error[/red]  ".toList ++ (console.escape d.message.toList ++
    ("  [dim]".toList ++ (lintRule.toList ++ "[/dim]".toList))), _, congrArg (· ++ _) ?_⟩
  refine congrArg (fun cs ↦ console.lay false (console.render cs)) ?_
  simp [Console.escaped, place, withTag, bracketed, toString]

section Location

variable {console : Console} {file : String} {d : Diagnostic}

/-- The lines of a diagnostic, whatever follows them, start with its location exactly when the
stretches of the location are inert. -/
theorem prefix_diagnosticLines_iff (hreads : console.ReadsMarkup) (hescapes : console.EscapesTags)
    (hlines : console.KeepsLines) (hlast : file.toList.getLast? ≠ some '\\')
    (hplain : ControlFree file.toList) (later : List Char) :
    (location file d).toList <+: (diagnosticLines console file d).toList ++ later ↔
      ∀ text ∈ stretches (location file d).toList, IsInert console.emoji? text := by
  have hplace : ControlFree (place d) := fun c hc ↦ (place_facts hc).1
  have hfree : ControlFree (file.toList ++ place d) :=
    controlFree_append_iff.mpr ⟨hplain, hplace⟩
  obtain ⟨rest, more, hlay⟩ := exists_diagnosticLines_eq console file d
  obtain ⟨hkept, hlost⟩ := hescapes.prefix_or_departs hreads hplain hlast hplace
    (fun h ↦ (place_facts h).2.2.2 rfl)
    (forall_eq_false_of_all (by decide) : ControlFree ['r', 'e', 'd']) isFirstTag_red.isTagBody rest
  rw [toList_location, hlay, String.toList_append, List.append_assoc]
  constructor
  · intro hstarts
    by_contra hnot
    obtain ⟨before, c, e, tail, tail', hlocation, hrendered, hstands⟩ := hlost hnot
    have hvisible : isControl e = false ∧ isBlank e = false := by
      rcases hstands with ⟨-, rfl⟩ | ⟨-, hpictorial⟩
      · decide
      · exact pictorial_facts hpictorial
    rw [hlocation] at hfree hstarts
    -- What departs is printed as well, so the location would go on in two ways.
    have hprinted : before ++ [e] <+: (console.lay false (before ++ [e] ++ tail')).toList := by
      refine hlines.start tail' ?_ fun x hx ↦ ?_
      · exact controlFree_append_iff.mpr ⟨(controlFree_append_iff.mp hfree).1,
          List.forall_mem_singleton.mpr hvisible.1⟩
      · rw [List.getLast?_concat, Option.some.injEq] at hx
        rw [← hx]
        exact hvisible.2
    rw [hrendered, List.append_cons before e tail'] at hstarts
    have hdeparted := hprinted.trans (List.prefix_append _ (more.toList ++ later))
    have hlocated : before ++ [c] <+: before ++ c :: tail := ⟨tail, by simp⟩
    have heq := List.prefix_of_prefix_length_le (hlocated.trans hstarts) hdeparted (by simp)
    have hsame := heq.eq_of_length (by simp)
    rw [List.append_cancel_left_eq, List.cons.injEq] at hsame
    exact hstands.ne hsame.1
  · intro hinert
    obtain ⟨tail, htail⟩ := hkept hinert
    rw [← htail]
    refine (hlines.start tail hfree fun c hc ↦ ?_).trans (List.prefix_append _ _)
    rw [List.getLast?_append_of_ne_nil _ (by simp [place])] at hc
    exact (place_facts (List.mem_of_getLast? hc)).2.1

/-- For a file without characters of markup the line must name no emoji. -/
theorem isInert_location_iff {emoji? : List Char → Option Emoji}
    (hfile : ∀ c ∈ file.toList, isMarkupChar c = false) :
    (∀ text ∈ stretches (location file d).toList, IsInert emoji? text) ↔
      emoji? (toString d.line).toList = none := by
  have hnotMem {c : Char} (hc : isMarkupChar c = true) : c ∉ file.toList := by
    intro hmem
    rw [hfile c hmem] at hc
    cases hc
  have hbracket : '[' ∉ (location file d).toList := by
    rw [toList_location, List.mem_append]
    rintro (h | h)
    · exact hnotMem rfl h
    · exact (place_facts h).2.2.1 rfl
  have hcodes : codes (location file d).toList = [(toString d.line).toList] := by
    rw [toList_location, codes_append_of_notMem (hnotMem rfl), place]
    apply codes_eq_singleton
    · intro c hc
      obtain ⟨-, hmarkup, hblank, -⟩ := digit_facts (isDigit_of_mem_toString hc)
      simp only [isMarkupChar, Bool.or_eq_false_iff, beq_eq_false_iff_ne] at hmarkup
      exact ⟨hmarkup.1.1, hblank⟩
    · intro hcolumn
      exact absurd (isDigit_of_mem_toString hcolumn) (by decide)
  rw [stretches_of_not_hasTag (not_hasTag_of_notMem hbracket), List.forall_mem_singleton]
  constructor
  · intro hinert
    exact hinert.noEmoji _ (by rw [hcodes]; exact List.mem_singleton_self _)
  · intro hnone
    refine ⟨fun hescape ↦ hbracket (hescape.subset (by decide)), ?_⟩
    rw [hcodes]
    exact List.forall_mem_singleton.mpr hnone

end Location

/-! ### Files that are reported -/

namespace Path

/-- A path that is written with a backslash at its end has one there when it is resolved. -/
theorem getLast?_toString_resolve {text : String} (h : text.toList.getLast? = some '\\')
    (directory : Path) :
    (resolve directory (ofString text)).toString.toList.getLast? = some '\\' := by
  obtain ⟨front, hfront⟩ := List.getLast?_eq_some_iff.mp h
  obtain ⟨parts, piece, hparts⟩ :=
    @exists_partsOf_append ['\\'] (by decide) (by decide) (by decide) front
  have hlast : (piece ++ ['\\']).getLast? = some '\\' := List.getLast?_concat ..
  -- The last part is kept when double dots are taken out, since it is none of them.
  have hdots : String.ofList (piece ++ ['\\']) ≠ ".." := by
    intro heq
    rw [← String.toList_inj, String.toList_ofList] at heq
    rw [heq] at hlast
    exact absurd hlast (by decide)
  have hne : String.ofList (piece ++ ['\\']) ≠ "" := by simp [← String.toList_inj]
  rw [← hfront, ← parts_ofString] at hparts
  rw [resolve, hparts, descend, List.foldl_append, List.foldl_cons, List.foldl_nil, if_neg hdots]
  obtain ⟨before, -, htext⟩ := exists_toString_eq .single (descend
    (if (ofString text).root = .relative then directory.parts else []) parts) hne
  rw [descend] at htext
  rw [htext, String.toList_ofList, ← List.append_assoc, List.getLast?_concat]

end Path

theorem getLast?_ne_of_isComponentFile {filename : String} (h : isComponentFile filename = true) :
    filename.toList.getLast? ≠ some '\\' := by
  have hextensions : ∀ extension ∈ componentExtensions,
      ('.' :: extension).getLast? ≠ some '\\' := by decide
  obtain ⟨extension, hextension, front, hends | hends⟩ := isComponentFile_iff.mp h
  · rw [hends, List.getLast?_append_cons]
    exact hextensions extension hextension
  · rw [hends, ← List.cons_append, ← List.append_assoc, List.getLast?_concat]
    decide

namespace Workspace

variable {parser : Parser} {suggest : Bool} {language : Option String} {workspace : Workspace}

/-- A file in which something is found does not end in a backslash. -/
theorem getLast?_ne_of_mem_lintFile {file : String} {options : LintOptions}
    {diagnostics : List Diagnostic} {d : Diagnostic}
    (h : workspace.lintFile parser file options language = .ok diagnostics) (hd : d ∈ diagnostics) :
    file.toList.getLast? ≠ some '\\' := by
  obtain ⟨source, hsource, hlint⟩ := lintFile_eq_ok_iff.mp h
  have hcomponent : isComponentFile source.path.toString = true := by
    by_contra hnot
    rw [lintSource, if_neg hnot] at hlint
    obtain rfl := Except.ok.inj hlint
    cases hd
  obtain ⟨-, hpath, -⟩ := readSource_eq_ok_iff.mp hsource
  rw [hpath] at hcomponent
  exact fun hlast ↦ getLast?_ne_of_isComponentFile hcomponent
    (getLast?_toString_resolve hlast workspace.directory)

/-- The diagnostics that linting files without fixing reports, each with its file, up to the first
file that fails. -/
def reported (parser : Parser) (suggest : Bool) (language : Option String)
    (workspace : Workspace) : List String → List (String × Diagnostic)
  | [] => []
  | file :: files =>
    match workspace.lintFile parser file ⟨false, suggest⟩ language with
    | .error _ => []
    | .ok diagnostics =>
      diagnostics.map (file, ·) ++ workspace.reported parser suggest language files

theorem exists_lintFile_of_mem_reported {files : List String} {file : String} {d : Diagnostic}
    (h : (file, d) ∈ workspace.reported parser suggest language files) :
    ∃ diagnostics, workspace.lintFile parser file ⟨false, suggest⟩ language = .ok diagnostics ∧
      d ∈ diagnostics := by
  induction files with
  | nil => cases h
  | cons first files ih =>
    cases hfirst : workspace.lintFile parser first ⟨false, suggest⟩ language with
    | error failure =>
      rw [reported, hfirst] at h
      cases h
    | ok diagnostics =>
      rw [reported, hfirst] at h
      rcases List.mem_append.mp h with h | h
      · obtain ⟨d, hd, heq⟩ := List.mem_map.mp h
        obtain ⟨rfl, rfl⟩ := Prod.mk.inj heq
        exact ⟨diagnostics, hfirst, hd⟩
      · exact ih h

/-- Without fixing, linting files prints the lines of the diagnostics that are reported. -/
theorem allLines_eq_reported (console : Console) (files : List String) :
    workspace.allLines console parser ⟨false, suggest⟩ language files =
      (workspace.reported parser suggest language files).map fun (file, d) ↦
        diagnosticLines console file d := by
  induction files with
  | nil => rfl
  | cons file files ih =>
    rcases workspace.lintStep_cases parser ⟨false, suggest⟩ language file with
      ⟨failure, hfile, hstep⟩ | ⟨_, _, _, _, _, hfix, -⟩ | ⟨diagnostics, -, hfile, hstep⟩
    · rw [allLines, gather_cons_of_error hstep, lintedLines_of_error hstep, reported, hfile]
      rfl
    · cases hfix
    · rw [allLines, gather_cons_of_ok hstep, ← allLines, ih, reported, lintedLines, hstep, hfile]
      simp

variable (suggest language workspace) in
/-- Without fixing, linting files prints what is reported and then at most a summary. -/
theorem exists_out_runLint (context : CommandContext) (files : List String) :
    ∃ summary, (Outcome.ofCommand workspace
        ((Request.lint files false suggest language).run context)).out =
      String.join ((workspace.reported context.parser suggest language files).map fun (file, d) ↦
        diagnosticLines context.console file d) ++ summary := by
  rw [← allLines_eq_reported]
  have hall := workspace.prints_lintAll context ⟨false, suggest⟩ language 0 files
  match hsteps : workspace.lintSteps context.parser ⟨false, suggest⟩ language files with
  | (after, .error failure) =>
    rw [hsteps] at hall
    have hrun : Prints ((Request.lint files false suggest language).run context) workspace
      _ _ _ _ := hall.bind_error
    exact ⟨"", by rw [hrun.outcome.1, String.append_empty]⟩
  | (after, .ok problems) =>
    rw [hsteps] at hall
    have hrun : ∃ result summary err, Prints
        ((Request.lint files false suggest language).run context) workspace result after
        (String.join (workspace.allLines context.console context.parser ⟨false, suggest⟩ language
          files) ++ summary) err := by
      refine hall.exists_bind ?_
      by_cases hzero : 0 + problems = 0
      · rw [if_pos hzero]
        exact ⟨_, _, _, prints_printOut _ after⟩
      · rw [if_neg hzero]
        exact ⟨_, _, _, (prints_printOut _ after).bind_silent (prints_throw (.exit 1) after)⟩
    obtain ⟨_, summary, _, hrun⟩ := hrun
    exact ⟨summary, hrun.outcome.1⟩

end Workspace

/-- **Locations in a report.** Without fixing, the command that lints files prints the lines of the
diagnostics one after the other. On a console that reads markup, escapes tags and keeps lines, those
of a file without control characters start with its location exactly when the stretches of the
location are inert, which for a file without characters of markup means that the number of the line
names no emoji. -/
theorem lint_location_iff (context : CommandContext) (hreads : context.console.ReadsMarkup)
    (hescapes : context.console.EscapesTags) (hlines : context.console.KeepsLines)
    (workspace : Workspace) (files : List String) (suggest : Bool) (language : Option String) :
    (∃ summary, (Outcome.ofCommand workspace
        ((Request.lint files false suggest language).run context)).out =
      String.join ((workspace.reported context.parser suggest language files).map fun (file, d) ↦
        diagnosticLines context.console file d) ++ summary) ∧
    ∀ file d, (file, d) ∈ workspace.reported context.parser suggest language files →
      ControlFree file.toList →
      ((location file d).toList <+: (diagnosticLines context.console file d).toList ↔
        ∀ text ∈ stretches (location file d).toList, IsInert context.console.emoji? text) ∧
      ((∀ c ∈ file.toList, isMarkupChar c = false) →
        ((location file d).toList <+: (diagnosticLines context.console file d).toList ↔
          context.console.emoji? (toString d.line).toList = none)) := by
  refine ⟨workspace.exists_out_runLint suggest language context files, ?_⟩
  intro file d hreported hplain
  obtain ⟨diagnostics, hfile, hd⟩ := Workspace.exists_lintFile_of_mem_reported hreported
  have hslash := Workspace.getLast?_ne_of_mem_lintFile hfile hd
  have hstarts := prefix_diagnosticLines_iff (d := d) hreads hescapes hlines hslash hplain []
  rw [List.append_nil] at hstarts
  exact ⟨hstarts, fun hmarkup ↦ hstarts.trans (isInert_location_iff hmarkup)⟩

/-- A workspace whose source names a browser global below some empty lines. -/
def sourceBelow (rows : Nat) : Workspace where
  files := ⟨[(["a.tsx"], .file (List.replicate rows 10 ++ OneLine.source [.mention "window"]))]⟩
  directory := ⟨.single, []⟩
  environment := {}
  draws := []

/-- A parser that answers with the parse tree of that source. -/
def parserBelow (rows : Nat) : Parser := fun _ _ ↦
  let node (rule : String) (named : Bool) (start stop : Nat) : List ParseTree → ParseTree :=
    .node ⟨rule, none, named, false, false, false, ⟨rows + start, rows + stop⟩, ⟨rows, start⟩,
      ⟨rows, stop⟩⟩
  some (node "program" true 0 7
    [node "expression_statement" true 0 7 [node "identifier" true 0 6 [], node ";" false 6 7 []]])

/-- Linting that source on a terminal. -/
def lintBelow (rows : Nat) : Outcome :=
  .ofCommand (sourceBelow rows) ((Request.lint ["a.tsx"] false false none).run
    ⟨parserBelow rows, "", 30, Terminal.console⟩)

/-- What is found in such a source. -/
theorem lintFile_sourceBelow : ∀ rows ∈ [99, 100],
    ((sourceBelow rows).lintFile (parserBelow rows) "a.tsx" ⟨false, false⟩ none).toOption.map
      (List.map fun d ↦ (d.line, d.column)) = some [(rows + 1, 1)] := by
  decide +kernel

/-- What is reported of such a source. -/
theorem exists_reported_sourceBelow {rows : Nat} (hrows : rows ∈ [99, 100]) :
    ∃ d : Diagnostic, d.line = rows + 1 ∧ d.column = 1 ∧
      (sourceBelow rows).reported (parserBelow rows) false none ["a.tsx"] = [("a.tsx", d)] := by
  obtain ⟨diagnostics, hfound, hplaces⟩ := exists_ok_of_toOption (lintFile_sourceBelow rows hrows)
  obtain ⟨d, rfl, hplace⟩ := List.map_eq_singleton_iff.mp hplaces
  obtain ⟨hline, hcolumn⟩ := Prod.mk.inj hplace
  refine ⟨d, hline, hcolumn, ?_⟩
  rw [Workspace.reported, hfound]
  rfl

/-- On line 101 the location is printed as it is. -/
theorem lint_location_line101 : "a.tsx:101:1".toList <+: (lintBelow 100).out.toList := by
  obtain ⟨⟨summary, hout⟩, hlocations⟩ := lint_location_iff
    ⟨parserBelow 100, "", 30, Terminal.console⟩ Terminal.readsMarkup_console
    Terminal.escapesTags_console Terminal.keepsLines_console (sourceBelow 100) ["a.tsx"] false none
  obtain ⟨d, hline, hcolumn, hreported⟩ := @exists_reported_sourceBelow 100 (by decide)
  have hmem : ("a.tsx", d) ∈ (sourceBelow 100).reported (parserBelow 100) false none ["a.tsx"] := by
    rw [hreported]
    exact List.mem_singleton_self _
  have hnone : Terminal.console.emoji? (toString d.line).toList = none := by
    rw [hline]
    exact Option.isNone_iff_eq_none.mp (by decide)
  have hstarts := ((hlocations "a.tsx" d hmem (forall_eq_false_of_all (by decide))).2
    (forall_eq_false_of_all (by decide))).mpr hnone
  have hlocation : location "a.tsx" d = "a.tsx:101:1" := by
    rw [location, hline, hcolumn]
    rfl
  rw [hlocation] at hstarts
  rw [lintBelow, hout, hreported, List.map_singleton, String.join_cons, String.join_nil,
    String.append_empty, String.toList_append]
  exact hstarts.trans (List.prefix_append _ _)

/-- On line 100 it is not, since the number names an emoji. -/
theorem lint_location_line100 :
    ∃ d : Diagnostic, d.line = 100 ∧ d.column = 1 ∧
      (sourceBelow 99).reported (parserBelow 99) false none ["a.tsx"] = [("a.tsx", d)] ∧
      ¬ "a.tsx:100:1".toList <+: (lintBelow 99).out.toList := by
  obtain ⟨d, hline, hcolumn, hreported⟩ := @exists_reported_sourceBelow 99 (by decide)
  refine ⟨d, hline, hcolumn, hreported, ?_⟩
  obtain ⟨summary, hout⟩ := (sourceBelow 99).exists_out_runLint false none
    ⟨parserBelow 99, "", 30, Terminal.console⟩ ["a.tsx"]
  have hlocation : location "a.tsx" d = "a.tsx:100:1" := by
    rw [location, hline, hcolumn]
    rfl
  have hsome : (Terminal.console.emoji? (toString d.line).toList).isSome = true := by
    rw [hline]
    decide
  rw [lintBelow, hout, hreported, List.map_singleton, String.join_cons, String.join_nil,
    String.append_empty, String.toList_append, ← hlocation,
    prefix_diagnosticLines_iff Terminal.readsMarkup_console Terminal.escapesTags_console
      Terminal.keepsLines_console (by decide) (forall_eq_false_of_all (by decide)) summary.toList,
    isInert_location_iff (forall_eq_false_of_all (by decide))]
  intro hnone
  rw [hnone] at hsome
  cases hsome

end ClientBoundary
