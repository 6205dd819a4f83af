import ClientBoundary.Proofs.ExitStatus
import ClientBoundary.Proofs.TerminalLaws

/-!
# Messages of failures on the error stream

A command that fails tells of it in one line, and the message of the failure is markup there: its
bracketed words are read as tags, backslashes before brackets are dropped and codes of emoji are
replaced. So on a console that reads markup a message survives exactly when it has nothing of the
kind, and if it ends in a blank when the console cuts none. A message that names a route such as
`[id].tsx` loses the name.

## Main definitions

* `Console.KeepsMessage`: a message that survives.
* `Request.FailsWith`, `Request.entries`: the failures of a request and its log up to them.

## Main results

* `errorLine_eq_ok_iff`: when the line that tells of a failure has its message.
* `exists_prints_of_failsWith`: what a command that fails prints.
* `command_errorMessage_iff`: when a command tells of a failure with its message.
-/

namespace ClientBoundary

open Markup Text

/-- A message survives in the line that tells of a failure: it has no tags and is inert, and if the
line ends in a blank the console keeps it. -/
structure Console.KeepsMessage (console : Console) (message : String) : Prop where
  noTag : ¬ HasTag message.toList
  isInert : IsInert console.emoji? message.toList
  keepsBlanks : ∀ c, ("Error: " ++ message).toList.getLast? = some c → isBlank c = true →
    console.lay false ("Error: " ++ message).toList = "Error: " ++ message ++ "\n"

section ErrorLine

variable {console : Console} {message : String}

/-! ### The line of a failure -/

/-- The markup of the line: a red heading and the message behind a blank. -/
theorem toList_errorMarkup (message : String) :
    s!"[red]Error:[/red] {message}".toList =
      withTag [] 0 ['r', 'e', 'd'] (withTag "Error:".toList 0 ['/', 'r', 'e', 'd']
        (' ' :: message.toList)) := by
  simp [withTag, bracketed, toString]

theorem isFirstTag_heading : IsFirstTag "Error:".toList ['/', 'r', 'e', 'd'] :=
  ⟨by decide, by decide, '/', ['r', 'e', 'd'], rfl, by decide, by decide, by decide⟩

theorem isInert_heading (emoji? : List Char → Option Emoji) : IsInert emoji? "Error:".toList := by
  have hcodes : codes "Error:".toList = [] := by
    rw [show "Error:".toList = "Error".toList ++ [':'] from rfl,
      codes_append_of_notMem (by decide), codes_colon (by simp)]
  refine ⟨by decide, ?_⟩
  rw [hcodes]
  exact List.forall_mem_nil _

/-- The line prints its heading and what the message prints behind a blank. -/
theorem Console.ReadsMarkup.render_errorMarkup (h : console.ReadsMarkup) (message : String) :
    console.render s!"[red]Error:[/red] {message}".toList =
      "Error:".toList ++ console.render (' ' :: message.toList) := by
  have hnil : console.render [] = [] := by
    rw [h.text (List.forall_mem_nil _) not_hasTag_nil, shown_eq_self ⟨by simp, by simp [codes]⟩]
  have hheading : ControlFree "Error:".toList := forall_eq_false_of_all (by decide)
  rw [toList_errorMarkup, h.tag 0 _ (List.forall_mem_nil _) (forall_eq_false_of_all (by decide))
      isFirstTag_red, h.tag 0 _ hheading (forall_eq_false_of_all (by decide)) isFirstTag_heading,
    h.text hheading isFirstTag_heading.noTag, shown_eq_self (isInert_heading _), hnil]
  simp

/-- Behind a blank a text has the same tags. -/
theorem hasTag_cons_blank {cs : List Char} : HasTag (' ' :: cs) ↔ HasTag cs :=
  ⟨fun h ↦ h.of_cons (by simp [tag?]), fun h ↦ h.cons ' '⟩

/-- Behind a blank a text is printed as it is, whatever blanks follow, only if it has no tags and is
inert. -/
theorem Console.ReadsMarkup.of_render_eq (h : console.ReadsMarkup) {cs blanks : List Char}
    (hplain : ControlFree cs) (hblanks : ∀ c ∈ blanks, isBlank c = true)
    (hprinted : console.render (' ' :: cs) = ' ' :: cs ++ blanks) :
    ¬ HasTag cs ∧ IsInert console.emoji? cs := by
  have hplain' : ControlFree (' ' :: cs) := List.forall_mem_cons.mpr ⟨rfl, hplain⟩
  have hzero : blanks.countP isMarkupChar = 0 :=
    countP_isMarkupChar_eq_zero (forall_eq_false_of_all (by decide)) hblanks
  -- No step adds characters of markup, so none may lose one.
  have hcount : (console.render (' ' :: cs)).countP isMarkupChar =
      (' ' :: cs).countP isMarkupChar := by
    rw [hprinted, List.countP_append, hzero, Nat.add_zero]
  have hkept : ¬ (HasTag (' ' :: cs) ∨ ¬ IsInert console.emoji? (' ' :: cs)) :=
    fun hread ↦ absurd ((h.countP_render hplain').2 hread) hcount.not_lt
  rw [hasTag_cons_blank, isInert_cons_blank, not_or, not_not] at hkept
  exact hkept

theorem Console.ReadsMarkup.render_cons_blank (h : console.ReadsMarkup) {cs : List Char}
    (hplain : ControlFree cs) (htag : ¬ HasTag cs) (hinert : IsInert console.emoji? cs) :
    console.render (' ' :: cs) = ' ' :: cs := by
  have htag' : ¬ HasTag (' ' :: cs) := fun hfound ↦ htag (hasTag_cons_blank.mp hfound)
  rw [h.text (List.forall_mem_cons.mpr ⟨rfl, hplain⟩) htag',
    shown_eq_self (isInert_cons_blank.mpr hinert)]

/-- The line that tells of a failure has its message exactly when the message survives. -/
theorem errorLine_eq_ok_iff (hreads : console.ReadsMarkup) (haccepts : console.AcceptsMarkup)
    (hlines : console.KeepsLines) (hplain : ControlFree message.toList) :
    errorLine console message = .ok ("Error: " ++ message ++ "\n") ↔
      console.KeepsMessage message := by
  have htext : ("Error: " ++ message).toList = "Error:".toList ++ ' ' :: message.toList := by
    simp
  have hending : "Error: " ++ message ++ "\n" =
      String.ofList (("Error: " ++ message).toList ++ ['\n']) := by
    apply String.toList_injective
    simp
  have hfree : ControlFree ("Error: " ++ message).toList := by
    rw [htext]
    exact controlFree_append_iff.mpr
      ⟨forall_eq_false_of_all (by decide), List.forall_mem_cons.mpr ⟨rfl, hplain⟩⟩
  unfold errorLine Console.checkedLine
  rw [hreads.render_errorMarkup]
  constructor
  · intro h
    split at h
    · cases h
    have hlay := Except.ok.inj h
    have hrendered : ControlFree ("Error:".toList ++ console.render (' ' :: message.toList)) :=
      controlFree_append_iff.mpr ⟨forall_eq_false_of_all (by decide),
        hreads.controlFree_render (List.forall_mem_cons.mpr ⟨rfl, hplain⟩)⟩
    obtain ⟨kept, blanks, hkept, hblanks, hwhole⟩ := hlines.whole hrendered
    rw [hlay, hending, String.ofList_inj, List.append_left_inj] at hwhole
    rw [← hwhole, htext, List.append_assoc, List.append_right_inj] at hkept
    obtain ⟨htag, hinert⟩ := hreads.of_render_eq hplain hblanks hkept
    rw [hreads.render_cons_blank hplain htag hinert, ← htext] at hlay
    exact ⟨htag, hinert, fun _ _ _ ↦ hlay⟩
  · rintro ⟨htag, hinert, hkeeps⟩
    have hfault : console.fault? false s!"[red]Error:[/red] {message}".toList = none := by
      rw [toList_errorMarkup]
      exact haccepts.red false isFirstTag_heading fun hfound ↦ htag (hasTag_cons_blank.mp hfound)
    rw [hfault, hreads.render_cons_blank hplain htag hinert, ← htext]
    refine congrArg Except.ok ?_
    by_cases hblank : ∃ c, ("Error: " ++ message).toList.getLast? = some c ∧ isBlank c = true
    · obtain ⟨c, hlast, hc⟩ := hblank
      exact hkeeps c hlast hc
    · rw [hending]
      refine hlines.lay_eq hfree fun c hlast ↦ ?_
      exact Bool.eq_false_iff.mpr fun hc ↦ hblank ⟨c, hlast, hc⟩

theorem errorText_eq_iff {failure : Failure} (hreads : console.ReadsMarkup)
    (haccepts : console.AcceptsMarkup) (hlines : console.KeepsLines)
    (hplain : ControlFree failure.message.toList) :
    errorText console failure = "Error: " ++ failure.message ++ "\n" ↔
      console.KeepsMessage failure.message := by
  rw [← errorLine_eq_ok_iff hreads haccepts hlines hplain, errorText]
  cases errorLine console failure.message with
  | ok text => simp [Except.toOption]
  | error fault => simp [Except.toOption]

end ErrorLine

/-! ### Commands that fail -/

/-- The operation behind a request fails: the source cannot be analysed or split, a half of the
split cannot be written, or one of the files cannot be linted or written back. -/
def Request.FailsWith (parser : Parser) (workspace : Workspace) (failure : Failure) :
    Request → Prop
  | .help => False
  | .analyze file language => workspace.analyzeFile parser file language = .error failure
  | .split file apply dryRun language =>
    (workspace.applySplit parser file (apply && !dryRun) language).2 = .error failure
  | .lint files fix suggest language =>
    (workspace.lintSteps parser ⟨fix, suggest⟩ language files).2 = .error failure

/-- The log entries of a request up to its failure. -/
def Request.entries (parser : Parser) (workspace : Workspace) : Request → List LogEntry
  | .help => []
  | .analyze file language => workspace.analyzeLog parser file language
  | .split file _ _ language => workspace.splitLog parser file language
  | .lint files fix suggest language => workspace.allEntries parser ⟨fix, suggest⟩ language files

section FailsWith

variable {context : CommandContext} {workspace : Workspace} {failure : Failure}

theorem prints_runAnalyze_error {file : String} {language : Option String}
    (h : workspace.analyzeFile context.parser file language = .error failure) :
    Prints (runAnalyze context file language) workspace
      (.error (failureStop context.console failure)) workspace ""
      (showLog context.time context.threshold
          (workspace.analyzeLog context.parser file language) ++
        errorText context.console failure) := by
  refine (prints_currentWorkspace workspace).silent_bind (.printLog_bind ?_)
  rw [h]
  exact prints_orFail_error_bind context failure _ workspace

theorem prints_writeAndTell_error {split : Split}
    (h : (workspace.writeSplit split).2 = .error failure) (serverPath clientPath : String) :
    Prints (writeAndTell context split serverPath clientPath) workspace
      (.error (failureStop context.console failure)) (workspace.writeSplit split).1 ""
      (errorText context.console failure) := by
  cases hwrite : workspace.writeSplit split with
  | mk after written =>
    obtain rfl : written = .error failure := by rw [← h, hwrite]
    refine (prints_currentWorkspace workspace).silent_bind ?_
    rw [hwrite]
    exact (prints_setWorkspace workspace after).silent_bind
      (prints_orFail_error_bind context failure _ after)

/-- A split that is not written is told of behind the log, since nothing more is logged before both
halves are written. -/
theorem exists_prints_runSplit_error {file : String} {apply dryRun : Bool}
    {language : Option String}
    (h : (workspace.applySplit context.parser file (apply && !dryRun) language).2 =
      .error failure) :
    ∃ after, Prints (runSplit context file apply dryRun language) workspace
      (.error (failureStop context.console failure)) after ""
      (showLog context.time context.threshold (workspace.splitLog context.parser file language) ++
        errorText context.console failure) := by
  rcases workspace.applySplit_cases context.parser file (apply && !dryRun) language with
    ⟨fault, hsplit, happly⟩ | ⟨split, hsplit, ⟨happly, -⟩ | ⟨happly, hwrite, source, -, hpaths⟩⟩
  · obtain rfl : fault = failure := by simpa [happly] using h
    refine ⟨workspace, (prints_currentWorkspace workspace).silent_bind (.printLog_bind ?_)⟩
    rw [hsplit]
    exact prints_orFail_error_bind context fault _ workspace
  · simp [happly] at h
  · obtain ⟨server, client, serverText, clientText, -, -, hparts⟩ := hpaths
    rw [happly] at h
    refine ⟨(workspace.writeSplit split).1,
      (prints_currentWorkspace workspace).silent_bind (.printLog_bind ?_)⟩
    rw [hsplit]
    refine .orFail_bind ?_
    rw [if_pos hparts.needed, hparts.serverPath_eq, hparts.serverText_eq, hparts.clientPath_eq,
      hparts.clientText_eq]
    dsimp only
    rw [if_pos hwrite]
    exact prints_writeAndTell_error h _ _

/-- A command that fails shows its log on the error stream and then tells of the failure. -/
theorem exists_prints_of_failsWith {request : Request}
    (h : request.FailsWith context.parser workspace failure) :
    ∃ after out, Prints (request.run context) workspace
      (.error (failureStop context.console failure)) after out
      (showLog context.time context.threshold (request.entries context.parser workspace) ++
        errorText context.console failure) := by
  match request with
  | .help => exact h.elim
  | .analyze file language => exact ⟨workspace, "", prints_runAnalyze_error h⟩
  | .split file apply dryRun language =>
    obtain ⟨after, hprints⟩ := exists_prints_runSplit_error h
    exact ⟨after, "", hprints⟩
  | .lint files fix suggest language =>
    have hall := workspace.prints_lintAll context ⟨fix, suggest⟩ language 0 files
    rw [show (workspace.lintSteps context.parser ⟨fix, suggest⟩ language files).2 =
      .error failure from h] at hall
    exact ⟨_, _, hall.bind_error⟩

end FailsWith

/-- What a command that fails leaves on the error stream, and how it ends. -/
theorem outcome_of_failsWith {context : CommandContext} {workspace : Workspace} {request : Request}
    {failure : Failure} (h : request.FailsWith context.parser workspace failure) :
    (Outcome.ofCommand workspace (request.run context)).err =
        showLog context.time context.threshold (request.entries context.parser workspace) ++
          errorText context.console failure ∧
      (Outcome.ofCommand workspace (request.run context)).ending =
        Ending.ofResult (.error (failureStop context.console failure)) := by
  obtain ⟨after, out, hprints⟩ := exists_prints_of_failsWith h
  exact hprints.outcome.2

/-- **Messages of failures.** On a console that reads markup, accepts it and keeps lines, a command
that fails tells of the failure, behind its log, with the heading and the message exactly when the
message has no tags, no backslash before an opening bracket and no code of an emoji, and no blank at
its end that is cut; and then it ends with status one. -/
theorem command_errorMessage_iff (context : CommandContext) {workspace : Workspace}
    {request : Request} {failure : Failure} (hreads : context.console.ReadsMarkup)
    (haccepts : context.console.AcceptsMarkup) (hlines : context.console.KeepsLines)
    (hfails : request.FailsWith context.parser workspace failure)
    (hplain : ControlFree failure.message.toList) :
    ((Outcome.ofCommand workspace (request.run context)).err =
        showLog context.time context.threshold (request.entries context.parser workspace) ++
          ("Error: " ++ failure.message ++ "\n") ↔
      context.console.KeepsMessage failure.message) ∧
    (context.console.KeepsMessage failure.message →
      (Outcome.ofCommand workspace (request.run context)).ending = .exit 1) := by
  obtain ⟨herr, hending⟩ := outcome_of_failsWith hfails
  constructor
  · rw [herr, String.append_right_inj]
    exact errorText_eq_iff hreads haccepts hlines hplain
  · intro hkeeps
    rw [hending, failureStop, (errorLine_eq_ok_iff hreads haccepts hlines hplain).mpr hkeeps]
    rfl

/-- Linting a file that cannot be read fails. -/
theorem failsWith_of_readSource {parser : Parser} {workspace : Workspace} {file : String}
    {failure : Failure} (h : workspace.readSource file = .error failure) :
    (Request.lint [file] false false none).FailsWith parser workspace failure := by
  simp only [Request.FailsWith, Workspace.lintSteps, Workspace.lintStep, h]

/-- Linting a file that does not exist, on a terminal. -/
def lintMissing (file : String) : Outcome :=
  .ofCommand clientPlaceTaken
    ((Request.lint [file] false false none).run ⟨windowParser, "", 30, Terminal.console⟩)

/-- The message survives that names a file whose bracketed word starts with a capital. -/
theorem command_errorMessage_capital :
    (Request.lint ["[Id].tsx"] false false none).FailsWith windowParser clientPlaceTaken
      (.fileNotFound "/[Id].tsx") ∧
    (lintMissing "[Id].tsx").err = "Error: File not found: /[Id].tsx\n" ∧
    (lintMissing "[Id].tsx").ending = .exit 1 := by
  have hread : clientPlaceTaken.readSource "[Id].tsx" = .error (.fileNotFound "/[Id].tsx") := by
    rfl
  have hfails := @failsWith_of_readSource windowParser _ _ _ hread
  have hcodes : codes "File not found: /[Id].tsx".toList = [] := by
    rw [show "File not found: /[Id].tsx".toList = "File not found".toList ++
      ':' :: " /[Id].tsx".toList from rfl, codes_append_of_notMem (by decide),
      codes_colon (by decide)]
  have hkeeps : Terminal.console.KeepsMessage "File not found: /[Id].tsx" := by
    refine ⟨by decide, ⟨by decide, ?_⟩, fun c hlast hblank ↦ ?_⟩
    · rw [hcodes]
      exact List.forall_mem_nil _
    · obtain rfl : 'x' = c := by simpa using hlast
      exact absurd hblank (by decide)
  obtain ⟨herr, hending⟩ := command_errorMessage_iff ⟨windowParser, "", 30, Terminal.console⟩
    Terminal.readsMarkup_console Terminal.acceptsMarkup_console Terminal.keepsLines_console hfails
    (forall_eq_false_of_all (by decide))
  have hlog : showLog "" 30 ((Request.lint ["[Id].tsx"] false false none).entries windowParser
      clientPlaceTaken) = "" := by decide
  rw [hlog, String.empty_append] at herr
  exact ⟨hfails, herr.mpr hkeeps, hending hkeeps⟩

/-- The message does not survive that names a file whose bracketed word starts with a small
letter. -/
theorem command_errorMessage_route :
    (Request.lint ["[id].tsx"] false false none).FailsWith windowParser clientPlaceTaken
      (.fileNotFound "/[id].tsx") ∧
    ControlFree (Failure.fileNotFound "/[id].tsx").message.toList ∧
    (lintMissing "[id].tsx").err ≠ "Error: File not found: /[id].tsx\n" := by
  have hread : clientPlaceTaken.readSource "[id].tsx" = .error (.fileNotFound "/[id].tsx") := by
    rfl
  have hfails := @failsWith_of_readSource windowParser _ _ _ hread
  have hplain : ControlFree (Failure.fileNotFound "/[id].tsx").message.toList :=
    forall_eq_false_of_all (by decide)
  have htag : HasTag (Failure.fileNotFound "/[id].tsx").message.toList := by decide
  have hlog : showLog "" 30 ((Request.lint ["[id].tsx"] false false none).entries windowParser
      clientPlaceTaken) = "" := by decide
  refine ⟨hfails, hplain, fun herr ↦ ?_⟩
  have htold := (@outcome_of_failsWith ⟨windowParser, "", 30, Terminal.console⟩ _ _ _
    hfails).1.symm.trans herr
  rw [hlog, String.empty_append] at htold
  exact ((errorText_eq_iff Terminal.readsMarkup_console Terminal.acceptsMarkup_console
    Terminal.keepsLines_console hplain).mp htold).noTag htag

end ClientBoundary
