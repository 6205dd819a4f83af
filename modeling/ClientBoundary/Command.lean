import ClientBoundary.AdditionDiff
import ClientBoundary.Command.Arguments
import ClientBoundary.Terminal
import ClientBoundary.Workspace

/-!
# Commands

The command line of the program. A command works in a workspace, prints on two streams through a
console and ends with an exit status. A failure of the operation behind it is printed on the error
stream and ends the command with status one.

Source: SPEC_FULL.md, §5, the command line and its error handling.

## Main declarations

* `Progress`, `Stop`, `CommandM`: the state of a command and how it can end early.
* `runAnalyze`, `runSplit`, `runLint`: the three commands.
* `Outcome`, `runCommandLine`: a whole command line.
-/

namespace ClientBoundary

/-- What a command has done so far. -/
structure Progress where
  workspace : Workspace
  out : String := ""
  err : String := ""

/-- Why a command ends without handling what happened. -/
inductive Crash where
  | failure (failure : Failure)
  | markup (fault : MarkupFault)

/-- How a command ends early. -/
inductive Stop where
  | exit (status : Nat)
  | crash (crash : Crash)

/-- A command under way. -/
abbrev CommandM := ExceptT Stop (StateM Progress)

/-- What a command is given besides its arguments. -/
structure CommandContext where
  parser : Parser
  /-- The moment that is written into the log. -/
  time : String
  /-- The least severity of the log entries that are shown. -/
  threshold : Nat
  /-- What both streams are printed through. -/
  console : Console

/-- The workspace that a command works in. -/
def currentWorkspace : CommandM Workspace :=
  return (← get).workspace

/-- Prints text on the output stream. -/
def printOut (text : String) : CommandM Unit :=
  modify fun progress ↦ { progress with out := progress.out ++ text }

/-- Prints text on the error stream. -/
def printErr (text : String) : CommandM Unit :=
  modify fun progress ↦ { progress with err := progress.err ++ text }

/-- Shows log entries on the error stream. -/
def printLog (context : CommandContext) (entries : List LogEntry) : CommandM Unit :=
  printErr (showLog context.time context.threshold entries)

/-- Prints a line, or ends the command if its markup is refused. -/
def printChecked (print : String → CommandM Unit) : Except MarkupFault String → CommandM Unit
  | .ok text => print text
  | .error fault => throw (.crash (.markup fault))

/-- The line that tells of a failure. The message is markup. -/
def errorLine (console : Console) (message : String) : Except MarkupFault String :=
  console.checkedLine false s!"[red]Error:[/red] {message}"

/-- Tells of a failure and ends the command. -/
def fail {α : Type} (context : CommandContext) (failure : Failure) : CommandM α := do
  printChecked printErr (errorLine context.console failure.message)
  throw (.exit 1)

/-- The result of an operation, or the end of the command if it failed. -/
def orFail {α : Type} (context : CommandContext) : Except Failure α → CommandM α
  | .ok a => pure a
  | .error failure => fail context failure

/-! ### Analysing -/

/-- The rule above and below the body of a report. -/
def ruleLine (console : Console) : String :=
  console.wrappedLine (String.ofList (List.replicate 50 '─'))

/-- The line of one name in a report. The name is markup. -/
def nameLine (console : Console) (name : String) : Except MarkupFault String :=
  console.checkedLine true s!"  - {name}"

/-- Prints the names of one kind of feature. -/
def printNames (console : Console) (title : String) (names : List String) : CommandM Unit := do
  printOut (console.wrappedLine s!"\n[bold]{title}[/bold] ({names.length}):")
  if names.isEmpty then printOut (console.wrappedLine "  (none)")
  else names.forM fun name ↦ printChecked printOut (nameLine console name)

/-- Prints the report on a file. -/
def printReport (console : Console) (file : String) (analysis : Analysis) : CommandM Unit := do
  printOut (console.line s!"\nAnalysis for: {console.escaped file}\n")
  printOut (ruleLine console)
  let directive :=
    if analysis.hasDirective then "[green]✓ Present[/green]" else "[red]✗ Missing[/red]"
  printOut (console.wrappedLine s!"'use client' directive: {directive}")
  printNames console "Detected Hooks" analysis.hooks
  printNames console "Detected Browser Globals" analysis.browserGlobals
  printNames console "Detected Event Handlers" analysis.eventHandlers
  printOut (ruleLine console)
  if analysis.needsDirective then
    printOut (console.line ("\n[yellow]⚠️  This file uses client-only features but is missing " ++
      "\"use client\" directive.[/yellow]"))
    printOut (console.line
      s!"   Consider running: rsc-guardian split {console.escaped file} --dry-run\n")

/-- The command that reports on a file. -/
def runAnalyze (context : CommandContext) (file : String) (language : Option String) :
    CommandM Unit := do
  let workspace ← currentWorkspace
  printLog context (workspace.analyzeLog context.parser file language)
  let analysis ← orFail context (workspace.analyzeFile context.parser file language)
  printReport context.console file analysis

/-! ### Splitting -/

/-- The lines of a diff as they are printed. -/
def diffLines (console : Console) (path text : String) : String :=
  String.join ((Text.bareLines (additionDiff path text)).map console.plainLine)

/-- Prints what a split would write. -/
def printProposal (console : Console) (serverPath serverText clientPath clientText : String) :
    CommandM Unit := do
  printOut (console.wrappedLine "\n--- Proposed Changes ---\n")
  printOut (diffLines console serverPath serverText)
  printOut (console.wrappedLine "")
  printOut (diffLines console clientPath clientText)
  printOut (console.wrappedLine "\n--- End of diff ---")
  printOut (console.wrappedLine "\nRun with --apply to write these files.\n")

/-- The line that tells of a written file. -/
def createdLine (console : Console) (path : String) : String :=
  console.line s!"[green]✓[/green] Created {console.escaped path}"

/-- Writes a split and tells of it. -/
def writeAndTell (context : CommandContext) (split : Split) (serverPath clientPath : String) :
    CommandM Unit := do
  let (workspace, written) := (← currentWorkspace).writeSplit split
  modify fun progress ↦ { progress with workspace := workspace }
  let _ ← orFail context written
  printLog context [Workspace.writeEntry serverPath clientPath]
  printOut (createdLine context.console serverPath)
  printOut (createdLine context.console clientPath)

/-- The command that splits a file; it writes only if `apply` is set and `dryRun` is not. -/
def runSplit (context : CommandContext) (file : String) (apply dryRun : Bool)
    (language : Option String) : CommandM Unit := do
  let workspace ← currentWorkspace
  printLog context (workspace.splitLog context.parser file language)
  let split ← orFail context (workspace.splitFile context.parser file language)
  if split.needsSplit then
    match split.serverPath, split.serverText, split.clientPath, split.clientText with
    | some serverPath, some serverText, some clientPath, some clientText =>
      if apply && !dryRun then writeAndTell context split serverPath clientPath
      else printProposal context.console serverPath serverText clientPath clientText
    | _, _, _, _ => throw (.crash (.failure .incompleteSplit))
  else
    printOut (context.console.wrappedLine "No client-only features detected. No split needed.")

/-! ### Linting -/

/-- The lines that tell of a diagnostic. -/
def diagnosticLines (console : Console) (file : String) (d : Diagnostic) : String :=
  let location := s!"{console.escaped file}:{d.line}:{d.column}"
  console.line (s!"{location}  [red]error[/red]  {console.escaped d.message}  " ++
    s!"[dim]{lintRule}[/dim]") ++
  match d.suggestion with
  | some suggestion => console.line s!"    {console.escaped suggestion}"
  | none => ""

/-- The line that tells of a fixed file. -/
def fixedLine (console : Console) (file : String) : String :=
  console.line s!"[green]Fixed[/green] {console.escaped file}"

/-- Lints one file, fixing it if `options` ask for it; gives the number of problems that remain. -/
def lintOne (context : CommandContext) (options : LintOptions) (language : Option String)
    (file : String) : CommandM Nat := do
  let workspace ← currentWorkspace
  printLog context (workspace.lintFileLog context.parser file language)
  let source ← orFail context (workspace.readSource file)
  let diagnostics ← orFail context (lintSource context.parser workspace.environment source.bytes
    source.path.toString options language)
  if options.autoFix && !diagnostics.isEmpty then
    let (workspace, saved) := workspace.saveSource source (fixSource source.bytes diagnostics)
    modify fun progress ↦ { progress with workspace := workspace }
    orFail context saved
    printOut (fixedLine context.console file)
    return 0
  else
    printOut (String.join (diagnostics.map (diagnosticLines context.console file)))
    return diagnostics.length

/-- Lints files in order, adding up the problems that remain. -/
def lintAll (context : CommandContext) (options : LintOptions) (language : Option String) :
    (problems : Nat) → List String → CommandM Nat
  | problems, [] => return problems
  | problems, file :: files => do
    let more ← lintOne context options language file
    lintAll context options language (problems + more) files

/-- The command that lints files; problems that remain make it fail. -/
def runLint (context : CommandContext) (files : List String) (options : LintOptions)
    (language : Option String) : CommandM Unit := do
  let problems ← lintAll context options language 0 files
  if problems = 0 then
    printOut (context.console.wrappedLine "[green]No problems found.[/green]")
  else
    printOut (context.console.wrappedLine s!"\n[red]✖ {problems} problem(s)[/red]")
    throw (.exit 1)

/-! ### The whole command line -/

/-- How a command line ends. -/
inductive Ending where
  | exit (status : Nat)
  /-- The command line could not be read. -/
  | usage
  | crash (crash : Crash)

/-- What a command line leaves behind. -/
structure Outcome where
  workspace : Workspace
  out : String := ""
  err : String := ""
  ending : Ending

/-- Runs a command in a workspace. -/
def Outcome.ofCommand (workspace : Workspace) (command : CommandM Unit) : Outcome :=
  let (result, progress) := command.run.run { workspace := workspace }
  { workspace := progress.workspace
    out := progress.out
    err := progress.err
    ending := match result with
      | .ok () => .exit 0
      | .error (.exit status) => .exit status
      | .error (.crash crash) => .crash crash }

/-- The command that a request asks for. -/
def Request.run (context : CommandContext) : Request → CommandM Unit
  | .help => return ()
  | .analyze file language => runAnalyze context file language
  | .split file apply dryRun language => runSplit context file apply dryRun language
  | .lint files fix suggestSplit language =>
    runLint context files { autoFix := fix, suggestSplit := suggestSplit } language

/-- Runs a command line on a terminal. The name of the command is read first, then the threshold of
the log, then the words of the command. -/
def runCommandLine (parser : Parser) (time : String) (workspace : Workspace)
    (words : List String) : Outcome :=
  match Invocation.ofWords? words with
  | none => { workspace := workspace, ending := .usage }
  | some .help => { workspace := workspace, ending := .exit 0 }
  | some (.command verbose name words) =>
    match workspace.environment.logThreshold verbose with
    | .error failure => { workspace := workspace, ending := .crash (.failure failure) }
    | .ok threshold =>
      match Request.ofWords? name words with
      | none => { workspace := workspace, ending := .usage }
      | some request =>
        .ofCommand workspace (request.run ⟨parser, time, threshold, Terminal.console⟩)

end ClientBoundary
