import ClientBoundary.FileStore
import ClientBoundary.Lint
import ClientBoundary.Split

/-!
# Workspaces

What an operation on files works in: the files, the current directory and the environment. Reading,
analysing, splitting and linting leave a workspace as it is; only writing the halves of a split and
writing a fixed source back change it, and both may be refused.

Source: SPEC_FULL.md, §4.6, `analyze_file` and `split_file`.

## Main declarations

* `Workspace`, `SourceFile`, `Workspace.readSource`: reading a source.
* `Workspace.analyzeFile`, `Workspace.splitFile`, `Workspace.lintFile`: the operations on a file.
* `Workspace.writeSplit`, `Workspace.applySplit`: writing the halves of a split.
* `Workspace.saveSource`: writing a source back.
* `Workspace.analyzeLog` and the like: the log entries of the operations.
-/

namespace ClientBoundary

/-- The surroundings of an operation on files. -/
structure Workspace where
  files : FileStore
  /-- The current directory, an absolute path. -/
  directory : Path
  environment : Environment
  /-- The words that are drawn for the names of temporary files. -/
  draws : List String := FileStore.drawnWords
  /-- What the system refuses to do. -/
  refusals : Refusals := {}

/-- A source file that has been read. -/
structure SourceFile where
  /-- The absolute path of the file. -/
  path : Path
  bytes : Bytes

namespace Workspace

/-- Reads a source file, which must exist and spell text. -/
def readSource (workspace : Workspace) (path : String) : Except Failure SourceFile :=
  let absolute := Path.resolve workspace.directory (Path.ofString path)
  if path.toList.contains '\x00' then .error .nullCharacter
  else
    match workspace.files.inspect absolute with
    | .error cause => .error (.system cause absolute.toString)
    | .ok none => .error (.fileNotFound absolute.toString)
    | .ok (some .directory) => .error (.system .isDirectory absolute.toString)
    | .ok (some (.file bytes)) =>
      match workspace.refusals.read absolute.parts, Utf8.decode bytes with
      | some cause, _ => .error (.system cause absolute.toString)
      | none, .ok _ => .ok ⟨absolute, bytes⟩
      | none, .error fault => .error (.illFormed fault)

/-- The grammar of a source file. -/
def grammarOf (workspace : Workspace) (source : SourceFile) (language : Option String) :
    Except Failure Grammar :=
  Grammar.resolve (workspace.environment.languageOr language) (some source.path)

/-- The report on a source file. -/
def analyzeFile (workspace : Workspace) (parser : Parser) (path : String)
    (language : Option String) : Except Failure Analysis := do
  let source ← workspace.readSource path
  let grammar ← workspace.grammarOf source language
  analyzeSource parser grammar source.bytes (some source.path.toString)

/-- Splits a source file without writing anything. -/
def splitFile (workspace : Workspace) (parser : Parser) (path : String)
    (language : Option String) : Except Failure Split := do
  let source ← workspace.readSource path
  let grammar ← workspace.grammarOf source language
  Split.ofSource parser grammar source.bytes source.path

/-- The diagnostics of a source file. -/
def lintFile (workspace : Workspace) (parser : Parser) (path : String) (options : LintOptions)
    (language : Option String) : Except Failure (List Diagnostic) := do
  let source ← workspace.readSource path
  lintSource parser workspace.environment source.bytes source.path.toString options language

/-- Writes one half of a split. -/
def writeHalf (workspace : Workspace) (path text : String) : Workspace × Except Failure Unit :=
  let written := workspace.files.writeWhole workspace.refusals workspace.draws
    workspace.directory (.ofString path) text
  ({ workspace with files := written.1 }, written.2)

/-- Writes the two halves of a split, the server half first. When the client half is refused the
server half stays written. -/
def writeSplit (workspace : Workspace) (split : Split) : Workspace × Except Failure Split :=
  if split.needsSplit then
    match split.serverPath, split.serverText, split.clientPath, split.clientText with
    | some serverPath, some serverText, some clientPath, some clientText =>
      match workspace.writeHalf serverPath serverText with
      | (workspace, .error failure) => (workspace, .error failure)
      | (workspace, .ok ()) =>
        match workspace.writeHalf clientPath clientText with
        | (workspace, .error failure) => (workspace, .error failure)
        | (workspace, .ok ()) => (workspace, .ok { split with written := true })
    | _, _, _, _ => (workspace, .error .incompleteSplit)
  else (workspace, .ok split)

/-- Splits a source file and, if `apply` is set, writes the two halves. -/
def applySplit (workspace : Workspace) (parser : Parser) (path : String) (apply : Bool)
    (language : Option String) : Workspace × Except Failure Split :=
  match workspace.splitFile parser path language with
  | .error failure => (workspace, .error failure)
  | .ok split => if apply then workspace.writeSplit split else (workspace, .ok split)

/-- Writes the content of a source file back, as far as the system lets it. -/
def saveSource (workspace : Workspace) (source : SourceFile) (bytes : Bytes) :
    Workspace × Except Failure Unit :=
  let written := workspace.files.write workspace.refusals source.path.parts bytes
  ({ workspace with files := written.1 }, written.2.mapError (·.failure source.path.toString))

/-! ### Logs -/

/-- The log entry of reading a source file. -/
def readEntry (source : SourceFile) : LogEntry where
  severity := .debug
  origin := "rsc_guardian.core.ast"
  message := s!"Read {source.bytes.length} bytes from {source.path}"

/-- The log entries of analysing a source file. -/
def analyzeLog (workspace : Workspace) (parser : Parser) (path : String)
    (language : Option String) : List LogEntry :=
  match workspace.readSource path with
  | .error _ => []
  | .ok source =>
    readEntry source ::
      match workspace.grammarOf source language with
      | .error _ => []
      | .ok grammar =>
        { severity := .info
          origin := "rsc_guardian.core.analyze"
          message := s!"Analyzing {source.path} (language: {grammar.name})" } ::
          match CodeTree.ofSource parser grammar source.bytes with
          | .error _ => []
          | .ok program => [(classify program (some source.path.toString)).entry]

/-- The log entries of splitting a source file. -/
def splitLog (workspace : Workspace) (parser : Parser) (path : String)
    (language : Option String) : List LogEntry :=
  match workspace.readSource path with
  | .error _ => []
  | .ok source =>
    readEntry source ::
      match workspace.grammarOf source language with
      | .error _ => []
      | .ok grammar => Split.log parser grammar source.bytes source.path

/-- The log entry of writing the two halves of a split. -/
def writeEntry (serverPath clientPath : String) : LogEntry where
  severity := .info
  origin := "rsc_guardian.core.split"
  message := s!"Wrote {serverPath} and {clientPath}"

/-- The log entries of linting a source file. -/
def lintFileLog (workspace : Workspace) (parser : Parser) (path : String)
    (language : Option String) : List LogEntry :=
  match workspace.readSource path with
  | .error _ => []
  | .ok source =>
    readEntry source ::
      lintLog parser workspace.environment source.bytes source.path.toString language

end Workspace

end ClientBoundary
