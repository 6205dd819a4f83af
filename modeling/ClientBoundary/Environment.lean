import ClientBoundary.Failure
import ClientBoundary.Text.Blank
import ClientBoundary.Text.Case

/-!
# Environment and log

Two variables of the environment are read: a language that is used where none is given, and the
least severity of the log entries that are shown. A log is the list of entries that an
operation leaves behind.

Source: SPEC_FULL.md, §5, logging and configuration.
-/

namespace ClientBoundary

open Text

/-- The variables that the program reads. -/
structure Environment where
  /-- The variable `RSC_GUARDIAN_LANGUAGE`. -/
  language : Option String := none
  /-- The variable `RSC_GUARDIAN_LOG_LEVEL`. -/
  logLevel : Option String := none
  deriving DecidableEq, Repr

/-- The language used where none is given. -/
def Environment.defaultLanguage (environment : Environment) : Option String :=
  environment.language.filter (· != "")

/-- The language given, or else the default one. -/
def Environment.languageOr (environment : Environment) (language : Option String) :
    Option String :=
  (language.filter (· != "")).or environment.defaultLanguage

/-- The number of a named severity. -/
def severityNumber? : String → Option Nat
  | "NOTSET" => some 0
  | "DEBUG" => some 10
  | "INFO" => some 20
  | "WARN" | "WARNING" => some 30
  | "ERROR" => some 40
  | "CRITICAL" | "FATAL" => some 50
  | _ => none

/-- The least severity that is shown: everything from debugging on when `verbose`, and otherwise
what the environment names. -/
def Environment.logThreshold (environment : Environment) (verbose : Bool) : Except Failure Nat :=
  if verbose then .ok 10
  else
    let name := upper (strip (environment.logLevel.getD "WARNING"))
    match severityNumber? name with
    | some number => .ok number
    | none => .error (.invalidLogLevel name)

/-- The severities of log entries. -/
inductive Severity where
  | debug
  | info
  deriving DecidableEq, Repr

/-- The number of a severity. -/
def Severity.number : Severity → Nat
  | .debug => 10
  | .info => 20

/-- The name of a severity. -/
def Severity.label : Severity → String
  | .debug => "DEBUG"
  | .info => "INFO"

/-- A line of the log: how severe, from which part of the program, and what. -/
structure LogEntry where
  severity : Severity
  origin : String
  message : String
  deriving DecidableEq, Repr

/-- How an entry made at `time` is shown. -/
def LogEntry.line (time : String) (entry : LogEntry) : String :=
  s!"{time} {entry.severity.label} {entry.origin}: {entry.message}\n"

/-- The entries of a log that reach a threshold, one a line. -/
def showLog (time : String) (threshold : Nat) (entries : List LogEntry) : String :=
  String.join ((entries.filter (threshold ≤ ·.severity.number)).map (·.line time))

end ClientBoundary
