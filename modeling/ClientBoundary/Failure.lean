import ClientBoundary.Text.Quoted
import ClientBoundary.Text.Utf8

/-!
# Failures

Everything that can stop an operation, by cause, and the wording of each cause.

Source: SPEC_FULL.md, §5, error handling.

## Main declarations

* `SystemCause`, `ContentFault`: refusals of the file system.
* `Failure`, `Failure.message`: a cause and its wording.
-/

namespace ClientBoundary

open Text

/-- Why the file system refuses an operation. -/
inductive SystemCause where
  | missing
  | busy
  | alreadyThere
  | notDirectory
  | isDirectory
  /-- A path, or a name in it, has too many bytes. -/
  | tooLong
  /-- Any other cause, with its number and its wording. -/
  | other (number : Nat) (message : String)
  deriving DecidableEq, Repr

/-- The number that the system gives a refusal. -/
def SystemCause.number : SystemCause → Nat
  | .missing => 2
  | .busy => 16
  | .alreadyThere => 17
  | .notDirectory => 20
  | .isDirectory => 21
  | .tooLong => 36
  | .other number _ => number

/-- The system's words for a refusal. -/
def SystemCause.message : SystemCause → String
  | .missing => "No such file or directory"
  | .busy => "Device or resource busy"
  | .alreadyThere => "File exists"
  | .notDirectory => "Not a directory"
  | .isDirectory => "Is a directory"
  | .tooLong => "File name too long"
  | .other _ message => message

/-- Why the content of an open file is not written to its end: the system stops, or a character of
the text cannot be encoded. -/
inductive ContentFault where
  | system (cause : SystemCause)
  | encoding (message : String)
  deriving DecidableEq, Repr

/-- The wording of a fault, which does not mention the path of the file. -/
def ContentFault.message : ContentFault → String
  | .system cause => s!"[Errno {cause.number}] {cause.message}"
  | .encoding message => message

/-- A reason why an operation has no result. -/
inductive Failure where
  /-- The source has a syntax error; line and column count from one. -/
  | syntaxError (line column : Nat)
  /-- No tree is known for the source. -/
  | noTree
  /-- Bytes that should spell text do not. -/
  | illFormed (fault : Utf8.Fault)
  /-- A module has a second default export, on this line counted from one. -/
  | secondDefaultExport (line : Nat)
  | unsupportedLanguage (language : String)
  | unsupportedExtension (suffix : String)
  /-- Neither a language nor a path to take it from was given. -/
  | noLanguage
  | invalidLogLevel (name : String)
  /-- A path without a last part cannot have a sibling. -/
  | emptyName (path : String)
  /-- A name that is no single part of a path. -/
  | invalidName (name : String)
  /-- A path holds a null character, which no file name does. -/
  | nullCharacter
  /-- A file to be read does not exist. -/
  | fileNotFound (path : String)
  /-- The file system refuses an operation on a path. -/
  | system (cause : SystemCause) (path : String)
  /-- The content of an open file is not written to its end. -/
  | contentRefused (fault : ContentFault)
  /-- The file system refuses to remove a file. -/
  | removeRefused (cause : SystemCause) (path : String)
  /-- The file system refuses to move one path onto another. -/
  | moveRefused (cause : SystemCause) (source target : String)
  /-- Every name drawn for a temporary file is taken. -/
  | noTemporaryName
  /-- A split to be written lacks a path or a text. -/
  | incompleteSplit
  /-- A tool was given neither a path nor code. -/
  | noInput
  deriving DecidableEq, Repr

/-- The wording of a failure. -/
def Failure.message : Failure → String
  | .syntaxError line column => s!"Syntax error at line {line}, column {column}"
  | .noTree => ""
  | .illFormed fault => fault.message
  | .secondDefaultExport line =>
    s!"Module has more than one default export (second at line {line})"
  | .unsupportedLanguage language =>
    s!"Unsupported language '{language}'. Supported: ['javascript', 'tsx']"
  | .unsupportedExtension suffix => s!"Unsupported file extension: {suffix}"
  | .noLanguage => "Language must be provided when no file path is available."
  | .invalidLogLevel name => s!"Invalid RSC_GUARDIAN_LOG_LEVEL '{name}'"
  | .emptyName path => s!"PosixPath({quoted path}) has an empty name"
  | .invalidName name => s!"Invalid name {quoted name}"
  | .nullCharacter => "embedded null byte"
  | .fileNotFound path => s!"File not found: {path}"
  | .system cause path | .removeRefused cause path =>
    s!"[Errno {cause.number}] {cause.message}: {quoted path}"
  | .contentRefused fault => fault.message
  | .moveRefused cause source target =>
    s!"[Errno {cause.number}] {cause.message}: {quoted source} -> {quoted target}"
  | .noTemporaryName =>
    s!"[Errno {SystemCause.alreadyThere.number}] No usable temporary file name found"
  | .incompleteSplit => ""
  | .noInput => "Either 'path' or 'code' must be provided."

end ClientBoundary
