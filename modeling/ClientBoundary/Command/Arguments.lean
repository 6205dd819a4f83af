/-!
# Command line arguments

How the words of a command line are read. Options and positional words may be mixed, except that
the options of the program itself end at the name of the command. A value follows its option as the
next word, whatever that is, or behind an equals sign; short flags may share one dash; two dashes
alone end the options. A command line that breaks these rules has no reading.

Source: SPEC_FULL.md, §5, the commands and their options.

## Main declarations

* `Arguments.OptionRule`, `Arguments.read?`: reading words against the rules of options.
* `Invocation`, `Invocation.ofWords?`: the program's own options and the command.
* `Request`, `Request.ofWords?`: the options and files of a command.
-/

namespace ClientBoundary

namespace Arguments

/-- An option: how it is written and whether a value belongs to it. -/
structure OptionRule where
  name : String
  takesValue : Bool := false

/-- What the words of a command line say: options with their values, in order, and the other
words. -/
structure Reading where
  settings : List (String × String) := []
  positionals : List String := []

/-- A reading with an option put in front. -/
def Reading.withSetting (name value : String) (reading : Reading) : Reading :=
  { reading with settings := (name, value) :: reading.settings }

/-- A reading with another word put in front. -/
def Reading.withPositional (word : String) (reading : Reading) : Reading :=
  { reading with positionals := word :: reading.positionals }

/-- Whether an option was given. -/
def Reading.has (reading : Reading) (name : String) : Bool :=
  reading.settings.any (·.1 == name)

/-- The last value given to an option. -/
def Reading.value? (reading : Reading) (name : String) : Option String :=
  (reading.settings.reverse.find? (·.1 == name)).map Prod.snd

/-- The last of several options that was given. -/
def Reading.last? (reading : Reading) (names : List String) : Option String :=
  (reading.settings.reverse.find? (names.contains ·.1)).map Prod.fst

/-- A word divided at its first equals sign. -/
def divideAtEquals (word : List Char) : String × Option String :=
  let name := word.takeWhile (· != '=')
  (String.ofList name,
    match word.drop name.length with
    | _ :: value => some (String.ofList value)
    | [] => none)

/-- The short flags that share one dash, if all of them exist. -/
def shortFlags? (rules : List OptionRule) (letters : List Char) : Option (List String) :=
  letters.mapM fun c ↦
    let name := String.ofList ['-', c]
    if rules.any (·.name == name) then some name else none

/-- Reads words, `pending` being an option that still waits for its value. With `mixed` the options
may stand anywhere, and otherwise only before the first other word. -/
def read? (rules : List OptionRule) (mixed : Bool) :
    (pending : Option String) → List String → Option Reading
  | none, [] => some {}
  | some _, [] => none
  | some name, value :: words => (read? rules mixed none words).map (·.withSetting name value)
  | none, word :: words =>
    match word.toList with
    | ['-', '-'] => some { positionals := words }
    | '-' :: c :: cs =>
      let (name, value?) := divideAtEquals word.toList
      match rules.find? fun rule ↦ rule.name == name && 2 < name.length, value? with
      | some rule, some value =>
        if rule.takesValue then (read? rules mixed none words).map (·.withSetting name value)
        else none
      | some rule, none =>
        if rule.takesValue then read? rules mixed (some name) words
        else (read? rules mixed none words).map (·.withSetting name "")
      | none, _ =>
        if c = '-' then none
        else do
          let flags ← shortFlags? rules (c :: cs)
          let reading ← read? rules mixed none words
          return flags.foldr (fun flag reading ↦ reading.withSetting flag "") reading
    | _ =>
      if mixed then (read? rules mixed none words).map (·.withPositional word)
      else some { positionals := word :: words }

/-- The options that ask for help. -/
def helpRules : List OptionRule :=
  [{ name := "--help" }, { name := "-h" }]

/-- Whether help was asked for. -/
def Reading.wantsHelp (reading : Reading) : Bool :=
  reading.has "--help" || reading.has "-h"

end Arguments

open Arguments

/-- The names of the commands. -/
inductive CommandName where
  | analyze
  | split
  | lint
  | serve
  deriving DecidableEq, Repr

/-- The command of a name. -/
def CommandName.ofWord? : String → Option CommandName
  | "analyze" => some .analyze
  | "split" => some .split
  | "lint" => some .lint
  | "serve" => some .serve
  | _ => none

/-- What the program is asked to do, as far as its own options go. -/
inductive Invocation where
  | help
  | command (verbose : Bool) (name : CommandName) (words : List String)

/-- The reading of a command line up to the name of the command. -/
def Invocation.ofWords? (words : List String) : Option Invocation := do
  let reading ← read? ([{ name := "--verbose" }, { name := "-v" }] ++ helpRules) false none words
  if reading.wantsHelp then return .help
  match reading.positionals with
  | word :: words =>
    let name ← CommandName.ofWord? word
    return .command (reading.has "--verbose" || reading.has "-v") name words
  | [] => none

/-- What a command is asked to do. -/
inductive Request where
  | help
  | analyze (file : String) (language : Option String)
  | split (file : String) (apply dryRun : Bool) (language : Option String)
  | lint (files : List String) (fix suggestSplit : Bool) (language : Option String)

/-- The options of a command, help excepted. -/
def CommandName.rules : CommandName → List OptionRule
  | .analyze => [{ name := "--language", takesValue := true }]
  | .split =>
    [{ name := "--apply" }, { name := "--dry-run" }, { name := "--language", takesValue := true }]
  | .lint =>
    [{ name := "--fix" }, { name := "--suggest-split" }, { name := "--no-suggest-split" },
     { name := "--language", takesValue := true }]
  | .serve => []

/-- The reading of the words behind the name of a command. -/
def Request.ofWords? (name : CommandName) (words : List String) : Option Request := do
  let reading ← read? (name.rules ++ helpRules) (name != .serve) none words
  if reading.wantsHelp then return .help
  let language := reading.value? "--language"
  match name, reading.positionals with
  | .analyze, [file] => return .analyze file language
  | .split, [file] =>
    return .split file (reading.has "--apply") (reading.has "--dry-run") language
  | .lint, file :: files =>
    let suggest := reading.last? ["--suggest-split", "--no-suggest-split"]
    return .lint (file :: files) (reading.has "--fix") (suggest == some "--suggest-split") language
  | _, _ => none

end ClientBoundary
