import ClientBoundary.Terminal.Handler.Word

/-!
# Parameters of functions

A function names its parameters: those given by position only stand before a slash, those given by
name only behind a star. A parameter may have a default, and all behind one with a default must have
one too, unless they are given by name only. A colon ends the parameters.

## Main declarations

* `Parameters.all`: the parameters of a function, `value` being the reader of a default.
-/

namespace ClientBoundary.Terminal.Handler.Parameters

open Reader

variable (value : Reader Expression)

/-- The end of a parameter: a comma, or the colon behind it. -/
def close : Reader Unit :=
  symbol "," <|> ahead (symbol ":")

/-- The default of a parameter. -/
def default : Reader Unit :=
  (do
    symbol "="
    let _ ← value) <|>
  explained (do
    symbol "="
    ahead (oneOf [")", ","])
    refuse "expected default value expression")

/-- A parameter without a default. -/
def bare : Reader Unit := do
  let _ ← name
  close

/-- A parameter with a default. -/
def defaulted : Reader Unit := do
  let _ ← name
  default value
  close

/-- A parameter with or without a default. -/
def either : Reader Unit := do
  let _ ← name
  let _ ← optional (default value)
  close

/-- One or more of something. -/
def some (p : Reader Unit) : Reader Unit := do
  p
  let _ ← many p

/-- Any number of something. -/
def any (p : Reader Unit) : Reader Unit := do
  let _ ← many p

/-- Parameters without defaults and the slash behind them. -/
def bareSlash : Reader Unit := do
  some bare
  symbol "/"
  close

/-- Parameters, the last with defaults, and the slash behind them. -/
def defaultedSlash : Reader Unit := do
  any bare
  some (defaulted value)
  symbol "/"
  close

/-- Parameters and the slash behind them. -/
def slash : Reader Unit :=
  bareSlash <|> defaultedSlash value

/-- Refuses what must not follow two stars. -/
def wrongNamed : Reader Unit :=
  attempt
    (do
      symbol "**"
      let _ ← name
      symbol "=")
    (fun _ ↦ refuse "var-keyword argument cannot have default value") <|
  do
    symbol "**"
    let _ ← name
    symbol ","
    (do let _ ← name) <|> (do let _ ← oneOf ["*", "**", "/"])
    refuse "arguments cannot follow var-keyword argument"

/-- The parameter that takes all other named arguments. -/
def named : Reader Unit :=
  explained wrongNamed <|> (do
    symbol "**"
    bare)

/-- Refuses what must not follow a star. -/
def wrongStar : Reader Unit :=
  attempt
    (do
      symbol "*"
      symbol ":" <|> (do
        symbol ","
        symbol ":" <|> symbol "**"))
    (fun _ ↦ refuse "named arguments must follow bare *") <|
  attempt
    (do
      symbol "*"
      let _ ← name
      symbol "=")
    (fun _ ↦ refuse "var-positional argument cannot have default value") <|
  do
    symbol "*"
    bare <|> symbol ","
    any (either value)
    symbol "*"
    bare <|> symbol ","
    refuse "* argument may appear only once"

/-- The parameters from a star on. -/
def star : Reader Unit :=
  explained (wrongStar value) <|>
  (do
    symbol "*"
    bare
    any (either value)
    let _ ← optional named) <|>
  (do
    symbol "*"
    symbol ","
    some (either value)
    let _ ← optional named) <|>
  named

/-- Refuses faulty orders of parameters. -/
def wrongOrder : Reader Unit :=
  attempt
    (do
      any bare
      defaultedSlash value <|> some (defaulted value)
      bare)
    (fun _ ↦ refuse "non-default argument follows default argument") <|
  attempt
    (do
      any bare
      symbol "("
      let _ ← separated name
      let _ ← optional (symbol ",")
      symbol ")")
    (fun _ ↦ refuse "Lambda expression parameters cannot be parenthesized") <|
  attempt
    (do
      symbol "/"
      symbol ",")
    (fun _ ↦ refuse "at least one argument must precede /") <|
  attempt
    (do
      slash value
      any (either value)
      symbol "/")
    (fun _ ↦ refuse "/ may appear only once") <|
  attempt
    (do
      let _ ← optional (slash value)
      any (either value)
      symbol "*"
      symbol "," <|> bare
      any (either value)
      symbol "/")
    (fun _ ↦ refuse "/ must be ahead of *") <|
  do
    some (either value)
    symbol "/"
    symbol "*"
    refuse "expected comma between / and *"

/-- The parameters of a function. -/
def all : Reader Unit :=
  let rest : Reader Unit := do
    any (defaulted value)
    let _ ← optional (star value)
  explained (wrongOrder value) <|>
  (do
    bareSlash
    any bare
    rest) <|>
  (do
    defaultedSlash value
    rest) <|>
  (do
    some bare
    rest) <|>
  (do
    some (defaulted value)
    let _ ← optional (star value)) <|>
  star value

end ClientBoundary.Terminal.Handler.Parameters
