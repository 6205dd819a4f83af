import ClientBoundary.Terminal.Handler.Grammar
import ClientBoundary.Text.Blank
import ClientBoundary.Text.Quoted
import ClientBoundary.Text.Word

/-!
# Handlers in messages

A tag whose name starts with an at sign belongs to a handler. What stands behind its equals sign
names the handler, gives it parameters in parentheses, or both; the parameters are written as
literals.

## Main declarations

* `Handler.Fault`: what can be wrong with the parameters of a handler.
* `Handler.check`: reads the parameters of a handler.
-/

namespace ClientBoundary.Terminal.Handler

open Text

/-- What can be wrong with the parameters of a handler. -/
inductive Fault where
  /-- The text is no expression. -/
  | unreadable (text parameters complaint : String)
  /-- The expression has no value. -/
  | worthless (parameters : String) (refusal : Expression.Refusal)
  deriving DecidableEq, Repr

/-- The wording of a refusal. -/
def Expression.Refusal.message : Expression.Refusal → String
  | .notLiteral => "malformed node or string"
  | .unpacking => "malformed node or string: None"
  | .unhashable kind => s!"unhashable type: '{kind}'"

/-- The wording of a fault. -/
def Fault.message : Fault → String
  | .unreadable text parameters complaint =>
    s!"error parsing {quoted text} in {quoted parameters}; {complaint}"
  | .worthless parameters refusal => s!"error parsing {quoted parameters}; {refusal.message}"

/-- The text that is read as an expression: without the name of the handler if nothing but
parentheses follows it. -/
def parameterText (parameters : String) : String :=
  let text := strip parameters
  let cs := text.toList
  match cs.dropWhile fun c ↦ isWordChar c || c == '.' with
  | [] => "()"
  | '(' :: rest =>
    if rest.getLast? = some ')' ∧ !rest.contains '\n' then String.ofList ('(' :: rest) else text
  | _ => text

/-- Reads the parameters of a handler. There are four kinds of quotes, so expressions inside strings
are at most five deep. -/
def check (parameters : String) : Except Fault Unit :=
  if parameters = "" then .ok ()
  else
    let text := parameterText parameters
    match readExpression 5 text.toList with
    | .error complaint => .error (.unreadable text parameters complaint)
    | .ok e =>
      match e.value with
      | .ok _ => .ok ()
      | .error refusal => .error (.worthless parameters refusal)

end ClientBoundary.Terminal.Handler
