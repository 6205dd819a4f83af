/-!
# Expressions of handler parameters

An expression is kept as far as it matters: whether it is made of literals only, whether its parts
can be members of a set or keys of a dictionary, and what it is called in a complaint.

## Main declarations

* `Expression`: an expression that has been read.
* `Expression.label`: its name in complaints.
* `Expression.wrongTarget?`: the part of it that nothing can be assigned to.
* `Expression.value`: its value, if it is made of literals.
-/

namespace ClientBoundary.Terminal.Handler

/-- An expression that has been read. -/
inductive Expression where
  /-- A constant with a name of its own. -/
  | constant (label : String)
  | number (imaginary : Bool)
  | text
  | name (text : String)
  | tuple (items : List Expression)
  | set (items : List Expression)
  /-- A dictionary: its keys and values in turn, `absent` for the key of an unpacked one. -/
  | dictionary (entries : List Expression)
  | absent
  | starred (item : Expression)
  | attribute
  /-- A call, with whether it has no arguments. -/
  | call (function : Expression) (plain : Bool)
  /-- Arguments of a call: how many there are, and whether a dictionary is unpacked among them. -/
  | arguments (count : Nat) (unpacks : Bool)
  /-- A plus or minus sign before an expression. -/
  | signed (operand : Expression)
  /-- A sum or difference. -/
  | sum (left right : Expression)
  /-- A comparison, with whether its first operator tests for membership. -/
  | comparison (left : Expression) (membership : Bool)
  | other (label : String)
  deriving Inhabited, Repr

namespace Expression

/-- The name of an expression in complaints. -/
def label : Expression → String
  | .constant label | .other label => label
  | .number _ | .text => "literal"
  | .name _ => "name"
  | .tuple _ => "tuple"
  | .set _ => "set display"
  | .dictionary _ => "dict literal"
  | .starred _ => "starred"
  | .attribute => "attribute"
  | .call .. => "function call"
  | .signed _ | .sum .. => "expression"
  | .comparison .. => "comparison"
  | .absent | .arguments .. => "expression"

mutual

/-- The part of an expression before `in` that nothing can be assigned to. -/
def wrongTarget? : Expression → Option Expression
  | .name _ | .attribute => none
  | .starred item => item.wrongTarget?
  | .tuple items => firstWrongTarget? items
  | .comparison left membership => if membership then left.wrongTarget? else none
  | e => some e

/-- The first part of some expressions that nothing can be assigned to. -/
def firstWrongTarget? : List Expression → Option Expression
  | [] => none
  | item :: items => (wrongTarget? item).or (firstWrongTarget? items)

end

/-- Whether something can be assigned to an expression. -/
def isTarget (e : Expression) : Bool :=
  match e with
  | .comparison .. => false
  | e => e.wrongTarget?.isNone

/-- Whether an expression is the name of a statement that takes parentheses today. -/
def isLegacy : Expression → Bool
  | .name word => word == "print" || word == "exec"
  | _ => false

/-- The value of an expression as far as it matters: whether it can be a member of a set, or the
kind of value in it that cannot. -/
inductive Value where
  | plain
  | unhashable (kind : String)
  deriving DecidableEq, Repr

/-- Why an expression has no value. -/
inductive Refusal where
  | notLiteral
  | unpacking
  | unhashable (kind : String)
  deriving DecidableEq, Repr

/-- Requires that a value can be a member of a set. -/
def Value.requireHash : Value → Except Refusal Unit
  | .plain => .ok ()
  | .unhashable kind => .error (.unhashable kind)

mutual

/-- The value of an expression made of literals. -/
def value : Expression → Except Refusal Value
  | .constant _ | .number _ | .text => .ok .plain
  | .signed (.number _) => .ok .plain
  | .sum (.number false) (.number true) | .sum (.signed (.number false)) (.number true) =>
    .ok .plain
  | .tuple items => tupleValue items
  | .set items => do
    setItems items
    return .unhashable "set"
  | .dictionary entries => do
    dictionaryEntries entries
    return .unhashable "dict"
  | .call (.name "set") true => .ok (.unhashable "set")
  | .absent => .error .unpacking
  | _ => .error .notLiteral

/-- The value of a tuple: the first of its items that cannot be a member of a set spoils it. -/
def tupleValue : List Expression → Except Refusal Value
  | [] => .ok .plain
  | item :: items => do
    let first ← value item
    let others ← tupleValue items
    return if first = .plain then others else first

/-- Evaluates the items of a set one after the other. -/
def setItems : List Expression → Except Refusal Unit
  | [] => .ok ()
  | item :: items => do
    (← value item).requireHash
    setItems items

/-- Evaluates the entries of a dictionary one after the other. -/
def dictionaryEntries : List Expression → Except Refusal Unit
  | key :: entry :: entries => do
    let key ← value key
    let _ ← value entry
    key.requireHash
    dictionaryEntries entries
  | _ => .ok ()

end

end Expression

end ClientBoundary.Terminal.Handler
