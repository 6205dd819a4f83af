import Std.Data.HashMap
import ClientBoundary.Terminal.Handler.Expression
import ClientBoundary.Terminal.Handler.Token

/-!
# Reading tokens

A reader looks at the tokens from a position on. It finds something and stops behind it, misses, or
refuses the whole text with a complaint. Alternatives are ordered: the first that finds something
counts, and a refusal ends everything. What a rule of the grammar found at a position is kept, so
that it is read there only once.

## Main declarations

* `Rule`: the rules of the grammar.
* `Reader`: a reader.
* `Reader.orElse`, `Reader.many`, `Reader.ahead`, `Reader.notAhead`, `Reader.attempt`: readers made
  of readers.
* `Reader.remember`: keeps what a rule finds.
-/

namespace ClientBoundary.Terminal.Handler

/-- The rules of the grammar. -/
inductive Rule where
  | whole | expressions | expression | plainExpression | yielded | starExpressions
  | starExpression | starNamed | assignment | named | wrongNamed | disjunction | conjunction
  | inversion | comparison | bitOr | bitXor | bitAnd | shift | sum | term | factor | power
  | awaited | primary | atom | strings | group | tuple | generator | dictionary | set
  | dictionaryOf | setOf | clauses | arguments | arg | args | starred | lambda | wrongComprehension
  deriving DecidableEq, Hashable, Repr

/-- The number of rules. -/
def ruleCount : Nat := 41

/-- What is read: the tokens, why there are no more, and what is wrong with an expression inside a
string. -/
structure Source where
  lexemes : Array Lexeme
  ending : Ending
  complain : List Char → Option String

/-- What a reader found. -/
inductive Finding (α : Type) where
  /-- Something, and the position behind it. -/
  | found (a : α) (position : Nat)
  | missing
  | refused (complaint : String)

/-- What is kept while reading: what the rules found, and the furthest token looked at. -/
structure Progress where
  kept : Std.HashMap (Rule × Nat) (Option (Expression × Nat)) := {}
  furthest : Nat := 0

/-- A reader: it may explain faults or not, and starts at a position. -/
def Reader (α : Type) : Type :=
  Source → (explaining : Bool) → (position : Nat) → Progress → Finding α × Progress

namespace Reader

variable {α β : Type}

/-- Finds a value without looking at a token. -/
def succeed (a : α) : Reader α :=
  fun _ _ position progress ↦ (.found a position, progress)

/-- Goes on with what has been found. -/
def andThen (p : Reader α) (next : α → Reader β) : Reader β :=
  fun source explaining position progress ↦
    match p source explaining position progress with
    | (.found a position, progress) => next a source explaining position progress
    | (.missing, progress) => (.missing, progress)
    | (.refused complaint, progress) => (.refused complaint, progress)

instance : Monad Reader where
  pure := succeed
  bind := andThen

/-- Finds nothing. -/
def miss : Reader α :=
  fun _ _ _ progress ↦ (.missing, progress)

/-- Refuses the text. -/
def refuse (complaint : String) : Reader α :=
  fun _ _ _ progress ↦ (.refused complaint, progress)

/-- Goes on with what `p` finds, and takes the other way only if `p` misses. -/
def attempt (p : Reader α) (next : α → Reader β) (otherwise : Reader β) : Reader β :=
  fun source explaining position progress ↦
    match p source explaining position progress with
    | (.found a position, progress) => next a source explaining position progress
    | (.missing, progress) => otherwise source explaining position progress
    | (.refused complaint, progress) => (.refused complaint, progress)

/-- The first of two readers that finds something. -/
def orElse (p : Reader α) (q : Unit → Reader α) : Reader α :=
  attempt p succeed (q ())

instance : OrElse (Reader α) where
  orElse := orElse

/-- What `p` finds, if anything. -/
def optional (p : Reader α) : Reader (Option α) :=
  attempt p (fun a ↦ succeed (some a)) (succeed none)

/-- Looks ahead: finds something if `p` does, and stays where it is. -/
def ahead (p : Reader α) : Reader Unit :=
  fun source explaining position progress ↦
    match p source explaining position progress with
    | (.found _ _, progress) => (.found () position, progress)
    | (.missing, progress) => (.missing, progress)
    | (.refused complaint, progress) => (.refused complaint, progress)

/-- Looks ahead: finds something if `p` does not, and stays where it is. -/
def notAhead (p : Reader α) : Reader Unit :=
  fun source explaining position progress ↦
    match p source explaining position progress with
    | (.found _ _, progress) => (.missing, progress)
    | (.missing, progress) => (.found () position, progress)
    | (.refused complaint, progress) => (.refused complaint, progress)

/-- Reads `p` as often as it finds something, at most `fuel` times. -/
def manyUpTo (p : Reader α) : (fuel : Nat) → Reader (List α)
  | 0 => succeed []
  | fuel + 1 =>
    attempt p (fun a ↦ do return a :: (← manyUpTo p fuel)) (succeed [])

/-- Reads `p` as often as it finds something. -/
def many (p : Reader α) : Reader (List α) :=
  fun source ↦ manyUpTo p (source.lexemes.size + 1) source

/-- Extends what has been found as often as possible. -/
def extendUpTo (step : α → Reader α) : (fuel : Nat) → α → Reader α
  | 0, a => succeed a
  | fuel + 1, a => attempt (step a) (extendUpTo step fuel) (succeed a)

/-- Extends what has been found as often as possible. -/
def extend (step : α → Reader α) (a : α) : Reader α :=
  fun source ↦ extendUpTo step (source.lexemes.size + 1) a source

/-- A reader that counts only where faults are explained. -/
def explained (p : Reader α) : Reader α :=
  fun source explaining position progress ↦
    if explaining then p source explaining position progress else (.missing, progress)

/-- Reads without explaining faults. -/
def unexplained (p : Reader α) : Reader α :=
  fun source _ position progress ↦ p source false position progress

/-- The token at the position; a text that ends before it is refused. -/
def peek : Reader Lexeme :=
  fun source _ position progress ↦
    match source.lexemes[position]? with
    | some lexeme =>
      (.found lexeme position, { progress with furthest := max progress.furthest position })
    | none =>
      match source.ending with
      | .complete => (.missing, progress)
      | .malformed message | .blocked message _ => (.refused message, progress)
      | .unclosed bracket _ => (.refused s!"'{bracket}' was never closed", progress)

/-- Reads a token that `pick` accepts. -/
def token (pick : Token → Option α) : Reader α :=
  fun source explaining position progress ↦
    match peek source explaining position progress with
    | (.found lexeme _, progress) =>
      match pick lexeme.token with
      | some a => (.found a (position + 1), progress)
      | none => (.missing, progress)
    | (.missing, progress) => (.missing, progress)
    | (.refused complaint, progress) => (.refused complaint, progress)

/-- The number of brackets that are open behind the last token. -/
def level : Reader Nat :=
  fun source _ position progress ↦
    (.found (((source.lexemes[position - 1]?).map (·.level)).getD 0) position, progress)

/-- What is wrong with an expression inside a string. -/
def complainer : Reader (List Char → Option String) :=
  fun source _ position progress ↦ (.found source.complain position, progress)

/-- Reads a rule, or takes what it found here before. -/
def remember (rule : Rule) (p : Reader Expression) : Reader Expression :=
  fun source explaining position progress ↦
    match progress.kept[(rule, position)]? with
    | some (some (e, next)) => (.found e next, progress)
    | some none => (.missing, progress)
    | none =>
      match p source explaining position progress with
      | (.found e next, progress) =>
        (.found e next,
          { progress with kept := progress.kept.insert (rule, position) (some (e, next)) })
      | (.missing, progress) =>
        (.missing, { progress with kept := progress.kept.insert (rule, position) none })
      | (.refused complaint, progress) => (.refused complaint, progress)

end Reader

end ClientBoundary.Terminal.Handler
