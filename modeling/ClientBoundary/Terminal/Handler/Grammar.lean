import ClientBoundary.Terminal.Handler.Formatted
import ClientBoundary.Terminal.Handler.Parameters

/-!
# The grammar of handler parameters

The rules of the grammar, each a reader that refers to the others. A text is read twice if it does
not fit: the second time some rules look for common faults and refuse the text with an explanation.
A malformed token anywhere in the text takes precedence over what the rules complain about.

## Main declarations

* `Rule.body`: the rules.
* `readExpression`: the expression that a text stands for, or the complaint about it.
-/

namespace ClientBoundary.Terminal.Handler

namespace Reader

/-- Operands joined by operators. -/
def chain (operand : Reader Expression) (operators : List String)
    (join : String → Expression → Expression → Expression) : Reader Expression := do
  extend (fun left ↦ do
    let operator ← oneOf operators
    return join operator left (← operand)) (← operand)

/-- Operands joined by a keyword. -/
def wordChain (operand : Reader Expression) (word : String) : Reader Expression := do
  let first ← operand
  match ← many (do keyword word; operand) with
  | [] => return first
  | _ => return .other "expression"

/-- Something with commas behind each of its items: a tuple, unless it is one item without. -/
def tupleOrItem (p : Reader Expression) : Reader Expression := do
  let items ← separated p
  match items, ← optional (symbol ",") with
  | [item], none => return item
  | items, _ => return .tuple items

/-- An operator of a comparison, with whether it tests for membership. -/
def comparator : Reader Bool :=
  (do
    let _ ← oneOf ["==", "!=", "<=", "<", ">=", ">"]
    return false) <|>
  (do
    keyword "not"
    keyword "in"
    return false) <|>
  (do
    keyword "in"
    return true) <|>
  (do
    keyword "is"
    let _ ← optional (keyword "not")
    return false)

/-- Checks strings that stand side by side: what is wrong with the first that is wrong. A formatted
string is looked into only after its kind. -/
def stringsComplaint? (complain : List Char → Option String) :
    (kind : Option Bool) → List Quotation → Option String
  | _, [] => none
  | kind, q :: qs =>
    let before :=
      if q.bytes then bytesComplaint? q.raw q.body
      else if q.formatted || q.raw then none
      else textComplaint? q.body
    let mixed :=
      if kind.any (· != q.bytes) then some "cannot mix bytes and nonbytes literals" else none
    let after := if q.formatted then formattedComplaint? complain q.raw q.body else none
    before.or (mixed.or (after.or (stringsComplaint? complain (some q.bytes) qs)))

/-- The complaint about an equals sign where a comparison may be meant. -/
def equalsComplaint : String :=
  "invalid syntax. Maybe you meant '==' or ':=' instead of '='?"

/-- The complaint about a generator among other arguments. -/
def generatorComplaint : String :=
  "Generator expression must be parenthesized"

end Reader

open Reader

/-- The complaint about a decimal integer of too many digits. -/
def digitsComplaint (digits : Nat) : String :=
  s!"Exceeds the limit (4300 digits) for integer string conversion: value has {digits} digits; " ++
    "use sys.set_int_max_str_digits() to increase the limit - Consider hexadecimal for huge " ++
    "integer literals to avoid decimal conversion limits."

/-- Whether what a rule finds is kept. -/
def Rule.isKept : Rule → Bool
  | .expression | .starExpression | .wrongNamed | .disjunction | .conjunction | .inversion
  | .bitOr | .bitXor | .bitAnd | .shift | .sum | .term | .factor | .awaited | .primary | .strings
  | .arguments => true
  | _ => false

section Rules

variable (call : Rule → Reader Expression)

/-- A conditional expression, or an expression without a condition, or a function. -/
def condition : Reader Expression :=
  (do
    let _ ← call .disjunction
    keyword "if"
    let _ ← call .disjunction
    keyword "else"
    let _ ← call .expression
    return .other "conditional expression") <|>
  call .disjunction <|>
  call .lambda

/-- Refuses two expressions side by side and conditions without `else`. -/
def wrongExpression : Reader Expression :=
  attempt
    (do
      notAhead ((do let _ ← name; let _ ← quotation) <|> softKeyword)
      let first ← call .disjunction
      let _ ← call .plainExpression
      return first)
    (fun first ↦ do
      if first.isLegacy || (← level) == 0 then miss
      else refuse "invalid syntax. Perhaps you forgot a comma?")
    (do
      let _ ← call .disjunction
      keyword "if"
      let _ ← call .disjunction
      notAhead (keyword "else" <|> symbol ":")
      refuse "expected 'else' after 'if' expression")

/-- Refuses statements of the past that take parentheses today. -/
def wrongStatement : Reader Expression := do
  let word ← name
  notAhead (symbol "(")
  let _ ← call .starExpressions
  if (Expression.name word).isLegacy then
    refuse s!"Missing parentheses in call to '{word}'. Did you mean {word}(...)?"
  else miss

/-- Refuses assignments to what is no name. -/
def wrongAssignment : Reader Expression :=
  let noMore : Reader Unit := notAhead (oneOf ["=", ":="])
  attempt
    (do
      let target ← call .expression
      symbol ":="
      let _ ← call .expression
      return target)
    (fun target ↦ refuse s!"cannot use assignment expressions with {target.label}")
    (attempt
      (do
        let _ ← name
        symbol "="
        let _ ← call .bitOr
        noMore)
      (fun _ ↦ refuse equalsComplaint)
      (do
        notAhead (call .tuple <|> call .generator <|>
          (do
            keyword "True" <|> keyword "None" <|> keyword "False"
            return .absent))
        let target ← call .bitOr
        symbol "="
        let _ ← call .bitOr
        noMore
        refuse s!"cannot assign to {target.label} here. Maybe you meant '==' instead of '='?"))

/-- An assignment, or an expression that none follows. -/
def assignmentOrExpression : Reader Expression :=
  call .assignment <|> (do
    let e ← call .expression
    notAhead (symbol ":=")
    return e)

/-- Refuses stars in parentheses. -/
def wrongGroup : Reader Expression :=
  attempt
    (do
      symbol "("
      let _ ← call .starred
      symbol ")")
    (fun _ ↦ refuse "cannot use starred expression here")
    (do
      symbol "("
      symbol "**"
      let _ ← call .expression
      symbol ")"
      refuse "cannot use double starred expression here")

/-- Items with commas between them and possibly behind them. -/
def starNamedItems : Reader (List Expression) := do
  let items ← separated (call .starNamed)
  let _ ← optional (symbol ",")
  return items

/-- A key and a value. -/
def entry : Reader (List Expression) := do
  let key ← call .expression
  symbol ":"
  return [key, ← call .expression]

/-- A key and a value, or an unpacked dictionary. -/
def entryOrUnpacking : Reader (List Expression) :=
  (do
    symbol "**"
    return [.absent, ← call .bitOr]) <|>
  entry call

/-- Refuses faulty values behind a key. -/
def wrongValue : Reader Expression :=
  attempt
    (do
      let _ ← call .expression
      symbol ":"
      symbol "*"
      let _ ← call .bitOr)
    (fun _ ↦ refuse "cannot use a starred expression in a dictionary value")
    (do
      let _ ← call .expression
      symbol ":"
      ahead (oneOf ["\x7d", ","])
      refuse "expression expected after dictionary key and ':'")

/-- Refuses a key without a value, or with a faulty one. -/
def wrongEntry : Reader Expression :=
  attempt
    (do
      let _ ← call .expression
      notAhead (symbol ":"))
    (fun _ ↦ refuse "':' expected after dictionary key")
    (wrongValue call)

/-- Refuses faulty entries of a dictionary. -/
def wrongEntries : Reader Expression :=
  (do
    let _ ← separated (entryOrUnpacking call)
    symbol ","
    wrongEntry call) <|>
  wrongValue call

/-- One `for` of a comprehension, with its conditions. -/
def clause : Reader Unit :=
  attempt
    (do
      let _ ← optional (keyword "async")
      keyword "for"
      let target ← tupleOrItem
        ((do
          symbol "*"
          return .starred (← call .primary)) <|>
        call .primary)
      keyword "in"
      if target.isTarget then pure () else miss)
    (fun _ ↦ do
      let _ ← call .disjunction
      let _ ← many (do
        keyword "if"
        call .disjunction))
    (explained do
      let _ ← optional (keyword "async")
      keyword "for"
      let target ← call .starExpressions
      match target.wrongTarget? with
      | some part => refuse s!"cannot assign to {part.label}"
      | none => miss)

/-- Refuses faulty named arguments. -/
def wrongNamedArgument : Reader Expression :=
  let constant : Reader String :=
    token fun
      | .name s => if s = "True" ∨ s = "False" ∨ s = "None" then some s else none
      | _ => none
  attempt
    (do
      let word ← constant
      symbol "="
      return word)
    (fun word ↦ refuse s!"cannot assign to {word}") <|
  attempt
    (do
      let _ ← name
      symbol "="
      let _ ← call .expression
      call .clauses)
    (fun _ ↦ refuse equalsComplaint) <|
  do
    notAhead (do
      let _ ← name
      symbol "=")
    let _ ← call .expression
    symbol "="
    refuse "expression cannot contain assignment, perhaps you meant \"==\"?"

/-- A named argument, or one with stars; gives whether a dictionary is unpacked. -/
def namedArgument (stars : String) : Reader Bool :=
  (do
    let _ ← explained (wrongNamedArgument call)
    return false) <|>
  (do
    let _ ← name
    symbol "="
    let _ ← call .expression
    return false) <|>
  (if stars = "**" then do
    symbol "**"
    let _ ← call .expression
    return true
  else do
    let _ ← call .starred
    return false)

/-- Named arguments; gives how many there are and whether a dictionary is unpacked among them. -/
def namedArguments : Reader (List Bool) :=
  (do
    let single ← separated (namedArgument call "*")
    symbol ","
    return single ++ (← separated (namedArgument call "**"))) <|>
  separated (namedArgument call "*") <|>
  separated (namedArgument call "**")

/-- Refuses faulty arguments. -/
def wrongArguments : Reader Expression :=
  let generator : Reader Unit := do
    let _ ← call .expression
    let _ ← call .clauses
  attempt
    (do
      let _ ←
        (do
          let _ ← separated (call .arg)
          symbol ","
          namedArguments call) <|>
        namedArguments call
      symbol ","
      separated (do
        let _ ← call .starred
        notAhead (symbol "=")))
    (fun _ ↦ refuse "iterable argument unpacking follows keyword argument unpacking") <|
  attempt
    (do
      generator
      symbol ","
      optional ((do let _ ← call .args) <|> generator))
    (fun _ ↦ refuse generatorComplaint) <|
  attempt
    (do
      let _ ← name
      symbol "="
      generator)
    (fun _ ↦ refuse equalsComplaint) <|
  attempt
    (do
      let e ← call .args
      let _ ← call .clauses
      return e)
    (fun e ↦
      match e with
      | .arguments count _ => if 1 < count then refuse generatorComplaint else miss
      | _ => miss) <|
  attempt
    (do
      let _ ← call .args
      symbol ","
      generator)
    (fun _ ↦ refuse generatorComplaint) <|
  do
    let e ← call .args
    symbol ","
    let _ ← call .args
    match e with
    | .arguments _ true => refuse "positional argument follows keyword argument unpacking"
    | _ => refuse "positional argument follows keyword argument"

/-- What follows a primary expression and extends it. -/
def suffix (e : Expression) : Reader Expression :=
  (do
    symbol "."
    let _ ← name
    return .attribute) <|>
  (do
    let _ ← call .generator
    return .call e false) <|>
  (do
    symbol "("
    let given ← optional (call .arguments)
    symbol ")"
    return .call e given.isNone)

/-- An expression without operators. -/
def simple : Reader Expression :=
  (do return .name (← name)) <|>
  (do keyword "True"; return .constant "True") <|>
  (do keyword "False"; return .constant "False") <|>
  (do keyword "None"; return .constant "None") <|>
  (do ahead quotation; call .strings) <|>
  attempt
    (token fun
      | .number imaginary digits => some (imaginary, digits)
      | _ => none)
    (fun (imaginary, digits) ↦
      if 4300 < digits then refuse (digitsComplaint digits)
      else return .number imaginary)
    ((do
      ahead (symbol "(")
      call .tuple <|> call .group <|> call .generator) <|>
    (do
      ahead (symbol "\x7b")
      call .dictionary <|> call .set <|> call .dictionaryOf <|> call .setOf) <|>
    (do
      symbol "..."
      return .constant "ellipsis"))

/-- The rules of the grammar, `call` being the reader of a rule. -/
def Rule.body : Rule → Reader Expression
  | .whole => do
    let e ← call .expressions
    let _ ← many (token fun | .newline => some () | _ => none)
    token fun | .finish => some () | _ => none
    return e
  | .expressions => tupleOrItem (call .expression)
  | .expression =>
    explained (wrongExpression call) <|> explained (wrongStatement call) <|> condition call
  | .plainExpression => unexplained (condition call)
  | .yielded => do
    keyword "yield"
    (do
      keyword "from"
      let _ ← call .expression) <|>
    (do let _ ← optional (call .starExpressions))
    return .other "yield expression"
  | .starExpressions => tupleOrItem (call .starExpression)
  | .starExpression =>
    (do
      symbol "*"
      return .starred (← call .bitOr)) <|>
    call .expression
  | .starNamed =>
    (do
      symbol "*"
      return .starred (← call .bitOr)) <|>
    call .named
  | .assignment => do
    let _ ← name
    symbol ":="
    let _ ← call .expression
    return .other "named expression"
  | .named =>
    call .assignment <|> explained (call .wrongNamed) <|> (do
      let e ← call .expression
      notAhead (symbol ":=")
      return e)
  | .wrongNamed => wrongAssignment call
  | .disjunction => wordChain (call .conjunction) "or"
  | .conjunction => wordChain (call .inversion) "and"
  | .inversion =>
    (do
      keyword "not"
      let _ ← call .inversion
      return .other "expression") <|>
    call .comparison
  | .comparison => do
    let left ← call .bitOr
    match ← many (do
      let membership ← comparator
      let _ ← call .bitOr
      return membership) with
    | [] => return left
    | membership :: _ => return .comparison left membership
  | .bitOr => chain (call .bitXor) ["|"] fun _ _ _ ↦ .other "expression"
  | .bitXor => chain (call .bitAnd) ["^"] fun _ _ _ ↦ .other "expression"
  | .bitAnd => chain (call .shift) ["&"] fun _ _ _ ↦ .other "expression"
  | .shift => chain (call .sum) ["<<", ">>"] fun _ _ _ ↦ .other "expression"
  | .sum => chain (call .term) ["+", "-"] fun _ left right ↦ .sum left right
  | .term => chain (call .factor) ["*", "/", "//", "%", "@"] fun _ _ _ ↦ .other "expression"
  | .factor =>
    (do
      let _ ← oneOf ["+", "-"]
      return .signed (← call .factor)) <|>
    (do
      symbol "~"
      let _ ← call .factor
      return .other "expression") <|>
    call .power
  | .power => do
    let base ← call .awaited
    match ← optional (do
      symbol "**"
      call .factor) with
    | some _ => return .other "expression"
    | none => return base
  | .awaited =>
    (do
      keyword "await"
      let _ ← call .primary
      return .other "await expression") <|>
    call .primary
  | .primary => do extend (suffix call) (← call .atom)
  | .atom => simple call
  | .strings => do
    let first ← quotation
    let quotations := first :: (← many quotation)
    match stringsComplaint? (← complainer) none quotations with
    | some complaint => refuse complaint
    | none =>
      return if quotations.any (·.formatted) then .other "f-string expression" else .text
  | .group =>
    (do
      symbol "("
      let e ← call .yielded <|> call .named
      symbol ")"
      return e) <|>
    explained (wrongGroup call)
  | .tuple => do
    symbol "("
    let items ← optional (do
      let first ← call .starNamed
      symbol ","
      return first :: ((← optional (starNamedItems call)).getD []))
    symbol ")"
    return .tuple (items.getD [])
  | .generator =>
    (do
      symbol "("
      let _ ← assignmentOrExpression call
      let _ ← call .clauses
      symbol ")"
      return .other "generator expression") <|>
    explained (call .wrongComprehension)
  | .dictionary =>
    (do
      symbol "\x7b"
      let entries ← optional (do
        let entries ← separated (entryOrUnpacking call)
        let _ ← optional (symbol ",")
        return entries)
      symbol "\x7d"
      return .dictionary (entries.getD []).flatten) <|>
    (do
      symbol "\x7b"
      let e ← wrongEntries call
      symbol "\x7d"
      return e)
  | .set => do
    symbol "\x7b"
    let items ← starNamedItems call
    symbol "\x7d"
    return .set items
  | .dictionaryOf =>
    (do
      symbol "\x7b"
      let _ ← entry call
      let _ ← call .clauses
      symbol "\x7d"
      return .other "dict comprehension") <|>
    explained (do
      symbol "\x7b"
      symbol "**"
      let _ ← call .bitOr
      let _ ← call .clauses
      symbol "\x7d"
      refuse "dict unpacking cannot be used in dict comprehension")
  | .setOf =>
    (do
      symbol "\x7b"
      let _ ← call .named
      let _ ← call .clauses
      symbol "\x7d"
      return .other "set comprehension") <|>
    explained (call .wrongComprehension)
  | .clauses => do
    clause call
    let _ ← many (clause call)
    return .absent
  | .arguments =>
    (do
      let e ← call .args
      let _ ← optional (symbol ",")
      ahead (symbol ")")
      return e) <|>
    explained (wrongArguments call)
  | .arg =>
    call .starred <|> (do
      let e ← assignmentOrExpression call
      notAhead (symbol "=")
      return e)
  | .args =>
    (do
      let plain ← separated (call .arg)
      let named ← optional (do
        symbol ","
        namedArguments call)
      let named := named.getD []
      return .arguments (plain.length + named.length) (named.contains true)) <|>
    (do
      let named ← namedArguments call
      return .arguments named.length (named.contains true))
  | .starred =>
    (do
      symbol "*"
      return .starred (← call .expression)) <|>
    (do
      symbol "*"
      refuse "Invalid star expression")
  | .lambda => do
    keyword "lambda"
    let _ ← optional (Parameters.all (call .expression))
    symbol ":"
    let _ ← call .expression
    return .other "lambda"
  | .wrongComprehension =>
    let complaint := "did you forget parentheses around the comprehension target?"
    attempt
      (do
        let _ ← oneOf ["(", "\x7b"]
        let _ ← call .starred
        call .clauses)
      (fun _ ↦ refuse "iterable unpacking cannot be used in comprehension")
      (attempt
        (do
          symbol "\x7b"
          let _ ← call .starNamed
          symbol ","
          let _ ← starNamedItems call
          call .clauses)
        (fun _ ↦ refuse complaint)
        (do
          symbol "\x7b"
          let _ ← call .starNamed
          symbol ","
          let _ ← call .clauses
          refuse complaint))

end Rules

/-- The reader of a rule that calls others at most `fuel` deep. -/
def Rule.reader : (fuel : Nat) → Rule → Reader Expression
  | 0, _ => miss
  | fuel + 1, rule =>
    let p := rule.body (Rule.reader fuel)
    if rule.isKept then remember rule p else p

/-- The complaint that is shown, given what the rules complain about and the line they looked at
last: malformed tokens come first. -/
def Source.complaint (source : Source) (line : Nat) (complaint : String) : String :=
  match source.ending with
  | .malformed message => message
  | .blocked _ (some (bracket, opened)) | .unclosed bracket opened =>
    if opened < line then s!"'{bracket}' was never closed" else complaint
  | _ => complaint

/-- The expression that tokens stand for, or the complaint about them. Between two tokens every
rule is called at most once inside itself. -/
def Source.read (source : Source) : Except String Expression :=
  let reader := Rule.reader (ruleCount * (source.lexemes.size + 2)) .whole
  let lexeme (position : Nat) : Option Lexeme := source.lexemes[position]?
  let line (position : Nat) : Nat := ((lexeme position).map (·.line)).getD 1
  match reader source false 0 {} with
  | (.found e _, _) => .ok e
  | (.refused complaint, progress) =>
    .error (source.complaint (line progress.furthest) complaint)
  | (.missing, progress) =>
    let last := progress.furthest
    match reader source true 0 { furthest := last } with
    | (.refused complaint, progress) =>
      .error (source.complaint (line progress.furthest) complaint)
    | (_, progress) =>
      if (lexeme last).any (·.token = .indent) then .error "unexpected indent"
      else .error (source.complaint (line progress.furthest) "invalid syntax")

/-- The expression that a text stands for, or the complaint about it; expressions inside strings are
read `depth` deep. -/
def readExpression : (depth : Nat) → List Char → Except String Expression
  | 0, _ => .ok .absent
  | depth + 1, text =>
    let complain (inner : List Char) : Option String :=
      match readExpression depth ('(' :: inner ++ [')']) with
      | .ok _ => none
      | .error complaint => some s!"f-string: {complaint}"
    let (lexemes, ending) := scan text
    Source.read ⟨lexemes.toArray, ending, complain⟩

end ClientBoundary.Terminal.Handler
