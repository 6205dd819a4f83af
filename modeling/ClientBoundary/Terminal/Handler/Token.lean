import ClientBoundary.Text.Hex
import ClientBoundary.Text.Printable
import ClientBoundary.Text.Word

/-!
# Tokens of handler parameters

The parameters of a handler are written as an expression, which is first cut into tokens: names,
numbers, strings and symbols. Line breaks count only outside brackets. Every token knows how many
brackets are open behind it and on which line it stands. The cutting ends at the end of the text, at
a token that is malformed, or inside brackets that nothing closes.

## Main declarations

* `Token`, `Lexeme`: a token and its surroundings.
* `Ending`: why there are no more tokens.
* `scan`: the tokens of a text.
-/

namespace ClientBoundary.Terminal.Handler

open Text

/-- A string between quotes: the letters before it and what stands inside. -/
structure Quotation where
  bytes : Bool
  raw : Bool
  formatted : Bool
  body : List Char
  deriving DecidableEq, Repr

/-- A token of an expression. -/
inductive Token where
  | name (text : String)
  /-- A number; `digits` counts the digits of a decimal integer and is zero for others. -/
  | number (imaginary : Bool) (digits : Nat)
  | string (quotation : Quotation)
  | symbol (text : String)
  | newline
  /-- Blanks at the beginning of a line that should have none. -/
  | indent
  | finish
  deriving DecidableEq, Repr

/-- A token with the number of brackets that are open behind it, and its line. -/
structure Lexeme where
  token : Token
  level : Nat
  line : Nat
  deriving DecidableEq, Repr

/-- Why there are no more tokens. -/
inductive Ending where
  | complete
  /-- A malformed token, which is reported even if another fault comes before it. -/
  | malformed (message : String)
  /-- A malformed token, which is reported only if it is reached, and the innermost open bracket
  with its line. -/
  | blocked (message : String) (opened : Option (Char × Nat))
  /-- The end of the text inside brackets, the innermost of which was opened on a line. -/
  | unclosed (bracket : Char) (line : Nat)
  deriving DecidableEq, Repr

/-- Whether a character can stand in a name, as far as the cutting is concerned. -/
def isNameChar (c : Char) : Bool :=
  c.isAlphanum || c == '_' || 0x80 ≤ c.toNat

/-- Whether a character can start a name, as far as the cutting is concerned. -/
def startsName (c : Char) : Bool :=
  c.isAlpha || c == '_' || 0x80 ≤ c.toNat

/-- The code point of a character as it is shown in messages. -/
def codePoint (c : Char) : String :=
  String.ofList ((hexDigits 4 c.toNat).map Char.toUpper)

/-- The complaint about a character that has no place in an expression. -/
def strangeCharacter (c : Char) : String :=
  if isPrintable c then s!"invalid character '{c}' (U+{codePoint c})"
  else s!"invalid non-printable character U+{codePoint c}"

/-- The first character of a name that is wrong there. -/
def wrongCharacter? : List Char → Option Char
  | [] => none
  | c :: cs => if startsIdentifier c then cs.find? (!continuesIdentifier ·) else some c

/-! ### Numbers -/

/-- What follows the digits of a decimal number, of which one has been read. Single underscores may
stand between digits. -/
def decimalTail : List Char → Except String (List Char)
  | [] => .ok []
  | '_' :: cs =>
    if cs.head?.any Char.isDigit then decimalTail cs else .error "invalid decimal literal"
  | c :: cs => if c.isDigit then decimalTail cs else .ok (c :: cs)

/-- What follows the digits of a number in another base, `ready` telling whether the last character
was a digit. -/
def basedTail (isBaseDigit : Char → Bool) (message : String) :
    (ready : Bool) → List Char → Except String (List Char)
  | ready, [] => if ready then .ok [] else .error message
  | ready, c :: cs =>
    if isBaseDigit c then basedTail isBaseDigit message true cs
    else if c = '_' ∧ cs.head?.any isBaseDigit then basedTail isBaseDigit message false cs
    else if c = '_' ∨ !ready then .error message
    else .ok (c :: cs)

/-- Whether a text starts with a keyword that may follow a number without a blank. -/
def startsKeyword (cs : List Char) : Bool :=
  (["and", "else", "for", "or", "not"].any fun word ↦
    word.toList.isPrefixOf cs && !(cs.drop word.length).head?.any isNameChar) ||
  (["if", "in", "is"].any fun word ↦ word.toList.isPrefixOf cs)

/-- Refuses an ASCII letter or digit directly behind a number. -/
def endNumber (kind : String) (imaginary : Bool) (cs : List Char) :
    Except String (Bool × List Char) :=
  if cs.head?.any (fun c ↦ c.isAlphanum || c == '_') && !startsKeyword cs then
    .error s!"invalid {kind} literal"
  else .ok (imaginary, cs)

/-- Reads the letter of an imaginary number, if there is one, and ends a number. -/
def endDecimal : List Char → Except String (Bool × List Char)
  | 'j' :: cs | 'J' :: cs => endNumber "imaginary" true cs
  | cs => endNumber "decimal" false cs

/-- Reads an exponent, if there is one, and ends a number. -/
def exponent (cs : List Char) : Except String (Bool × List Char) :=
  let digits (rest : List Char) : Except String (Bool × List Char) := do
    endDecimal (← decimalTail rest)
  match cs with
  | e :: c :: rest =>
    if e = 'e' ∨ e = 'E' then
      if c.isDigit then digits rest
      else if c = '+' ∨ c = '-' then
        if rest.head?.any Char.isDigit then digits rest else .error "invalid decimal literal"
      else endNumber "decimal" false cs
    else endDecimal cs
  | cs => endDecimal cs

/-- Reads a fraction, of which the point has been read. -/
def fraction (cs : List Char) : Except String (Bool × List Char) := do
  if cs.head?.any Char.isDigit then exponent (← decimalTail cs) else exponent cs

/-- Reads what follows the digits before the point of a decimal number. -/
def afterDigits : List Char → Except String (Bool × List Char)
  | '.' :: cs => fraction cs
  | cs => exponent cs

/-- Reads a number whose digits are of another base. -/
def basedNumber (kind : String) (isBaseDigit : Char → Bool) (cs : List Char) :
    Except String (Bool × List Char) :=
  match basedTail isBaseDigit s!"invalid {kind} literal" false cs with
  | .ok rest =>
    match rest with
    | c :: _ =>
      if c.isDigit then .error s!"invalid digit '{c}' in {kind} literal"
      else endNumber kind false rest
    | [] => endNumber kind false rest
  | .error message =>
    let rest := cs.dropWhile fun c ↦ isBaseDigit c
    let rest := if rest.head? = some '_' then rest.tail else rest
    match rest with
    | c :: _ =>
      if c.isDigit && !isBaseDigit c then .error s!"invalid digit '{c}' in {kind} literal"
      else .error message
    | [] => .error message

/-- Reads a number that starts with zero, of which the zero has been read. -/
def afterZero (cs : List Char) : Except String (Bool × List Char) := do
  match cs with
  | 'x' :: rest | 'X' :: rest => basedNumber "hexadecimal" (fun c ↦ (hexValue? c).isSome) rest
  | 'o' :: rest | 'O' :: rest => basedNumber "octal" (fun c ↦ '0' ≤ c && c ≤ '7') rest
  | 'b' :: rest | 'B' :: rest => basedNumber "binary" (fun c ↦ c == '0' || c == '1') rest
  | cs =>
    let rest ← decimalTail cs
    let digits := cs.take (cs.length - rest.length)
    if digits.any (fun c ↦ c != '0' && c != '_') &&
        !(rest.head?.any fun c ↦ ".eEjJ".toList.contains c) then
      .error ("leading zeros in decimal integer literals are not permitted; " ++
        "use an 0o prefix for octal integers")
    else afterDigits rest

/-- Reads a number that starts with a digit: whether it is imaginary, and what follows it. -/
def readDecimal : List Char → Except String (Bool × List Char)
  | '0' :: cs => afterZero cs
  | cs => do afterDigits (← decimalTail cs)

/-! ### Strings -/

/-- The number of lines that are begun in a text by line breaks with something behind them. -/
def linesBegun : List Char → Nat
  | [] => 0
  | c :: cs => (if c = '\n' ∧ cs ≠ [] then 1 else 0) + linesBegun cs

/-- The body of a string that ends at a quote on the same line, and what follows it. -/
def shortBody (quote : Char) : List Char → Option (List Char × List Char)
  | [] => none
  | '\\' :: c :: cs => (shortBody quote cs).map fun (body, rest) ↦ ('\\' :: c :: body, rest)
  | c :: cs =>
    if c = quote then some ([], cs)
    else if c = '\n' then none
    else (shortBody quote cs).map fun (body, rest) ↦ (c :: body, rest)

/-- The part of a text that a string without end takes up, up to the end of the line. -/
def openBody : List Char → List Char
  | [] => []
  | '\\' :: c :: cs => '\\' :: c :: openBody cs
  | c :: cs => if c = '\n' then [] else c :: openBody cs

/-- The body of a string that ends at three quotes, and what follows it. -/
def longBody (quote : Char) : List Char → Option (List Char × List Char)
  | [] => none
  | '\\' :: _ :: [] => none
  | '\\' :: c :: cs => (longBody quote cs).map fun (body, rest) ↦ ('\\' :: c :: body, rest)
  | c :: cs =>
    if c = quote ∧ cs.take 2 = [quote, quote] then some ([], cs.drop 2)
    else (longBody quote cs).map fun (body, rest) ↦ (c :: body, rest)

/-- Reads a string behind its first quote on a line: its body and what follows it. -/
def readString (quote : Char) (line : Nat) (cs : List Char) :
    Except String (List Char × List Char) :=
  if cs.take 2 = [quote, quote] then
    match longBody quote (cs.drop 2) with
    | some found => .ok found
    | none =>
      .error (s!"unterminated triple-quoted string literal " ++
        s!"(detected at line {line + linesBegun cs})")
  else
    match shortBody quote cs with
    | some found => .ok found
    | none =>
      .error s!"unterminated string literal (detected at line {line + linesBegun (openBody cs)})"

/-- The kind of string that letters before a quote announce. -/
def quotation? (letters : List Char) (body : List Char) : Option Quotation :=
  match String.ofList (letters.map Char.toLower) with
  | "" | "u" => some ⟨false, false, false, body⟩
  | "r" => some ⟨false, true, false, body⟩
  | "b" => some ⟨true, false, false, body⟩
  | "br" | "rb" => some ⟨true, true, false, body⟩
  | "f" => some ⟨false, false, true, body⟩
  | "fr" | "rf" => some ⟨false, true, true, body⟩
  | _ => none

/-! ### Symbols -/

/-- The symbols of more than one character, longer ones first. -/
def longSymbols : List String :=
  ["**=", "...", "//=", "<<=", ">>=", "!=", "%=", "&=", "**", "*=", "+=", "-=", "->", "//", "/=",
   ":=", "<<", "<=", "<>", "==", ">=", ">>", "@=", "^=", "|="]

/-- The symbol that a text starts with. -/
def symbolAt (c : Char) (cs : List Char) : String :=
  (longSymbols.find? fun s ↦ s.toList.isPrefixOf (c :: cs)).getD (String.ofList [c])

/-- The bracket that an opening bracket needs. -/
def partner : Char → Char
  | '(' => ')'
  | '{' => '}'
  | _ => ']'

/-! ### Cutting -/

/-- Where the cutting stands. -/
structure Place where
  /-- The open brackets and their lines, the innermost first. -/
  opened : List (Char × Nat) := []
  line : Nat := 1
  /-- Whether the line has no token yet. -/
  fresh : Bool := true

/-- A token at a place. -/
def Place.lexeme (place : Place) (token : Token) : Lexeme :=
  ⟨token, place.opened.length, place.line⟩

/-- The place behind some characters on the same or later lines. -/
def Place.past (place : Place) (before rest : List Char) : Place :=
  { place with
    line := place.line + linesBegun (before ++ rest) - linesBegun rest
    fresh := false }

/-- Opens a bracket. -/
def Place.openBracket (place : Place) (c : Char) : Except String Place :=
  if 200 ≤ place.opened.length then .error "too many nested parentheses"
  else .ok { place with opened := (c, place.line) :: place.opened, fresh := false }

/-- Closes a bracket. -/
def Place.closeBracket (place : Place) (c : Char) : Except String Place :=
  match place.opened with
  | [] => .error s!"unmatched '{c}'"
  | (bracket, line) :: opened =>
    if partner bracket = c then .ok { place with opened := opened, fresh := false }
    else
      .error (s!"closing parenthesis '{c}' does not match opening parenthesis '{bracket}'" ++
        if line = place.line then "" else s!" on line {line}")

/-- What one step of the cutting gives: a token, nothing, or the end. -/
inductive Step where
  | token (lexemes : List Lexeme) (place : Place) (rest : List Char)
  | stop (ending : Ending)

/-- A step that reads a token or meets a malformed one. -/
def Step.ofToken {α : Type} (result : Except String α) (next : α → Step) : Step :=
  match result with
  | .ok a => next a
  | .error message => .stop (.malformed message)

/-- Reads a line break. -/
def stepLine (place : Place) (rest : List Char) : Step :=
  let next := { place with line := place.line + (if rest = [] then 0 else 1), fresh := true }
  if place.opened ≠ [] then .token [] { next with fresh := place.fresh } rest
  else
    let ended := if place.fresh then [] else [place.lexeme .newline]
    let margin := rest.takeWhile fun c ↦ c == ' ' || c == '\t'
    match rest.drop margin.length with
    | [] => .token ended next rest
    | c :: _ =>
      if margin = [] ∨ c = '#' ∨ c = '\n' then .token ended next rest
      else .token (ended ++ [next.lexeme .indent]) next rest

/-- Reads a string whose quote has been read, with the letters before it. -/
def stepString (place : Place) (letters : List Char) (quote : Char) (cs : List Char) : Step :=
  .ofToken (readString quote place.line cs) fun (body, rest) ↦
    match quotation? letters body with
    | some quotation =>
      .token [place.lexeme (.string quotation)]
        (place.past (cs.take (cs.length - rest.length)) rest) rest
    | none => .stop .complete

/-- Reads a name, or a string with letters before it. -/
def stepName (place : Place) (cs : List Char) : Step :=
  let word := cs.takeWhile isNameChar
  let rest := cs.drop word.length
  match rest with
  | c :: after =>
    if (c = '\'' ∨ c = '"') ∧ (quotation? word []).isSome then stepString place word c after
    else finish word rest
  | [] => finish word rest
where
  finish (word rest : List Char) : Step :=
    match wrongCharacter? word with
    | some c => .stop (.malformed (strangeCharacter c))
    | none => .token [place.lexeme (.name (String.ofList word))] { place with fresh := false } rest

/-- The number of digits of a decimal integer that does not start with zero. -/
def integerDigits (cs : List Char) : Nat :=
  if cs.head? ≠ some '0' ∧ cs.all (fun c ↦ c.isDigit || c == '_') then cs.countP Char.isDigit
  else 0

/-- Reads a number that starts with `cs`. -/
def stepNumber (place : Place) (cs : List Char) (read : Except String (Bool × List Char)) :
    Step :=
  .ofToken read fun (imaginary, rest) ↦
    let digits := integerDigits (cs.take (cs.length - rest.length))
    .token [place.lexeme (.number imaginary digits)] { place with fresh := false } rest

/-- Reads a symbol. -/
def stepSymbol (place : Place) (c : Char) (cs : List Char) : Step :=
  if c = '(' ∨ c = '[' ∨ c = '{' then
    .ofToken (place.openBracket c) fun place ↦
      .token [place.lexeme (.symbol (String.ofList [c]))] place cs
  else if c = ')' ∨ c = ']' ∨ c = '}' then
    .ofToken (place.closeBracket c) fun place ↦
      .token [place.lexeme (.symbol (String.ofList [c]))] place cs
  else if !isPrintable c then .stop (.malformed (strangeCharacter c))
  else
    let symbol := symbolAt c cs
    .token [place.lexeme (.symbol symbol)] { place with fresh := false }
      (cs.drop (symbol.length - 1))

/-- The ending of a text that ends at a place, `otherwise` if no bracket is open there. -/
def endOf (place : Place) (otherwise : Ending) : Ending :=
  match place.opened with
  | (bracket, line) :: _ => .unclosed bracket line
  | [] => otherwise

/-- One step of the cutting. -/
def step (place : Place) : List Char → Step
  | [] => .stop .complete
  | c :: cs =>
    if c = ' ' ∨ c = '\t' ∨ c = '\x0c' then .token [] place cs
    else if c = '#' then .token [] place (cs.dropWhile (· != '\n'))
    else if c = '\n' then stepLine place cs
    else if startsName c then stepName place (c :: cs)
    else if c.isDigit then stepNumber place (c :: cs) (readDecimal (c :: cs))
    else if c = '.' ∧ cs.head?.any Char.isDigit then stepNumber place (c :: cs) (fraction cs)
    else if c = '\'' ∨ c = '"' then stepString place [] c cs
    else if c = '\\' then
      match cs with
      | '\n' :: [] => .stop (endOf place (.blocked "unexpected EOF while parsing" none))
      | '\n' :: rest => .token [] { place with line := place.line + 1 } rest
      | _ =>
        .stop (.blocked "unexpected character after line continuation character"
          place.opened.head?)
    else stepSymbol place c cs

/-- The tokens of a text from a place on, in at most `fuel` steps. -/
def scanFrom : (fuel : Nat) → Place → List Char → List Lexeme × Ending
  | 0, _, _ => ([], .complete)
  | fuel + 1, place, cs =>
    if cs = [] then
      match place.opened with
      | (bracket, line) :: _ => ([], .unclosed bracket line)
      | [] => ([place.lexeme .finish], .complete)
    else
      match step place cs with
      | .stop ending => ([], ending)
      | .token lexemes place rest =>
        let (others, ending) := scanFrom fuel place rest
        (lexemes ++ others, ending)

/-- Line breaks of all kinds written as line feeds. -/
def plainLines : List Char → List Char
  | '\r' :: '\n' :: cs => '\n' :: plainLines cs
  | '\r' :: cs => '\n' :: plainLines cs
  | c :: cs => c :: plainLines cs
  | [] => []

/-- The tokens of a text, and why there are no more. Every step takes at least one character. -/
def scan (text : List Char) : List Lexeme × Ending :=
  if text.contains '\x00' then ([], .malformed "source code string cannot contain null bytes")
  else scanFrom (text.length + 1) {} (plainLines text)

end ClientBoundary.Terminal.Handler
