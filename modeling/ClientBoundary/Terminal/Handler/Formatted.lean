import ClientBoundary.Terminal.Handler.Escape

/-!
# Formatted strings of handler parameters

A formatted string holds expressions between braces; doubled braces stand for themselves. Behind an
expression may stand an equals sign, a conversion and a format, which is again a formatted string.

## Main declarations

* `formattedComplaint?`: what is wrong with a formatted string.
-/

namespace ClientBoundary.Terminal.Handler

open Text

/-- The end of the text where something has to follow. -/
def expectingBrace : String := "f-string: expecting '\x7d'"

/-- The text up to the next brace that counts, and the rest. The rest starts behind a doubled brace,
one of which belongs to the text, or at a single brace; `nested` texts have no doubled braces. -/
def textPart (raw nested : Bool) :
    (named : Bool) → List Char → Except String (List Char × Bool × List Char)
  | _, [] => .ok ([], false, [])
  | true, c :: cs => do
    let (part, again, rest) ← textPart raw nested (c != '}') cs
    return (c :: part, again, rest)
  | false, '\\' :: c :: cs => do
    if raw then
      if c = '{' ∨ c = '}' then brace ['\\'] c cs
      else
        let (part, again, rest) ← textPart raw nested false cs
        return ('\\' :: c :: part, again, rest)
    else if c = 'N' then
      let (part, again, rest) ← textPart raw nested (cs.head? == some '{') cs
      return ('\\' :: c :: part, again, rest)
    else if c = '{' ∨ c = '}' then brace ['\\'] c cs
    else
      let (part, again, rest) ← textPart raw nested false cs
      return ('\\' :: c :: part, again, rest)
  | false, c :: cs => do
    if c = '{' ∨ c = '}' then brace [] c cs
    else
      let (part, again, rest) ← textPart raw nested false cs
      return (c :: part, again, rest)
where
  brace (before : List Char) (c : Char) (cs : List Char) :
      Except String (List Char × Bool × List Char) :=
    if !nested && cs.head? == some c then .ok (before ++ [c], true, cs.tail)
    else if !nested && c == '}' then .error "f-string: single '\x7d' is not allowed"
    else .ok (before, false, c :: cs)

/-- Where a scan of an expression stands: the quote of the string it is in, with whether the string
has three of them, and the open brackets. -/
structure Inside where
  quote : Option (Char × Bool) := none
  opened : List Char := []

/-- Whether a text goes on with two more of a character. -/
def isTripled (c : Char) (cs : List Char) : Bool :=
  cs.take 2 == [c, c]

/-- An expression between braces, and the rest that starts with what ends it. `skip` characters are
taken without a look. -/
def expressionPart :
    (skip : Nat) → Inside → List Char → Except String (List Char × List Char)
  | _, inside, [] =>
    if inside.quote.isSome then .error "f-string: unterminated string"
    else
      match inside.opened with
      | bracket :: _ => .error s!"f-string: unmatched '{bracket}'"
      | [] => .error expectingBrace
  | skip + 1, inside, c :: cs => do
    let (part, rest) ← expressionPart skip inside cs
    return (c :: part, rest)
  | 0, inside, c :: cs =>
    let go (skip : Nat) (inside : Inside) : Except String (List Char × List Char) := do
      let (part, rest) ← expressionPart skip inside cs
      return (c :: part, rest)
    if c = '\\' then .error "f-string expression part cannot include a backslash"
    else
      match inside.quote with
      | some (quote, true) =>
        if c = quote ∧ isTripled c cs then go 2 { inside with quote := none } else go 0 inside
      | some (quote, false) =>
        go 0 (if c = quote then { inside with quote := none } else inside)
      | none =>
        if c = '\'' ∨ c = '"' then
          let tripled := isTripled c cs
          go (if tripled then 2 else 0) { inside with quote := some (c, tripled) }
        else if c = '(' ∨ c = '[' ∨ c = '{' then
          if 200 ≤ inside.opened.length then .error "f-string: too many nested parenthesis"
          else go 0 { inside with opened := c :: inside.opened }
        else if c = '#' then .error "f-string expression part cannot include '#'"
        else if inside.opened = [] ∧ "!:\x7d=<>".toList.contains c then
          if "!=<>".toList.contains c ∧ cs.head? = some '=' then go 1 inside
          else if c = '<' ∨ c = '>' then go 0 inside
          else .ok ([], c :: cs)
        else if c = ')' ∨ c = ']' ∨ c = '}' then
          match inside.opened with
          | [] => .error s!"f-string: unmatched '{c}'"
          | bracket :: opened =>
            if partner bracket = c then go 0 { inside with opened := opened }
            else
              .error (s!"f-string: closing parenthesis '{c}' does not match " ++
                s!"opening parenthesis '{bracket}'")
        else go 0 inside

/-- What is wrong with an expression between braces, given what ends it. -/
def insideComplaint? (complain : List Char → Option String) (part : List Char) (stop : Char) :
    Option String :=
  if part.all fun c ↦ c == ' ' || c == '\t' || c == '\n' || c == '\x0c' || c == '\r' then
    some (if stop = '}' then "f-string: empty expression not allowed"
      else s!"f-string: expression required before '{stop}'")
  else complain part

/-- Reads a conversion, if there is one, behind an expression. -/
def conversion : List Char → Except String (List Char)
  | '!' :: [] => .error expectingBrace
  | '!' :: c :: cs =>
    if c = 's' ∨ c = 'r' ∨ c = 'a' then .ok cs
    else .error "f-string: invalid conversion character: expected 's', 'r', or 'a'"
  | cs => .ok cs

/-- Reads a formatted string up to its end, or up to a closing brace if it is a format, in at most
`fuel` steps; `depth` formats surround it. -/
def readFormatted (complain : List Char → Option String) (raw : Bool) :
    (fuel depth : Nat) → List Char → Except String (List Char)
  | 0, _, cs => .ok cs
  | fuel + 1, depth, cs => do
    let (part, again, rest) ← textPart raw (depth != 0) false cs
    if !raw then
      if let some complaint := textComplaint? part then .error complaint
    if again then readFormatted complain raw fuel depth rest
    else
      match rest with
      | '{' :: cs =>
        if 2 ≤ depth then .error "f-string: expressions nested too deeply"
        let (part, rest) ← expressionPart 0 {} cs
        if let some complaint := insideComplaint? complain part (rest.headD '}') then
          .error complaint
        let rest :=
          if rest.head? = some '=' then rest.tail.dropWhile isBlank else rest
        let rest ← conversion rest
        let rest ←
          match rest with
          | ':' :: rest => readFormatted complain raw fuel (depth + 1) rest
          | rest => pure rest
        match rest with
        | '}' :: rest => readFormatted complain raw fuel depth rest
        | _ => .error expectingBrace
      | rest => .ok rest

/-- What is wrong with a formatted string, given what is wrong with the expressions in it. -/
def formattedComplaint? (complain : List Char → Option String) (raw : Bool) (body : List Char) :
    Option String :=
  match readFormatted complain raw (body.length + 1) 0 body with
  | .ok _ => none
  | .error complaint => some complaint

end ClientBoundary.Terminal.Handler
