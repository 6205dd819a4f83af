import ClientBoundary.Terminal.Handler.Reading

/-!
# Reading single tokens

Readers of one symbol, keyword, name or string, and of things with commas between them.

## Main declarations

* `Reader.symbol`, `Reader.oneOf`, `Reader.keyword`, `Reader.name`, `Reader.quotation`: one token.
* `Reader.separated`: things with commas between them.
-/

namespace ClientBoundary.Terminal.Handler

namespace Reader

/-- The words that are no names. -/
def keywords : List String :=
  ["False", "None", "True", "and", "as", "assert", "async", "await", "break", "class", "continue",
   "def", "del", "elif", "else", "except", "finally", "for", "from", "global", "if", "import",
   "in", "is", "lambda", "nonlocal", "not", "or", "pass", "raise", "return", "try", "while",
   "with", "yield"]

/-- A symbol. -/
def symbol (text : String) : Reader Unit :=
  token fun
    | .symbol s => if s = text then some () else none
    | _ => none

/-- One of some symbols. -/
def oneOf (texts : List String) : Reader String :=
  token fun
    | .symbol s => if texts.contains s then some s else none
    | _ => none

/-- A keyword. -/
def keyword (text : String) : Reader Unit :=
  token fun
    | .name s => if s = text then some () else none
    | _ => none

/-- A name. -/
def name : Reader String :=
  token fun
    | .name s => if keywords.contains s then none else some s
    | _ => none

/-- A name that starts a word which is a keyword in some places. -/
def softKeyword : Reader Unit :=
  token fun
    | .name s =>
      if ["_", "case", "match"].any fun word ↦ s.toList.isPrefixOf word.toList then some ()
      else none
    | _ => none

/-- A string. -/
def quotation : Reader Quotation :=
  token fun
    | .string q => some q
    | _ => none

/-- Something, and more of it behind commas. -/
def separated {α : Type} (p : Reader α) : Reader (List α) := do
  let first ← p
  return first :: (← many (do symbol ","; p))

end Reader

end ClientBoundary.Terminal.Handler
