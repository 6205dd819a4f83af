import ClientBoundary.Markup
import ClientBoundary.Terminal.Emoji
import ClientBoundary.Terminal.Handler
import ClientBoundary.Terminal.Style

/-!
# Rendering markup

Tags print nothing. Backslashes before a tag protect it when their number is odd and count half. A
closing tag closes the innermost open tag of the same style, however that was spelled; one without a
name closes the innermost of all. When a handler tag is closed its parameters are read. Codes are
replaced in every run of text between two tags, protected or not, and a few control characters are
dropped.

## Main declarations

* `Terminal.escape`: a text with its tags protected.
* `Terminal.Piece`, `Terminal.pieces`, `Terminal.render`: what markup prints.
* `Terminal.Fault`: what can be wrong with the tags of markup.
* `Terminal.checkTags`: opening and closing tags.
* `Terminal.checkStyles`: reading the styles that tags name.
-/

namespace ClientBoundary.Terminal

open Text Markup

/-! ### Escaping -/

/-- A mark with its tag protected. -/
def escapeMark : Mark → List Char
  | .char c => [c]
  | .tag slashes _ body => List.replicate (2 * slashes + 1) '\\' ++ bracketed body

/-- A text with its tags protected. A single backslash at its end is doubled. -/
def escape (cs : List Char) : List Char :=
  let slashes := (cs.reverse.takeWhile (· == '\\')).length
  (scan 0 cs).flatMap escapeMark ++ if slashes = 1 then ['\\'] else []

/-! ### Rendering -/

/-- A piece of markup: text that joins with text beside it, text that stays apart from it, or the
place of a tag. -/
inductive Piece where
  | text (cs : List Char)
  | apart (cs : List Char)
  | tag

/-- A number of backslashes that stay apart, if any. -/
def slashPieces (n : Nat) : List Piece :=
  if n = 0 then [] else [.apart (List.replicate n '\\')]

/-- What a mark contributes. -/
def markPieces : Mark → List Piece
  | .char c => [.text [c]]
  | .tag slashes _ body =>
    slashPieces (slashes / 2) ++ [if slashes % 2 = 1 then .apart (bracketed body) else .tag]

/-- Puts a piece in front of others, joining text with text. -/
def consPiece : Piece → List Piece → List Piece
  | .text cs, .text ds :: pieces => .text (cs ++ ds) :: pieces
  | piece, pieces => piece :: pieces

/-- The pieces of marks, with text joined. -/
def pieces (marks : List Mark) : List Piece :=
  (marks.flatMap markPieces).foldr consPiece []

/-- Whether a control character is dropped from what is printed. -/
def isDropped (c : Char) : Bool :=
  c == '\x07' || c == '\x08' || c == '\x0b' || c == '\x0c' || c == '\r'

/-- Characters without the control characters that are dropped. -/
def dropControls (cs : List Char) : List Char :=
  cs.filter (!isDropped ·)

/-- What one piece prints. -/
def renderPiece : Piece → List Char
  | .text cs | .apart cs => dropControls (replaceCodes emoji? (bareBrackets cs))
  | .tag => []

/-- The characters that marks print. -/
def renderMarks (marks : List Mark) : List Char :=
  (pieces marks).flatMap renderPiece

/-- The characters that markup prints. -/
def render (cs : List Char) : List Char :=
  renderMarks (scan 0 cs)

/-! ### Tags and styles -/

/-- What can be wrong with the tags of markup. -/
inductive Fault where
  /-- No open tag has the style of a closing tag, given by its body and its position. -/
  | unmatched (body : List Char) (position : Nat)
  /-- No tag is open where one is closed. -/
  | nothingOpen (position : Nat)
  /-- The parameters of a handler cannot be read. -/
  | parameters (fault : Handler.Fault)
  /-- A number in a style cannot be read. -/
  | number (fault : NumberFault)
  deriving DecidableEq, Repr

/-- The wording of a fault. -/
def Fault.message : Fault → String
  | .unmatched body position =>
    s!"closing tag '{String.ofList (bracketed body)}' at position {position} " ++
      "doesn't match any open tag"
  | .nothingOpen position => s!"closing tag '[/]' at position {position} has nothing to close"
  | .parameters fault => fault.message
  | .number fault => fault.message

/-- A tag that has been opened: its style in normal form, what stood behind its equals sign, and the
number of marks before it. -/
structure OpenTag where
  style : String
  parameters : Option String
  start : Nat

/-- The marks from `start` up to `stop`, which are shown in a style. -/
structure Span where
  definition : String
  start : Nat
  stop : Nat

/-- The name in the body of a tag and what stands behind its equals sign. -/
def divideBody (body : List Char) : List Char × Option String :=
  let name := body.takeWhile (· != '=')
  (name, match body.drop name.length with
    | _ :: parameters => some (String.ofList parameters)
    | [] => none)

/-- Takes the innermost open tag of a style out of the open tags. -/
def takeTag? (style : String) : List OpenTag → Option (OpenTag × List OpenTag)
  | [] => none
  | tag :: tags =>
    if tag.style = style then some (tag, tags)
    else (takeTag? style tags).map fun (found, others) ↦ (found, tag :: others)

/-- The definition of the style in which text inside a tag is shown. -/
def OpenTag.definition (tag : OpenTag) : String :=
  match tag.parameters with
  | some parameters => s!"{tag.style} {parameters}"
  | none => tag.style

/-- Whether a tag belongs to a handler. -/
def OpenTag.isHandler (tag : OpenTag) : Bool :=
  tag.style.toList.head? == some '@'

/-- The span of a tag that reaches up to `stop`. -/
def OpenTag.span (tag : OpenTag) (stop : Nat) : Span :=
  ⟨tag.definition, tag.start, stop⟩

/-- The spans that closing a tag gives: a handler gives none, but its parameters must be
readable. -/
def OpenTag.close (tag : OpenTag) (stop : Nat) : Except Fault (List Span) :=
  if tag.isHandler then
    match Handler.check (tag.parameters.getD "") with
    | .ok () => .ok []
    | .error fault => .error (.parameters fault)
  else .ok [tag.span stop]

/-- The tag that a closing tag closes, and those that stay open. -/
def findClosed (tags : List OpenTag) (body name : List Char) (position : Nat) :
    Except Fault (OpenTag × List OpenTag) := do
  let name := strip (String.ofList name)
  if name = "" then
    match tags with
    | [] => .error (.nothingOpen position)
    | tag :: tags => .ok (tag, tags)
  else
    let style ← (Style.normalize name).mapError .number
    match takeTag? style tags with
    | some found => .ok found
    | none => .error (.unmatched body position)

/-- Opens and closes the tags among some marks, `tags` being open and `index` marks standing before
them; gives the spans in the order in which they are closed. -/
def checkTags : (index : Nat) → (tags : List OpenTag) → List Mark → Except Fault (List Span)
  | index, tags, [] => .ok (tags.map (·.span index))
  | index, tags, .char _ :: marks => checkTags (index + 1) tags marks
  | index, tags, .tag slashes position body :: marks =>
    if slashes % 2 = 1 then checkTags (index + 1) tags marks
    else
      match divideBody body with
      | ('/' :: name, _) => do
        let (tag, tags) ← findClosed tags body name position
        let closed ← tag.close index
        return closed ++ (← checkTags (index + 1) tags marks)
      | (name, parameters) => do
        let style ← (Style.normalize (String.ofList name)).mapError .number
        checkTags (index + 1) (⟨style, parameters, index⟩ :: tags) marks

/-- A style with the characters that are shown in it, from `start` up to `stop`. -/
structure StyledRange where
  definition : String
  start : Nat
  stop : Nat

/-- The range of characters of a span of marks. -/
def Span.range (marks : List Mark) (span : Span) : StyledRange :=
  ⟨span.definition, (renderMarks (marks.take span.start)).length,
    (renderMarks (marks.take span.stop)).length⟩

/-- The ranges of styles by their start. Of ranges with one start, those closed last come first. -/
def rangesOf (marks : List Mark) (spans : List Span) : List StyledRange :=
  (spans.reverse.map (·.range marks)).mergeSort fun a b ↦ decide (a.start ≤ b.start)

/-- Reads the styles of ranges. A message that is `divided` loses the ranges without characters. -/
def checkStyles (divided : Bool) (ranges : List StyledRange) : Except Fault Unit :=
  ranges.forM fun range ↦
    if divided && range.start == range.stop then .ok ()
    else do
      let _ ← (Style.ofWords range.definition).mapError .number

end ClientBoundary.Terminal
