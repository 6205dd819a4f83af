import ClientBoundary.Terminal.Cluster
import ClientBoundary.Text.Blank
import ClientBoundary.Text.Fields

/-!
# Laying out lines

Lines are set on a terminal of eighty columns. Tabs reach to the next multiple of eight. A line is
either kept whole, however long it is, or wrapped: words move to the next line when they do not fit,
and a word that fits on no line is folded. Blanks that stick out beyond the last column at the end
of a wrapped line are dropped.

## Main declarations

* `Layout.expandTabs`: what is done to every line.
* `Layout.words`, `Layout.breakPoints`, `Layout.wrap`: wrapping.
* `Layout.lay`: the text of a message.
-/

namespace ClientBoundary.Terminal.Layout

open Text

/-- The number of columns. -/
def width : Nat := 80

/-- The parts of a line between its tabs, joined by blanks up to the next multiple of eight. A tab
counts as a blank at the end of the part before it, and each part is measured by itself. -/
def joinParts (column : Nat) : List (List Char) → List Char
  | [] => []
  | [part] => part
  | part :: parts =>
    let part := part ++ [' ']
    let column := column + cells part
    let blanks := (8 - column % 8) % 8
    part ++ List.replicate blanks ' ' ++ joinParts (column + blanks) parts

/-- A line with its tabs written as blanks. -/
def expandTabs (line : List Char) : List Char :=
  joinParts 0 (fields (· == '\t') line)

/-- A line without the blanks at its end that make it longer than the columns. -/
def dropExcessBlanks (line : List Char) : List Char :=
  let blanks := (line.reverse.takeWhile isBlank).length
  line.take (line.length - min blanks (line.length - width))

/-- The length of the first word of a line, with the blanks before and after it; zero if there is
no word. -/
def wordLength (line : List Char) : Nat :=
  let before := (line.takeWhile isBlank).length
  let inside := ((line.drop before).takeWhile (!isBlank ·)).length
  if inside = 0 then 0
  else before + inside + ((line.drop (before + inside)).takeWhile isBlank).length

/-- The words of a line, each with the blanks after it, the first also with those before it. -/
def words (line : List Char) : List (List Char) :=
  if _h : wordLength line = 0 then []
  else if _hline : line = [] then []
  else line.take (wordLength line) :: words (line.drop (wordLength line))
  termination_by line.length
  decreasing_by
    have := List.length_pos_iff.2 _hline
    simp
    omega

/-- The clusters of a word cut into lines that fit, `line` being filled and `used` cells of it
taken. -/
def fold (line : List Char) (used : Nat) : List Cluster → List (List Char)
  | [] => [line]
  | cluster :: rest =>
    if width < used + cluster.cells then line :: fold cluster.chars cluster.cells rest
    else fold (line ++ cluster.chars) (used + cluster.cells) rest

/-- The positions where lines start, given their lengths and the position of the first. -/
def startsOf (start : Nat) : List (List Char) → List Nat
  | [] => []
  | line :: lines => start :: startsOf (start + line.length) lines

/-- The positions where a line is broken: `start` is that of the next word, and `used` cells are
taken on the current line. -/
def breakPoints (start used : Nat) : List (List Char) → List Nat
  | [] => []
  | word :: words =>
    let length := cells (dropBlankEnd word)
    if used + length ≤ width then breakPoints (start + word.length) (used + cells word) words
    else if width < length then
      let lines := fold [] 0 (clusters word)
      startsOf start lines ++
        breakPoints (start + word.length) (cells (lines.getLast?.getD [])) words
    else start :: breakPoints (start + word.length) (cells word) words

/-- Cuts a line, which starts at `position`, at increasing positions. -/
def cutAt (position : Nat) : List Nat → List Char → List (List Char)
  | [], line => [line]
  | point :: points, line =>
    line.take (point - position) :: cutAt point points (line.drop (point - position))

/-- As many clusters as fit into `room` cells, filled up with a blank where a wide one does not. -/
def cropTo : (room : Nat) → List Cluster → List Char
  | _, [] => []
  | room, cluster :: rest =>
    if room = 0 then []
    else if cluster.cells ≤ room then cluster.chars ++ cropTo (room - cluster.cells) rest
    else [' ']

/-- A line that takes no more cells than there are columns. -/
def crop (line : List Char) : List Char :=
  if cells line ≤ width then line else cropTo width (clusters line)

/-- The positions inside a line where it is wrapped. -/
def innerBreaks (line : List Char) : List Nat :=
  (breakPoints 0 0 (words line)).filter (· != 0)

/-- The lines into which a line is wrapped. -/
def wrap (line : List Char) : List (List Char) :=
  (cutAt 0 (innerBreaks line) line).map fun piece ↦ crop (dropExcessBlanks piece)

/-- The lines that a line becomes, wrapped or whole. -/
def layLine (wrapped : Bool) (line : List Char) : List (List Char) :=
  let line := expandTabs line
  if wrapped then wrap line else [line]

/-- Whether the text of a message falls into parts: at line feeds, at tabs, or where it is
wrapped. -/
def isDivided (wrapped : Bool) (cs : List Char) : Bool :=
  cs.any (fun c ↦ c == '\n' || c == '\t') || (wrapped && !(innerBreaks cs).isEmpty)

/-- The text of a message, ended by a line feed. -/
def lay (wrapped : Bool) (cs : List Char) : String :=
  let lines := (fields (· == '\n') cs).flatMap (layLine wrapped)
  String.ofList (lines.flatMap (· ++ ['\n']))

end ClientBoundary.Terminal.Layout
