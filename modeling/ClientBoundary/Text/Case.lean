import ClientBoundary.Text.Case.Table
import ClientBoundary.Text.Range

/-!
# Upper and lower case

Full case mapping: a character may map to several, and a capital sigma becomes a final sigma when
it ends a word, that is, when a cased character comes before it and none after it, not counting
case-ignorable characters.
-/

namespace ClientBoundary.Text

namespace Case

/-- The image of `n` under a run, if the run holds it. -/
def Run.image? (run : Run) (n : Nat) : Option Nat :=
  if run.first ≤ n ∧ n ≤ run.last ∧ (n - run.first) % run.step = 0 then
    some ((n : Int) + run.delta).toNat
  else none

/-- The image of a character under a table of runs and a table of expansions. -/
def image (runs : List Run) (expansions : List (Nat × List Nat)) (c : Char) : List Char :=
  match runs.findSome? (·.image? c.toNat) with
  | some n => [Char.ofNat n]
  | none =>
    match expansions.find? (·.1 = c.toNat) with
    | some (_, ns) => ns.map Char.ofNat
    | none => [c]

end Case

/-- The upper case of one character. -/
def upperChar (c : Char) : List Char :=
  if c.toNat < 0x80 then [c.toUpper] else Case.image Case.upperRuns Case.upperExpansions c

/-- The lower case of one character, away from any context. -/
def lowerChar (c : Char) : List Char :=
  if c.toNat < 0x80 then [c.toLower] else Case.image Case.lowerRuns Case.lowerExpansions c

/-- Whether the first character of `cs` that is not case-ignorable is cased. -/
def startsCased (cs : List Char) : Bool :=
  match cs.dropWhile fun c ↦ inRanges Case.ignorableRanges c.toNat with
  | [] => false
  | c :: _ => inRanges Case.casedRanges c.toNat

/-- The lower case of `cs`, the characters of `before` coming before it in reverse. -/
def lowerAfter (before : List Char) : List Char → List Char
  | [] => []
  | c :: cs =>
    (if c = 'Σ' then [if startsCased before && !startsCased cs then 'ς' else 'σ']
      else lowerChar c) ++ lowerAfter (c :: before) cs

/-- A text in upper case. -/
def upper (text : String) : String :=
  String.ofList (text.toList.flatMap upperChar)

/-- A text in lower case. -/
def lower (text : String) : String :=
  String.ofList (lowerAfter [] text.toList)

/-- Whether a character is its own upper case. -/
def isOwnUpper (c : Char) : Bool :=
  upperChar c == [c]

end ClientBoundary.Text
