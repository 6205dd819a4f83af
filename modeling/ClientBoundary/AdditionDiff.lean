import ClientBoundary.Text.Lines

/-!
# Diffs that add a file

A text shown as the unified diff that creates it from nothing: three header lines, then every line
of the text behind a plus sign, the last one ended by a line feed whether the text ends in one or
not. The diff of an empty text is empty.

Source: SPEC_FULL.md, §4.8, `render_addition_diff`.
-/

namespace ClientBoundary

open Text

/-- The lines with a line feed at the very end. -/
def endLastLine : List String → List String
  | [] => []
  | [line] => [if line.toList.getLast? = some '\n' then line else line ++ "\n"]
  | line :: lines => line :: endLastLine lines

/-- The range of `count` lines from the first on. -/
def addedRange (count : Nat) : String :=
  if count = 1 then "1" else s!"1,{count}"

/-- The diff that creates a file at `path` with content `text`. -/
def additionDiff (path text : String) : String :=
  match endLastLine (lines text) with
  | [] => ""
  | added =>
    s!"--- /dev/null\n+++ {path}\n@@ -0,0 +{addedRange added.length} @@\n" ++
      String.join (added.map ("+" ++ ·))

end ClientBoundary
