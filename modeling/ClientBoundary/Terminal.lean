import ClientBoundary.Console
import ClientBoundary.Terminal.Layout
import ClientBoundary.Terminal.Markup

/-!
# The console of a terminal

A console that prints on a terminal of eighty columns, without colours.

## Main declarations

* `Terminal.check`: finds what is wrong with markup.
* `Terminal.console`: the console.
-/

namespace ClientBoundary.Terminal

open Markup

/-- What is wrong with tags is told as it is, and so is what is wrong with a number. -/
def Fault.toMarkupFault : Fault → MarkupFault
  | .number fault => .number fault.message
  | fault => .tags fault.message

/-- Finds what is wrong with markup: its tags are opened and closed, and then their styles are
read. -/
def check (wrapped : Bool) (cs : List Char) : Except Fault Unit := do
  let marks := scan 0 cs
  let spans ← checkTags 0 [] marks
  checkStyles (Layout.isDivided wrapped (renderMarks marks)) (rangesOf marks spans)

/-- The console of a terminal. -/
def console : Console where
  emoji? := emoji?
  escape := escape
  render := render
  fault? wrapped cs :=
    match check wrapped cs with
    | .ok () => none
    | .error fault => some fault.toMarkupFault
  plain := dropControls
  lay := Layout.lay

end ClientBoundary.Terminal
