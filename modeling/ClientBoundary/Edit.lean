import ClientBoundary.Text.Slice

/-!
# Edits

An edit replaces a range of bytes by a text. Several edits are applied from the last offset to the
first, so that the offsets of those still to come stay right, and an edit given more than once is
applied once.

Source: SPEC_FULL.md, §4.7, `apply_fixes`.
-/

namespace ClientBoundary

/-- A replacement of the bytes from `start` up to `stop`; a negative offset counts from the end. -/
structure Edit where
  start : Int
  stop : Int
  text : String
  deriving DecidableEq, Repr

namespace Edit

/-- Applies one edit. -/
def apply (bytes : Bytes) (edit : Edit) : Bytes :=
  bytes.take (offsetOf bytes.length edit.start) ++ Utf8.encode edit.text ++
    bytes.drop (offsetOf bytes.length edit.stop)

/-- Whether an edit is applied no later than another: later offsets come first. -/
def comesFirst (a b : Edit) : Bool :=
  b.start < a.start || (a.start == b.start && b.stop ≤ a.stop)

/-- Applies each distinct edit once, the last offset first. -/
def applyAll (bytes : Bytes) (edits : List Edit) : Bytes :=
  (edits.eraseDups.mergeSort comesFirst).foldl apply bytes

end Edit

end ClientBoundary
