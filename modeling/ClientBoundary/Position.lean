import ClientBoundary.Text.Slice

/-!
# Positions in a source

A node of a tree knows the bytes it covers and the points where it starts and ends. Rows and
columns count from zero, columns in bytes.

Source: SPEC_FULL.md, §3, `Position`.
-/

namespace ClientBoundary

/-- A row and a column, both counted from zero. -/
structure Point where
  row : Nat
  column : Nat
  deriving DecidableEq, Repr

/-- A range of byte offsets, the last one excluded. -/
structure Span where
  start : Nat
  stop : Nat
  deriving DecidableEq, Repr

/-- The text that a span covers. -/
def Span.text (span : Span) (bytes : Bytes) : Except Utf8.Fault String :=
  Utf8.decode (bytes.slice span.start span.stop)

end ClientBoundary
