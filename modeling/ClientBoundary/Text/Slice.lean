import ClientBoundary.Text.Utf8

/-!
# Slices of byte strings

A slice is given by two offsets, is empty when they are reversed and stops at the end of the bytes
when they reach past it. Offsets of an edit may be negative and then count from the end.
-/

namespace ClientBoundary

/-- The bytes from `start` up to `stop`. -/
def Bytes.slice (bytes : Bytes) (start stop : Nat) : Bytes :=
  (bytes.take stop).drop start

/-- The offset that `index` names in `length` bytes: a negative index counts from the end, and no
index leaves the bytes. -/
def offsetOf (length : Nat) (index : Int) : Nat :=
  if index < 0 then (length + index).toNat else min index.toNat length

@[simp] theorem Bytes.slice_zero (bytes : Bytes) (stop : Nat) :
    bytes.slice 0 stop = bytes.take stop := by
  simp [Bytes.slice]

theorem offsetOf_natCast (length n : Nat) : offsetOf length (n : Int) = min n length := by
  have h : ¬ (n : Int) < 0 := by omega
  simp [offsetOf, h]

end ClientBoundary
