/-!
# UTF-8

`encode` writes a text as bytes. `decode` reads bytes as text; when they are ill formed it reports
the first sequence that is, with its position, its bytes and the reason why it is refused. A lead
byte fixes how many bytes follow it and which range the first of them must lie in, so overlong
forms, surrogates and values above `0x10FFFF` are refused at the second byte.

## Main declarations

* `Bytes`: a byte string.
* `Utf8.encode`, `Utf8.decode`: the two directions.
* `Utf8.Fault`, `Utf8.Fault.message`: the first ill-formed sequence and its wording.
-/

namespace ClientBoundary

/-- A byte string. -/
abbrev Bytes := List UInt8

namespace Utf8

/-- Why a byte sequence is refused. -/
inductive Reason where
  | invalidStart
  | invalidContinuation
  | unexpectedEnd
  deriving DecidableEq, Repr

/-- The wording of a reason. -/
def Reason.message : Reason → String
  | .invalidStart => "invalid start byte"
  | .invalidContinuation => "invalid continuation byte"
  | .unexpectedEnd => "unexpected end of data"

/-- An ill-formed sequence: where it starts, its bytes and what is wrong with it. -/
structure Fault where
  position : Nat
  bytes : Bytes
  reason : Reason
  deriving DecidableEq, Repr

private def hexByte (b : UInt8) : String :=
  String.ofList [Nat.digitChar (b.toNat / 16), Nat.digitChar (b.toNat % 16)]

/-- The wording of a fault: a single byte is shown, a longer sequence is located by its ends. -/
def Fault.message (fault : Fault) : String :=
  match fault.bytes with
  | [b] =>
    s!"'utf-8' codec can't decode byte 0x{hexByte b} in position {fault.position}: " ++
      fault.reason.message
  | bytes =>
    s!"'utf-8' codec can't decode bytes in position {fault.position}-" ++
      s!"{fault.position + bytes.length - 1}: " ++ fault.reason.message

/-- The bytes of one character. -/
def encodeChar (c : Char) : Bytes :=
  let n := c.toNat
  if n < 0x80 then [n.toUInt8]
  else if n < 0x800 then [(0xC0 + n / 0x40).toUInt8, (0x80 + n % 0x40).toUInt8]
  else if n < 0x10000 then
    [(0xE0 + n / 0x1000).toUInt8, (0x80 + n / 0x40 % 0x40).toUInt8, (0x80 + n % 0x40).toUInt8]
  else
    [(0xF0 + n / 0x40000).toUInt8, (0x80 + n / 0x1000 % 0x40).toUInt8,
      (0x80 + n / 0x40 % 0x40).toUInt8, (0x80 + n % 0x40).toUInt8]

/-- The bytes of a text. -/
def encode (text : String) : Bytes :=
  text.toList.flatMap encodeChar

/-- The closed range of an ordinary continuation byte. -/
def continuation : Nat × Nat := (0x80, 0xBF)

/-- What a lead byte says: its share of the character's number, and the range of each byte that
must follow it; `none` for a byte that starts no sequence. -/
def lead (b : Nat) : Option (Nat × List (Nat × Nat)) :=
  if b < 0x80 then some (b, [])
  else if b < 0xC2 then none
  else if b < 0xE0 then some (b - 0xC0, [continuation])
  else if b = 0xE0 then some (0, [(0xA0, 0xBF), continuation])
  else if b = 0xED then some (0xD, [(0x80, 0x9F), continuation])
  else if b < 0xF0 then some (b - 0xE0, [continuation, continuation])
  else if b = 0xF0 then some (0, [(0x90, 0xBF), continuation, continuation])
  else if b < 0xF4 then some (b - 0xF0, [continuation, continuation, continuation])
  else if b = 0xF4 then some (4, [(0x80, 0x8F), continuation, continuation])
  else none

/-- Reads the bytes that follow a lead byte, `seen` bytes of the sequence having been read; a
failure gives the length of the sequence that is refused. -/
def follow (value seen : Nat) : List (Nat × Nat) → Bytes → Except (Nat × Reason) Nat
  | [], _ => .ok value
  | _ :: _, [] => .error (seen, .unexpectedEnd)
  | (low, high) :: ranges, b :: rest =>
    if low ≤ b.toNat ∧ b.toNat ≤ high then
      follow (value * 0x40 + (b.toNat - 0x80)) (seen + 1) ranges rest
    else .error (seen, .invalidContinuation)

/-- The character that the bytes `b :: rest` start with, and how many bytes of `rest` it takes. -/
def firstChar (b : UInt8) (rest : Bytes) : Except (Nat × Reason) (Char × Nat) :=
  match lead b.toNat with
  | none => .error (1, .invalidStart)
  | some (value, ranges) =>
    (follow value 1 ranges rest).map fun n ↦ (Char.ofNat n, ranges.length)

/-- Reads characters from `position` on, after passing over `skip` bytes already read. -/
def decodeFrom (position : Nat) : (skip : Nat) → Bytes → Except Fault (List Char)
  | _, [] => .ok []
  | skip + 1, _ :: rest => decodeFrom (position + 1) skip rest
  | 0, b :: rest =>
    match firstChar b rest with
    | .error (length, reason) => .error ⟨position, (b :: rest).take length, reason⟩
    | .ok (c, extra) => (decodeFrom (position + 1) extra rest).map (c :: ·)

/-- The text that bytes spell, or the first ill-formed sequence among them. -/
def decode (bytes : Bytes) : Except Fault String :=
  (decodeFrom 0 0 bytes).map String.ofList

end Utf8

end ClientBoundary
