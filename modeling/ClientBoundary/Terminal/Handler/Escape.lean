import ClientBoundary.StringLiteral
import ClientBoundary.Terminal.Handler.Token

/-!
# Escapes in strings of handler parameters

A string is refused when an escape in it is malformed. The complaint tells where: positions count
in the string with its characters beyond ASCII spelled as escapes.

## Main declarations

* `textComplaint?`, `bytesComplaint?`: what is wrong with the body of a string.
-/

namespace ClientBoundary.Terminal.Handler

open Text

/-- A character beyond ASCII spelled as an escape. -/
def spelledChar (c : Char) : List Char :=
  if c.toNat < 0x80 then [c] else '\\' :: 'U' :: hexDigits 8 c.toNat

/-- A string with its characters beyond ASCII spelled as escapes; a backslash before one of them is
spelled too. -/
def spelled : List Char → List Char
  | '\\' :: c :: cs =>
    if c.toNat < 0x80 then '\\' :: c :: spelled cs
    else "\\u005c".toList ++ spelledChar c ++ spelled cs
  | c :: cs => spelledChar c ++ spelled cs
  | [] => []

/-- A malformed escape: where it starts, how long it is, and what is wrong. -/
structure EscapeFault where
  start : Nat
  length : Nat
  reason : String

/-- The fault of an escape of `width` hexadecimal digits that are read from `cs`. -/
def hexFault? (start width : Nat) (shape : String) (cs : List Char) : Option EscapeFault :=
  let digits := (cs.take width).takeWhile fun c ↦ (hexValue? c).isSome
  if digits.length < width then
    some ⟨start, digits.length + 2, s!"truncated \\{shape} escape"⟩
  else if 0x10FFFF < (hexNumber? 0 digits).getD 0 then
    some ⟨start, width + 2, "illegal Unicode character"⟩
  else none

/-- The fault of an escape by name, read behind its letter. -/
def nameFault? (start : Nat) : List Char → Option EscapeFault
  | '{' :: cs =>
    let name := cs.takeWhile (· != '}')
    if name.length = cs.length ∨ name = [] then
      some ⟨start, name.length + 3, "malformed \\N character escape"⟩
    else if (CharacterName.find? name).isNone then
      some ⟨start, name.length + 4, "unknown Unicode character name"⟩
    else none
  | _ => some ⟨start, 2, "malformed \\N character escape"⟩

/-- The first malformed escape of a spelled string that starts at a position. -/
def escapeFault? (start : Nat) : List Char → Option EscapeFault
  | [] => none
  | '\\' :: c :: cs =>
    let fault? :=
      match c with
      | 'x' => hexFault? start 2 "xXX" cs
      | 'u' => hexFault? start 4 "uXXXX" cs
      | 'U' => hexFault? start 8 "UXXXXXXXX" cs
      | 'N' => nameFault? start cs
      | _ => none
    fault?.or (escapeFault? (start + 2) cs)
  | _ :: cs => escapeFault? (start + 1) cs

/-- The position of the first malformed escape of a string of bytes that starts at a position. -/
def byteFault? (start : Nat) : List Char → Option Nat
  | [] => none
  | '\\' :: 'x' :: cs =>
    if ((cs.take 2).takeWhile fun c ↦ (hexValue? c).isSome).length < 2 then some start
    else byteFault? (start + 2) cs
  | '\\' :: _ :: cs => byteFault? (start + 2) cs
  | _ :: cs => byteFault? (start + 1) cs

/-- What is wrong with the escapes of a string of characters. -/
def textComplaint? (body : List Char) : Option String :=
  (escapeFault? 0 (spelled body)).map fun fault ↦
    s!"(unicode error) 'unicodeescape' codec can't decode bytes in position " ++
      s!"{fault.start}-{fault.start + fault.length - 1}: {fault.reason}"

/-- What is wrong with a string of bytes. -/
def bytesComplaint? (raw : Bool) (body : List Char) : Option String :=
  if body.any (0x80 ≤ ·.toNat) then some "bytes can only contain ASCII literal characters"
  else if raw then none
  else (byteFault? 0 body).map fun position ↦
    s!"(value error) invalid \\x escape at position {position}"

end ClientBoundary.Terminal.Handler
