import ClientBoundary.Text.CharacterName
import ClientBoundary.Text.Hex

/-!
# Values of string literals

The body of a string literal is read in three steps. Braced escapes are first written as escapes
of fixed width, wherever a backslash, the letter `u` and a braced number stand together. Characters
beyond the Latin-1 range are then spelled as escapes themselves, so that a backslash in front of
one escapes the backslash of its spelling. Last, the escapes are read from left to right. The value
is a list of code points, since an escape can name half of a surrogate pair; a malformed escape
leaves the literal without a value.

Source: SPEC_FULL.md, §4.1, the escape sequences of the directive.

## Main declarations

* `StringLiteral.unbrace`, `StringLiteral.spellWide`, `StringLiteral.decode`: the three steps.
* `StringLiteral.value`: the value of a literal's body.
-/

namespace ClientBoundary.StringLiteral

open Text

/-- A Unicode code point, surrogates included. -/
abbrev CodePoint := Nat

/-- The number of a braced escape, read behind its opening brace, and what follows it. -/
def braced? (cs : List Char) : Option (Nat × List Char) :=
  let digits := cs.takeWhile fun c ↦ (hexValue? c).isSome
  match cs.drop digits.length with
  | '}' :: rest => if digits = [] then none else (hexNumber? 0 digits).map (·, rest)
  | _ => none

theorem length_lt_of_braced? {cs rest : List Char} {n : Nat} (h : braced? cs = some (n, rest)) :
    rest.length < cs.length := by
  unfold braced? at h
  dsimp only at h
  split at h
  · rename_i rest' heq
    split at h
    · simp at h
    · obtain ⟨_, _, hpair⟩ := Option.map_eq_some_iff.1 h
      simp only [Prod.mk.injEq] at hpair
      have hlength := congrArg List.length heq
      simp [hpair.2] at hlength
      omega
  · simp at h

/-- Braced escapes written with eight digits or more. -/
def unbrace : List Char → List Char
  | '\\' :: 'u' :: '{' :: cs =>
    match _h : braced? cs with
    | some (n, rest) => '\\' :: 'U' :: hexDigits 8 n ++ unbrace rest
    | none => '\\' :: unbrace ('u' :: '{' :: cs)
  | c :: cs => c :: unbrace cs
  | [] => []
  termination_by cs => cs.length
  decreasing_by
    · have := length_lt_of_braced? _h
      simp
      omega
    · simp
    · simp

/-- A character of the Latin-1 range as it is, any other as an escape. -/
def spellChar (c : Char) : List Char :=
  if c.toNat < 0x100 then [c]
  else if c.toNat < 0x10000 then '\\' :: 'u' :: hexDigits 4 c.toNat
  else '\\' :: 'U' :: hexDigits 8 c.toNat

/-- Characters beyond the Latin-1 range spelled as escapes. -/
def spellWide (cs : List Char) : List Char :=
  cs.flatMap spellChar

/-- The code point of an escape letter that stands for one control character or for itself. -/
def letterEscape? (c : Char) : Option CodePoint :=
  match c with
  | '\\' => some 0x5C
  | '\'' => some 0x27
  | '"' => some 0x22
  | 'a' => some 0x07
  | 'b' => some 0x08
  | 't' => some 0x09
  | 'n' => some 0x0A
  | 'v' => some 0x0B
  | 'f' => some 0x0C
  | 'r' => some 0x0D
  | _ => none

/-- Whether a character is an octal digit. -/
def isOctal (c : Char) : Bool :=
  '0' ≤ c && c ≤ '7'

/-- The number of an octal escape of at most three digits, and what follows it. -/
def octal (cs : List Char) : CodePoint × List Char :=
  let digits := (cs.take 3).takeWhile isOctal
  (digits.foldl (fun n c ↦ 8 * n + (c.toNat - 48)) 0, cs.drop digits.length)

/-- The number of an escape of exactly `width` hexadecimal digits, and what follows it. -/
def fixedHex? (width : Nat) (cs : List Char) : Option (CodePoint × List Char) :=
  if cs.length < width then none
  else
    match hexNumber? 0 (cs.take width) with
    | some n => if n ≤ 0x10FFFF then some (n, cs.drop width) else none
    | none => none

/-- The character of an escape by name, read behind its letter, and what follows it. -/
def named? (cs : List Char) : Option (CodePoint × List Char) :=
  match cs with
  | '{' :: cs =>
    let name := cs.takeWhile (· != '}')
    match cs.drop name.length with
    | _ :: rest => (CharacterName.find? name).map (·, rest)
    | [] => none
  | _ => none

/-- Reads an escape behind its backslash: the code points it stands for and what follows it. An
escaped line feed stands for nothing, and a backslash before any other character stands for
itself. -/
def escape? (cs : List Char) : Option (List CodePoint × List Char) :=
  match cs with
  | [] => none
  | '\n' :: rest => some ([], rest)
  | 'x' :: rest => (fixedHex? 2 rest).map fun (n, rest) ↦ ([n], rest)
  | 'u' :: rest => (fixedHex? 4 rest).map fun (n, rest) ↦ ([n], rest)
  | 'U' :: rest => (fixedHex? 8 rest).map fun (n, rest) ↦ ([n], rest)
  | 'N' :: rest => (named? rest).map fun (n, rest) ↦ ([n], rest)
  | c :: rest =>
    match letterEscape? c with
    | some n => some ([n], rest)
    | none =>
      if isOctal c then some ([(octal (c :: rest)).1], (octal (c :: rest)).2)
      else some ([0x5C, c.toNat], rest)

private theorem length_octal_lt {c : Char} {rest : List Char} (h : isOctal c = true) :
    (octal (c :: rest)).2.length < (c :: rest).length := by
  have hdigits : 0 < (((c :: rest).take 3).takeWhile isOctal).length := by simp [h]
  have hlength : 0 < (c :: rest).length := Nat.succ_pos _
  simp only [octal, List.length_drop]
  omega

private theorem length_le_of_fixedHex? {width n : Nat} {cs rest : List Char}
    (h : fixedHex? width cs = some (n, rest)) : rest.length ≤ cs.length := by
  unfold fixedHex? at h
  split at h
  · simp at h
  · split at h
    · split at h
      · simp only [Option.some.injEq, Prod.mk.injEq] at h
        rw [← h.2]
        simp
      · simp at h
    · simp at h

private theorem length_le_of_named? {n : Nat} {cs rest : List Char}
    (h : named? cs = some (n, rest)) : rest.length ≤ cs.length := by
  unfold named? at h
  split at h
  · rename_i cs
    dsimp only at h
    split at h
    · rename_i rest' heq
      obtain ⟨_, _, hpair⟩ := Option.map_eq_some_iff.1 h
      simp only [Prod.mk.injEq] at hpair
      have hlength := congrArg List.length heq
      simp [hpair.2] at hlength
      simp
      omega
    · simp at h
  · simp at h

theorem length_lt_of_escape? {cs rest : List Char} {units : List CodePoint}
    (h : escape? cs = some (units, rest)) : rest.length < cs.length := by
  unfold escape? at h
  split at h
  · simp at h
  · simp only [Option.some.injEq, Prod.mk.injEq] at h
    simp [h.2]
  · obtain ⟨⟨n, r⟩, hr, hpair⟩ := Option.map_eq_some_iff.1 h
    have := length_le_of_fixedHex? hr
    simp only [Prod.mk.injEq] at hpair
    simp [← hpair.2]
    omega
  · obtain ⟨⟨n, r⟩, hr, hpair⟩ := Option.map_eq_some_iff.1 h
    have := length_le_of_fixedHex? hr
    simp only [Prod.mk.injEq] at hpair
    simp [← hpair.2]
    omega
  · obtain ⟨⟨n, r⟩, hr, hpair⟩ := Option.map_eq_some_iff.1 h
    have := length_le_of_fixedHex? hr
    simp only [Prod.mk.injEq] at hpair
    simp [← hpair.2]
    omega
  · obtain ⟨⟨n, r⟩, hr, hpair⟩ := Option.map_eq_some_iff.1 h
    have := length_le_of_named? hr
    simp only [Prod.mk.injEq] at hpair
    simp [← hpair.2]
    omega
  · split at h
    · simp only [Option.some.injEq, Prod.mk.injEq] at h
      simp [h.2]
    · split at h
      · rename_i c _ _ _ hc
        simp only [Option.some.injEq, Prod.mk.injEq] at h
        rw [← h.2]
        exact length_octal_lt hc
      · simp only [Option.some.injEq, Prod.mk.injEq] at h
        simp [h.2]

/-- The code points of a text with escapes of fixed width. -/
def decode : List Char → Option (List CodePoint)
  | [] => some []
  | c :: cs =>
    if c = '\\' then
      match _h : escape? cs with
      | some (units, rest) => (decode rest).map (units ++ ·)
      | none => none
    else (decode cs).map (c.toNat :: ·)
  termination_by cs => cs.length
  decreasing_by
    · have := length_lt_of_escape? _h
      simp
      omega
    · simp

/-- The value of a string literal with body `body`, if its escapes are well formed. -/
def value (body : String) : Option (List CodePoint) :=
  let cs := body.toList
  if cs.contains '\\' then decode (spellWide (unbrace cs)) else some (cs.map Char.toNat)

/-- Whether a string literal with body `body` has the value `text`. -/
def denotes (body text : String) : Bool :=
  value body == some (text.toList.map Char.toNat)

end ClientBoundary.StringLiteral
