import ClientBoundary.StringLiteral
import Mathlib.Algebra.Order.Ring.Nat
import Mathlib.Data.List.Basic

/-!
# Escapes token by token

The value of a string literal is found in three passes over its body, none of which knows where the
escapes of the others end. On a body that is put together from plain characters and well-formed
escapes the passes agree on the tokens: each pass turns a token into characters that the next pass
reads as one token again, whatever stands behind it. So the value has one code point for each token.
Only braced escapes may go beyond the last code point. One that does is written with more digits
than an escape of fixed width has room for, or names a number that is refused; in both cases the
literal is left without a value.

## Main definitions

* `StringLiteral.HexDigit`, `StringLiteral.HexDigit.number`: digits and the numbers they write.
* `StringLiteral.Token`: a plain character or a well-formed escape.
* `StringLiteral.Token.chars`, `StringLiteral.Token.codePoint`: how a token is written and what it
  stands for.

## Main results

* `StringLiteral.fixedHex?_hexDigits`: reading the digits of a number, eight or more.
* `StringLiteral.unbrace_chars_append`, `StringLiteral.decode_token_append`: what the passes make of
  a token.
* `StringLiteral.value_eq_decode`: the shortcut for bodies without a backslash changes nothing.
* `StringLiteral.value_tokens`: the value of a body that is made of tokens.
-/

namespace ClientBoundary.StringLiteral

open Text

/-! ### Tokens -/

/-- A hexadecimal digit of either case. -/
structure HexDigit where
  char : Char
  isDigit : char ∈ "0123456789abcdefABCDEF".toList

/-- The value of a digit: its place among the digits, the case apart. -/
def HexDigit.value (digit : HexDigit) : Nat :=
  "0123456789abcdef".toList.idxOf digit.char.toLower

/-- The number that some digits write. -/
def HexDigit.number (digits : List HexDigit) : Nat :=
  digits.foldl (fun n digit ↦ 16 * n + digit.value) 0

/-- The letters and quotes that may stand behind a backslash, with the code points that they stand
for there. -/
def escapedLetters : List (Char × CodePoint) :=
  [('n', 0x0A), ('r', 0x0D), ('t', 0x09), ('b', 0x08), ('f', 0x0C), ('v', 0x0B), ('\'', 0x27),
    ('"', 0x22)]

/-- A token of a literal: a plain character or a well-formed escape. -/
inductive Token where
  | plain (c : Char) (hc : c ≠ '\\')
  | letter (escaped : Char × CodePoint) (hescaped : escaped ∈ escapedLetters)
  | twoDigits (a b : HexDigit)
  | fourDigits (a b c d : HexDigit)
  | braced (first : HexDigit) (rest : List HexDigit)

namespace Token

/-- How a token is written. -/
def chars : Token → List Char
  | plain c _ => [c]
  | letter escaped _ => ['\\', escaped.1]
  | twoDigits a b => ['\\', 'x', a.char, b.char]
  | fourDigits a b c d => ['\\', 'u', a.char, b.char, c.char, d.char]
  | braced first rest => '\\' :: 'u' :: '{' :: (first :: rest).map HexDigit.char ++ ['}']

/-- The code point that a token stands for, if it is one. -/
def codePoint : Token → CodePoint
  | plain c _ => c.toNat
  | letter escaped _ => escaped.2
  | twoDigits a b => HexDigit.number [a, b]
  | fourDigits a b c d => HexDigit.number [a, b, c, d]
  | braced first rest => HexDigit.number (first :: rest)

/-- Whether a token is a braced escape with a number beyond the last code point. -/
def isBeyond : Token → Bool
  | braced first rest => 0x10FFFF < HexDigit.number (first :: rest)
  | _ => false

/-- A token with a fixed number of digits in place of a brace. -/
def unbraced : Token → List Char
  | braced first rest => '\\' :: 'U' :: hexDigits 8 (HexDigit.number (first :: rest))
  | token => token.chars

end Token

/-! ### Hexadecimal numbers -/

theorem hexNumber?_append (value : Nat) (cs ds : List Char) :
    hexNumber? value (cs ++ ds) = (hexNumber? value cs).bind (hexNumber? · ds) := by
  induction cs generalizing value with
  | nil => rfl
  | cons c cs ih =>
    rw [List.cons_append, hexNumber?, hexNumber?]
    cases hexValue? c with
    | none => rfl
    | some digit => exact ih _

/-- What holds of all characters for digits, one after the other, holds of every digit. -/
theorem HexDigit.of_all {p : Char → Prop} [DecidablePred p]
    (h : "0123456789abcdefABCDEF".toList.all (fun c ↦ decide (p c)) = true) (digit : HexDigit) :
    p digit.char :=
  of_decide_eq_true (List.all_eq_true.mp h digit.char digit.isDigit)

theorem HexDigit.hexValue?_char (digit : HexDigit) : hexValue? digit.char = some digit.value :=
  of_all (p := fun c ↦ hexValue? c = some ("0123456789abcdef".toList.idxOf c.toLower))
    (by decide) digit

theorem hexNumber?_map_char (value : Nat) (digits : List HexDigit) :
    hexNumber? value (digits.map HexDigit.char) =
      some (digits.foldl (fun n digit ↦ 16 * n + digit.value) value) := by
  induction digits generalizing value with
  | nil => rfl
  | cons digit digits ih =>
    rw [List.map_cons, hexNumber?, digit.hexValue?_char, Option.bind_some, ih]
    rfl

theorem hexValue?_digitChar : ∀ digit < 16, hexValue? (Nat.digitChar digit) = some digit := by
  decide

/-- The digits of a number write the number. -/
theorem hexNumber?_toDigits (n : Nat) : hexNumber? 0 (Nat.toDigits 16 n) = some n := by
  induction n using Nat.strongRecOn with
  | ind n ih =>
    rw [Nat.toDigits_eq_if (by decide)]
    split_ifs with hn
    · rw [hexNumber?, hexValue?_digitChar n hn, Option.bind_some, hexNumber?]
      simp
    · rw [hexNumber?_append, ih (n / 16) (by omega), Option.bind_some, hexNumber?,
        hexValue?_digitChar (n % 16) (by omega), Option.bind_some, hexNumber?]
      congr 1
      omega

theorem hexNumber?_replicate (count : Nat) (cs : List Char) :
    hexNumber? 0 (List.replicate count '0' ++ cs) = hexNumber? 0 cs := by
  induction count with
  | zero => rfl
  | succ count ih =>
    rw [List.replicate_succ, List.cons_append, hexNumber?]
    exact ih

theorem hexNumber?_hexDigits (width n : Nat) : hexNumber? 0 (hexDigits width n) = some n := by
  rw [hexDigits, hexNumber?_replicate, hexNumber?_toDigits]

theorem length_hexDigits {width n : Nat} (hwidth : 0 < width) (hn : n < 16 ^ width) :
    (hexDigits width n).length = width := by
  have hlength := (Nat.length_toDigits_le_iff (by decide) hwidth).mpr hn
  rw [hexDigits, List.length_append, List.length_replicate]
  omega

theorem lt_length_toDigits_iff {width n : Nat} (hwidth : 0 < width) :
    width < (Nat.toDigits 16 n).length ↔ 16 ^ width ≤ n := by
  rw [← Nat.not_le, Nat.length_toDigits_le_iff (by decide) hwidth, Nat.not_lt]

/-- Of a number with more than eight digits the first eight are beyond the last code point. -/
theorem exists_hexNumber?_take {n : Nat} (hn : 16 ^ 8 ≤ n) :
    ∃ m, hexNumber? 0 ((Nat.toDigits 16 n).take 8) = some m ∧ 0x10FFFF < m := by
  induction n using Nat.strongRecOn with
  | ind n ih =>
    rw [Nat.toDigits_of_base_le (by decide) (by omega)]
    by_cases hshort : n / 16 < 16 ^ 8
    · -- The number without its last digit has exactly eight.
      have hlength : (Nat.toDigits 16 (n / 16)).length = 8 := by
        have hle : (Nat.toDigits 16 (n / 16)).length ≤ 8 :=
          (Nat.length_toDigits_le_iff (by decide) (by decide)).mpr hshort
        have hlt : 7 < (Nat.toDigits 16 (n / 16)).length :=
          (lt_length_toDigits_iff (by decide)).mpr (by omega)
        omega
      rw [List.take_left' hlength]
      exact ⟨n / 16, hexNumber?_toDigits _, by omega⟩
    · have hlength : 8 < (Nat.toDigits 16 (n / 16)).length :=
        (lt_length_toDigits_iff (by decide)).mpr (Nat.le_of_not_lt hshort)
      rw [List.take_append_of_le_length (Nat.le_of_lt hlength)]
      exact ih (n / 16) (by omega) (by omega)

/-! ### Escapes of fixed width -/

theorem fixedHex?_append {width n : Nat} {cs : List Char} (hlength : cs.length = width)
    (hnumber : hexNumber? 0 cs = some n) (rest : List Char) :
    fixedHex? width (cs ++ rest) = if n ≤ 0x10FFFF then some (n, rest) else none := by
  have hlong : ¬ (cs ++ rest).length < width := by
    rw [List.length_append]
    omega
  rw [fixedHex?, if_neg hlong, List.take_left' hlength, List.drop_left' hlength, hnumber]

/-- The digits of a number, eight or more, are read as the number if it is a code point and not at
all otherwise. -/
theorem fixedHex?_hexDigits (n : Nat) (rest : List Char) :
    fixedHex? 8 (hexDigits 8 n ++ rest) = if n ≤ 0x10FFFF then some (n, rest) else none := by
  by_cases hn : n < 16 ^ 8
  · exact fixedHex?_append (length_hexDigits (by decide) hn) (hexNumber?_hexDigits 8 n) rest
  · -- Only the first eight of the digits are read, and these are too large already.
    have hlength : 8 < (Nat.toDigits 16 n).length :=
      (lt_length_toDigits_iff (by decide)).mpr (Nat.le_of_not_lt hn)
    have hdigits : hexDigits 8 n = Nat.toDigits 16 n := by
      rw [hexDigits, Nat.sub_eq_zero_of_le (by omega)]
      rfl
    have hlong : ¬ (Nat.toDigits 16 n ++ rest).length < 8 := by
      rw [List.length_append]
      omega
    obtain ⟨m, hm, hbeyond⟩ := exists_hexNumber?_take (Nat.le_of_not_lt hn)
    rw [hdigits, fixedHex?, if_neg hlong, List.take_append_of_le_length (by omega), hm,
      if_neg (by omega)]
    exact if_neg (by omega)

/-! ### Reading one escape -/

theorem decode_cons_of_ne {c : Char} (hc : c ≠ '\\') (cs : List Char) :
    decode (c :: cs) = (decode cs).map (c.toNat :: ·) := by
  rw [decode, if_neg hc]

/-- An escape is read and then the rest, unless the escape is malformed. -/
theorem decode_escape (cs : List Char) :
    decode ('\\' :: cs) = (escape? cs).bind fun (units, rest) ↦ (decode rest).map (units ++ ·) := by
  rw [decode, if_pos rfl]
  split
  · rename_i units rest hescape
    rw [hescape, Option.bind_some]
  · rename_i hescape
    rw [hescape, Option.bind_none]

/-- An escaped letter stands for its code point. -/
theorem escape?_letter {escaped : Char × CodePoint} (h : escaped ∈ escapedLetters)
    (rest : List Char) : escape? (escaped.1 :: rest) = some ([escaped.2], rest) := by
  simp only [escapedLetters, List.mem_cons, List.not_mem_nil, or_false] at h
  rcases h with rfl | rfl | rfl | rfl | rfl | rfl | rfl | rfl <;> rfl

/-- The letters of the escapes with a fixed number of digits, and that number. -/
def hexEscapes : List (Char × Nat) :=
  [('x', 2), ('u', 4), ('U', 8)]

/-- After an escape of fixed width comes the rest, unless the digits are no code point. -/
theorem decode_hexEscape (letter : Char) (width : Nat) (h : (letter, width) ∈ hexEscapes)
    (cs : List Char) :
    decode ('\\' :: letter :: cs) =
      (fixedHex? width cs).bind fun (n, rest) ↦ (decode rest).map (n :: ·) := by
  have hescape : escape? (letter :: cs) =
      (fixedHex? width cs).map fun (n, rest) ↦ ([n], rest) := by
    simp only [hexEscapes, List.mem_cons, List.not_mem_nil, or_false, Prod.mk.injEq] at h
    rcases h with ⟨rfl, rfl⟩ | ⟨rfl, rfl⟩ | ⟨rfl, rfl⟩ <;> rfl
  rw [decode_escape, hescape, Option.bind_map]
  rfl

/-- A character that is spelled out is read back, whatever follows it. -/
theorem decode_spellChar_append {c : Char} (hc : c ≠ '\\') (rest : List Char) :
    decode (spellChar c ++ rest) = (decode rest).map (c.toNat :: ·) := by
  have hchar : c.toNat ≤ 0x10FFFF := by
    have hvalid : c.toNat < 0xD800 ∨ 0xDFFF < c.toNat ∧ c.toNat < 0x110000 := c.valid
    omega
  unfold spellChar
  split_ifs with hlatin hshort
  · exact decode_cons_of_ne hc rest
  · have hread := fixedHex?_append (length_hexDigits (by decide) hshort)
      (hexNumber?_hexDigits 4 c.toNat) rest
    rw [List.cons_append, List.cons_append, decode_hexEscape 'u' 4 (by decide), hread,
      if_pos hchar, Option.bind_some]
  · rw [List.cons_append, List.cons_append, decode_hexEscape 'U' 8 (by decide),
      fixedHex?_hexDigits, if_pos hchar, Option.bind_some]

/-! ### Writing braced escapes with a fixed width -/

theorem unbrace_cons_of_ne {c : Char} (hc : c ≠ '\\') (cs : List Char) :
    unbrace (c :: cs) = c :: unbrace cs := by
  rw [unbrace]
  intro rest hbackslash
  exact absurd hbackslash hc

theorem unbrace_append_of_notMem {cs : List Char} (h : '\\' ∉ cs) (rest : List Char) :
    unbrace (cs ++ rest) = cs ++ unbrace rest := by
  induction cs with
  | nil => rfl
  | cons c cs ih =>
    obtain ⟨hc, hcs⟩ := not_or.mp (mt List.mem_cons.mpr h)
    rw [List.cons_append, unbrace_cons_of_ne (Ne.symm hc), ih hcs, List.cons_append]

/-- A backslash that no brace follows is left alone, with the escape behind it. -/
theorem unbrace_escape {cs rest : List Char} (h : '\\' ∉ cs)
    (hbrace : ∀ tail, cs ++ rest ≠ 'u' :: '{' :: tail) :
    unbrace ('\\' :: cs ++ rest) = '\\' :: cs ++ unbrace rest := by
  rw [List.cons_append, unbrace, unbrace_append_of_notMem h, List.cons_append]
  intro tail _ htail
  exact hbrace tail htail

theorem unbrace_braced {cs rest : List Char} {n : Nat} (h : braced? cs = some (n, rest)) :
    unbrace ('\\' :: 'u' :: '{' :: cs) = '\\' :: 'U' :: hexDigits 8 n ++ unbrace rest := by
  rw [unbrace]
  split
  · rename_i n' rest' hbraced
    obtain ⟨rfl, rfl⟩ := Prod.mk.inj (Option.some.inj (h.symm.trans hbraced))
    rfl
  · rename_i hbraced
    cases h.symm.trans hbraced

/-- The digits between braces are read up to the closing brace. -/
theorem braced?_digits {digits : List HexDigit} (hne : digits ≠ []) (rest : List Char) :
    braced? (digits.map HexDigit.char ++ '}' :: rest) = some (HexDigit.number digits, rest) := by
  have hall : ∀ c ∈ digits.map HexDigit.char, (hexValue? c).isSome = true := by
    intro c hc
    obtain ⟨digit, -, rfl⟩ := List.mem_map.mp hc
    rw [digit.hexValue?_char, Option.isSome_some]
  have htake : (digits.map HexDigit.char ++ '}' :: rest).takeWhile (fun c ↦ (hexValue? c).isSome) =
      digits.map HexDigit.char := by
    rw [List.takeWhile_append_of_pos hall, List.takeWhile_cons_of_neg (by decide), List.append_nil]
  have hne : digits.map HexDigit.char ≠ [] := mt List.map_eq_nil_iff.mp hne
  rw [braced?]
  simp only [htake, List.drop_left, if_neg hne, hexNumber?_map_char, Option.map_some]
  rfl

/-! ### What the passes make of a token -/

theorem HexDigit.ne_backslash (digit : HexDigit) : '\\' ≠ digit.char :=
  of_all (p := ('\\' ≠ ·)) (by decide) digit

theorem HexDigit.ne_brace (digit : HexDigit) : digit.char ≠ '{' :=
  of_all (p := (· ≠ '{')) (by decide) digit

/-- The first pass writes each token with a fixed width, whatever follows it. -/
theorem unbrace_chars_append (token : Token) (rest : List Char) :
    unbrace (token.chars ++ rest) = token.unbraced ++ unbrace rest := by
  cases token with
  | plain c hc => exact unbrace_cons_of_ne hc rest
  | letter escaped hescaped =>
    have hplain : ∀ e ∈ escapedLetters, e.1 ≠ '\\' ∧ e.1 ≠ 'u' := by decide
    obtain ⟨hbackslash, hletter⟩ := hplain escaped hescaped
    refine unbrace_escape (by simpa using hbackslash.symm) ?_
    intro tail htail
    exact hletter (List.cons.inj htail).1
  | twoDigits a b =>
    refine unbrace_escape ?_ (fun tail htail ↦ absurd (List.cons.inj htail).1 (by decide))
    simp [a.ne_backslash, b.ne_backslash]
  | fourDigits a b c d =>
    -- The letter is that of a braced escape, but a digit follows it.
    refine unbrace_escape ?_ ?_
    · simp [a.ne_backslash, b.ne_backslash, c.ne_backslash, d.ne_backslash]
    · intro tail htail
      exact a.ne_brace (List.cons.inj (List.cons.inj htail).2).1
  | braced first digits =>
    have hbraced := braced?_digits (List.cons_ne_nil first digits) rest
    have hunbraced := unbrace_braced hbraced
    rw [Token.chars, Token.unbraced, List.append_assoc]
    exact hunbraced

theorem spellWide_append (cs ds : List Char) :
    spellWide (cs ++ ds) = spellWide cs ++ spellWide ds :=
  List.flatMap_append

/-- The second pass leaves characters of the Latin-1 range alone. -/
theorem spellWide_eq_self {cs : List Char} (h : ∀ c ∈ cs, c.toNat < 0x100) : spellWide cs = cs := by
  induction cs with
  | nil => rfl
  | cons c cs ih =>
    obtain ⟨hc, hcs⟩ := List.forall_mem_cons.mp h
    have hrest : cs.flatMap spellChar = cs := ih hcs
    rw [spellWide, List.flatMap_cons, hrest, spellChar, if_pos hc, List.singleton_append]

theorem HexDigit.toNat_lt (digit : HexDigit) : digit.char.toNat < 0x100 :=
  of_all (p := fun c ↦ c.toNat < 0x100) (by decide) digit

/-- What holds of all digits that numbers are written with holds of every digit of a number. -/
theorem of_mem_toDigits {p : Char → Prop} (hdigit : ∀ digit < 16, p (Nat.digitChar digit)) {n : Nat}
    {c : Char} (h : c ∈ Nat.toDigits 16 n) : p c := by
  induction n using Nat.strongRecOn with
  | ind n ih =>
    rw [Nat.toDigits_eq_if (by decide)] at h
    split_ifs at h with hn
    · rw [List.mem_singleton.mp h]
      exact hdigit n hn
    · rcases List.mem_append.mp h with h | h
      · exact ih (n / 16) (by omega) h
      · rw [List.mem_singleton.mp h]
        exact hdigit (n % 16) (by omega)

theorem of_mem_hexDigits {p : Char → Prop} (hdigit : ∀ digit < 16, p (Nat.digitChar digit))
    {width n : Nat} {c : Char} (h : c ∈ hexDigits width n) : p c := by
  rcases List.mem_append.mp h with h | h
  · rw [List.eq_of_mem_replicate h]
    exact hdigit 0 (by decide)
  · exact of_mem_toDigits hdigit h

theorem toNat_lt_of_mem_hexDigits {width n : Nat} {c : Char} (h : c ∈ hexDigits width n) :
    c.toNat < 0x100 :=
  of_mem_hexDigits (p := fun c ↦ c.toNat < 0x100) (by decide) h

theorem HexDigit.value_lt (digit : HexDigit) : digit.value < 16 :=
  of_all (p := fun c ↦ "0123456789abcdef".toList.idxOf c.toLower < 16) (by decide) digit

/-- A number is bounded by its digits. -/
theorem HexDigit.number_lt (digits : List HexDigit) :
    HexDigit.number digits < 16 ^ digits.length := by
  have hfold : ∀ value, digits.foldl (fun n digit ↦ 16 * n + digit.value) value <
      16 ^ digits.length * (value + 1) := by
    induction digits with
    | nil =>
      intro value
      simp
    | cons digit digits ih =>
      intro value
      have hdigit := digit.value_lt
      calc digits.foldl (fun n digit ↦ 16 * n + digit.value) (16 * value + digit.value)
          < 16 ^ digits.length * (16 * value + digit.value + 1) := ih _
        _ ≤ 16 ^ digits.length * (16 * (value + 1)) := Nat.mul_le_mul_left _ (by omega)
        _ = 16 ^ (digits.length + 1) * (value + 1) := by rw [Nat.pow_succ, Nat.mul_assoc]
  simpa [number] using hfold 0

/-- An escape with as many digits as its letter asks for is read as their number. -/
theorem decode_digits {letter : Char} {digits : List HexDigit}
    (h : (letter, digits.length) ∈ hexEscapes) (hnumber : HexDigit.number digits ≤ 0x10FFFF)
    (rest : List Char) :
    decode (spellWide ('\\' :: letter :: digits.map HexDigit.char) ++ rest) =
      (decode rest).map (HexDigit.number digits :: ·) := by
  have hletter : ∀ e ∈ hexEscapes, e.1.toNat < 0x100 := by decide
  have hspelled : spellWide ('\\' :: letter :: digits.map HexDigit.char) =
      '\\' :: letter :: digits.map HexDigit.char := by
    refine spellWide_eq_self ?_
    rw [List.forall_mem_cons, List.forall_mem_cons, List.forall_mem_map]
    exact ⟨by decide, hletter _ h, fun digit _ ↦ digit.toNat_lt⟩
  have hread : fixedHex? digits.length (digits.map HexDigit.char ++ rest) =
      if HexDigit.number digits ≤ 0x10FFFF then some (HexDigit.number digits, rest) else none :=
    fixedHex?_append (List.length_map _) (hexNumber?_map_char 0 digits) rest
  rw [hspelled, List.cons_append, List.cons_append, decode_hexEscape letter digits.length h, hread,
    if_pos hnumber, Option.bind_some]

/-- The last two passes give the code point of a token in front of what they make of the rest, and
nothing at all if the token is beyond the last code point. -/
theorem decode_token_append (token : Token) (rest : List Char) :
    decode (spellWide token.unbraced ++ rest) =
      if token.isBeyond then none else (decode rest).map (token.codePoint :: ·) := by
  cases token with
  | plain c hc =>
    have hspelled : spellWide [c] = spellChar c := List.flatMap_singleton _ _
    change decode (spellWide [c] ++ rest) = _
    rw [hspelled]
    exact decode_spellChar_append hc rest
  | letter escaped hescaped =>
    have hlatin : ∀ e ∈ escapedLetters, e.1.toNat < 0x100 := by decide
    have hspelled : spellWide ['\\', escaped.1] = ['\\', escaped.1] :=
      spellWide_eq_self (by simpa using hlatin escaped hescaped)
    change decode (spellWide ['\\', escaped.1] ++ rest) = _
    rw [hspelled, List.cons_append, List.singleton_append, decode_escape,
      escape?_letter hescaped]
    rfl
  | twoDigits a b =>
    have hlt : HexDigit.number [a, b] < 16 ^ 2 := HexDigit.number_lt _
    have hnumber : HexDigit.number [a, b] ≤ 0x10FFFF := by omega
    exact decode_digits (by decide : ('x', 2) ∈ hexEscapes) hnumber rest
  | fourDigits a b c d =>
    have hlt : HexDigit.number [a, b, c, d] < 16 ^ 4 := HexDigit.number_lt _
    have hnumber : HexDigit.number [a, b, c, d] ≤ 0x10FFFF := by omega
    exact decode_digits (by decide : ('u', 4) ∈ hexEscapes) hnumber rest
  | braced first digits =>
    have hspelled : spellWide ('\\' :: 'U' :: hexDigits 8 (HexDigit.number (first :: digits))) =
        '\\' :: 'U' :: hexDigits 8 (HexDigit.number (first :: digits)) := by
      refine spellWide_eq_self ?_
      rw [List.forall_mem_cons, List.forall_mem_cons]
      exact ⟨by decide, by decide, fun c ↦ toNat_lt_of_mem_hexDigits⟩
    have hread := fixedHex?_hexDigits (HexDigit.number (first :: digits)) rest
    rw [Token.unbraced, hspelled, Token.isBeyond, Token.codePoint, List.cons_append,
      List.cons_append, decode_hexEscape 'U' 8 (by decide), hread]
    by_cases hbeyond : HexDigit.number (first :: digits) ≤ 0x10FFFF
    · rw [if_pos hbeyond, decide_eq_false (Nat.not_lt.mpr hbeyond)]
      rfl
    · rw [if_neg hbeyond, decide_eq_true (Nat.lt_of_not_le hbeyond)]
      rfl

/-! ### Bodies made of tokens -/

theorem decode_spellWide_of_notMem {cs : List Char} (h : '\\' ∉ cs) :
    decode (spellWide cs) = some (cs.map Char.toNat) := by
  induction cs with
  | nil => rw [spellWide, List.flatMap_nil, decode, List.map_nil]
  | cons c cs ih =>
    obtain ⟨hc, hcs⟩ := not_or.mp (mt List.mem_cons.mpr h)
    have hrest : decode (cs.flatMap spellChar) = some (cs.map Char.toNat) := ih hcs
    rw [spellWide, List.flatMap_cons, decode_spellChar_append (Ne.symm hc), hrest]
    rfl

/-- Without a backslash the passes only read the characters back, so it does not matter that such a
body is not decoded. -/
theorem value_eq_decode (body : String) :
    value body = decode (spellWide (unbrace body.toList)) := by
  unfold value
  dsimp only
  split_ifs with hbackslash
  · rfl
  · have hnotMem : '\\' ∉ body.toList := by simpa using hbackslash
    have hunbrace := unbrace_append_of_notMem hnotMem []
    rw [List.append_nil, unbrace, List.append_nil] at hunbrace
    rw [hunbrace, decode_spellWide_of_notMem hnotMem]

theorem decode_tokens (tokens : List Token) :
    decode (spellWide (unbrace (tokens.flatMap Token.chars))) =
      if tokens.any Token.isBeyond then none else some (tokens.map Token.codePoint) := by
  induction tokens with
  | nil => simp [unbrace, spellWide, decode]
  | cons token tokens ih =>
    rw [List.flatMap_cons, unbrace_chars_append, spellWide_append, decode_token_append, ih,
      List.any_cons, List.map_cons]
    cases token.isBeyond with
    | true => rfl
    | false => cases tokens.any Token.isBeyond <;> rfl

/-- **Escapes are read token by token.** The value of a body that is made of tokens, each a plain
character, an escaped letter, an escape of two or four digits or one of any number of digits in
braces, is made of the code points of the tokens in their order. There is no value exactly when
the number of some braced escape is beyond the last code point. -/
theorem value_tokens (tokens : List Token) :
    value (String.ofList (tokens.flatMap Token.chars)) =
      if tokens.any Token.isBeyond then none else some (tokens.map Token.codePoint) := by
  rw [value_eq_decode, String.toList_ofList, decode_tokens]

/-- Leading zeros do not count, and a digit that follows an escape is a character of its own. -/
example : value "\\u\x7b0000000000041\x7d1\\x42\\né\u4e16" =
    some [0x41, 0x31, 0x42, 0x0A, 0xE9, 0x4E16] := by
  decide +kernel

end ClientBoundary.StringLiteral
