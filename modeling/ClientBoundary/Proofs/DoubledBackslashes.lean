import ClientBoundary.Proofs.EscapeTokens
import Mathlib.Data.List.Infix
import Mathlib.Data.List.TakeWhile

/-!
# Doubled backslashes

A text is made into the body of a literal by doubling its backslashes. The last two passes of
reading take each pair of backslashes back to one, whatever follows the pair. The first pass does
not know about pairs: it finds a braced escape behind the second backslash of a pair as well and
writes it with a fixed width. So what is read is not the text but the text with its braced escapes
written that way, and this is the text itself exactly when there is none in it.

## Main definitions

* `StringLiteral.doubled`: a text with every backslash doubled.
* `StringLiteral.HasBraced`: a braced escape stands somewhere in a text.

## Main results

* `StringLiteral.unbrace_doubled`: the first pass and doubling can be exchanged.
* `StringLiteral.decode_spellWide_doubled`: the last two passes undo doubling.
* `StringLiteral.unbrace_eq_self_iff`: which texts the first pass leaves alone.
* `StringLiteral.value_doubled_iff`: which texts are read back.
-/

namespace ClientBoundary.StringLiteral

open Text

/-- A text with every backslash doubled. -/
def doubled (cs : List Char) : List Char :=
  cs.flatMap fun c ↦ if c = '\\' then ['\\', '\\'] else [c]

/-- A text starts with a braced escape. -/
def StartsBraced (cs : List Char) : Prop :=
  ∃ first digits, (Token.braced first digits).chars <+: cs

/-- A braced escape stands somewhere in a text. -/
def HasBraced (cs : List Char) : Prop :=
  ∃ first digits, (Token.braced first digits).chars <:+: cs

/-! ### Doubling -/

theorem doubled_backslash (cs : List Char) : doubled ('\\' :: cs) = '\\' :: '\\' :: doubled cs :=
  rfl

theorem doubled_cons_of_ne {c : Char} (hc : c ≠ '\\') (cs : List Char) :
    doubled (c :: cs) = c :: doubled cs := by
  rw [doubled, List.flatMap_cons, if_neg hc]
  rfl

theorem doubled_append_of_notMem {cs : List Char} (h : '\\' ∉ cs) (rest : List Char) :
    doubled (cs ++ rest) = cs ++ doubled rest := by
  induction cs with
  | nil => rfl
  | cons c cs ih =>
    obtain ⟨hc, hcs⟩ := not_or.mp (mt List.mem_cons.mpr h)
    rw [List.cons_append, doubled_cons_of_ne (Ne.symm hc), ih hcs, List.cons_append]

/-- What a doubled text starts with, if it has no backslash, the text starts with too. -/
theorem prefix_of_prefix_doubled {start cs : List Char} (h : '\\' ∉ start)
    (hstart : start <+: doubled cs) : start <+: cs := by
  induction start generalizing cs with
  | nil => exact List.nil_prefix
  | cons c start ih =>
    obtain ⟨hc, hnotMem⟩ := not_or.mp (mt List.mem_cons.mpr h)
    cases cs with
    | nil => exact hstart
    | cons d cs =>
      by_cases hd : d = '\\'
      · rw [hd, doubled_backslash, List.cons_prefix_cons] at hstart
        exact absurd hstart.1.symm hc
      · rw [doubled_cons_of_ne hd, List.cons_prefix_cons] at hstart
        exact List.cons_prefix_cons.mpr ⟨hstart.1, ih hnotMem hstart.2⟩

/-! ### Where the first pass finds something -/

/-- A character with a value as a digit is one of the digits. -/
theorem mem_of_isSome_hexValue? {c : Char} (h : (hexValue? c).isSome = true) :
    c ∈ "0123456789abcdefABCDEF".toList := by
  have hascii : ∀ n < 128, (hexValue? (Char.ofNat n)).isSome = true →
      "0123456789abcdefABCDEF".toList.contains (Char.ofNat n) = true := by
    decide
  have hc : c.toNat < 128 := by
    unfold hexValue? at h
    split_ifs at h with hdecimal hlower hupper
    · exact Nat.lt_of_le_of_lt hdecimal.2 (by decide)
    · exact Nat.lt_of_le_of_lt hlower.2 (by decide)
    · exact Nat.lt_of_le_of_lt hupper.2 (by decide)
    · cases h
  have hmem := hascii c.toNat hc
  rw [Char.ofNat_toNat] at hmem
  exact List.contains_iff_mem.mp (hmem h)

theorem exists_digits {cs : List Char} (h : ∀ c ∈ cs, (hexValue? c).isSome = true) :
    ∃ digits : List HexDigit, digits.map HexDigit.char = cs := by
  induction cs with
  | nil => exact ⟨[], rfl⟩
  | cons c cs ih =>
    obtain ⟨hc, hcs⟩ := List.forall_mem_cons.mp h
    obtain ⟨digits, rfl⟩ := ih hcs
    exact ⟨⟨c, mem_of_isSome_hexValue? hc⟩ :: digits, rfl⟩

/-- What is read as the number of a braced escape are digits in front of a closing brace. -/
theorem exists_digits_of_braced? {cs rest : List Char} {n : Nat} (h : braced? cs = some (n, rest)) :
    ∃ first digits, cs = (first :: digits).map HexDigit.char ++ '}' :: rest := by
  have hall : ∀ c ∈ cs.takeWhile (fun c ↦ (hexValue? c).isSome), (hexValue? c).isSome = true :=
    fun c hc ↦ List.mem_takeWhile_imp (p := fun c ↦ (hexValue? c).isSome) hc
  have hstart : cs.takeWhile (fun c ↦ (hexValue? c).isSome) <+: cs := List.takeWhile_prefix _
  have hsplit := List.prefix_append_drop hstart
  obtain ⟨digits, hdigits⟩ := exists_digits hall
  unfold braced? at h
  dsimp only at h
  split at h
  · rename_i rest' hrest
    split_ifs at h with hnil
    obtain ⟨_, -, hpair⟩ := Option.map_eq_some_iff.mp h
    obtain ⟨-, rfl⟩ := Prod.mk.inj hpair
    cases digits with
    | nil => exact absurd hdigits.symm hnil
    | cons first digits =>
      rw [hrest, ← hdigits] at hsplit
      exact ⟨first, digits, hsplit⟩
  · cases h

/-- The first pass goes on behind a character that starts no braced escape. -/
theorem unbrace_cons {c : Char} {cs : List Char} (h : ¬ StartsBraced (c :: cs)) :
    unbrace (c :: cs) = c :: unbrace cs := by
  by_cases hc : c = '\\'
  · subst hc
    by_cases hbrace : ∃ tail, cs = 'u' :: '{' :: tail
    · obtain ⟨tail, rfl⟩ := hbrace
      rw [unbrace]
      split
      · rename_i n rest hbraced
        obtain ⟨first, digits, rfl⟩ := exists_digits_of_braced? hbraced
        refine absurd ⟨first, digits, rest, ?_⟩ h
        simp [Token.chars]
      · rfl
    · exact @unbrace_escape [] cs List.not_mem_nil fun tail htail ↦ hbrace ⟨tail, htail⟩
  · exact unbrace_cons_of_ne hc cs

/-- Induction on a text in the steps of the first pass: a braced escape is taken off as a whole and
any other character alone. -/
theorem braced_induction {motive : List Char → Prop} (nil : motive [])
    (braced : ∀ first digits rest, motive rest →
      motive ((Token.braced first digits).chars ++ rest))
    (plain : ∀ c cs, ¬ StartsBraced (c :: cs) → motive cs → motive (c :: cs))
    (cs : List Char) : motive cs := by
  induction hlength : cs.length using Nat.strongRecOn generalizing cs with
  | ind length ih =>
    cases cs with
    | nil => exact nil
    | cons c cs =>
      by_cases hstart : StartsBraced (c :: cs)
      · obtain ⟨first, digits, rest, hrest⟩ := hstart
        rw [← hrest] at hlength ⊢
        have hshort : rest.length < length := by
          rw [← hlength, List.length_append, Token.chars]
          simp
        exact braced first digits rest (ih rest.length hshort rest rfl)
      · have hshort : cs.length < length := by
          rw [← hlength, List.length_cons]
          omega
        exact plain c cs hstart (ih cs.length hshort cs rfl)

/-- A text has a braced escape at its start or behind its first character. -/
theorem hasBraced_cons_iff {c : Char} {cs : List Char} :
    HasBraced (c :: cs) ↔ StartsBraced (c :: cs) ∨ HasBraced cs := by
  simp only [HasBraced, StartsBraced, List.infix_cons_iff, exists_or]

/-- The first pass leaves a text alone exactly if it has no braced escape. -/
theorem unbrace_eq_self_iff (cs : List Char) : unbrace cs = cs ↔ ¬ HasBraced cs := by
  induction cs using braced_induction with
  | nil =>
    have hnone : ¬ HasBraced [] := by
      rintro ⟨first, digits, hinfix⟩
      cases List.infix_nil.mp hinfix
    exact iff_of_true (by rw [unbrace]) hnone
  | braced first digits rest =>
    -- The letter of the escape becomes a capital, so the text does change.
    refine iff_of_false ?_ (not_not.mpr ⟨first, digits, (List.prefix_append _ rest).isInfix⟩)
    rw [unbrace_chars_append]
    intro heq
    cases (List.cons.inj (List.cons.inj heq).2).1
  | plain c cs hstart ih =>
    rw [unbrace_cons hstart, List.cons_inj_right, ih, hasBraced_cons_iff]
    simp only [hstart, false_or]

/-! ### The passes over a doubled text -/

/-- The only backslash of a braced escape is its first character. -/
theorem exists_chars_braced (first : HexDigit) (digits : List HexDigit) :
    ∃ tail, (Token.braced first digits).chars = '\\' :: tail ∧ '\\' ∉ tail := by
  refine ⟨'u' :: '{' :: ((first :: digits).map HexDigit.char ++ ['}']), rfl, ?_⟩
  have hdigits : '\\' ∉ (first :: digits).map HexDigit.char := by
    intro h
    obtain ⟨digit, -, hdigit⟩ := List.mem_map.mp h
    exact digit.ne_backslash hdigit.symm
  simpa using hdigits

/-- This also holds of a braced escape that is written with a fixed width. -/
theorem exists_unbraced_braced (first : HexDigit) (digits : List HexDigit) :
    ∃ tail, (Token.braced first digits).unbraced = '\\' :: tail ∧ '\\' ∉ tail := by
  refine ⟨'U' :: hexDigits 8 (HexDigit.number (first :: digits)), rfl, ?_⟩
  have hdigits : '\\' ∉ hexDigits 8 (HexDigit.number (first :: digits)) :=
    fun h ↦ of_mem_hexDigits (p := (· ≠ '\\')) (by decide) h rfl
  simpa using hdigits

/-- In a doubled text a backslash starts a braced escape only if it does in the text. -/
theorem not_startsBraced_doubled {cs : List Char} (h : ¬ StartsBraced ('\\' :: cs)) :
    ¬ StartsBraced ('\\' :: doubled cs) := by
  rintro ⟨first, digits, hstart⟩
  obtain ⟨tail, hchars, htail⟩ := exists_chars_braced first digits
  rw [hchars, List.cons_prefix_cons] at hstart
  refine h ⟨first, digits, ?_⟩
  rw [hchars, List.cons_prefix_cons]
  exact ⟨rfl, prefix_of_prefix_doubled htail hstart.2⟩

/-- The first backslash of a pair starts no braced escape. -/
theorem not_startsBraced_pair (cs : List Char) : ¬ StartsBraced ('\\' :: '\\' :: cs) := by
  rintro ⟨first, digits, rest, hrest⟩
  cases (List.cons.inj (List.cons.inj hrest).2).1

/-- The first pass finds the same braced escapes in a doubled text as in the text. -/
theorem unbrace_doubled (cs : List Char) : unbrace (doubled cs) = doubled (unbrace cs) := by
  induction cs using braced_induction with
  | nil => rw [unbrace, doubled, List.flatMap_nil, unbrace]
  | braced first digits rest ih =>
    -- The escape is found behind the second of its backslashes.
    obtain ⟨tail, hchars, htail⟩ := exists_chars_braced first digits
    obtain ⟨tail', hunbraced, htail'⟩ := exists_unbraced_braced first digits
    have hpair : doubled ((Token.braced first digits).chars ++ rest) =
        '\\' :: ((Token.braced first digits).chars ++ doubled rest) := by
      rw [hchars, List.cons_append, doubled_backslash, doubled_append_of_notMem htail,
        List.cons_append]
    have hfirst : ¬ StartsBraced ('\\' :: ((Token.braced first digits).chars ++ doubled rest)) := by
      rw [hchars, List.cons_append]
      exact not_startsBraced_pair _
    rw [hpair, unbrace_cons hfirst, unbrace_chars_append, unbrace_chars_append, ih, hunbraced,
      List.cons_append, List.cons_append, doubled_backslash, doubled_append_of_notMem htail']
  | plain c cs hstart ih =>
    rw [unbrace_cons hstart]
    by_cases hc : c = '\\'
    · subst hc
      rw [doubled_backslash, unbrace_cons (not_startsBraced_pair _),
        unbrace_cons (not_startsBraced_doubled hstart), ih, doubled_backslash]
    · rw [doubled_cons_of_ne hc, unbrace_cons_of_ne hc, ih, doubled_cons_of_ne hc]

/-- The last two passes take every pair of backslashes back to one. -/
theorem decode_spellWide_doubled (cs : List Char) :
    decode (spellWide (doubled cs)) = some (cs.map Char.toNat) := by
  induction cs with
  | nil => rw [doubled, List.flatMap_nil, spellWide, List.flatMap_nil, decode, List.map_nil]
  | cons c cs ih =>
    by_cases hc : c = '\\'
    · subst hc
      have hspelled : spellWide ('\\' :: '\\' :: doubled cs) =
          '\\' :: '\\' :: spellWide (doubled cs) := rfl
      have hpair : escape? ('\\' :: spellWide (doubled cs)) =
          some ([0x5C], spellWide (doubled cs)) := rfl
      rw [doubled_backslash, hspelled, decode_escape, hpair, Option.bind_some]
      dsimp only
      rw [ih]
      rfl
    · have hspelled : spellWide (c :: doubled cs) = spellChar c ++ spellWide (doubled cs) := rfl
      rw [doubled_cons_of_ne hc, hspelled, decode_spellChar_append hc, ih]
      rfl

/-- **Which texts come back from doubled backslashes.** The body made of a text by doubling its
backslashes always has a value, and this is the text with its braced escapes written with a fixed
width. So it is the text itself if and only if no braced escape stands in the text. -/
theorem value_doubled_iff (text : String) :
    value (String.ofList (doubled text.toList)) = some ((unbrace text.toList).map Char.toNat) ∧
      (value (String.ofList (doubled text.toList)) = some (text.toList.map Char.toNat) ↔
        ¬ HasBraced text.toList) := by
  have hvalue : value (String.ofList (doubled text.toList)) =
      some ((unbrace text.toList).map Char.toNat) := by
    rw [value_eq_decode, String.toList_ofList, unbrace_doubled, decode_spellWide_doubled]
  refine ⟨hvalue, ?_⟩
  rw [hvalue, ← unbrace_eq_self_iff, Option.some.injEq]
  exact List.map_inj_right fun _ _ ↦ Char.toNat_inj.mp

/-- A backslash in front of a braced number is doubled in vain: the number is written with eight
digits, and the text does not come back. -/
theorem value_doubled_bracedNumber :
    value (String.ofList (doubled "\\u\x7b41\x7d".toList)) =
        some ("\\U00000041".toList.map Char.toNat) ∧
      value (String.ofList (doubled "\\u\x7b41\x7d".toList)) ≠
        some ("\\u\x7b41\x7d".toList.map Char.toNat) := by
  decide +kernel

/-- Other escapes in the text are read back, and so are wide characters behind a backslash. -/
example : value (String.ofList (doubled "\\u0041\\x4\\世\\".toList)) =
    some ("\\u0041\\x4\\世\\".toList.map Char.toNat) := by
  decide +kernel

end ClientBoundary.StringLiteral
