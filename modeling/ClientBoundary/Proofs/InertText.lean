import ClientBoundary.Markup
import Mathlib.Data.List.Infix

/-!
# Text that markup leaves alone

Between the tags of a message, two things are still read: a backslash before an opening bracket is
dropped, and a code between two colons that names an emoji is replaced by it. A text without either
is inert and printed as it is. Any other text is printed differently, in two senses: it has fewer of
the characters of markup, since emoji have none, and the first difference is at one of these
characters, so that not even the beginning of the text survives up to there.

## Main definitions

* `Markup.codes`: the codes in a text.
* `Markup.IsInert`: a text in which nothing is read.
* `Markup.shown`: what a text between tags prints.
* `Markup.Departs`: what is printed differs from a text before either of them ends.

## Main results

* `Markup.codes_append_of_notMem`, `Markup.codes_eq_singleton`: codes of texts with few colons.
* `Markup.shown_eq_self`, `Markup.departs_shown`, `Markup.countP_shown`: inert texts and others.
* `Markup.shown_append_blank`: a blank divides what is read.
-/

namespace ClientBoundary.Markup

open Text

/-- To find that no character of a text is of a kind, it is enough to look at each. -/
theorem forall_eq_false_of_all {kind : Char → Bool} {cs : List Char}
    (h : cs.all (fun c ↦ !kind c) = true) : ∀ c ∈ cs, kind c = false := by
  simpa using h

/-- Whether a character has a meaning in markup. -/
def isMarkupChar (c : Char) : Bool :=
  c == ':' || c == '[' || c == '\\'

/-- Among characters of a kind to which those of markup do not belong there are none of these. -/
theorem countP_isMarkupChar_eq_zero {kind : Char → Bool}
    (hkind : ∀ c ∈ [':', '[', '\\'], kind c = false) {cs : List Char}
    (h : ∀ c ∈ cs, kind c = true) : cs.countP isMarkupChar = 0 := by
  rw [List.countP_eq_zero]
  intro c hc hmarkup
  have hmem : c ∈ [':', '[', '\\'] := by simpa [isMarkupChar, or_assoc] using hmarkup
  exact absurd (h c hc) (by simp [hkind c hmem])

/-! ### Departures -/

/-- What stands for a character of markup where it is read: the bracket behind a backslash, or the
first character of an emoji for the colon of a code. -/
def StandsFor (d c : Char) : Prop :=
  c = '\\' ∧ d = '[' ∨ c = ':' ∧ isPictorial d = true

/-- The second text goes on as the first one does up to some place, and there with a character that
stands for one of markup. -/
def Departs (cs ds : List Char) : Prop :=
  ∃ before c d rest rest', cs = before ++ c :: rest ∧ ds = before ++ d :: rest' ∧ StandsFor d c

theorem StandsFor.ne {c d : Char} (h : StandsFor d c) : c ≠ d := by
  rcases h with ⟨rfl, rfl⟩ | ⟨rfl, hd⟩
  · decide
  · rintro rfl
    exact absurd hd (by decide)

namespace Departs

variable {cs ds : List Char}

theorem append_left (h : Departs cs ds) (front : List Char) :
    Departs (front ++ cs) (front ++ ds) := by
  obtain ⟨before, c, d, rest, rest', rfl, rfl, hd⟩ := h
  exact ⟨front ++ before, c, d, rest, rest', by simp, by simp, hd⟩

theorem append_right (h : Departs cs ds) (xs ys : List Char) :
    Departs (cs ++ xs) (ds ++ ys) := by
  obtain ⟨before, c, d, rest, rest', rfl, rfl, hd⟩ := h
  exact ⟨before, c, d, rest ++ xs, rest' ++ ys, by simp, by simp, hd⟩

end Departs

/-! ### Codes -/

theorem eq_append_of_code? {cs code rest : List Char} (h : code? cs = some (code, rest)) :
    cs = code ++ ':' :: rest := by
  unfold code? at h
  dsimp only at h
  split at h
  · rename_i rest' hdrop
    obtain ⟨rfl, rfl⟩ := Prod.mk.inj (Option.some.inj h)
    rw [← hdrop, List.prefix_iff_eq_append.mp (List.takeWhile_prefix _)]
  · cases h

/-- The codes in a text, from left to right. The second colon of a code starts no other code. -/
def codes : List Char → List (List Char)
  | [] => []
  | c :: cs =>
    if c = ':' then
      match _h : code? cs with
      | some (code, rest) => code :: codes rest
      | none => codes cs
    else codes cs
  termination_by cs => cs.length
  decreasing_by
    · have := length_lt_of_code? _h
      simp
      omega
    · simp
    · simp

theorem codes_cons_of_ne {c : Char} (hc : c ≠ ':') (cs : List Char) :
    codes (c :: cs) = codes cs := by
  rw [codes, if_neg hc]

theorem codes_append_of_notMem {front : List Char} (h : ':' ∉ front) (cs : List Char) :
    codes (front ++ cs) = codes cs := by
  induction front with
  | nil => rfl
  | cons c front ih =>
    have hc : c ≠ ':' := fun hc ↦ h (hc ▸ List.mem_cons_self)
    rw [List.cons_append, codes_cons_of_ne hc, ih fun hmem ↦ h (List.mem_cons_of_mem c hmem)]

theorem codes_of_notMem {cs : List Char} (h : ':' ∉ cs) : codes cs = [] := by
  rw [← List.append_nil cs, codes_append_of_notMem h, codes]

theorem code?_of_notMem {cs : List Char} (h : ':' ∉ cs) : code? cs = none := by
  by_contra hsome
  obtain ⟨⟨code, rest⟩, hcode⟩ := Option.ne_none_iff_exists'.mp hsome
  rw [eq_append_of_code? hcode] at h
  simp at h

/-- A text with one colon has no codes. -/
theorem codes_colon {cs : List Char} (h : ':' ∉ cs) : codes (':' :: cs) = [] := by
  rw [codes, if_pos rfl]
  split
  · rename_i hcode
    rw [code?_of_notMem h] at hcode
    cases hcode
  · exact codes_of_notMem h

theorem code?_append {code : List Char} (hcode : ∀ c ∈ code, c ≠ ':' ∧ isBlank c = false)
    (rest : List Char) : code? (code ++ ':' :: rest) = some (code, rest) := by
  have htake : (code ++ ':' :: rest).takeWhile (fun c ↦ c != ':' && !isBlank c) = code := by
    rw [List.takeWhile_append_of_pos, List.takeWhile_cons_of_neg (by simp), List.append_nil]
    intro c hc
    simp [hcode c hc]
  simp only [code?, htake, List.drop_left]

/-- A text with two colons has what stands between them as its code. -/
theorem codes_eq_singleton {code rest : List Char}
    (hcode : ∀ c ∈ code, c ≠ ':' ∧ isBlank c = false) (hrest : ':' ∉ rest) :
    codes (':' :: code ++ ':' :: rest) = [code] := by
  rw [List.cons_append, codes, if_pos rfl]
  split
  · rename_i hsome
    obtain ⟨rfl, rfl⟩ := Prod.mk.inj (Option.some.inj ((code?_append hcode rest).symm.trans hsome))
    rw [codes_of_notMem hrest]
  · rename_i hnone
    rw [code?_append hcode] at hnone
    cases hnone

section ReplaceCodes

variable {emoji? : List Char → Option Emoji}

theorem replaceCodes_cons_of_ne {c : Char} (hc : c ≠ ':') (cs : List Char) :
    replaceCodes emoji? (c :: cs) = c :: replaceCodes emoji? cs := by
  rw [replaceCodes, if_neg hc]

theorem replaceCodes_colon {cs : List Char} (h : code? cs = none) :
    replaceCodes emoji? (':' :: cs) = ':' :: replaceCodes emoji? cs := by
  rw [replaceCodes, if_pos rfl]
  split
  · rename_i hcode
    rw [h] at hcode
    cases hcode
  · rfl

theorem replaceCodes_code {cs code rest : List Char} (h : code? cs = some (code, rest)) :
    replaceCodes emoji? (':' :: cs) =
      ((emoji? code).map Emoji.chars).getD (':' :: code ++ [':']) ++ replaceCodes emoji? rest := by
  rw [replaceCodes, if_pos rfl]
  split
  · rename_i hcode
    obtain ⟨rfl, rfl⟩ := Prod.mk.inj (Option.some.inj (h.symm.trans hcode))
    rfl
  · rename_i hcode
    rw [h] at hcode
    cases hcode

/-- A code that names nothing stays as it is. -/
theorem replaceCodes_code_of_none {cs code rest : List Char} (h : code? cs = some (code, rest))
    (hnone : emoji? code = none) :
    replaceCodes emoji? (':' :: cs) = ':' :: code ++ ':' :: replaceCodes emoji? rest := by
  rw [replaceCodes_code h, hnone, Option.map_none, Option.getD_none]
  simp

/-- A text in which no code names an emoji stays as it is. -/
theorem replaceCodes_eq_self {cs : List Char}
    (h : ∀ code ∈ codes cs, emoji? code = none) : replaceCodes emoji? cs = cs := by
  fun_induction codes cs with
  | case1 => rw [replaceCodes]
  | case2 cs code rest hcode ih =>
    obtain ⟨hnone, hrest⟩ := List.forall_mem_cons.mp h
    rw [replaceCodes_code_of_none hcode hnone, ih hrest, eq_append_of_code? hcode]
    rfl
  | case3 cs hcode ih => rw [replaceCodes_colon hcode, ih h]
  | case4 c cs hc ih => rw [replaceCodes_cons_of_ne hc, ih h]

/-- A text in which a code names an emoji is departed from where the first such code starts. -/
theorem departs_replaceCodes {cs : List Char}
    (h : ¬ ∀ code ∈ codes cs, emoji? code = none) :
    ∃ before d rest rest', cs = before ++ ':' :: rest ∧
      replaceCodes emoji? cs = before ++ d :: rest' ∧ isPictorial d = true := by
  fun_induction codes cs with
  | case1 => simp at h
  | case2 cs code rest hcode ih =>
    cases hnone : emoji? code with
    | some emoji =>
      obtain ⟨d, ds, hchars⟩ := List.exists_cons_of_ne_nil emoji.ne_nil
      refine ⟨[], d, cs, ds ++ replaceCodes emoji? rest, rfl, ?_,
        emoji.isPictorial d (hchars ▸ List.mem_cons_self)⟩
      rw [replaceCodes_code hcode, hnone, Option.map_some, Option.getD_some, hchars]
      rfl
    | none =>
      have hrest : ¬ ∀ code ∈ codes rest, emoji? code = none :=
        fun hrest ↦ h (List.forall_mem_cons.mpr ⟨hnone, hrest⟩)
      obtain ⟨before, d, after, after', hafter, hreplaced, hd⟩ := ih hrest
      refine ⟨':' :: code ++ ':' :: before, d, after, after', ?_, ?_, hd⟩
      · rw [eq_append_of_code? hcode, hafter]
        simp
      · rw [replaceCodes_code_of_none hcode hnone, hreplaced]
        simp
  | case3 cs hcode ih =>
    obtain ⟨before, d, rest, rest', hrest, hreplaced, hd⟩ := ih h
    refine ⟨':' :: before, d, rest, rest', by rw [hrest]; rfl, ?_, hd⟩
    rw [replaceCodes_colon hcode, hreplaced]
    rfl
  | case4 c cs hc ih =>
    obtain ⟨before, d, rest, rest', hrest, hreplaced, hd⟩ := ih h
    refine ⟨c :: before, d, rest, rest', by rw [hrest]; rfl, ?_, hd⟩
    rw [replaceCodes_cons_of_ne hc, hreplaced]
    rfl

/-- What codes are replaced by is pictorial. -/
theorem mem_replaceCodes {cs : List Char} {d : Char} (h : d ∈ replaceCodes emoji? cs) :
    d ∈ cs ∨ isPictorial d = true := by
  fun_induction codes cs with
  | case1 => simp [replaceCodes] at h
  | case2 cs code rest hcode ih =>
    have hcs := eq_append_of_code? hcode
    rw [replaceCodes_code hcode, List.mem_append] at h
    rcases h with h | h
    · cases hnone : emoji? code with
      | some emoji =>
        rw [hnone, Option.map_some, Option.getD_some] at h
        exact Or.inr (emoji.isPictorial d h)
      | none =>
        rw [hnone, Option.map_none, Option.getD_none] at h
        refine Or.inl ?_
        rw [hcs]
        simp only [List.cons_append, List.mem_cons, List.mem_append, List.not_mem_nil,
          or_false] at h ⊢
        tauto
    · rcases ih h with hrest | hpictorial
      · exact Or.inl (by simp [hcs, hrest])
      · exact Or.inr hpictorial
  | case3 cs hcode ih =>
    rw [replaceCodes_colon hcode, List.mem_cons] at h
    rcases h with rfl | h
    · exact Or.inl List.mem_cons_self
    · exact (ih h).imp_left (List.mem_cons_of_mem _)
  | case4 c cs hc ih =>
    rw [replaceCodes_cons_of_ne hc, List.mem_cons] at h
    rcases h with rfl | h
    · exact Or.inl List.mem_cons_self
    · exact (ih h).imp_left (List.mem_cons_of_mem _)

/-- Replacing codes leaves no more characters of markup than there are, and fewer if an emoji is
named. -/
theorem countP_replaceCodes (cs : List Char) :
    (replaceCodes emoji? cs).countP isMarkupChar ≤ cs.countP isMarkupChar ∧
      ((¬ ∀ code ∈ codes cs, emoji? code = none) →
        (replaceCodes emoji? cs).countP isMarkupChar < cs.countP isMarkupChar) := by
  fun_induction codes cs with
  | case1 => simp [replaceCodes]
  | case2 cs code rest hcode ih =>
    obtain ⟨hle, hlt⟩ := ih
    have hcs := eq_append_of_code? hcode
    cases hnone : emoji? code with
    | some emoji =>
      have hzero : emoji.chars.countP isMarkupChar = 0 :=
        countP_isMarkupChar_eq_zero (forall_eq_false_of_all (by decide)) emoji.isPictorial
      have hfewer : (replaceCodes emoji? (':' :: cs)).countP isMarkupChar <
          (':' :: cs).countP isMarkupChar := by
        rw [replaceCodes_code hcode, hnone, Option.map_some, Option.getD_some, List.countP_append,
          hzero, hcs, List.countP_cons_of_pos rfl, List.countP_append, List.countP_cons_of_pos rfl]
        omega
      exact ⟨hfewer.le, fun _ ↦ hfewer⟩
    | none =>
      rw [replaceCodes_code_of_none hcode hnone, hcs]
      simp only [List.cons_append, List.countP_append, List.countP_cons, List.forall_mem_cons,
        hnone, true_and]
      refine ⟨by omega, fun hrest ↦ ?_⟩
      have := hlt hrest
      omega
  | case3 cs hcode ih =>
    rw [replaceCodes_colon hcode, List.countP_cons, List.countP_cons]
    exact ⟨by omega, fun h ↦ by have := ih.2 h; omega⟩
  | case4 c cs hc ih =>
    rw [replaceCodes_cons_of_ne hc, List.countP_cons, List.countP_cons]
    exact ⟨by omega, fun h ↦ by have := ih.2 h; omega⟩

/-- A blank ends no code and starts none. -/
theorem code?_append_blank (cs tail : List Char) :
    code? (cs ++ ' ' :: tail) = (code? cs).map fun (code, rest) ↦ (code, rest ++ ' ' :: tail) := by
  have htake : (cs ++ ' ' :: tail).takeWhile (fun c ↦ c != ':' && !isBlank c) =
      cs.takeWhile fun c ↦ c != ':' && !isBlank c := by
    rw [List.takeWhile_append]
    split_ifs with hall
    · rw [List.takeWhile_cons_of_neg (by decide), List.append_nil]
      exact ((List.takeWhile_prefix _).eq_of_length hall).symm
    · rfl
  unfold code?
  dsimp only
  rw [htake, List.drop_append_of_le_length (List.takeWhile_prefix _).length_le]
  cases cs.drop (cs.takeWhile fun c ↦ c != ':' && !isBlank c).length with
  | nil => rfl
  | cons c rest =>
    by_cases hc : c = ':'
    · rw [hc]
      rfl
    · simp [hc]

/-- Codes are replaced on both sides of a blank. -/
theorem replaceCodes_append_blank (cs tail : List Char) :
    replaceCodes emoji? (cs ++ ' ' :: tail) =
      replaceCodes emoji? cs ++ ' ' :: replaceCodes emoji? tail := by
  fun_induction codes cs with
  | case1 =>
    rw [List.nil_append, replaceCodes_cons_of_ne (by decide), replaceCodes, List.nil_append]
  | case2 cs code rest hcode ih =>
    have hcode' : code? (cs ++ ' ' :: tail) = some (code, rest ++ ' ' :: tail) := by
      rw [code?_append_blank, hcode]
      rfl
    rw [List.cons_append, replaceCodes_code hcode', replaceCodes_code hcode, ih, List.append_assoc]
  | case3 cs hcode ih =>
    have hcode' : code? (cs ++ ' ' :: tail) = none := by
      rw [code?_append_blank, hcode]
      rfl
    rw [List.cons_append, replaceCodes_colon hcode', replaceCodes_colon hcode, ih, List.cons_append]
  | case4 c cs hc ih =>
    rw [List.cons_append, replaceCodes_cons_of_ne hc, replaceCodes_cons_of_ne hc, ih,
      List.cons_append]

end ReplaceCodes

/-! ### Backslashes before brackets -/

/-- A text without a backslash before an opening bracket keeps its backslashes. -/
theorem bareBrackets_eq_self {cs : List Char} (h : ¬ ['\\', '['] <:+: cs) :
    bareBrackets cs = cs := by
  fun_induction bareBrackets cs with
  | case1 => rfl
  | case2 cs ih => exact absurd ⟨[], cs, rfl⟩ h
  | case3 c cs _ ih => rw [ih fun hfound ↦ h (hfound.trans (List.suffix_cons c cs).isInfix)]

/-- A text is departed from at the first backslash before an opening bracket. -/
theorem departs_bareBrackets {cs : List Char} (h : ['\\', '['] <:+: cs) :
    ∃ before rest rest', cs = before ++ '\\' :: rest ∧
      bareBrackets cs = before ++ '[' :: rest' := by
  fun_induction bareBrackets cs with
  | case1 => simp at h
  | case2 cs ih => exact ⟨[], '[' :: cs, bareBrackets cs, rfl, rfl⟩
  | case3 c cs hother ih =>
    rcases List.infix_cons_iff.mp h with hprefix | hfound
    · obtain ⟨tail, htail⟩ := hprefix
      obtain ⟨rfl, rfl⟩ := List.cons.inj htail
      exact (hother _ rfl rfl).elim
    · obtain ⟨before, rest, rest', hrest, hbare⟩ := ih hfound
      exact ⟨c :: before, rest, rest', by rw [hrest]; rfl, by rw [hbare]; rfl⟩

theorem bareBrackets_subset (cs : List Char) : bareBrackets cs ⊆ cs := by
  fun_induction bareBrackets cs with
  | case1 => exact List.Subset.refl _
  | case2 cs ih =>
    intro c hc
    rw [List.mem_cons, List.mem_cons]
    exact Or.inr ((List.mem_cons.mp hc).imp_right (@ih c))
  | case3 c cs _ ih => exact List.cons_subset_cons c ih

theorem countP_bareBrackets (cs : List Char) :
    (bareBrackets cs).countP isMarkupChar ≤ cs.countP isMarkupChar ∧
      (['\\', '['] <:+: cs →
        (bareBrackets cs).countP isMarkupChar < cs.countP isMarkupChar) := by
  fun_induction bareBrackets cs with
  | case1 => simp
  | case2 cs ih =>
    have hfewer : ('[' :: bareBrackets cs).countP isMarkupChar <
        ('\\' :: '[' :: cs).countP isMarkupChar := by
      rw [List.countP_cons_of_pos rfl, List.countP_cons_of_pos rfl, List.countP_cons_of_pos rfl]
      omega
    exact ⟨hfewer.le, fun _ ↦ hfewer⟩
  | case3 c cs hother ih =>
    rw [List.countP_cons, List.countP_cons]
    refine ⟨by omega, fun h ↦ ?_⟩
    rcases List.infix_cons_iff.mp h with ⟨tail, htail⟩ | hfound
    · obtain ⟨rfl, rfl⟩ := List.cons.inj htail
      exact (hother _ rfl rfl).elim
    · have := ih.2 hfound
      omega

theorem bareBrackets_append_blank (cs tail : List Char) :
    bareBrackets (cs ++ ' ' :: tail) = bareBrackets cs ++ ' ' :: bareBrackets tail := by
  fun_induction bareBrackets cs with
  | case1 => rfl
  | case2 cs ih => rw [List.cons_append, List.cons_append, bareBrackets, ih, List.cons_append]
  | case3 c cs hother ih =>
    have hbare : bareBrackets (c :: (cs ++ ' ' :: tail)) =
        c :: bareBrackets (cs ++ ' ' :: tail) := by
      refine bareBrackets.eq_3 _ _ fun rest hc hrest ↦ ?_
      cases cs with
      | nil => exact absurd (List.cons.inj hrest).1 (by decide)
      | cons d cs =>
        obtain ⟨rfl, -⟩ := List.cons.inj hrest
        exact hother cs hc rfl
    rw [List.cons_append, hbare, ih, List.cons_append]

/-! ### Inert texts -/

section Inert

variable {emoji? : List Char → Option Emoji} {cs : List Char}

variable (emoji?) in
/-- Nothing in a text between tags is read: no backslash stands before an opening bracket, and no
code names an emoji. -/
structure IsInert (cs : List Char) : Prop where
  noEscape : ¬ ['\\', '['] <:+: cs
  noEmoji : ∀ code ∈ codes cs, emoji? code = none

/-- A blank before a text does not matter. -/
theorem isInert_cons_blank : IsInert emoji? (' ' :: cs) ↔ IsInert emoji? cs := by
  have hescape : ['\\', '['] <:+: ' ' :: cs ↔ ['\\', '['] <:+: cs := by
    simp [List.infix_cons_iff]
  constructor
  · rintro ⟨hnone, hcodes⟩
    rw [codes_cons_of_ne (by decide)] at hcodes
    exact ⟨fun h ↦ hnone (hescape.mpr h), hcodes⟩
  · rintro ⟨hnone, hcodes⟩
    rw [← codes_cons_of_ne (c := ' ') (by decide)] at hcodes
    exact ⟨fun h ↦ hnone (hescape.mp h), hcodes⟩

variable (emoji?) in
/-- What a text between tags prints. -/
def shown (cs : List Char) : List Char :=
  replaceCodes emoji? (bareBrackets cs)

/-- What a text prints is a part of it or pictorial. -/
theorem mem_shown {c : Char} (h : c ∈ shown emoji? cs) : c ∈ cs ∨ isPictorial c = true :=
  (mem_replaceCodes h).imp_left (@bareBrackets_subset cs c)

/-- A blank divides what is read. -/
theorem shown_append_blank (cs tail : List Char) :
    shown emoji? (cs ++ ' ' :: tail) = shown emoji? cs ++ ' ' :: shown emoji? tail := by
  rw [shown, bareBrackets_append_blank, replaceCodes_append_blank, shown, shown]

/-- An inert text is printed as it is. -/
theorem shown_eq_self (h : IsInert emoji? cs) : shown emoji? cs = cs := by
  rw [shown, bareBrackets_eq_self h.noEscape, replaceCodes_eq_self h.noEmoji]

/-- What any other text prints departs from it. If both a backslash is dropped and a code is
replaced, then where the first of the two happens. -/
theorem departs_shown (h : ¬ IsInert emoji? cs) : Departs cs (shown emoji? cs) := by
  rw [shown]
  by_cases hescape : ['\\', '['] <:+: cs
  · obtain ⟨before, rest, rest', hcs, hbare⟩ := departs_bareBrackets hescape
    rw [hbare]
    by_cases hcodes : ∀ code ∈ codes (before ++ '[' :: rest'), emoji? code = none
    · rw [replaceCodes_eq_self hcodes]
      exact ⟨before, '\\', '[', rest, rest', hcs, rfl, Or.inl ⟨rfl, rfl⟩⟩
    · obtain ⟨front, d, after, after', hfront, hreplaced, hd⟩ := departs_replaceCodes hcodes
      rw [hreplaced]
      rcases List.append_eq_append_iff.mp hfront with ⟨xs, hxs, hsplit⟩ | ⟨xs, hxs, hsplit⟩
      · cases xs with
        | nil => exact absurd (List.cons.inj hsplit).1 (by decide)
        | cons x xs =>
          obtain ⟨rfl, -⟩ := List.cons.inj hsplit
          refine ⟨before, '\\', '[', rest, xs ++ d :: after', hcs, ?_, Or.inl ⟨rfl, rfl⟩⟩
          rw [hxs]
          simp
      · cases xs with
        | nil => exact absurd (List.cons.inj hsplit).1 (by decide)
        | cons x xs =>
          obtain ⟨rfl, -⟩ := List.cons.inj hsplit
          refine ⟨front, ':', d, xs ++ '\\' :: rest, after', ?_, rfl, Or.inr ⟨rfl, hd⟩⟩
          rw [hcs, hxs]
          simp
  · have hcodes : ¬ ∀ code ∈ codes cs, emoji? code = none :=
      fun hcodes ↦ h ⟨hescape, hcodes⟩
    obtain ⟨before, d, rest, rest', hcs, hreplaced, hd⟩ := departs_replaceCodes hcodes
    rw [bareBrackets_eq_self hescape]
    exact ⟨before, ':', d, rest, rest', hcs, hreplaced, Or.inr ⟨rfl, hd⟩⟩

variable (emoji? cs) in
/-- A text prints no more characters of markup than it has, and fewer if it is not inert. -/
theorem countP_shown :
    (shown emoji? cs).countP isMarkupChar ≤ cs.countP isMarkupChar ∧
      (¬ IsInert emoji? cs → (shown emoji? cs).countP isMarkupChar < cs.countP isMarkupChar) := by
  obtain ⟨hbare, hbare'⟩ := countP_bareBrackets cs
  obtain ⟨hreplaced, hreplaced'⟩ := @countP_replaceCodes emoji? (bareBrackets cs)
  refine ⟨hreplaced.trans hbare, fun h ↦ ?_⟩
  by_cases hescape : ['\\', '['] <:+: cs
  · exact hreplaced.trans_lt (hbare' hescape)
  · rw [shown]
    rw [bareBrackets_eq_self hescape] at hreplaced' ⊢
    exact hreplaced' fun hcodes ↦ h ⟨hescape, hcodes⟩

end Inert

end ClientBoundary.Markup
