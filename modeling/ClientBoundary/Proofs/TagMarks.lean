import ClientBoundary.Proofs.InertText
import Mathlib.Data.List.TakeWhile

/-!
# Tags in texts

A word of a certain form in brackets is a tag, and the backslashes before it belong to it. A text
without tags is a row of characters; any other text is divided by its first tag into what stands
before it and what follows. This division is how a text is read from left to right, and proofs about
texts follow it.

## Main definitions

* `Markup.IsTagBody`, `Markup.HasTag`: a tag somewhere in a text.
* `Markup.withTag`, `Markup.IsFirstTag`: a text divided by a tag, which is its first one.
* `Markup.stretches`: the tags of a text and the texts between them.

## Main results

* `Markup.tag?_eq_some_iff`: the tag that a text starts with.
* `Markup.tag_induction`: induction over the tags of a text.
* `Markup.scan_of_not_hasTag`, `Markup.scan_withTag`: the marks of a text.
-/

namespace ClientBoundary.Markup

/-! ### Words in brackets -/

/-- A word that is a tag when it stands in brackets: it starts with a lower-case letter or one of
three signs, and no bracket follows. -/
def IsTagBody (body : List Char) : Prop :=
  ∃ c cs, body = c :: cs ∧ startsTag c = true ∧ '[' ∉ cs ∧ ']' ∉ cs

/-- A tag stands in a text. -/
def HasTag (cs : List Char) : Prop :=
  ∃ before body after, IsTagBody body ∧ cs = before ++ bracketed body ++ after

theorem IsTagBody.notMem {body : List Char} (h : IsTagBody body) : '[' ∉ body := by
  obtain ⟨c, cs, rfl, hstart, hopen, -⟩ := h
  rintro hmem
  rcases List.mem_cons.mp hmem with rfl | hmem
  · exact absurd hstart (by decide)
  · exact hopen hmem

theorem tagBody?_eq_some_iff {cs body rest : List Char} :
    tagBody? cs = some (body, rest) ↔ IsTagBody body ∧ cs = body ++ ']' :: rest := by
  constructor
  · intro h
    cases cs with
    | nil => cases h
    | cons c cs =>
      unfold tagBody? at h
      dsimp only at h
      split at h
      · rename_i rest' hdrop
        split_ifs at h with hstart
        obtain ⟨rfl, rfl⟩ := Prod.mk.inj (Option.some.inj h)
        have hword : ∀ d ∈ cs.takeWhile fun d ↦ d != '[' && d != ']', d ≠ '[' ∧ d ≠ ']' := by
          intro d hd
          simpa using List.mem_takeWhile_imp hd
        refine ⟨⟨c, _, rfl, hstart, fun hd ↦ (hword _ hd).1 rfl, fun hd ↦ (hword _ hd).2 rfl⟩, ?_⟩
        rw [← hdrop, List.cons_append, List.prefix_iff_eq_append.mp (List.takeWhile_prefix _)]
      · cases h
  · rintro ⟨⟨c, tail, rfl, hstart, hopen, hclose⟩, rfl⟩
    have htake : (tail ++ ']' :: rest).takeWhile (fun d ↦ d != '[' && d != ']') = tail := by
      rw [List.takeWhile_append_of_pos, List.takeWhile_cons_of_neg (by decide), List.append_nil]
      intro d hd
      rw [Bool.and_eq_true, bne_iff_ne, bne_iff_ne]
      exact ⟨fun heq ↦ hopen (heq ▸ hd), fun heq ↦ hclose (heq ▸ hd)⟩
    rw [List.cons_append, tagBody?, htake, List.drop_left]
    exact if_pos hstart

/-- The tag that a text starts with, behind some backslashes. -/
theorem tag?_eq_some_iff {cs body rest : List Char} {slashes : Nat} :
    tag? cs = some (slashes, body, rest) ↔
      IsTagBody body ∧ cs = List.replicate slashes '\\' ++ bracketed body ++ rest := by
  constructor
  · intro h
    unfold tag? at h
    dsimp only at h
    split at h
    · rename_i rest' hdrop
      obtain ⟨⟨body', rest''⟩, htag, hpair⟩ := Option.map_eq_some_iff.mp h
      simp only [Prod.mk.injEq] at hpair
      obtain ⟨rfl, rfl, rfl⟩ := hpair
      obtain ⟨hbody, rfl⟩ := tagBody?_eq_some_iff.mp htag
      have hslashes : cs.takeWhile (· == '\\') =
          List.replicate (cs.takeWhile (· == '\\')).length '\\' := by
        rw [List.eq_replicate_iff]
        exact ⟨rfl, fun c hc ↦ by simpa using List.mem_takeWhile_imp hc⟩
      have hwhole := List.prefix_iff_eq_append.mp (List.takeWhile_prefix (l := cs) (· == '\\'))
      rw [hdrop] at hwhole
      refine ⟨hbody, ?_⟩
      rw [← hslashes, List.append_assoc]
      simpa [bracketed] using hwhole.symm
    · cases h
  · rintro ⟨hbody, rfl⟩
    have htake : (List.replicate slashes '\\' ++ bracketed body ++ rest).takeWhile (· == '\\') =
        List.replicate slashes '\\' := by
      rw [List.append_assoc, List.takeWhile_append_of_pos]
      · simp [bracketed]
      · intro c hc
        rw [List.eq_of_mem_replicate hc]
        rfl
    have hrest : tagBody? (body ++ ']' :: rest) = some (body, rest) :=
      tagBody?_eq_some_iff.mpr ⟨hbody, rfl⟩
    unfold tag?
    dsimp only
    rw [htake, List.append_assoc, List.drop_left]
    simp [bracketed, hrest]

theorem hasTag_of_tag? {cs body rest : List Char} {slashes : Nat}
    (h : tag? cs = some (slashes, body, rest)) : HasTag cs := by
  obtain ⟨hbody, hcs⟩ := tag?_eq_some_iff.mp h
  exact ⟨List.replicate slashes '\\', body, rest, hbody, hcs⟩

theorem HasTag.cons {cs : List Char} (h : HasTag cs) (c : Char) : HasTag (c :: cs) := by
  obtain ⟨before, body, after, hbody, rfl⟩ := h
  exact ⟨c :: before, body, after, hbody, rfl⟩

/-- A tag stands behind the first character unless a text starts with one. -/
theorem HasTag.of_cons {c : Char} {cs : List Char} (h : HasTag (c :: cs))
    (hnone : tag? (c :: cs) = none) : HasTag cs := by
  obtain ⟨before, body, after, hbody, hcs⟩ := h
  cases before with
  | nil =>
    have htag : tag? (c :: cs) = some (0, body, after) := tag?_eq_some_iff.mpr ⟨hbody, hcs⟩
    rw [hnone] at htag
    cases htag
  | cons d before => exact ⟨before, body, after, hbody, (List.cons.inj hcs).2⟩

theorem not_hasTag_nil : ¬ HasTag [] := by
  rintro ⟨before, body, after, -, hcs⟩
  simp [bracketed] at hcs

/-- A text has a tag if it starts with one or has one behind its first character. -/
theorem hasTag_cons_iff {c : Char} {cs : List Char} :
    HasTag (c :: cs) ↔ (tag? (c :: cs)).isSome = true ∨ HasTag cs := by
  cases htag : tag? (c :: cs) with
  | none => simpa using ⟨fun h ↦ h.of_cons htag, fun h ↦ h.cons c⟩
  | some found => simpa using hasTag_of_tag? htag

instance decidableHasTag : DecidablePred HasTag
  | [] => .isFalse not_hasTag_nil
  | _ :: cs =>
    have := decidableHasTag cs
    decidable_of_iff' _ hasTag_cons_iff

/-- What has no closing bracket makes no tag of a text that it follows. -/
theorem HasTag.of_append {cs tail : List Char} (h : HasTag (cs ++ tail)) (htail : ']' ∉ tail) :
    HasTag cs := by
  obtain ⟨before, body, after, hbody, hcs⟩ := h
  have hsplit : cs ++ tail = (before ++ '[' :: body) ++ ']' :: after := by
    rw [hcs]
    simp [bracketed]
  rcases List.append_eq_append_iff.mp hsplit with ⟨xs, -, hxs⟩ | ⟨xs, hxs, hafter⟩
  · exact absurd (by simp [hxs]) htail
  · cases xs with
    | nil =>
      rw [List.nil_append] at hafter
      exact absurd (by simp [← hafter]) htail
    | cons x xs =>
      obtain ⟨rfl, -⟩ := List.cons.inj hafter
      exact ⟨before, body, xs, hbody, by rw [hxs]; simp [bracketed]⟩

theorem not_hasTag_of_notMem {cs : List Char} (h : '[' ∉ cs) : ¬ HasTag cs := by
  rintro ⟨before, body, after, -, rfl⟩
  exact h (by simp [bracketed])

/-! ### The first tag -/

/-- A text with a tag behind `front`, to which a number of backslashes belong. -/
def withTag (front : List Char) (slashes : Nat) (body rest : List Char) : List Char :=
  front ++ (List.replicate slashes '\\' ++ (bracketed body ++ rest))

/-- The tag behind a text is the first one, and all backslashes before it belong to it. -/
structure IsFirstTag (front body : List Char) : Prop where
  noTag : ¬ HasTag front
  noSlash : front.getLast? ≠ some '\\'
  isTagBody : IsTagBody body

theorem tag?_withTag_nil {body : List Char} (h : IsTagBody body) (slashes : Nat)
    (rest : List Char) : tag? (withTag [] slashes body rest) = some (slashes, body, rest) :=
  tag?_eq_some_iff.mpr ⟨h, by simp [withTag]⟩

theorem tag?_eq_none_of_not_hasTag {cs : List Char} (h : ¬ HasTag cs) : tag? cs = none := by
  cases htag : tag? cs with
  | none => rfl
  | some found => exact absurd (hasTag_of_tag? htag) h

/-- The only opening bracket behind backslashes divides a text in one way. -/
theorem eq_replicate_of_append_eq {cs body rest : List Char} {slashes : Nat} (hbody : '[' ∉ body)
    (h : cs ++ '[' :: rest = List.replicate slashes '\\' ++ '[' :: body) :
    cs = List.replicate slashes '\\' := by
  rcases List.append_eq_append_iff.mp h with ⟨xs, hxs, hrest⟩ | ⟨xs, hxs, hrest⟩
  · cases xs with
    | nil => simpa using hxs.symm
    | cons x xs =>
      obtain ⟨rfl, -⟩ := List.cons.inj hrest
      have hmem : '[' ∈ List.replicate slashes '\\' := by simp [hxs]
      exact absurd (List.eq_of_mem_replicate hmem) (by decide)
  · cases xs with
    | nil => simpa using hxs
    | cons x xs =>
      obtain ⟨-, htail⟩ := List.cons.inj hrest
      exact absurd (by simp [htail]) hbody

/-- No tag starts before the first one. -/
theorem IsFirstTag.tag?_eq_none {c : Char} {front body : List Char}
    (h : IsFirstTag (c :: front) body) (slashes : Nat) (rest : List Char) :
    tag? (withTag (c :: front) slashes body rest) = none := by
  rw [Option.eq_none_iff_forall_ne_some]
  rintro ⟨slashes', body', rest'⟩ hfound
  obtain ⟨hbody', hcs⟩ := tag?_eq_some_iff.mp hfound
  -- Otherwise its closing bracket stands inside `front`, or its opening one is that of the tag.
  have hsplit : (c :: front) ++ (List.replicate slashes '\\' ++ (bracketed body ++ rest)) =
      (List.replicate slashes' '\\' ++ '[' :: body') ++ ']' :: rest' := by
    rw [withTag] at hcs
    rw [hcs]
    simp [bracketed]
  rcases List.append_eq_append_iff.mp hsplit with ⟨xs, hxs, hrest⟩ | ⟨xs, hxs, hrest⟩
  · have hbracket : ∃ ys, xs = List.replicate slashes '\\' ++ '[' :: ys := by
      rcases List.append_eq_append_iff.mp hrest with ⟨ys, hys, htail⟩ | ⟨ys, hys, htail⟩
      · cases ys with
        | nil => exact absurd (List.cons.inj htail).1 (by decide)
        | cons y ys =>
          obtain ⟨rfl, -⟩ := List.cons.inj htail
          exact ⟨ys, hys⟩
      · cases ys with
        | nil => exact absurd (List.cons.inj htail).1 (by decide)
        | cons y ys =>
          obtain ⟨rfl, -⟩ := List.cons.inj htail
          have hmem : ']' ∈ List.replicate slashes '\\' := by simp [hys]
          exact absurd (List.eq_of_mem_replicate hmem) (by decide)
    obtain ⟨ys, rfl⟩ := hbracket
    have hslashes : (c :: front) ++ List.replicate slashes '\\' =
        List.replicate slashes' '\\' := by
      refine @eq_replicate_of_append_eq _ _ ys _ hbody'.notMem ?_
      rw [hxs, List.append_assoc]
    have hmem := List.mem_append_left (List.replicate slashes '\\')
      (List.getLast_mem (List.cons_ne_nil c front))
    rw [hslashes] at hmem
    exact h.noSlash (by rw [List.getLast?_eq_some_getLast (List.cons_ne_nil c front),
      List.eq_of_mem_replicate hmem])
  · cases xs with
    | nil =>
      cases slashes with
      | zero => exact absurd (List.cons.inj hrest).1 (by decide)
      | succ slashes => exact absurd (List.cons.inj hrest).1 (by decide)
    | cons x xs =>
      obtain ⟨rfl, -⟩ := List.cons.inj hrest
      refine h.noTag ⟨List.replicate slashes' '\\', body', xs, hbody', ?_⟩
      rw [hxs]
      simp [bracketed]

theorem IsFirstTag.tail {c : Char} {front body : List Char} (h : IsFirstTag (c :: front) body) :
    IsFirstTag front body := by
  refine ⟨fun htag ↦ h.noTag (htag.cons c), ?_, h.isTagBody⟩
  cases front with
  | nil => simp
  | cons d front =>
    rw [← List.getLast?_cons_cons (a := c)]
    exact h.noSlash

/-- A text with tags has a first one. -/
theorem exists_isFirstTag {cs : List Char} (h : HasTag cs) :
    ∃ front slashes body rest, IsFirstTag front body ∧ cs = withTag front slashes body rest := by
  induction cs with
  | nil => exact absurd h not_hasTag_nil
  | cons c cs ih =>
    cases htag : tag? (c :: cs) with
    | some found =>
      obtain ⟨slashes, body, rest⟩ := found
      obtain ⟨hbody, hcs⟩ := tag?_eq_some_iff.mp htag
      exact ⟨[], slashes, body, rest, ⟨not_hasTag_nil, by simp, hbody⟩, by simp [hcs, withTag]⟩
    | none =>
      obtain ⟨front, slashes, body, rest, hfirst, rfl⟩ := ih (h.of_cons htag)
      refine ⟨c :: front, slashes, body, rest, ⟨?_, ?_, hfirst.isTagBody⟩, rfl⟩
      · intro hfront
        rcases hasTag_cons_iff.mp hfront with hstart | hlater
        · obtain ⟨⟨slashes', body', rest'⟩, hfound⟩ := Option.isSome_iff_exists.mp hstart
          obtain ⟨hbody', hcs⟩ := tag?_eq_some_iff.mp hfound
          have hhere : tag? (c :: withTag front slashes body rest) =
              some (slashes', body', rest' ++ (List.replicate slashes '\\' ++
                (bracketed body ++ rest))) := by
            refine tag?_eq_some_iff.mpr ⟨hbody', ?_⟩
            rw [withTag, ← List.cons_append, hcs, List.append_assoc]
          rw [htag] at hhere
          cases hhere
        · exact hfirst.noTag hlater
      · cases front with
        | nil =>
          rw [List.getLast?_singleton, ne_eq, Option.some.injEq]
          rintro rfl
          have hhere := tag?_withTag_nil hfirst.isTagBody (slashes + 1) rest
          rw [withTag, List.replicate_succ] at hhere
          exact absurd (htag.symm.trans hhere) (by simp)
        | cons d front =>
          rw [List.getLast?_cons_cons]
          exact hfirst.noSlash

/-- Induction over the tags of a text. -/
@[elab_as_elim]
theorem tag_induction {motive : List Char → Prop} (text : ∀ cs, ¬ HasTag cs → motive cs)
    (tag : ∀ front slashes body rest, IsFirstTag front body → motive rest →
      motive (withTag front slashes body rest)) (cs : List Char) : motive cs := by
  induction hlength : cs.length using Nat.strong_induction_on generalizing cs with
  | _ n ih =>
    by_cases h : HasTag cs
    · obtain ⟨front, slashes, body, rest, hfirst, rfl⟩ := exists_isFirstTag h
      refine tag front slashes body rest hfirst (ih rest.length ?_ rest rfl)
      simp [← hlength, withTag, bracketed]
      omega
    · exact text cs h

/-! ### Marks -/

theorem scan_cons_of_none {c : Char} {cs : List Char} (h : tag? (c :: cs) = none)
    (position : Nat) : scan position (c :: cs) = .char c :: scan (position + 1) cs := by
  rw [scan]
  split
  · rename_i htag
    rw [h] at htag
    cases htag
  · rfl

theorem scan_of_tag? {cs body rest : List Char} {slashes : Nat}
    (h : tag? cs = some (slashes, body, rest)) (position : Nat) :
    scan position cs =
      .tag slashes (position + slashes) body ::
        scan (position + slashes + body.length + 2) rest := by
  obtain ⟨c, cs, rfl⟩ : ∃ c cs', cs = c :: cs' := by
    refine List.exists_cons_of_ne_nil ?_
    rintro rfl
    cases h
  rw [scan]
  split
  · rename_i htag
    rw [h] at htag
    obtain ⟨rfl, hpair⟩ := Prod.mk.inj (Option.some.inj htag)
    obtain ⟨rfl, rfl⟩ := Prod.mk.inj hpair
    rfl
  · rename_i htag
    rw [h] at htag
    cases htag

/-- A text without tags is a row of characters. -/
theorem scan_of_not_hasTag {cs : List Char} (h : ¬ HasTag cs) (position : Nat) :
    scan position cs = cs.map .char := by
  induction cs generalizing position with
  | nil => rw [scan, List.map_nil]
  | cons c cs ih =>
    rw [scan_cons_of_none (tag?_eq_none_of_not_hasTag h), ih fun htag ↦ h (htag.cons c),
      List.map_cons]

/-- The marks of a text are the characters before its first tag, the tag, and the marks behind. -/
theorem scan_withTag {front body : List Char} (h : IsFirstTag front body) (slashes : Nat)
    (rest : List Char) (position : Nat) :
    ∃ place later, scan position (withTag front slashes body rest) =
      front.map .char ++ .tag slashes place body :: scan later rest := by
  induction front generalizing position with
  | nil => exact ⟨_, _, scan_of_tag? (tag?_withTag_nil h.isTagBody slashes rest) position⟩
  | cons c front ih =>
    obtain ⟨place, later, hscan⟩ := ih h.tail (position + 1)
    refine ⟨place, later, ?_⟩
    rw [List.map_cons, List.cons_append, ← hscan]
    exact scan_cons_of_none (h.tag?_eq_none slashes rest) position

/-- A mark whatever its position. -/
def Mark.unplaced : Mark → Mark
  | .char c => .char c
  | .tag slashes _ body => .tag slashes 0 body

/-- Where a text starts matters only for the positions of its tags. -/
theorem map_unplaced_scan (position position' : Nat) (cs : List Char) :
    (scan position cs).map Mark.unplaced = (scan position' cs).map Mark.unplaced := by
  fun_induction scan position cs generalizing position' with
  | case1 => rw [scan]
  | case2 position c cs slashes body rest htag ih =>
    rw [scan_of_tag? htag, List.map_cons, List.map_cons, ih]
    rfl
  | case3 position c cs htag ih =>
    rw [scan_cons_of_none htag, List.map_cons, List.map_cons, ih]

/-! ### Stretches -/

/-- Puts a mark in front of texts: a character continues the first one, and a tag stands by
itself. -/
def addMark : Mark → List (List Char) → List (List Char)
  | .char c, texts => texts.modifyHead (c :: ·)
  | .tag _ _ body, texts => [] :: bracketed body :: texts

/-- The texts between the tags of a text and the tags themselves, without the backslashes that
belong to them. -/
def stretches (cs : List Char) : List (List Char) :=
  (scan 0 cs).foldr addMark [[]]

theorem foldr_addMark_map_char (cs text : List Char) (texts : List (List Char)) :
    (cs.map Mark.char).foldr addMark (text :: texts) = (cs ++ text) :: texts := by
  induction cs with
  | nil => rfl
  | cons c cs ih =>
    rw [List.map_cons, List.foldr_cons, ih]
    rfl

theorem foldr_addMark_scan (position : Nat) (cs : List Char) :
    (scan position cs).foldr addMark [[]] = stretches cs := by
  have hunplaced (marks : List Mark) :
      marks.foldr addMark [[]] = (marks.map Mark.unplaced).foldr addMark [[]] := by
    rw [List.foldr_map]
    congr 1
    funext mark texts
    cases mark <;> rfl
  rw [stretches, hunplaced, hunplaced (scan 0 cs), map_unplaced_scan position 0]

/-- A text without tags is one stretch. -/
theorem stretches_of_not_hasTag {cs : List Char} (h : ¬ HasTag cs) : stretches cs = [cs] := by
  rw [stretches, scan_of_not_hasTag h, foldr_addMark_map_char, List.append_nil]

theorem stretches_withTag {front body : List Char} (h : IsFirstTag front body) (slashes : Nat)
    (rest : List Char) :
    stretches (withTag front slashes body rest) = front :: bracketed body :: stretches rest := by
  obtain ⟨place, later, hscan⟩ := scan_withTag h slashes rest 0
  rw [stretches, hscan, List.foldr_append, List.foldr_cons, foldr_addMark_scan, addMark,
    foldr_addMark_map_char, List.append_nil]

end ClientBoundary.Markup
