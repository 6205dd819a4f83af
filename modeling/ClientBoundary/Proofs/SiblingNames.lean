import ClientBoundary.Component
import ClientBoundary.Proofs.Outcome
import Mathlib.Data.List.Induction

/-!
# The names of siblings

The path of a half of a split is written as a text and read again before anything is put there.
Reading cuts the text at its slashes, and the piece around the tag becomes the last part of the
path. Hence the name of a sibling is neither that of the source nor that of a sibling with another
tag, whatever characters the name of the source has.

## Main definitions

* `Path.partsOf`: the parts of a path, read from its characters.
* `Path.EndsPart`, `Path.StartsPart`: texts that end or start at the border of a part.

## Main results

* `Path.partsOf_append`: the parts of two texts put together at the border of a part.
* `exists_name_sibling`: the name of a sibling, read again.
* `name_sibling_ne_name`, `name_siblings_ne`: siblings have names of their own.
-/

namespace ClientBoundary

open Text

namespace Path

/-! ### Parts of texts put together -/

/-- The parts of a path, read from its characters. -/
def partsOf (cs : List Char) : List String :=
  (fields (· == '/') cs).filterMap fun part ↦
    if part = [] ∨ part = ['.'] then none else some (String.ofList part)

theorem parts_ofString (text : String) : (ofString text).parts = partsOf text.toList :=
  rfl

/-- A new part starts behind the text. -/
def EndsPart (cs : List Char) : Prop :=
  cs = [] ∨ ∃ before, cs = before ++ ['/']

/-- A part ends in front of the text. -/
def StartsPart (cs : List Char) : Prop :=
  cs = [] ∨ ∃ after, cs = '/' :: after

theorem fields_ne_nil (isSeparator : Char → Bool) (cs : List Char) :
    fields isSeparator cs ≠ [] := by
  cases cs with
  | nil => simp [fields]
  | cons c cs =>
    rw [fields]
    split_ifs
    · simp
    · cases fields isSeparator cs <;> simp [consField]

theorem fields_append_slash (xs ys : List Char) :
    fields (· == '/') (xs ++ '/' :: ys) = fields (· == '/') xs ++ fields (· == '/') ys := by
  induction xs with
  | nil => simp [fields]
  | cons c xs ih =>
    rw [List.cons_append, fields, fields, ih]
    split_ifs with hc
    · rfl
    · cases hxs : fields (· == '/') xs with
      | nil => exact absurd hxs (fields_ne_nil _ xs)
      | cons field fields => rfl

theorem fields_eq_singleton {isSeparator : Char → Bool} {cs : List Char}
    (h : ∀ c ∈ cs, isSeparator c = false) : fields isSeparator cs = [cs] := by
  induction cs with
  | nil => rfl
  | cons c cs ih =>
    obtain ⟨hc, hcs⟩ := List.forall_mem_cons.mp h
    rw [fields, ih hcs, hc]
    rfl

@[simp] theorem partsOf_nil : partsOf [] = [] := by
  simp [partsOf, fields]

theorem partsOf_append_slash (xs ys : List Char) :
    partsOf (xs ++ '/' :: ys) = partsOf xs ++ partsOf ys := by
  rw [partsOf, fields_append_slash, List.filterMap_append]
  rfl

/-- Texts that meet at the border of a part keep their parts. -/
theorem partsOf_append {xs ys : List Char} (h : EndsPart xs ∨ StartsPart ys) :
    partsOf (xs ++ ys) = partsOf xs ++ partsOf ys := by
  rcases h with (rfl | ⟨before, rfl⟩) | (rfl | ⟨after, rfl⟩)
  · simp
  · have hbefore : partsOf (before ++ ['/']) = partsOf before := by
      rw [partsOf_append_slash, partsOf_nil, List.append_nil]
    rw [List.append_assoc, List.singleton_append, partsOf_append_slash, hbefore]
  · simp
  · have hafter : partsOf ('/' :: after) = partsOf after := by
      rw [← List.nil_append ('/' :: after), partsOf_append_slash, partsOf_nil, List.nil_append]
    rw [partsOf_append_slash, hafter]

/-- A text without a slash is one part, unless it is empty or a dot. -/
theorem partsOf_eq_singleton {cs : List Char} (hslash : '/' ∉ cs) (hempty : cs ≠ [])
    (hdot : cs ≠ ['.']) : partsOf cs = [String.ofList cs] := by
  rw [partsOf, fields_eq_singleton fun c hc ↦
    beq_eq_false_iff_ne.mpr (ne_of_mem_of_not_mem hc hslash)]
  simp [hempty, hdot]

/-! ### Borders of parts -/

/-- The last part that a text starts, and what stands before it. -/
theorem exists_last_piece (cs : List Char) :
    ∃ before piece, cs = before ++ piece ∧ EndsPart before ∧ '/' ∉ piece := by
  induction cs using List.reverseRecOn with
  | nil => exact ⟨[], [], rfl, Or.inl rfl, by simp⟩
  | append_singleton cs c ih =>
    by_cases hc : c = '/'
    · subst hc
      exact ⟨cs ++ ['/'], [], by simp, Or.inr ⟨cs, rfl⟩, by simp⟩
    · obtain ⟨before, piece, rfl, hbefore, hpiece⟩ := ih
      refine ⟨before, piece ++ [c], by simp, hbefore, ?_⟩
      simpa [hpiece, eq_comm] using hc

/-- The first part that a text ends, and what stands after it. -/
theorem exists_first_piece (cs : List Char) :
    ∃ piece after, cs = piece ++ after ∧ '/' ∉ piece ∧ StartsPart after := by
  induction cs with
  | nil => exact ⟨[], [], rfl, by simp, Or.inl rfl⟩
  | cons c cs ih =>
    by_cases hc : c = '/'
    · subst hc
      exact ⟨[], '/' :: cs, rfl, by simp, Or.inr ⟨cs, rfl⟩⟩
    · obtain ⟨piece, after, rfl, hpiece, hafter⟩ := ih
      refine ⟨c :: piece, after, rfl, ?_, hafter⟩
      simpa [hpiece, eq_comm] using hc

theorem EndsPart.append {xs ys : List Char} (hx : EndsPart xs) (hy : EndsPart ys) :
    EndsPart (xs ++ ys) := by
  rcases hy with rfl | ⟨before, rfl⟩
  · simpa using hx
  · exact Or.inr ⟨xs ++ before, by simp⟩

/-- A path is written as something that ends a part, followed by its last part. -/
theorem exists_toString_eq (root : Root) (parts : List String) {last : String} (h : last ≠ "") :
    ∃ before, EndsPart before ∧
      (Path.toString ⟨root, parts ++ [last]⟩).toList = before ++ last.toList := by
  have hparts : ∃ before, EndsPart before ∧
      ("/".intercalate (parts ++ [last])).toList = before ++ last.toList := by
    induction parts with
    | nil => exact ⟨[], Or.inl rfl, by simp⟩
    | cons part parts ih =>
      obtain ⟨before, hbefore, htext⟩ := ih
      refine ⟨part.toList ++ ['/'] ++ before, EndsPart.append (Or.inr ⟨_, rfl⟩) hbefore, ?_⟩
      obtain ⟨next, rest, hnext⟩ := List.exists_cons_of_ne_nil
        (List.append_ne_nil_of_right_ne_nil parts (List.cons_ne_nil last []))
      rw [List.cons_append, hnext, String.intercalate_cons_cons, ← hnext]
      simp [htext]
  obtain ⟨before, hbefore, htext⟩ := hparts
  have hroot : EndsPart root.text.toList := by
    cases root with
    | relative => exact Or.inl rfl
    | single => exact Or.inr ⟨[], rfl⟩
    | double => exact Or.inr ⟨['/'], rfl⟩
  refine ⟨root.text.toList ++ before, hroot.append hbefore, ?_⟩
  have hne : root.text ++ "/".intercalate (parts ++ [last]) ≠ "" := by
    intro hempty
    have hlist := congrArg String.toList hempty
    rw [String.toList_append, htext] at hlist
    simp only [String.toList_empty, List.append_eq_nil_iff, String.toList_eq_nil_iff] at hlist
    exact h hlist.2.2
  rw [Path.toString]
  dsimp only
  rw [if_neg hne, String.toList_append, htext, List.append_assoc]

end Path

open ClientBoundary.Path

/-! ### Siblings -/

theorem toList_name_eq (path : Path) :
    path.name.toList = path.stem.toList ++ path.suffix.toList := by
  rw [stem, suffix, String.toList_ofList, String.toList_ofList, divideName_append]

/-- The name of a sibling, read again from the text of its path, is its tag with what stands around
it in the name, up to the slashes that this may have. -/
theorem exists_name_sibling (path : Path) :
    ∃ before after, ('/' ∉ path.name.toList →
        before = path.stem.toList ∧ after = path.suffix.toList) ∧
      '/' ∉ before ∧ '/' ∉ after ∧
      ∀ (tag : String) (sibling : Path), '/' ∉ tag.toList → tag ≠ "" →
        siblingPath path tag = .ok sibling →
        (Path.ofString sibling.toString).name =
          String.ofList (before ++ '.' :: tag.toList ++ after) := by
  obtain ⟨first, before, hstem, hfirst, hbefore⟩ := exists_last_piece path.stem.toList
  obtain ⟨after, last, hsuffix, hafter, hlast⟩ := exists_first_piece path.suffix.toList
  refine ⟨before, after, fun hslash ↦ ?_, hbefore, hafter, fun tag sibling htag hne h ↦ ?_⟩
  · rw [toList_name_eq, hstem, hsuffix] at hslash
    simp only [List.mem_append, not_or] at hslash
    have hfirst : first = [] := by
      rcases hfirst with rfl | ⟨text, rfl⟩
      · rfl
      · simp at hslash
    have hlast : last = [] := by
      rcases hlast with rfl | ⟨text, rfl⟩
      · rfl
      · simp at hslash
    rw [hstem, hsuffix, hfirst, hlast]
    exact ⟨rfl, (List.append_nil after).symm⟩
  · unfold siblingPath withName at h
    split_ifs at h with hempty hpart
    obtain rfl := Except.ok.inj h
    generalize hname : s!"{path.stem}.{tag}{path.suffix}" = name at hpart ⊢
    have hlist : name.toList = first ++ (before ++ '.' :: tag.toList ++ after) ++ last := by
      rw [← hname]
      change (path.stem ++ "." ++ tag ++ path.suffix).toList = _
      simp [hstem, hsuffix]
    -- The piece around the tag is a part, so it is the only one of the name.
    have hpiece : partsOf (before ++ '.' :: tag.toList ++ after) =
        [String.ofList (before ++ '.' :: tag.toList ++ after)] := by
      have htagList : tag.toList ≠ [] := by simpa using hne
      apply partsOf_eq_singleton
      · simp [hbefore, hafter, htag]
      · simp
      · intro hdot
        have hlength := congrArg List.length hdot
        have hpositive := List.length_pos_of_ne_nil htagList
        simp only [List.length_append, List.length_cons, List.length_nil] at hlength
        omega
    have hparts : partsOf name.toList = partsOf first ++
        [String.ofList (before ++ '.' :: tag.toList ++ after)] ++ partsOf last := by
      rw [hlist, partsOf_append (Or.inr hlast), partsOf_append (Or.inl hfirst), hpiece]
    have hnone : partsOf last = [] := by
      simp only [isPart, parts_ofString, Bool.and_eq_true, beq_iff_eq] at hpart
      have hlength := hpart.2
      rw [hparts] at hlength
      simp only [List.length_append, List.length_cons, List.length_nil] at hlength
      exact List.length_eq_zero_iff.mp (by omega)
    have hnameNe : name ≠ "" := by
      rintro rfl
      simp at hlist
    obtain ⟨text, htext, htoString⟩ := exists_toString_eq path.root path.parts.dropLast hnameNe
    rw [Path.name, parts_ofString, htoString, partsOf_append (Or.inl htext), hparts, hnone]
    simp

/-- A sibling has not the name of the source. -/
theorem name_sibling_ne_name {path sibling : Path} {tag : String} (htag : '/' ∉ tag.toList)
    (hne : tag ≠ "") (h : siblingPath path tag = .ok sibling) :
    (Path.ofString sibling.toString).name ≠ path.name := by
  obtain ⟨before, after, hwhole, hbefore, hafter, hread⟩ := exists_name_sibling path
  rw [hread tag sibling htag hne h]
  intro heq
  have hlist : before ++ '.' :: tag.toList ++ after = path.name.toList := by
    rw [← heq, String.toList_ofList]
  -- Without a slash in the name it has to be shorter than with the tag in it.
  have hslash : '/' ∉ path.name.toList := by
    rw [← hlist]
    simp [hbefore, hafter, htag]
  obtain ⟨rfl, rfl⟩ := hwhole hslash
  rw [toList_name_eq] at hlist
  have hlength := congrArg List.length hlist
  simp only [List.length_append, List.length_cons] at hlength
  omega

/-- The two halves of a split have different names. -/
theorem name_siblings_ne {path server client : Path}
    (hserver : siblingPath path "server" = .ok server)
    (hclient : siblingPath path "client" = .ok client) :
    (Path.ofString server.toString).name ≠ (Path.ofString client.toString).name := by
  obtain ⟨before, after, -, -, -, hread⟩ := exists_name_sibling path
  rw [hread "server" server (by decide) (by decide) hserver,
    hread "client" client (by decide) (by decide) hclient]
  intro heq
  have hlist := String.ofList_injective heq
  rw [List.append_assoc, List.append_assoc] at hlist
  have htags := List.append_cancel_left hlist
  simp at htags

/-- The two halves of a split have names of the same length. -/
theorem length_name_siblings {path server client : Path}
    (hserver : siblingPath path "server" = .ok server)
    (hclient : siblingPath path "client" = .ok client) :
    ∃ n, 2 < n ∧ (Path.ofString server.toString).name.toList.length = n ∧
      (Path.ofString client.toString).name.toList.length = n := by
  obtain ⟨before, after, -, -, -, hread⟩ := exists_name_sibling path
  rw [hread "server" server (by decide) (by decide) hserver,
    hread "client" client (by decide) (by decide) hclient]
  refine ⟨before.length + after.length + 7, by omega, ?_, ?_⟩
  · simp
    omega
  · simp
    omega

end ClientBoundary
