import ClientBoundary.Proofs.SiblingNames

/-!
# Paths written and read again

A path that was read from a text has parts of a plain form: they are not empty, no single dot and
without a slash. Such a path is read again from the way it is written, so that two of them with the
same text are equal. What a walk along some parts leaves of the directory it starts in is a
beginning of it, followed by some of the parts.

## Main definitions

* `Path.IsPlainPart`, `Path.HasPlainParts`: the parts that reading gives.

## Main results

* `Path.hasPlainParts_ofString`, `Path.ofString_toString`, `Path.toString_inj`: reading what was
  written.
* `Path.descend_eq_append`: what a walk leaves of its start.
* `siblingPath_eq_ok`: the parts of a sibling.
-/

namespace ClientBoundary

open Text

namespace Path

/-! ### Plain parts -/

/-- A part that reading a path can give. -/
def IsPlainPart (part : String) : Prop :=
  '/' ∉ part.toList ∧ part ≠ "" ∧ part ≠ "."

/-- All parts of the path are parts that reading can give. -/
def HasPlainParts (path : Path) : Prop :=
  ∀ part ∈ path.parts, IsPlainPart part

/-- A field has no separator and is cut out of the text. -/
theorem mem_fields {isSeparator : Char → Bool} {cs field : List Char}
    (h : field ∈ fields isSeparator cs) :
    (∀ c ∈ field, isSeparator c = false) ∧ field.Sublist cs := by
  induction cs generalizing field with
  | nil =>
    obtain rfl : field = [] := by simpa [fields] using h
    exact ⟨by simp, .slnil⟩
  | cons c cs ih =>
    rw [fields] at h
    split_ifs at h with hc
    · rcases List.mem_cons.mp h with rfl | hfield
      · exact ⟨by simp, List.nil_sublist _⟩
      · exact ⟨(ih hfield).1, (ih hfield).2.cons c⟩
    · cases hfields : fields isSeparator cs with
      | nil => exact absurd hfields (fields_ne_nil isSeparator cs)
      | cons first rest =>
        rw [hfields, consField] at h
        rcases List.mem_cons.mp h with rfl | hfield
        · obtain ⟨hnone, hsublist⟩ := ih (hfields ▸ List.mem_cons_self)
          refine ⟨fun d hd ↦ ?_, hsublist.cons_cons c⟩
          rcases List.mem_cons.mp hd with rfl | hd
          · simpa using hc
          · exact hnone d hd
        · obtain ⟨hnone, hsublist⟩ := ih (hfields ▸ List.mem_cons_of_mem first hfield)
          exact ⟨hnone, hsublist.cons c⟩

theorem mem_partsOf {cs : List Char} {part : String} (h : part ∈ partsOf cs) :
    IsPlainPart part ∧ part.toList.Sublist cs := by
  obtain ⟨field, hfield, hpart⟩ := List.mem_filterMap.mp h
  split_ifs at hpart with hskipped
  obtain rfl := Option.some.inj hpart
  obtain ⟨hnone, hsublist⟩ := mem_fields hfield
  rw [not_or] at hskipped
  rw [String.toList_ofList]
  refine ⟨⟨?_, ?_, ?_⟩, hsublist⟩
  · rw [String.toList_ofList]
    intro hslash
    simpa using hnone _ hslash
  · intro hempty
    exact hskipped.1 (by simpa using congrArg String.toList hempty)
  · intro hdot
    exact hskipped.2 (by simpa using congrArg String.toList hdot)

theorem hasPlainParts_ofString (text : String) : (ofString text).HasPlainParts :=
  fun _ hpart ↦ (mem_partsOf hpart).1

/-! ### Reading what was written -/

theorem IsPlainPart.partsOf_eq {part : String} (h : IsPlainPart part) :
    partsOf part.toList = [part] := by
  obtain ⟨hslash, hempty, hdot⟩ := h
  rw [partsOf_eq_singleton hslash, String.ofList_toList]
  · simpa using hempty
  · intro heq
    exact hdot (String.toList_injective heq)

theorem toList_intercalate_cons_cons (part next : String) (parts : List String) :
    ("/".intercalate (part :: next :: parts)).toList =
      part.toList ++ '/' :: ("/".intercalate (next :: parts)).toList := by
  rw [String.intercalate_cons_cons]
  simp

theorem partsOf_intercalate {parts : List String} (h : ∀ part ∈ parts, IsPlainPart part) :
    partsOf ("/".intercalate parts).toList = parts := by
  induction parts with
  | nil => simp
  | cons part parts ih =>
    have hpart := (h part List.mem_cons_self).partsOf_eq
    cases parts with
    | nil => simpa using hpart
    | cons next parts =>
      have hrest := ih fun p hp ↦ h p (List.mem_cons_of_mem part hp)
      rw [toList_intercalate_cons_cons, partsOf_append_slash, hpart, hrest]
      rfl

theorem partsOf_root (root : Root) (cs : List Char) :
    partsOf (root.text.toList ++ cs) = partsOf cs := by
  cases root with
  | relative => rfl
  | single => exact partsOf_append_slash [] cs
  | double =>
    change partsOf (['/'] ++ '/' :: cs) = _
    rw [partsOf_append_slash]
    rfl

/-- Parts that reading can give do not start with a slash when they are written. -/
theorem head?_intercalate_ne {parts : List String} (h : ∀ part ∈ parts, IsPlainPart part) :
    ("/".intercalate parts).toList.head? ≠ some '/' := by
  cases parts with
  | nil => simp
  | cons part parts =>
    obtain ⟨hslash, hempty, -⟩ := h part List.mem_cons_self
    have hstart : ∃ rest, ("/".intercalate (part :: parts)).toList = part.toList ++ rest := by
      cases parts with
      | nil => exact ⟨[], by simp⟩
      | cons next parts => exact ⟨_, toList_intercalate_cons_cons part next parts⟩
    obtain ⟨rest, hrest⟩ := hstart
    cases hpart : part.toList with
    | nil => exact absurd (String.toList_eq_nil_iff.mp hpart) hempty
    | cons c cs =>
      rw [hrest, hpart, List.cons_append, List.head?_cons]
      rintro ⟨⟩
      exact hslash (hpart ▸ List.mem_cons_self)

theorem root_ofString_append (root : Root) {cs : List Char} (h : cs.head? ≠ some '/') :
    Root.ofSlashes ((root.text.toList ++ cs).takeWhile (· == '/')).length = root := by
  have hnone : cs.takeWhile (· == '/') = [] := by
    cases cs with
    | nil => rfl
    | cons c cs =>
      rw [List.takeWhile_cons_of_neg]
      simpa using h
  cases root with
  | relative =>
    change Root.ofSlashes (cs.takeWhile (· == '/')).length = _
    rw [hnone]
    rfl
  | single =>
    change Root.ofSlashes (('/' :: cs).takeWhile (· == '/')).length = _
    simp [hnone, Root.ofSlashes]
  | double =>
    change Root.ofSlashes (('/' :: '/' :: cs).takeWhile (· == '/')).length = _
    simp [hnone, Root.ofSlashes]

/-- A path with plain parts is read again from the way it is written. -/
theorem ofString_toString {path : Path} (h : path.HasPlainParts) :
    ofString path.toString = path := by
  obtain ⟨root, parts⟩ := path
  have hread : ofString (root.text ++ "/".intercalate parts) = ⟨root, parts⟩ := by
    rw [ofString, String.toList_append, root_ofString_append root (head?_intercalate_ne h)]
    congr 1
    exact (partsOf_root root _).trans (partsOf_intercalate h)
  rw [Path.toString]
  dsimp only
  split_ifs with hempty
  · -- The empty path is written as a dot, which is read as nothing, like the empty text.
    rw [hempty] at hread
    rw [← hread]
    rfl
  · exact hread

theorem toString_inj {path path' : Path} (h : path.HasPlainParts) (h' : path'.HasPlainParts) :
    path.toString = path'.toString ↔ path = path' := by
  constructor
  · intro heq
    rw [← ofString_toString h, heq, ofString_toString h']
  · rintro rfl
    rfl

/-! ### Walks -/

/-- What a walk along some parts leaves is a beginning of the directory it starts in, followed by
some of the parts. -/
theorem descend_eq_append (base parts : List String) :
    ∃ n kept, descend base parts = base.take n ++ kept ∧ ∀ part ∈ kept, part ∈ parts := by
  induction parts generalizing base with
  | nil => exact ⟨base.length, [], by simp [descend], by simp⟩
  | cons part parts ih =>
    by_cases hpart : part = ".."
    · obtain ⟨n, kept, hwalk, hkept⟩ := ih base.dropLast
      refine ⟨min n (base.length - 1), kept, ?_, fun p hp ↦ List.mem_cons_of_mem part (hkept p hp)⟩
      rw [List.dropLast_eq_take, List.take_take] at hwalk
      rw [← hwalk, ← List.dropLast_eq_take, descend, List.foldl_cons, if_pos hpart]
      rfl
    · obtain ⟨n, kept, hwalk, hkept⟩ := ih (base ++ [part])
      refine ⟨n, [part].take (n - base.length) ++ kept, ?_, fun p hp ↦ ?_⟩
      · rw [List.take_append, List.append_assoc] at hwalk
        rw [← hwalk, descend, List.foldl_cons, if_neg hpart]
        rfl
      · rcases List.mem_append.mp hp with hp | hp
        · exact List.mem_cons.mpr (Or.inl (List.mem_singleton.mp (List.mem_of_mem_take hp)))
        · exact List.mem_cons_of_mem part (hkept p hp)

/-- A walk that ends one part below its start has taken this part. -/
theorem mem_of_descend_eq {base parts : List String} {last : String}
    (h : descend base parts = base ++ [last]) : last ∈ parts := by
  obtain ⟨n, kept, hwalk, hkept⟩ := descend_eq_append base parts
  rw [hwalk] at h
  have hne : kept ≠ [] := by
    rintro rfl
    have hlength := congrArg List.length h
    simp only [List.append_nil, List.length_take, List.length_append, List.length_singleton]
      at hlength
    omega
  have hlast := congrArg List.getLast? h
  rw [List.getLast?_append_of_ne_nil _ hne, List.getLast?_concat] at hlast
  exact hkept last (List.mem_of_getLast? hlast)

end Path

open ClientBoundary.Path

/-! ### Siblings -/

/-- The name of a sibling with a tag. -/
def siblingName (path : Path) (tag : String) : String :=
  s!"{path.stem}.{tag}{path.suffix}"

theorem toList_siblingName (path : Path) (tag : String) :
    (siblingName path tag).toList =
      path.stem.toList ++ '.' :: tag.toList ++ path.suffix.toList := by
  change (path.stem ++ "." ++ tag ++ path.suffix).toList = _
  simp

theorem siblingPath_eq_ok {path sibling : Path} {tag : String}
    (h : siblingPath path tag = .ok sibling) :
    sibling = ⟨path.root, path.parts.dropLast ++ [siblingName path tag]⟩ := by
  unfold siblingPath withName at h
  split_ifs at h
  exact (Except.ok.inj h).symm

theorem parent_siblingPath {path sibling : Path} {tag : String}
    (h : siblingPath path tag = .ok sibling) : sibling.parent = path.parent := by
  rw [siblingPath_eq_ok h]
  simp [parent]

theorem name_siblingPath {path sibling : Path} {tag : String}
    (h : siblingPath path tag = .ok sibling) : sibling.name = siblingName path tag := by
  rw [siblingPath_eq_ok h]
  simp [name]

/-- The name of a sibling of a path that was read is a part that reading can give, and no double
dot. -/
theorem isPlainPart_siblingName {path : Path} (hpath : path.HasPlainParts) {tag : String}
    (htag : '/' ∉ tag.toList) (hlong : 2 ≤ tag.length) :
    IsPlainPart (siblingName path tag) ∧ siblingName path tag ≠ ".." := by
  have hname : '/' ∉ path.name.toList := by
    rw [name]
    cases hlast : path.parts.getLast? with
    | none => simp
    | some part => exact (hpath part (List.mem_of_getLast? hlast)).1
  rw [toList_name_eq, List.mem_append, not_or] at hname
  have hlength : 3 ≤ (siblingName path tag).toList.length := by
    rw [toList_siblingName]
    simp only [List.length_append, List.length_cons, String.length_toList]
    omega
  have hne {short : String} (hshort : short.toList.length < 3) : siblingName path tag ≠ short := by
    rintro heq
    rw [heq] at hlength
    omega
  refine ⟨⟨?_, hne (by decide), hne (by decide)⟩, hne (by decide)⟩
  rw [toList_siblingName]
  simp [hname.1, hname.2, htag]

/-- A sibling of a path that was read can be read again. -/
theorem hasPlainParts_siblingPath {path sibling : Path} (hpath : path.HasPlainParts) {tag : String}
    (htag : '/' ∉ tag.toList) (hlong : 2 ≤ tag.length) (h : siblingPath path tag = .ok sibling) :
    sibling.HasPlainParts := by
  intro part hpart
  rw [siblingPath_eq_ok h] at hpart
  rcases List.mem_append.mp hpart with hpart | hpart
  · exact hpath part (List.dropLast_subset path.parts hpart)
  · rw [List.mem_singleton.mp hpart]
    exact (isPlainPart_siblingName hpath htag hlong).1

end ClientBoundary
