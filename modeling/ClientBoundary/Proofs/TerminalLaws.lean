import ClientBoundary.Proofs.ConsoleLaws
import ClientBoundary.Proofs.Outcome
import ClientBoundary.Proofs.SiblingNames
import ClientBoundary.Terminal

/-!
# The laws for the console of a terminal

The console of a terminal satisfies the laws of consoles. Its markup falls into pieces, and text
joins with text beside it but not across a tag, so what is printed is put together tag by tag.

## Main results

* `Terminal.readsMarkup_console`, `Terminal.acceptsMarkup_console`: what its markup prints.
* `Terminal.escapesTags_console`: what escaping does.
* `Terminal.keepsLines_console`: its lines that are not wrapped.
-/

namespace ClientBoundary

namespace Text

/-- A text without separators goes into the first field. -/
theorem exists_fields_append {isSeparator : Char → Bool} {front : List Char}
    (h : ∀ c ∈ front, isSeparator c = false) (cs : List Char) :
    ∃ field rest, fields isSeparator (front ++ cs) = (front ++ field) :: rest := by
  induction front with
  | nil => exact List.exists_cons_of_ne_nil (Path.fields_ne_nil isSeparator cs)
  | cons c front ih =>
    obtain ⟨hc, hfront⟩ := List.forall_mem_cons.mp h
    obtain ⟨field, rest, happend⟩ := ih hfront
    refine ⟨field, rest, ?_⟩
    rw [List.cons_append, fields, hc, happend]
    rfl

end Text

namespace Terminal

open Markup Text

/-! ### Rendering -/

section Render

variable {cs front body : List Char}

theorem isDropped_of_not_control {c : Char} (h : isControl c = false) : isDropped c = false := by
  by_contra hdropped
  simp only [isDropped, Bool.not_eq_false, Bool.or_eq_true, beq_iff_eq] at hdropped
  rcases hdropped with (((rfl | rfl) | rfl) | rfl) | rfl <;> exact absurd h (by decide)

/-- Nothing is dropped from what a text without control characters prints. -/
theorem dropControls_shown (h : ControlFree cs) :
    dropControls (shown emoji? cs) = shown emoji? cs := by
  rw [dropControls, List.filter_eq_self]
  intro c hc
  rw [Bool.not_eq_true']
  rcases mem_shown hc with hmem | hpictorial
  · exact isDropped_of_not_control (h c hmem)
  · exact isDropped_of_not_control (pictorial_facts hpictorial).1

/-- What pieces print. -/
def renderPieces (pieces : List Piece) : List Char :=
  (pieces.foldr consPiece []).flatMap renderPiece

/-- Text does not join across a piece that is not text. -/
theorem foldr_consPiece_append {piece : Piece} (hpiece : ∀ cs, piece ≠ .text cs)
    (before after : List Piece) :
    (before ++ piece :: after).foldr consPiece [] =
      before.foldr consPiece [] ++ piece :: after.foldr consPiece [] := by
  have hcons (pieces : List Piece) : consPiece piece pieces = piece :: pieces := by
    cases piece with
    | text cs => exact absurd rfl (hpiece cs)
    | apart cs => rfl
    | tag => rfl
  induction before with
  | nil => exact hcons _
  | cons first before ih =>
    rw [List.cons_append, List.foldr_cons, ih, List.foldr_cons]
    cases first with
    | text cs =>
      cases before.foldr consPiece [] with
      | nil =>
        cases piece with
        | text cs => exact absurd rfl (hpiece cs)
        | apart cs => rfl
        | tag => rfl
      | cons next pieces => cases next <;> rfl
    | apart cs => rfl
    | tag => rfl

theorem renderPieces_append {piece : Piece} (hpiece : ∀ cs, piece ≠ .text cs)
    (before after : List Piece) :
    renderPieces (before ++ piece :: after) =
      renderPieces before ++ (renderPiece piece ++ renderPieces after) := by
  rw [renderPieces, foldr_consPiece_append hpiece, List.flatMap_append, List.flatMap_cons]
  rfl

/-- A row of characters is one text. -/
theorem renderPieces_map_text (cs : List Char) :
    renderPieces (cs.map fun c ↦ .text [c]) = dropControls (shown emoji? cs) := by
  have hjoined (c : Char) (cs : List Char) :
      ((c :: cs).map fun c ↦ Piece.text [c]).foldr consPiece [] = [.text (c :: cs)] := by
    induction cs generalizing c with
    | nil => rfl
    | cons d cs ih =>
      rw [List.map_cons, List.foldr_cons, ih]
      rfl
  cases cs with
  | nil => simp [renderPieces, shown, bareBrackets, replaceCodes, dropControls]
  | cons c cs =>
    rw [renderPieces, hjoined, List.flatMap_singleton]
    rfl

/-- Backslashes that stay apart are printed. -/
theorem renderPieces_slashPieces (n : Nat) (before : List Piece) {piece : Piece}
    (hpiece : ∀ cs, piece ≠ .text cs) (after : List Piece) :
    renderPieces (before ++ (slashPieces n ++ piece :: after)) =
      renderPieces before ++ (List.replicate n '\\' ++
        (renderPiece piece ++ renderPieces after)) := by
  have hnotMem {c : Char} (hc : c ≠ '\\') : c ∉ List.replicate n '\\' :=
    fun hmem ↦ hc (List.eq_of_mem_replicate hmem)
  have hinert : IsInert emoji? (List.replicate n '\\') := by
    refine ⟨fun h ↦ hnotMem (by decide) (h.subset (by decide : '[' ∈ ['\\', '['])), ?_⟩
    rw [codes_of_notMem (hnotMem (by decide))]
    exact List.forall_mem_nil _
  have hslashes : renderPiece (.apart (List.replicate n '\\')) = List.replicate n '\\' := by
    rw [renderPiece, ← shown, dropControls_shown (controlFree_replicate_slash n),
      shown_eq_self hinert]
  by_cases hn : n = 0
  · rw [slashPieces, if_pos hn, hn]
    exact renderPieces_append hpiece before after
  · rw [slashPieces, if_neg hn, List.singleton_append,
      renderPieces_append (fun _ ↦ by simp), hslashes]
    congr 2
    exact renderPieces_append hpiece [] after

theorem renderMarks_eq (marks : List Mark) :
    renderMarks marks = renderPieces (marks.flatMap markPieces) :=
  rfl

theorem flatMap_markPieces_map_char (cs : List Char) :
    (cs.map Mark.char).flatMap markPieces = cs.map fun c ↦ .text [c] := by
  rw [List.flatMap_map]
  exact List.flatMap_pure_eq_map _ _

/-- Where a text starts does not matter for what its marks contribute. -/
theorem flatMap_scan {α : Type} {f : Mark → List α} (hf : ∀ mark, f mark.unplaced = f mark)
    (position position' : Nat) (cs : List Char) :
    (scan position cs).flatMap f = (scan position' cs).flatMap f := by
  have hunplaced (marks : List Mark) : marks.flatMap f = (marks.map Mark.unplaced).flatMap f := by
    rw [List.flatMap_map]
    exact List.flatMap_congr fun mark _ ↦ (hf mark).symm
  rw [hunplaced, map_unplaced_scan position position', ← hunplaced]

/-- A text without tags prints what it shows. -/
theorem render_of_not_hasTag (hplain : ControlFree cs) (h : ¬ HasTag cs) :
    render cs = shown emoji? cs := by
  rw [render, scan_of_not_hasTag h, renderMarks_eq, flatMap_markPieces_map_char,
    renderPieces_map_text, dropControls_shown hplain]

/-- The first tag divides what is printed. -/
theorem render_withTag (hbody : ControlFree body) (h : IsFirstTag front body) (slashes : Nat)
    (rest : List Char) :
    render (withTag front slashes body rest) =
      render front ++ (List.replicate (slashes / 2) '\\' ++
        ((if slashes % 2 = 1 then shown emoji? (bracketed body) else []) ++ render rest)) := by
  obtain ⟨place, later, hscan⟩ := scan_withTag h slashes rest 0
  have hlater : (scan later rest).flatMap markPieces = (scan 0 rest).flatMap markPieces :=
    flatMap_scan (fun mark ↦ by cases mark <;> rfl) later 0 rest
  have hbracketed : ControlFree (bracketed body) := by
    have hwhole := (@controlFree_withTag_iff [] body [] 0).mpr
      ⟨List.forall_mem_nil _, hbody, List.forall_mem_nil _⟩
    simpa [withTag] using hwhole
  have hpiece : ∀ cs, (if slashes % 2 = 1 then Piece.apart (bracketed body) else .tag) ≠
      .text cs := by
    intro cs
    split_ifs <;> simp
  have hprinted : renderPiece (if slashes % 2 = 1 then .apart (bracketed body) else .tag) =
      if slashes % 2 = 1 then shown emoji? (bracketed body) else [] := by
    split_ifs
    · exact dropControls_shown hbracketed
    · rfl
  have hpieces : (scan 0 (withTag front slashes body rest)).flatMap markPieces =
      (scan 0 front).flatMap markPieces ++ (slashPieces (slashes / 2) ++
        (if slashes % 2 = 1 then .apart (bracketed body) else .tag) ::
          (scan 0 rest).flatMap markPieces) := by
    rw [hscan, List.flatMap_append, List.flatMap_cons, hlater, scan_of_not_hasTag h.noTag,
      markPieces, List.append_assoc]
    rfl
  rw [render, renderMarks_eq, hpieces, renderPieces_slashPieces _ _ hpiece, hprinted]
  rfl

theorem readsMarkup_console : console.ReadsMarkup where
  text hplain h := render_of_not_hasTag hplain h
  tag slashes rest _ hbody h := render_withTag hbody h slashes rest

end Render

/-! ### Escaping -/

/-- A text that does not end in a backslash is escaped mark by mark. -/
theorem escape_eq {cs : List Char} (h : cs.getLast? ≠ some '\\') :
    escape cs = (scan 0 cs).flatMap escapeMark := by
  have hslashes : cs.reverse.takeWhile (· == '\\') = [] := by
    rw [← List.head?_reverse] at h
    cases hreverse : cs.reverse with
    | nil => rfl
    | cons c cs =>
      rw [hreverse, List.head?_cons, ne_eq, Option.some.injEq] at h
      exact List.takeWhile_cons_of_neg (by simpa using h)
  simp [escape, hslashes]

theorem flatMap_escapeMark_map_char (cs : List Char) :
    (cs.map Mark.char).flatMap escapeMark = cs := by
  rw [List.flatMap_map]
  exact (List.flatMap_pure_eq_map _ _).trans (List.map_id' cs)

theorem escapesTags_console : console.EscapesTags where
  text {cs} h hlast := by
    change escape cs = cs
    rw [escape_eq hlast, scan_of_not_hasTag h, flatMap_escapeMark_map_char]
  tag {front body rest} slashes h hlast := by
    have hwhole : (withTag front slashes body rest).getLast? ≠ some '\\' := by
      intro hend
      cases hrest : rest.getLast? with
      | none =>
        rw [List.getLast?_eq_none_iff] at hrest
        have hclosing : withTag front slashes body rest =
            front ++ (List.replicate slashes '\\' ++ '[' :: body) ++ [']'] := by
          simp [withTag, bracketed, hrest]
        rw [hclosing, List.getLast?_concat] at hend
        exact absurd hend (by decide)
      | some c =>
        simp [withTag, hrest] at hend
        exact hlast (by rw [hrest, hend])
    obtain ⟨place, later, hscan⟩ := scan_withTag h slashes rest 0
    have hlater : (scan later rest).flatMap escapeMark = (scan 0 rest).flatMap escapeMark :=
      flatMap_scan (fun mark ↦ by cases mark <;> rfl) later 0 rest
    change escape (withTag front slashes body rest) =
      withTag front (2 * slashes + 1) body (escape rest)
    rw [escape_eq hwhole, escape_eq hlast, hscan, List.flatMap_append, List.flatMap_cons,
      flatMap_escapeMark_map_char, hlater, escapeMark, withTag, List.append_assoc]

/-! ### Lines -/

namespace Layout

/-- A text is set on one line: it has no line feed and no tab. -/
def IsUnbroken (cs : List Char) : Prop :=
  ∀ c ∈ cs, c ≠ '\n' ∧ c ≠ '\t'

variable {cs front : List Char}

theorem isUnbroken_of_controlFree (h : ControlFree cs) : IsUnbroken cs := by
  intro c hc
  have hcontrol := h c hc
  constructor
  · rintro rfl
    exact absurd hcontrol (by decide)
  · rintro rfl
    exact absurd hcontrol (by decide)

theorem IsUnbroken.lineFeed (h : IsUnbroken cs) : ∀ c ∈ cs, (c == '\n') = false :=
  fun c hc ↦ beq_eq_false_iff_ne.mpr (h c hc).1

theorem IsUnbroken.tab (h : IsUnbroken cs) : ∀ c ∈ cs, (c == '\t') = false :=
  fun c hc ↦ beq_eq_false_iff_ne.mpr (h c hc).2

theorem prefix_expandTabs (h : IsUnbroken front) (cs : List Char) :
    front <+: expandTabs (front ++ cs) := by
  obtain ⟨field, rest, hfields⟩ := exists_fields_append h.tab cs
  rw [expandTabs, hfields]
  cases rest with
  | nil => exact List.prefix_append front field
  | cons next rest =>
    simp only [joinParts, List.append_assoc]
    exact List.prefix_append front _

/-- A message starts as its text does, up to the first break. -/
theorem prefix_lay (h : IsUnbroken front) (cs : List Char) :
    front <+: (lay false (front ++ cs)).toList := by
  obtain ⟨field, rest, hfields⟩ := exists_fields_append h.lineFeed cs
  simp only [lay, layLine, hfields, Bool.false_eq_true, if_false, List.flatMap_cons,
    List.singleton_append, String.toList_ofList, List.append_assoc]
  exact (prefix_expandTabs h field).trans (List.prefix_append _ _)

/-- A text without breaks is one line. -/
theorem lay_eq (h : IsUnbroken cs) : lay false cs = String.ofList (cs ++ ['\n']) := by
  simp [lay, layLine, expandTabs, joinParts, Path.fields_eq_singleton h.lineFeed,
    Path.fields_eq_singleton h.tab]

end Layout

/-- No blanks are cut from lines that are not wrapped. -/
theorem keepsLines_console : console.KeepsLines where
  whole {cs} h := by
    refine ⟨cs, [], (List.append_nil cs).symm, List.forall_mem_nil _, ?_⟩
    exact Layout.lay_eq (Layout.isUnbroken_of_controlFree h)
  start cs h _ := Layout.prefix_lay (Layout.isUnbroken_of_controlFree h) cs

/-! ### Faults -/

/-- Characters neither open nor close tags. -/
theorem checkTags_map_char_append (cs : List Char) (marks : List Mark) (index : Nat)
    (tags : List OpenTag) :
    checkTags index tags (cs.map Mark.char ++ marks) =
      checkTags (index + cs.length) tags marks := by
  induction cs generalizing index with
  | nil => rfl
  | cons c cs ih =>
    rw [List.map_cons, List.cons_append, checkTags, ih, List.length_cons, Nat.add_assoc,
      Nat.add_comm 1]

theorem checkTags_map_char (cs : List Char) (index : Nat) :
    checkTags index [] (cs.map .char) = .ok [] := by
  have h := checkTags_map_char_append cs [] index []
  rwa [List.append_nil] at h

/-- The red colour is a style in normal form. -/
theorem normalize_red : Style.normalize "red" = .ok "red" := by decide

/-- A tag that opens the red colour is closed by the one that closes it. -/
theorem checkTags_red (inside after : List Char) (place place' : Nat) :
    checkTags 0 [] (.tag 0 place ['r', 'e', 'd'] :: (inside.map .char ++
      .tag 0 place' ['/', 'r', 'e', 'd'] :: after.map .char)) =
      .ok [⟨"red", 0, 1 + inside.length⟩] := by
  have hopening : divideBody ['r', 'e', 'd'] = (['r', 'e', 'd'], none) := by decide
  have hclosing : divideBody ['/', 'r', 'e', 'd'] = (['/', 'r', 'e', 'd'], none) := by decide
  have hclosed : findClosed [⟨"red", none, 0⟩] ['/', 'r', 'e', 'd'] ['r', 'e', 'd'] place' =
      .ok (⟨"red", none, 0⟩, []) := by
    have hname : strip (String.ofList ['r', 'e', 'd']) = "red" := by decide
    rw [findClosed, hname]
    simp [normalize_red, takeTag?, Except.mapError, bind, Except.bind]
  have hspan (stop : Nat) : (⟨"red", none, 0⟩ : OpenTag).close stop = .ok [⟨"red", 0, stop⟩] := by
    have hhandler : (⟨"red", none, 0⟩ : OpenTag).isHandler = false := by decide
    rw [OpenTag.close, hhandler]
    rfl
  have hrest (index : Nat) : checkTags index [⟨"red", none, 0⟩]
      (.tag 0 place' ['/', 'r', 'e', 'd'] :: after.map .char) = .ok [⟨"red", 0, index⟩] := by
    rw [checkTags, hclosing]
    simp [hclosed, hspan, checkTags_map_char, bind, Except.bind, pure, Except.pure]
  rw [checkTags, hopening]
  simp [normalize_red, checkTags_map_char_append, hrest, Except.mapError, bind, Except.bind]

theorem checkStyles_red (divided : Bool) (start stop : Nat) :
    checkStyles divided [⟨"red", start, stop⟩] = .ok () := by
  have hwords : (Style.ofWords "red").toOption.isSome = true := by decide
  obtain ⟨style, hstyle⟩ := Option.isSome_iff_exists.mp hwords
  cases hread : Style.ofWords "red" with
  | error fault => simp [hread, Except.toOption] at hstyle
  | ok found =>
    simp [checkStyles, hread, Except.mapError, bind, Except.bind, pure, Except.pure]

/-- Markup whose tags and styles can be read has no faults. -/
theorem fault?_console_eq_none {wrapped : Bool} {cs : List Char} (h : check wrapped cs = .ok ()) :
    console.fault? wrapped cs = none := by
  simp only [console, h]

theorem acceptsMarkup_console : console.AcceptsMarkup where
  text {cs} wrapped h := by
    refine fault?_console_eq_none ?_
    rw [check, scan_of_not_hasTag h, checkTags_map_char]
    simp [rangesOf, checkStyles, bind, Except.bind, pure, Except.pure]
  red {inside after} wrapped h hafter := by
    obtain ⟨place, later, hscan⟩ :=
      scan_withTag isFirstTag_red 0 (withTag inside 0 ['/', 'r', 'e', 'd'] after) 0
    obtain ⟨place', later', hscan'⟩ := scan_withTag h 0 after later
    refine fault?_console_eq_none ?_
    rw [check, hscan, hscan', scan_of_not_hasTag hafter, List.map_nil, List.nil_append,
      checkTags_red]
    simp [rangesOf, Span.range, checkStyles_red, bind, Except.bind]

end Terminal

end ClientBoundary
