import ClientBoundary.AdditionDiff
import Mathlib.Data.List.Chain

/-!
# The diff as a patch

A patch is read line by line, and a line of a patch ends at a line feed. The lines that a diff puts
plus signs in front of end at many other characters too. Where one of those stands inside the text,
the diff has a plus sign in the middle of a line and announces more lines than it has. So a diff
creates the text that it shows exactly when every line break of the text that something follows is
a line feed or a carriage return in front of one.

## Main definitions

* `feedLines`: the lines of a patch.
* `Creates`: a diff, read as a patch, creates a file.
* `BreaksAtFeeds`: a text breaks its lines at line feeds only.

## Main results

* `feedLines_eq_splitLines`, `length_feedLines_le`: where both ways to cut lines agree.
* `toList_additionDiff`: what a diff is made of.
* `additionDiff_creates_iff`: the texts whose diff creates them.
* `additionDiff_tears_line`: a text whose diff does not.
-/

namespace ClientBoundary

open Text

/-! ### Lines of a patch -/

/-- The lines of `cs` as a patch is read: a line ends at a line feed and nowhere else. -/
def feedLines : List Char → List (List Char)
  | [] => []
  | c :: cs => if c = '\n' then [c] :: feedLines cs else consLine c (feedLines cs)

/-- A complete line of a patch: it ends in a line feed and has no other one. -/
def IsFeedLine (line : List Char) : Prop :=
  ∃ body, '\n' ∉ body ∧ line = body ++ ['\n']

/-- A text with a line feed at its end. -/
def ended (cs : List Char) : List Char :=
  if cs.getLast? = some '\n' then cs else cs ++ ['\n']

/-- The header of a hunk that inserts `count` lines at line one; a count of one is left out. -/
def insertionHeader (count : Nat) : String :=
  if count = 1 then "@@ -0,0 +1 @@" else "@@ -0,0 +1," ++ count.repr ++ " @@"

/-- The header lines of a patch that creates a file at `path` with `count` lines. -/
def headerLines (path : String) (count : Nat) : List (List Char) :=
  ["--- /dev/null\n".toList, ("+++ " ++ path ++ "\n").toList,
    (insertionHeader count ++ "\n").toList]

/-- The lines of a patch that creates a file at `path` with the lines `added`. -/
def creationLines (path : String) (added : List (List Char)) : List (List Char) :=
  headerLines path added.length ++ added.map ('+' :: ·)

/-- Read as a patch, `diff` creates a file at `path` with content `text`: three header lines are
followed by as many complete lines as the third says, each behind a plus sign, and these give the
text, with a line feed at its end. -/
def Creates (path text diff : String) : Prop :=
  ∃ added, feedLines diff.toList = creationLines path added ∧
    (∀ line ∈ added, line.getLast? = some '\n') ∧ added.flatten = ended text.toList

/-- Wherever a character follows, a text breaks its lines at line feeds only, which a carriage
return may precede. -/
def BreaksAtFeeds (cs : List Char) : Prop :=
  cs.IsChain fun c next ↦ isLineEnd c = true → c = '\n' ∨ c = '\r' ∧ next = '\n'

instance (cs : List Char) : Decidable (BreaksAtFeeds cs) :=
  inferInstanceAs (Decidable (List.IsChain _ _))

theorem length_headerLines (path : String) (count : Nat) : (headerLines path count).length = 3 :=
  rfl

theorem length_consLine (c : Char) (lines : List (List Char)) :
    (consLine c lines).length = max 1 lines.length := by
  cases lines with
  | nil => rfl
  | cons line lines =>
    simp only [consLine, List.length_cons]
    omega

theorem isFeedLine_cons_iff {c : Char} {line : List Char} (hc : c ≠ '\n') :
    IsFeedLine (c :: line) ↔ IsFeedLine line := by
  constructor
  · rintro ⟨body, hbody, hline⟩
    cases body with
    | nil => exact absurd (List.cons.inj hline).1 hc
    | cons d body => exact ⟨body, mt (List.mem_cons_of_mem d) hbody, (List.cons.inj hline).2⟩
  · rintro ⟨body, hbody, rfl⟩
    refine ⟨c :: body, ?_, rfl⟩
    rw [List.mem_cons, not_or]
    exact ⟨Ne.symm hc, hbody⟩

theorem flatten_feedLines (cs : List Char) : (feedLines cs).flatten = cs := by
  fun_induction feedLines cs with
  | case1 => rfl
  | case2 cs ih => rw [List.flatten_cons, ih, List.singleton_append]
  | case3 c cs _ ih => rw [flatten_consLine, ih]

theorem feedLines_eq_nil_iff {cs : List Char} : feedLines cs = [] ↔ cs = [] := by
  constructor
  · intro h
    rw [← flatten_feedLines cs, h, List.flatten_nil]
  · rintro rfl
    rfl

/-- A complete line is cut off from what follows it. -/
theorem feedLines_append {line : List Char} (h : IsFeedLine line) (rest : List Char) :
    feedLines (line ++ rest) = line :: feedLines rest := by
  obtain ⟨body, hbody, rfl⟩ := h
  induction body with
  | nil => simp [feedLines]
  | cons c body ih =>
    obtain ⟨hc, hbody⟩ := not_or.mp (mt List.mem_cons.mpr hbody)
    rw [List.cons_append, List.cons_append, feedLines, if_neg (Ne.symm hc), ih hbody, consLine]

/-- Complete lines are the lines of what they are put together to. -/
theorem feedLines_flatten_append {lines : List (List Char)} (h : ∀ line ∈ lines, IsFeedLine line)
    (rest : List Char) : feedLines (lines.flatten ++ rest) = lines ++ feedLines rest := by
  induction lines with
  | nil => rfl
  | cons line lines ih =>
    obtain ⟨hline, hlines⟩ := List.forall_mem_cons.mp h
    rw [List.flatten_cons, List.append_assoc, feedLines_append hline, ih hlines, List.cons_append]

theorem getLast?_of_cons {c d : Char} {cs : List Char} (hc : c ≠ d)
    (h : (c :: cs).getLast? = some d) : cs.getLast? = some d := by
  cases cs with
  | nil => exact absurd (Option.some.inj h) hc
  | cons next cs => exact h

/-- A line of a patch is complete if it ends in a line feed, as all do if the patch ends in one. -/
theorem isFeedLine_of_mem_feedLines {cs line : List Char} (h : line ∈ feedLines cs)
    (hend : line.getLast? = some '\n' ∨ cs.getLast? = some '\n') : IsFeedLine line := by
  fun_induction feedLines cs generalizing line with
  | case1 => cases h
  | case2 cs ih =>
    rcases List.mem_cons.mp h with rfl | h
    · exact ⟨[], List.not_mem_nil, rfl⟩
    · refine ih h (hend.imp_right fun hlast ↦ ?_)
      cases cs with
      | nil => cases h
      | cons next cs => exact hlast
  | case3 c cs hc ih =>
    cases hlines : feedLines cs with
    | nil =>
      obtain rfl := feedLines_eq_nil_iff.mp hlines
      obtain rfl := List.mem_singleton.mp h
      exact absurd (Option.some.inj (or_self_iff.mp hend)) hc
    | cons first lines =>
      rw [hlines] at h ih
      rcases List.mem_cons.mp h with rfl | h
      · exact (isFeedLine_cons_iff hc).mpr
          (ih List.mem_cons_self (hend.imp (getLast?_of_cons hc) (getLast?_of_cons hc)))
      · exact ih (List.mem_cons_of_mem first h) (hend.imp_right (getLast?_of_cons hc))

/-! ### Ending the last line -/

/-- The lines with a line feed at the very end. -/
def endLines : List (List Char) → List (List Char)
  | [] => []
  | [line] => [ended line]
  | line :: lines => line :: endLines lines

theorem getLast?_ended (cs : List Char) : (ended cs).getLast? = some '\n' := by
  unfold ended
  split_ifs with h
  · exact h
  · exact List.getLast?_concat

theorem ended_append (cs : List Char) {ds : List Char} (hds : ds ≠ []) :
    ended (cs ++ ds) = cs ++ ended ds := by
  have hlast : (cs ++ ds).getLast? = ds.getLast? := by
    rw [List.getLast?_append, List.getLast?_eq_some_getLast hds, Option.some_or]
  unfold ended
  rw [hlast]
  split_ifs
  · rfl
  · rw [List.append_assoc]

theorem endLines_cons (line : List Char) {lines : List (List Char)} (hne : lines ≠ []) :
    endLines (line :: lines) = line :: endLines lines := by
  cases lines with
  | nil => exact absurd rfl hne
  | cons next lines => rfl

theorem length_endLines (lines : List (List Char)) : (endLines lines).length = lines.length := by
  fun_induction endLines lines with
  | case1 => rfl
  | case2 => rfl
  | case3 line lines _ ih => rw [List.length_cons, List.length_cons, ih]

/-- Ending the last line ends the text that the lines are. -/
theorem flatten_endLines {lines : List (List Char)} (hne : lines ≠ []) (h : [] ∉ lines) :
    (endLines lines).flatten = ended lines.flatten := by
  induction lines with
  | nil => exact absurd rfl hne
  | cons line lines ih =>
    obtain ⟨-, hlines⟩ := not_or.mp (mt List.mem_cons.mpr h)
    by_cases hnil : lines = []
    · subst hnil
      simp [endLines]
    · have hflat : lines.flatten ≠ [] := by
        intro hflat
        obtain ⟨next, hnext⟩ := List.exists_mem_of_ne_nil lines hnil
        exact hlines (List.flatten_eq_nil_iff.mp hflat next hnext ▸ hnext)
      rw [endLines_cons line hnil, List.flatten_cons, List.flatten_cons, ih hnil hlines,
        ended_append line hflat]

theorem endLines_consLine {c : Char} (hc : c ≠ '\n') {lines : List (List Char)} (hne : lines ≠ []) :
    endLines (consLine c lines) = consLine c (endLines lines) := by
  cases lines with
  | nil => exact absurd rfl hne
  | cons line lines =>
    by_cases hnil : lines = []
    · subst hnil
      cases line with
      | nil => simp [consLine, endLines, ended, hc]
      | cons d line =>
        have hended := ended_append [c] (List.cons_ne_nil d line)
        simpa [consLine, endLines] using hended
    · rw [consLine, endLines_cons _ hnil, endLines_cons _ hnil, consLine]

/-- Ending the last line of a patch gives the lines of the patch with a line feed at its end. -/
theorem endLines_feedLines {cs : List Char} (hne : cs ≠ []) :
    endLines (feedLines cs) = feedLines (ended cs) := by
  induction cs with
  | nil => exact absurd rfl hne
  | cons c cs ih =>
    by_cases hnil : cs = []
    · subst hnil
      by_cases hc : c = '\n'
      · subst hc
        decide
      · simp [feedLines, ended, hc, consLine, endLines]
    · have hlines : feedLines cs ≠ [] := mt feedLines_eq_nil_iff.mp hnil
      have hended : ended (c :: cs) = c :: ended cs := ended_append [c] hnil
      rw [hended, feedLines, feedLines]
      split_ifs with hc
      · rw [endLines_cons _ hlines, ih hnil]
      · rw [endLines_consLine hc hlines, ih hnil]

theorem map_toList_endLastLine (lines : List (List Char)) :
    (endLastLine (lines.map String.ofList)).map String.toList = endLines lines := by
  fun_induction endLines lines with
  | case1 => rfl
  | case2 line =>
    simp only [List.map_cons, List.map_nil, endLastLine, String.toList_ofList, ended]
    split_ifs <;> simp
  | case3 line lines hne ih =>
    cases lines with
    | nil => exact absurd rfl hne
    | cons next lines => simpa [endLastLine] using ih

/-! ### Two ways to cut lines -/

theorem nil_notMem_splitLines (cs : List Char) : [] ∉ splitLines cs := by
  fun_induction splitLines cs with
  | case1 => simp
  | case2 cs ih => simpa using ih
  | case3 c cs _ _ ih => simpa using ih
  | case4 c cs _ _ ih =>
    cases hlines : splitLines cs with
    | nil => simp [consLine]
    | cons line lines =>
      rw [hlines] at ih
      simp_all [consLine]

theorem splitLines_eq_nil_iff {cs : List Char} : splitLines cs = [] ↔ cs = [] := by
  constructor
  · intro h
    rw [← flatten_splitLines cs, h, List.flatten_nil]
  · rintro rfl
    rfl

/-- A text that breaks its lines at line feeds has the lines of a patch. -/
theorem feedLines_eq_splitLines {cs : List Char} (h : BreaksAtFeeds cs) :
    feedLines cs = splitLines cs := by
  fun_induction splitLines cs with
  | case1 => rfl
  | case2 cs ih =>
    have hrest : BreaksAtFeeds cs := h.of_cons.of_cons
    rw [← ih hrest]
    rfl
  | case3 c cs hpair hend ih =>
    rw [← ih h.of_cons, feedLines]
    split_ifs with hc
    · rfl
    · -- Another line end is the last character, since it may only stand in front of a line feed.
      cases cs with
      | nil => rfl
      | cons next cs =>
        obtain ⟨hbreak, -⟩ := List.isChain_cons_cons.mp h
        obtain hfeed | ⟨hreturn, rfl⟩ := hbreak hend
        · exact absurd hfeed hc
        · exact absurd rfl (hpair cs hreturn)
  | case4 c cs _ hend ih =>
    have hc : c ≠ '\n' := by
      rintro rfl
      exact hend rfl
    rw [← ih h.of_cons, feedLines, if_neg hc]

/-- A text has no more lines as a patch than it has otherwise, and fewer unless it breaks its lines
at line feeds. -/
theorem length_feedLines_le (cs : List Char) :
    (feedLines cs).length ≤ (splitLines cs).length ∧
      ((feedLines cs).length = (splitLines cs).length → BreaksAtFeeds cs) := by
  fun_induction splitLines cs with
  | case1 => exact ⟨Nat.le_refl _, fun _ ↦ .nil⟩
  | case2 cs ih =>
    have hfeed : feedLines ('\r' :: '\n' :: cs) = ['\r', '\n'] :: feedLines cs := rfl
    rw [hfeed, List.length_cons, List.length_cons]
    refine ⟨by omega, fun heq ↦ ?_⟩
    have hrest := ih.2 (by omega)
    exact .cons_cons (by simp) (List.isChain_cons.mpr ⟨by simp, hrest⟩)
  | case3 c cs hpair hend ih =>
    rw [feedLines, List.length_cons]
    split_ifs with hc
    · rw [List.length_cons]
      refine ⟨by omega, fun heq ↦ ?_⟩
      exact List.isChain_cons.mpr ⟨fun next _ _ ↦ Or.inl hc, ih.2 (by omega)⟩
    · -- The lines on both sides of another line end are one line of the patch.
      rw [length_consLine]
      by_cases hnil : cs = []
      · subst hnil
        exact ⟨by simp [feedLines], fun _ ↦ .singleton c⟩
      · have hpositive := List.length_pos_iff.mpr (mt feedLines_eq_nil_iff.mp hnil)
        exact ⟨by omega, fun heq ↦ by omega⟩
  | case4 c cs _ hend ih =>
    have hc : c ≠ '\n' := by
      rintro rfl
      exact hend rfl
    have hsame : (feedLines cs).length = 0 ↔ (splitLines cs).length = 0 := by
      rw [List.length_eq_zero_iff, List.length_eq_zero_iff, feedLines_eq_nil_iff,
        splitLines_eq_nil_iff]
    rw [feedLines, if_neg hc, length_consLine, length_consLine]
    refine ⟨by omega, fun heq ↦ ?_⟩
    exact List.isChain_cons.mpr ⟨fun next _ hbreak ↦ absurd hbreak hend, ih.2 (by omega)⟩

/-! ### Diffs read as patches -/

theorem insertionHeader_eq (count : Nat) :
    insertionHeader count = "@@ -0,0 +" ++ addedRange count ++ " @@" := by
  unfold insertionHeader addedRange
  split_ifs
  · decide
  · simp [← String.toList_inj, toString]

theorem notMem_insertionHeader (count : Nat) : '\n' ∉ (insertionHeader count).toList := by
  unfold insertionHeader
  split_ifs
  · decide
  · have hdigits : '\n' ∉ Nat.toDigits 10 count := by
      intro hmem
      exact absurd (Nat.isDigit_of_mem_toDigits (by decide) (by decide) hmem) (by decide)
    simpa using hdigits

theorem isFeedLine_of_mem_headerLines {path : String} (hpath : '\n' ∉ path.toList) (count : Nat) :
    ∀ line ∈ headerLines path count, IsFeedLine line := by
  simp only [headerLines, List.forall_mem_cons, List.not_mem_nil, false_imp_iff, implies_true,
    and_true]
  refine ⟨⟨"--- /dev/null".toList, by decide, by decide⟩, ⟨("+++ " ++ path).toList, ?_, ?_⟩,
    ⟨(insertionHeader count).toList, notMem_insertionHeader count, ?_⟩⟩
  · simpa using hpath
  · simp
  · simp

theorem length_flatten_map_cons (c : Char) (lines : List (List Char)) :
    (lines.map (c :: ·)).flatten.length = lines.length + lines.flatten.length := by
  induction lines with
  | nil => rfl
  | cons line lines ih =>
    simp only [List.map_cons, List.flatten_cons, List.length_append, List.length_cons, ih]
    omega

/-- A diff is made of three header lines and of the lines of the text, ended, behind plus signs. -/
theorem toList_additionDiff (path : String) {text : String} (hne : text ≠ "") :
    (additionDiff path text).toList =
      (creationLines path (endLines (splitLines text.toList))).flatten := by
  have hmap : (endLastLine (lines text)).map String.toList =
      endLines (splitLines text.toList) := map_toList_endLastLine _
  have hlength : (endLastLine (lines text)).length = (splitLines text.toList).length := by
    rw [← length_endLines, ← hmap, List.length_map]
  have hadded : endLastLine (lines text) ≠ [] := by
    rw [← List.length_pos_iff, hlength, List.length_pos_iff]
    simpa [splitLines_eq_nil_iff] using hne
  have hjoin (added : List String) : (String.join (added.map ("+" ++ ·))).toList =
      ((added.map String.toList).map ('+' :: ·)).flatten := by
    rw [String.toList_join, List.flatMap_map, List.map_map, List.flatMap_def]
    simp [Function.comp_def]
  unfold additionDiff
  split
  · contradiction
  · simp [creationLines, headerLines, insertionHeader_eq, ← hmap, hjoin, toString]

variable {path text : String}

theorem flatten_shownLines (hne : text ≠ "") :
    (endLines (splitLines text.toList)).flatten = ended text.toList := by
  rw [flatten_endLines _ (nil_notMem_splitLines _), flatten_splitLines]
  simpa [splitLines_eq_nil_iff] using hne

/-- The diff of a text that breaks its lines at line feeds creates the text. -/
theorem creates_of_breaksAtFeeds (hpath : '\n' ∉ path.toList) (hne : text ≠ "")
    (h : BreaksAtFeeds text.toList) : Creates path text (additionDiff path text) := by
  have hshown : endLines (splitLines text.toList) = feedLines (ended text.toList) := by
    rw [← feedLines_eq_splitLines h, endLines_feedLines (by simpa using hne)]
  have hcomplete : ∀ line ∈ feedLines (ended text.toList), IsFeedLine line := by
    intro line hline
    exact isFeedLine_of_mem_feedLines hline (Or.inr (getLast?_ended _))
  refine ⟨feedLines (ended text.toList), ?_, ?_, flatten_feedLines _⟩
  · have hlines : ∀ line ∈ creationLines path (feedLines (ended text.toList)),
        IsFeedLine line := by
      rw [creationLines, List.forall_mem_append, List.forall_mem_map]
      refine ⟨isFeedLine_of_mem_headerLines hpath _, fun line hline ↦ ?_⟩
      exact (isFeedLine_cons_iff (by decide)).mpr (hcomplete line hline)
    rw [toList_additionDiff path hne, hshown]
    simpa [feedLines] using feedLines_flatten_append hlines []
  · intro line hline
    obtain ⟨body, -, rfl⟩ := hcomplete line hline
    exact List.getLast?_concat

/-- A diff that creates its text shows as many lines as the text has line feeds, so the text breaks
its lines at these only. -/
theorem breaksAtFeeds_of_creates (hpath : '\n' ∉ path.toList) (hne : text ≠ "")
    (h : Creates path text (additionDiff path text)) : BreaksAtFeeds text.toList := by
  obtain ⟨added, hread, hcomplete, hflat⟩ := h
  have hbody : feedLines ((endLines (splitLines text.toList)).map ('+' :: ·)).flatten =
      added.map ('+' :: ·) := by
    rw [toList_additionDiff path hne, creationLines, List.flatten_append,
      feedLines_flatten_append (isFeedLine_of_mem_headerLines hpath _), creationLines] at hread
    exact (List.append_inj hread (by rw [length_headerLines, length_headerLines])).2
  -- Both sides hold the ended text, so what is left of their lengths are the plus signs.
  have hcount : added.length = (endLines (splitLines text.toList)).length := by
    have hlength := congrArg (fun lines ↦ lines.flatten.length) hbody
    simp only [flatten_feedLines, length_flatten_map_cons, flatten_shownLines hne, hflat] at hlength
    omega
  have hadded : feedLines (ended text.toList) = added := by
    have hlines : ∀ line ∈ added, IsFeedLine line := by
      intro line hline
      have hmem : '+' :: line ∈ feedLines ((endLines (splitLines text.toList)).map
          ('+' :: ·)).flatten := hbody ▸ List.mem_map_of_mem hline
      have hend : ('+' :: line).getLast? = some '\n' := by
        rw [List.getLast?_cons, hcomplete line hline, Option.getD_some]
      exact (isFeedLine_cons_iff (by decide)).mp (isFeedLine_of_mem_feedLines hmem (Or.inl hend))
    simpa [feedLines, hflat] using feedLines_flatten_append hlines []
  apply (length_feedLines_le text.toList).2
  calc (feedLines text.toList).length = (endLines (feedLines text.toList)).length :=
        (length_endLines _).symm
    _ = added.length := by rw [endLines_feedLines (by simpa using hne), hadded]
    _ = (endLines (splitLines text.toList)).length := hcount
    _ = (splitLines text.toList).length := length_endLines _

/-- **Which texts a diff creates.** The diff that adds a text that is not empty at a path without a
line feed is, read as a patch, three header lines followed by as many complete lines behind plus
signs as the third header says, and these lines are the text with a line feed at its end, exactly
when wherever a character follows the text breaks its lines at line feeds only. -/
theorem additionDiff_creates_iff (hpath : '\n' ∉ path.toList) (hne : text ≠ "") :
    Creates path text (additionDiff path text) ↔ BreaksAtFeeds text.toList :=
  ⟨breaksAtFeeds_of_creates hpath hne, creates_of_breaksAtFeeds hpath hne⟩

/-- A carriage return in front of a line feed and a form feed at the very end do no harm. -/
theorem additionDiff_creates_iff_returns :
    BreaksAtFeeds "a\r\nb\x0c".toList ∧
      Creates "a.tsx" "a\r\nb\x0c" (additionDiff "a.tsx" "a\r\nb\x0c") := by
  have hbreaks : BreaksAtFeeds "a\r\nb\x0c".toList := by decide
  exact ⟨hbreaks, (additionDiff_creates_iff (by decide) (by decide)).mpr hbreaks⟩

/-- A line separator in a string literal tears the line apart: one line of the patch is announced as
two and has a second plus sign inside. -/
theorem additionDiff_tears_line :
    additionDiff "a.client.tsx" "const s = 'a\u2028b';\n" =
        "--- /dev/null\n+++ a.client.tsx\n@@ -0,0 +1,2 @@\n+const s = 'a\u2028+b';\n" ∧
      ¬ Creates "a.client.tsx" "const s = 'a\u2028b';\n"
        (additionDiff "a.client.tsx" "const s = 'a\u2028b';\n") := by
  refine ⟨by decide +kernel, fun hcreates ↦ ?_⟩
  have hbreaks := breaksAtFeeds_of_creates (by decide) (by decide) hcreates
  revert hbreaks
  decide

end ClientBoundary
