import ClientBoundary.Console
import ClientBoundary.Proofs.TagMarks

/-!
# Laws of consoles

What is assumed of a console, each assumption with its own name, and what follows from them about
the characters that are printed. Nothing is assumed about text with control characters, about
wrapped lines, or about the names of emoji.

The laws say that tags are read and print nothing, that codes are replaced by the emoji that they
name, and that escaping protects tags and nothing else. Hence a text put into markup as it is loses
characters of markup if it has tags or is not inert, while an escaped text is printed as it is
exactly when all its stretches are inert.

## Main definitions

* `Console.ReadsMarkup`, `Console.AcceptsMarkup`: what markup prints, and that it has no faults.
* `Console.EscapesTags`: what escaping does.
* `Console.KeepsLines`: what is set in a line that is not wrapped.

## Main results

* `Console.ReadsMarkup.countP_render`: markup loses characters of markup.
* `Console.EscapesTags.prefix_or_departs`: what is printed of an escaped text.
* `Console.KeepsLines.lay_eq`: lines that are printed as they are.
-/

namespace ClientBoundary

open Markup Text

/-- Whether a character is a control character. -/
def isControl (c : Char) : Bool :=
  c.toNat < 0x20 || (0x7f ≤ c.toNat && c.toNat < 0xa0)

/-- A text has no control characters. -/
def ControlFree (cs : List Char) : Prop :=
  ∀ c ∈ cs, isControl c = false

theorem controlFree_append_iff {cs ds : List Char} :
    ControlFree (cs ++ ds) ↔ ControlFree cs ∧ ControlFree ds :=
  List.forall_mem_append

/-- A digit is no control or markup character and is not blank. -/
theorem digit_facts {c : Char} (h : c.isDigit = true) :
    isControl c = false ∧ isMarkupChar c = false ∧ isBlank c = false ∧ c ≠ ']' := by
  have hall : ∀ n < 10, isControl (Char.ofNat (48 + n)) = false ∧
      isMarkupChar (Char.ofNat (48 + n)) = false ∧ isBlank (Char.ofNat (48 + n)) = false ∧
      Char.ofNat (48 + n) ≠ ']' := by decide
  have hrange : 48 ≤ c.toNat ∧ c.toNat ≤ 57 := by
    simpa [Char.isDigit, UInt32.le_iff_toNat_le] using h
  have hc : Char.ofNat (48 + (c.toNat - 48)) = c := by
    rw [Nat.add_sub_cancel' hrange.1, Char.ofNat_toNat]
  rw [← hc]
  exact hall (c.toNat - 48) (by omega)

/-- A character of an emoji is no control character and is not blank. -/
theorem pictorial_facts {c : Char} (h : isPictorial c = true) :
    isControl c = false ∧ isBlank c = false := by
  simp only [isPictorial, Bool.or_eq_true, Bool.and_eq_true, decide_eq_true_eq,
    Bool.not_eq_true', beq_iff_eq] at h
  rcases h with ((⟨hlarge, hblank⟩ | hdigit) | rfl) | rfl
  · refine ⟨?_, hblank⟩
    simp only [isControl, Bool.or_eq_false_iff, Bool.and_eq_false_iff, decide_eq_false_iff_not]
    omega
  · obtain ⟨hcontrol, -, hblank, -⟩ := digit_facts hdigit
    exact ⟨hcontrol, hblank⟩
  · decide
  · decide

theorem controlFree_replicate_slash (n : Nat) : ControlFree (List.replicate n '\\') := by
  intro c hc
  rw [List.eq_of_mem_replicate hc]
  rfl

theorem controlFree_withTag_iff {front body rest : List Char} {slashes : Nat} :
    ControlFree (withTag front slashes body rest) ↔
      ControlFree front ∧ ControlFree body ∧ ControlFree rest := by
  have hslashes := controlFree_replicate_slash slashes
  have hbrackets : ControlFree (bracketed body) ↔ ControlFree body := by
    rw [bracketed, List.cons_append, ControlFree, List.forall_mem_cons, List.forall_mem_append,
      List.forall_mem_singleton]
    exact ⟨fun h ↦ h.2.1, fun h ↦ ⟨rfl, h, rfl⟩⟩
  rw [withTag, controlFree_append_iff, controlFree_append_iff, controlFree_append_iff, hbrackets]
  tauto

theorem withTag_append (front : List Char) (slashes : Nat) (body rest tail : List Char) :
    withTag front slashes body rest ++ tail = withTag front slashes body (rest ++ tail) := by
  simp [withTag]

theorem getLast?_ne_of_withTag {front body rest : List Char} {slashes : Nat} {c : Char}
    (h : (withTag front slashes body rest).getLast? ≠ some c) : rest.getLast? ≠ some c := by
  intro hlast
  refine h ?_
  simp [withTag, hlast]

theorem isFirstTag_red : IsFirstTag [] ['r', 'e', 'd'] :=
  ⟨not_hasTag_nil, by simp, 'r', ['e', 'd'], rfl, by decide, by decide, by decide⟩

namespace Console

variable (console : Console)

/-! ### Laws -/

/-- Markup is read from left to right. A text without tags prints its characters, except for
backslashes before brackets and for the codes of emoji. The first tag prints nothing unless an odd
number of backslashes belongs to it, which protect it and count half. -/
structure ReadsMarkup : Prop where
  text {cs : List Char} : ControlFree cs → ¬ HasTag cs →
    console.render cs = shown console.emoji? cs
  tag {front body : List Char} (slashes : Nat) (rest : List Char) : ControlFree front →
    ControlFree body → IsFirstTag front body →
    console.render (withTag front slashes body rest) =
      console.render front ++ (List.replicate (slashes / 2) '\\' ++
        ((if slashes % 2 = 1 then shown console.emoji? (bracketed body) else []) ++
          console.render rest))

/-- Escaping puts a backslash before every tag and doubles those that are there. -/
structure EscapesTags : Prop where
  text {cs : List Char} : ¬ HasTag cs → cs.getLast? ≠ some '\\' → console.escape cs = cs
  tag {front body rest : List Char} (slashes : Nat) : IsFirstTag front body →
    rest.getLast? ≠ some '\\' →
    console.escape (withTag front slashes body rest) =
      withTag front (2 * slashes + 1) body (console.escape rest)

/-- A text without control characters that is not to be wrapped is set on one line, from the end of
which blanks may be cut. What stands before a line feed or a tab is kept as well. -/
structure KeepsLines : Prop where
  whole {cs : List Char} : ControlFree cs → ∃ kept blanks, cs = kept ++ blanks ∧
    (∀ c ∈ blanks, isBlank c = true) ∧ console.lay false cs = String.ofList (kept ++ ['\n'])
  start {front : List Char} (cs : List Char) : ControlFree front →
    (∀ c, front.getLast? = some c → isBlank c = false) →
    front <+: (console.lay false (front ++ cs)).toList

/-- Markup without tags has no faults, and neither has markup whose only tags open and close the red
colour. -/
structure AcceptsMarkup : Prop where
  text {cs : List Char} (wrapped : Bool) : ¬ HasTag cs → console.fault? wrapped cs = none
  red {inside after : List Char} (wrapped : Bool) : IsFirstTag inside ['/', 'r', 'e', 'd'] →
    ¬ HasTag after →
    console.fault? wrapped (withTag [] 0 ['r', 'e', 'd'] (withTag inside 0 ['/', 'r', 'e', 'd']
      after)) = none

/-! ### What markup prints -/

variable {console} {cs : List Char}

namespace ReadsMarkup

/-- What markup prints is a part of it or pictorial. -/
theorem mem_render (h : console.ReadsMarkup) (hplain : ControlFree cs) {c : Char}
    (hc : c ∈ console.render cs) : c ∈ cs ∨ isPictorial c = true := by
  induction cs using tag_induction with
  | text cs htag =>
    rw [h.text hplain htag] at hc
    exact mem_shown hc
  | tag front slashes body rest hfirst ih =>
    obtain ⟨hfront, hbody, hrest⟩ := controlFree_withTag_iff.mp hplain
    rw [h.tag slashes rest hfront hbody hfirst, h.text hfront hfirst.noTag] at hc
    simp only [withTag, List.mem_append] at hc ⊢
    rcases hc with hc | hc | hc | hc
    · exact (mem_shown hc).imp_left .inl
    · obtain ⟨hslashes, rfl⟩ := List.mem_replicate.mp hc
      exact .inl (.inr (.inl (List.mem_replicate.mpr ⟨by omega, rfl⟩)))
    · split_ifs at hc
      · exact (mem_shown hc).imp_left fun hc ↦ .inr (.inr (.inl hc))
      · cases hc
    · exact (ih hrest hc).imp_left fun hc ↦ .inr (.inr (.inr hc))

theorem controlFree_render (h : console.ReadsMarkup) (hplain : ControlFree cs) :
    ControlFree (console.render cs) := by
  intro c hc
  rcases h.mem_render hplain hc with hc | hpictorial
  · exact hplain c hc
  · exact (pictorial_facts hpictorial).1

/-- Markup prints no more characters of markup than it has, and fewer if it has tags or is not
inert. -/
theorem countP_render (h : console.ReadsMarkup) (hplain : ControlFree cs) :
    (console.render cs).countP isMarkupChar ≤ cs.countP isMarkupChar ∧
      (HasTag cs ∨ ¬ IsInert console.emoji? cs →
        (console.render cs).countP isMarkupChar < cs.countP isMarkupChar) := by
  induction cs using tag_induction with
  | text cs htag =>
    obtain ⟨hle, hlt⟩ := countP_shown console.emoji? cs
    rw [h.text hplain htag]
    exact ⟨hle, fun hread ↦ hlt (hread.resolve_left htag)⟩
  | tag front slashes body rest hfirst ih =>
    obtain ⟨hfront, hbody, hrest⟩ := controlFree_withTag_iff.mp hplain
    have hslashes (n : Nat) : (List.replicate n '\\').countP isMarkupChar = n := by
      rw [List.countP_replicate]
      exact if_pos rfl
    have hbracket : 0 < (bracketed body).countP isMarkupChar := by
      rw [bracketed, List.cons_append, List.countP_cons_of_pos rfl]
      exact Nat.succ_pos _
    -- A protected tag loses backslashes, and any other one at least its bracket.
    have hlost : slashes / 2 + (if slashes % 2 = 1 then shown console.emoji? (bracketed body)
        else []).countP isMarkupChar < slashes + (bracketed body).countP isMarkupChar := by
      have hshown := (countP_shown console.emoji? (bracketed body)).1
      split_ifs
      · omega
      · rw [List.countP_nil]
        omega
    have hbefore := (countP_shown console.emoji? front).1
    have hafter := (ih hrest).1
    have hfewer : (console.render (withTag front slashes body rest)).countP isMarkupChar <
        (withTag front slashes body rest).countP isMarkupChar := by
      rw [h.tag slashes rest hfront hbody hfirst, h.text hfront hfirst.noTag, withTag]
      simp only [List.countP_append, hslashes]
      omega
    exact ⟨hfewer.le, fun _ ↦ hfewer⟩

end ReadsMarkup

/-! ### Escaped text -/

namespace EscapesTags

variable {tail body : List Char}

/-- What is printed of an escaped text in front of two blanks and a tag: the text if its stretches
are inert, and otherwise something that departs from it. -/
theorem prefix_or_departs (h : console.EscapesTags) (hreads : console.ReadsMarkup)
    (hcs : ControlFree cs) (hlast : cs.getLast? ≠ some '\\') (htail : ControlFree tail)
    (hclosing : ']' ∉ tail) (hbody : ControlFree body) (hword : IsTagBody body)
    (rest : List Char) :
    ((∀ text ∈ stretches (cs ++ tail), IsInert console.emoji? text) →
      cs ++ tail <+:
        console.render (console.escape cs ++ (tail ++ withTag [' ', ' '] 0 body rest))) ∧
    ((¬ ∀ text ∈ stretches (cs ++ tail), IsInert console.emoji? text) →
      Departs (cs ++ tail)
        (console.render (console.escape cs ++ (tail ++ withTag [' ', ' '] 0 body rest)))) := by
  induction cs using tag_induction with
  | text cs htag =>
    have hblanks : ControlFree [' ', ' '] := forall_eq_false_of_all (by decide)
    have hfree : ControlFree (cs ++ tail ++ [' ', ' ']) :=
      controlFree_append_iff.mpr ⟨controlFree_append_iff.mpr ⟨hcs, htail⟩, hblanks⟩
    have hnone : ¬ HasTag (cs ++ tail ++ [' ', ' ']) := fun hfound ↦
      htag ((hfound.of_append (by decide)).of_append hclosing)
    have hfirst : IsFirstTag (cs ++ tail ++ [' ', ' ']) body := ⟨hnone, by simp, hword⟩
    have hmarkup : cs ++ (tail ++ withTag [' ', ' '] 0 body rest) =
        withTag (cs ++ tail ++ [' ', ' ']) 0 body rest := by simp [withTag]
    have hprinted : console.render (console.escape cs ++ (tail ++ withTag [' ', ' '] 0 body rest)) =
        shown console.emoji? (cs ++ tail) ++
          (' ' :: shown console.emoji? [' '] ++ console.render rest) := by
      rw [h.text htag hlast, hmarkup, hreads.tag 0 rest hfree hbody hfirst, hreads.text hfree hnone,
        shown_append_blank]
      simp
    rw [stretches_of_not_hasTag fun hfound ↦ htag (hfound.of_append hclosing), hprinted,
      List.forall_mem_singleton]
    constructor
    · intro hinert
      rw [shown_eq_self hinert]
      exact List.prefix_append _ _
    · intro hread
      simpa using (departs_shown hread).append_right [] _
  | tag front slashes word later hfirst ih =>
    obtain ⟨hfront, hinside, hlater⟩ := controlFree_withTag_iff.mp hcs
    have hend := getLast?_ne_of_withTag hlast
    obtain ⟨hkept, hlost⟩ := ih hlater hend
    have hhalf : (2 * slashes + 1) / 2 = slashes := by omega
    have hodd : (2 * slashes + 1) % 2 = 1 := by omega
    rw [h.tag slashes hfirst hend, withTag_append, withTag_append,
      hreads.tag _ _ hfront hinside hfirst, hreads.text hfront hfirst.noTag, hhalf, if_pos hodd,
      stretches_withTag hfirst, withTag]
    by_cases hhere : IsInert console.emoji? front
    · rw [shown_eq_self hhere]
      by_cases hthere : IsInert console.emoji? (bracketed word)
      · rw [shown_eq_self hthere]
        simp only [List.forall_mem_cons, hhere, hthere, true_and]
        constructor
        · intro hinert
          simpa only [List.prefix_append_right_inj] using hkept hinert
        · intro hread
          exact (((hlost hread).append_left _).append_left _).append_left _
      · refine ⟨fun hinert ↦ absurd (hinert _ (by simp)) hthere, fun _ ↦ ?_⟩
        exact (((departs_shown hthere).append_right _ _).append_left _).append_left _
    · refine ⟨fun hinert ↦ absurd (hinert _ List.mem_cons_self) hhere, fun _ ↦ ?_⟩
      exact (departs_shown hhere).append_right _ _

end EscapesTags

/-! ### Lines -/

/-- A text without control characters that does not end in a blank is printed as it is. -/
theorem KeepsLines.lay_eq (h : console.KeepsLines) (hplain : ControlFree cs)
    (hlast : ∀ c, cs.getLast? = some c → isBlank c = false) :
    console.lay false cs = String.ofList (cs ++ ['\n']) := by
  obtain ⟨kept, blanks, rfl, hblanks, hlay⟩ := h.whole hplain
  obtain rfl : blanks = [] := by
    by_contra hne
    have hmem := List.getLast_mem hne
    have hend := hlast (blanks.getLast hne) (by
      rw [List.getLast?_append_of_ne_nil _ hne, List.getLast?_eq_some_getLast hne])
    rw [hblanks _ hmem] at hend
    cases hend
  rw [hlay, List.append_nil]

end Console

end ClientBoundary
