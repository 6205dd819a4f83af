import ClientBoundary.Lint
import Mathlib.Data.List.Nodup

/-!
# Edits made at once

Edits are applied one after the other to bytes that earlier ones have changed, although all offsets
are those of the source. Going from the last offset to the first makes up for it: what an edit finds
in front of its end is still the source. Edits of which none reaches into the next therefore come
out as if they had all been made at once, also where an insertion touches the border of a
replacement. Sorting decides the order of such edits by their places alone, so it does not matter in
which order or how often they are given.

## Main definitions

* `Edit.FitsFrom`: edits stand one behind the other inside the source.
* `Edit.replacedFrom`: the source with edits made at once.

## Main results

* `Edit.foldr_apply_eq`: edits applied from the last to the first.
* `Edit.mergeSort_eraseDups_eq_reverse`: the order in which given edits are applied.
* `fixSource_eq_replaced`: the fixes of diagnostics are made at once.
-/

namespace ClientBoundary

namespace Edit

/-- Edits stand one behind the other: each starts where the one before it ends or later, ends where
it starts or later, and the last one ends inside `length` bytes. -/
def FitsFrom (length : Nat) (position : Int) : List Edit → Prop
  | [] => position ≤ length
  | edit :: edits =>
    position ≤ edit.start ∧ edit.start ≤ edit.stop ∧ FitsFrom length edit.stop edits

/-- The bytes from `position` on with edits made at once: the texts of the edits, and between them
what stands between their ranges. -/
def replacedFrom (bytes : Bytes) (position : Nat) : List Edit → Bytes
  | [] => bytes.drop position
  | edit :: edits =>
    bytes.slice position edit.start.toNat ++ Utf8.encode edit.text ++
      replacedFrom bytes edit.stop.toNat edits

instance decidableFitsFrom (length : Nat) (position : Int) :
    (edits : List Edit) → Decidable (FitsFrom length position edits)
  | [] => inferInstanceAs (Decidable (position ≤ length))
  | edit :: edits =>
    have := decidableFitsFrom length edit.stop edits
    inferInstanceAs (Decidable (_ ∧ _ ∧ _))

/-! ### From the last edit to the first -/

theorem FitsFrom.position_le {length : Nat} {position : Int} {edits : List Edit}
    (h : FitsFrom length position edits) : position ≤ length := by
  induction edits generalizing position with
  | nil => exact h
  | cons edit edits ih =>
    obtain ⟨hstart, hstop, hrest⟩ := h
    have := ih hrest
    omega

/-- An edit changes nothing behind the bytes that end where it does. -/
theorem apply_append {edit : Edit} {before after : Bytes} (hstart : 0 ≤ edit.start)
    (hstop : edit.start ≤ edit.stop) (hlength : before.length = edit.stop.toNat) :
    edit.apply (before ++ after) =
      before.take edit.start.toNat ++ Utf8.encode edit.text ++ after := by
  have hstarts : offsetOf (before ++ after).length edit.start = edit.start.toNat := by
    rw [offsetOf, if_neg (by omega), List.length_append]
    omega
  have hstops : offsetOf (before ++ after).length edit.stop = edit.stop.toNat := by
    rw [offsetOf, if_neg (by omega), List.length_append]
    omega
  rw [apply, hstarts, hstops, List.drop_left' hlength,
    List.take_append_of_le_length (by omega)]

theorem take_append_slice (bytes : Bytes) {start stop : Nat} (h : start ≤ stop) :
    bytes.take start ++ bytes.slice start stop = bytes.take stop := by
  have hfront : (bytes.take stop).take start = bytes.take start := by
    rw [List.take_take, Nat.min_eq_left h]
  rw [Bytes.slice, ← hfront, List.take_append_drop]

/-- Edits that stand one behind the other from `position` on leave the bytes before it, and applied
from the last to the first they come out as if they were made at once. -/
theorem foldr_apply_eq (bytes : Bytes) {position : Int} {edits : List Edit}
    (hposition : 0 ≤ position) (h : FitsFrom bytes.length position edits) :
    edits.foldr (fun edit edited ↦ edit.apply edited) bytes =
      bytes.take position.toNat ++ replacedFrom bytes position.toNat edits := by
  induction edits generalizing position with
  | nil => exact (List.take_append_drop _ _).symm
  | cons edit edits ih =>
    obtain ⟨hstart, hstop, hrest⟩ := h
    have hinside := hrest.position_le
    have hlength : (bytes.take edit.stop.toNat).length = edit.stop.toNat := by
      rw [List.length_take]
      omega
    rw [List.foldr_cons, ih (by omega) hrest, apply_append (by omega) hstop hlength,
      List.take_take, Nat.min_eq_left (by omega), replacedFrom, ← List.append_assoc,
      ← List.append_assoc, take_append_slice bytes (by omega)]

/-! ### The order in which edits are applied -/

theorem comesFirst_iff {a b : Edit} :
    comesFirst a b = true ↔ b.start < a.start ∨ a.start = b.start ∧ b.stop ≤ a.stop := by
  simp [comesFirst]

/-- No edit of those that stand one behind the other starts before the first may. -/
theorem FitsFrom.position_le_start {length : Nat} {position : Int} {edits : List Edit}
    (h : FitsFrom length position edits) :
    ∀ edit ∈ edits, position ≤ edit.start ∧ edit.start ≤ edit.stop := by
  induction edits generalizing position with
  | nil => simp
  | cons first edits ih =>
    obtain ⟨hstart, hstop, hrest⟩ := h
    rw [List.forall_mem_cons]
    refine ⟨⟨hstart, hstop⟩, ?_⟩
    intro edit hedit
    have := ih hrest edit hedit
    omega

/-- Of edits that stand one behind the other, the later ones are applied first. -/
theorem FitsFrom.pairwise_comesFirst {length : Nat} {position : Int} {edits : List Edit}
    (h : FitsFrom length position edits) : edits.Pairwise fun a b ↦ comesFirst b a = true := by
  induction edits generalizing position with
  | nil => exact .nil
  | cons first edits ih =>
    obtain ⟨-, hstop, hrest⟩ := h
    refine .cons ?_ (ih hrest)
    intro edit hedit
    have hlater := hrest.position_le_start edit hedit
    rw [comesFirst_iff]
    omega

theorem pairwise_mergeSort_comesFirst (edits : List Edit) :
    (edits.mergeSort comesFirst).Pairwise fun a b ↦ comesFirst a b = true := by
  apply List.pairwise_mergeSort
  · intro a b c
    simp only [comesFirst_iff]
    omega
  · intro a b
    rw [Bool.or_eq_true, comesFirst_iff, comesFirst_iff]
    omega

theorem nodup_eraseDups {α : Type} [DecidableEq α] (as : List α) : as.eraseDups.Nodup := by
  match as with
  | [] => exact List.nodup_nil
  | a :: as =>
    rw [List.eraseDups_cons, List.nodup_cons]
    refine ⟨by simp, nodup_eraseDups _⟩
termination_by as.length
decreasing_by
  have := List.length_filter_le (fun b ↦ !b == a) as
  rw [List.length_cons]
  omega

/-- Edits at different places that stand one behind the other are applied from the last to the
first, in whatever order and however often they are given. -/
theorem mergeSort_eraseDups_eq_reverse {length : Nat} {position : Int} {given edits : List Edit}
    (hmem : ∀ edit, edit ∈ edits ↔ edit ∈ given)
    (hplaces : (edits.map fun edit ↦ (edit.start, edit.stop)).Nodup)
    (hfits : FitsFrom length position edits) :
    given.eraseDups.mergeSort comesFirst = edits.reverse := by
  have hperm : (given.eraseDups.mergeSort comesFirst).Perm edits.reverse := by
    have hdistinct : given.eraseDups.Perm edits := by
      rw [List.perm_ext_iff_of_nodup (nodup_eraseDups given) hplaces.of_map]
      intro edit
      rw [List.mem_eraseDups, hmem]
    exact (List.mergeSort_perm _ _).trans (hdistinct.trans edits.reverse_perm.symm)
  -- Edits that come first of each other have the same place, so they are the same.
  refine hperm.eq_of_pairwise ?_ (pairwise_mergeSort_comesFirst _)
    (List.pairwise_reverse.mpr hfits.pairwise_comesFirst)
  intro a b ha hb hab hba
  rw [comesFirst_iff] at hab hba
  have ha : a ∈ edits := by simpa using hperm.mem_iff.mp ha
  have hb : b ∈ edits := List.mem_reverse.mp hb
  refine List.inj_on_of_nodup_map hplaces ha hb ?_
  rw [Prod.mk.injEq]
  omega

/-- Edits at different places that stand one behind the other are made as if at once. -/
theorem applyAll_eq_replaced {bytes : Bytes} {given edits : List Edit}
    (hmem : ∀ edit, edit ∈ edits ↔ edit ∈ given)
    (hplaces : (edits.map fun edit ↦ (edit.start, edit.stop)).Nodup)
    (hfits : FitsFrom bytes.length 0 edits) :
    applyAll bytes given = replacedFrom bytes 0 edits := by
  rw [applyAll, mergeSort_eraseDups_eq_reverse hmem hplaces hfits, List.foldl_reverse]
  exact foldr_apply_eq bytes (Int.le_refl 0) hfits

end Edit

/-- **Fixes are made at once.** Let the distinct fixes of some diagnostics stand one behind
the other inside the source, each ending where the next one starts or before, and no two of them at
the same place. Applying them gives the texts of the fixes, and between them what stands in the
source between their ranges. So it does not matter in which order the diagnostics are given, how
often a fix is repeated, and which other diagnostics have none: all lists with the same fixes
give the same bytes. -/
theorem fixSource_eq_replaced {bytes : Bytes} {diagnostics : List Diagnostic} {edits : List Edit}
    (hmem : ∀ edit, edit ∈ edits ↔ ∃ d ∈ diagnostics, d.fix = some edit)
    (hplaces : (edits.map fun edit ↦ (edit.start, edit.stop)).Nodup)
    (hfits : Edit.FitsFrom bytes.length 0 edits) :
    fixSource bytes diagnostics = Edit.replacedFrom bytes 0 edits ∧
    ∀ others : List Diagnostic,
      (∀ edit, (∃ d ∈ others, d.fix = some edit) ↔ ∃ d ∈ diagnostics, d.fix = some edit) →
        fixSource bytes others = fixSource bytes diagnostics := by
  have hreplaced (given : List Diagnostic)
      (hgiven : ∀ edit, edit ∈ edits ↔ ∃ d ∈ given, d.fix = some edit) :
      fixSource bytes given = Edit.replacedFrom bytes 0 edits := by
    refine Edit.applyAll_eq_replaced ?_ hplaces hfits
    simpa only [List.mem_filterMap] using hgiven
  refine ⟨hreplaced diagnostics hmem, ?_⟩
  intro others hothers
  rw [hreplaced diagnostics hmem]
  exact hreplaced others fun edit ↦ (hmem edit).trans (hothers edit).symm

/-- A replacement with an insertion at each of its borders. -/
def touchingEdits : List Edit :=
  [⟨2, 2, "("⟩, ⟨2, 4, "xyz"⟩, ⟨4, 4, ")"⟩]

/-- Diagnostics with these fixes, out of order and with a repetition, and one without any. -/
def touchingDiagnostics : List Diagnostic :=
  [some ⟨2, 4, "xyz"⟩, some ⟨4, 4, ")"⟩, none, some ⟨2, 2, "("⟩, some ⟨2, 4, "xyz"⟩].map
    fun fix ↦ ⟨featureMessage "window", "window", .browserGlobal, 1, 1, none, fix⟩

/-- Insertions at the borders of a replacement enclose its text. -/
theorem fixSource_eq_replaced_touching :
    Edit.FitsFrom (Utf8.encode "abcdef").length 0 touchingEdits ∧
      fixSource (Utf8.encode "abcdef") touchingDiagnostics = Utf8.encode "ab(xyz)ef" := by
  have hmem (edit : Edit) :
      edit ∈ touchingEdits ↔ ∃ d ∈ touchingDiagnostics, d.fix = some edit := by
    have hall : ∀ e ∈ touchingEdits, e ∈ touchingDiagnostics.filterMap Diagnostic.fix := by decide
    have honly : ∀ e ∈ touchingDiagnostics.filterMap Diagnostic.fix, e ∈ touchingEdits := by decide
    rw [← List.mem_filterMap]
    exact ⟨hall edit, honly edit⟩
  have hfits : Edit.FitsFrom (Utf8.encode "abcdef").length 0 touchingEdits := by decide +kernel
  refine ⟨hfits, ?_⟩
  rw [(fixSource_eq_replaced hmem (by decide) hfits).1]
  decide +kernel

end ClientBoundary
