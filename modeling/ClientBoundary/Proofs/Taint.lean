import ClientBoundary.Classification
import ClientBoundary.Proofs.Numbering

/-!
# What a module's taint says

The classification of a module keeps the ordinals of its tainted nodes. In a tree with distinct
ordinals, asking whether the ordinal of a statement is among them comes down to asking whether a
feature stands at or below the statement, the question that the search of the statement answered.

## Main definitions

* `CodeTree.IsClientStatement`: a statement that is no import and has a feature at or below it.

## Main results

* `mem_tainted_iff`: the ordinals that a classification calls tainted.
* `isTainted_iff`: the taint of a statement in a tree with distinct ordinals.
-/

namespace ClientBoundary

open ClientBoundary.Tree

theorem CodeTree.mem_statements_iff {program s : CodeTree} :
    s ∈ program.statements ↔
      s ∈ program.children ∧ s.label.named = true ∧ s.label.kind ≠ .comment := by
  simp [statements]

/-- A statement that makes its module client code: it is no import, and a feature stands at it or
below it. -/
def CodeTree.IsClientStatement (s : CodeTree) : Prop :=
  s.label.kind ≠ .importDeclaration ∧ ∃ t ∈ s.subtrees, Feature.detect t ≠ none

theorem holdsWithin_isAt_iff {t : CodeTree} :
    t.holdsWithin Feature.isAt = true ↔ ∃ u ∈ t.subtrees, Feature.detect u ≠ none := by
  simp only [holdsWithin_iff, Feature.isAt, Option.isSome_iff_ne_none]

theorem taintsModule_iff {s : CodeTree} : taintsModule s = true ↔ s.IsClientStatement := by
  rw [taintsModule, Bool.and_eq_true, search_holds, holdsWithin_isAt_iff, bne_iff_ne,
    CodeTree.IsClientStatement]

theorem mem_statementTaint_iff {s u : CodeTree} :
    u ∈ statementTaint s ↔
      s.label.kind ≠ .importDeclaration ∧ u ∈ s.subtrees ∧ u.holdsWithin Feature.isAt = true := by
  unfold statementTaint
  split_ifs with hkind
  · simp [hkind]
  · rw [mem_search_matched]
    exact (and_iff_right hkind).symm

/-- The tainted ordinals: those of the nodes with a feature at or below them in the statements that
are no imports, and that of the root if there is such a node. -/
theorem mem_tainted_iff {program : CodeTree} {path : Option String} {n : Nat} :
    n ∈ (classify program path).tainted ↔
      (∃ s ∈ program.statements, s.label.kind ≠ .importDeclaration ∧
        ∃ u ∈ s.subtrees, u.holdsWithin Feature.isAt = true ∧ u.label.id = n) ∨
      (∃ s ∈ program.statements, s.IsClientStatement) ∧ n = program.label.id := by
  have hnodes : n ∈ (program.statements.flatMap statementTaint).map (fun t ↦ t.label.id) ↔
      ∃ s ∈ program.statements, s.label.kind ≠ .importDeclaration ∧
        ∃ u ∈ s.subtrees, u.holdsWithin Feature.isAt = true ∧ u.label.id = n := by
    simp only [List.mem_map, List.mem_flatMap, mem_statementTaint_iff]
    constructor
    · rintro ⟨u, ⟨s, hs, hkind, hu, hholds⟩, hid⟩
      exact ⟨s, hs, hkind, u, hu, hholds, hid⟩
    · rintro ⟨s, hs, hkind, u, hu, hholds, hid⟩
      exact ⟨u, ⟨s, hs, hkind, hu, hholds⟩, hid⟩
  have hmodule : program.statements.any taintsModule = true ↔
      ∃ s ∈ program.statements, s.IsClientStatement := by
    simp only [List.any_eq_true, taintsModule_iff]
  simp only [classify]
  split_ifs with h
  · rw [List.mem_append, hnodes, List.mem_singleton, and_iff_right (hmodule.mp h)]
  · rw [hnodes, or_iff_left fun hroot ↦ h (hmodule.mpr hroot.1)]

/-- In a tree with distinct ordinals a statement that is no import is tainted exactly when a
feature stands at it or below it. -/
theorem isTainted_iff {program s : CodeTree} {path : Option String}
    (hids : program.HasDistinctIds) (hs : s ∈ program.statements)
    (hkind : s.label.kind ≠ .importDeclaration) :
    (classify program path).isTainted s = true ↔ s.IsClientStatement := by
  rw [Classification.isTainted, List.contains_iff_mem, mem_tainted_iff]
  have hchild := (CodeTree.mem_statements_iff.mp hs).1
  constructor
  · rintro (⟨s', hs', -, u, hu, hholds, hid⟩ | ⟨-, hroot⟩)
    · -- The node found under the ordinal of `s` can only be `s` itself.
      have hchild' := (CodeTree.mem_statements_iff.mp hs').1
      have hsame : u = s := hids.eq_of_id_eq (mem_subtrees_of_mem_children hchild' hu)
        (mem_subtrees_of_mem_children hchild s.self_mem_subtrees) hid
      subst hsame
      exact ⟨hkind, holdsWithin_isAt_iff.mp hholds⟩
    · exact absurd hroot.symm (hids.root_id_ne hchild s.self_mem_subtrees)
  · rintro ⟨-, hfeature⟩
    exact Or.inl ⟨s, hs, hkind, s, s.self_mem_subtrees, holdsWithin_isAt_iff.mpr hfeature, rfl⟩

end ClientBoundary
