import ClientBoundary.Proofs.LintAgreement
import ClientBoundary.Proofs.Traversal
import Mathlib.Data.List.Flatten

/-!
# The tainted nodes of a module

A classification keeps the ordinals of the tainted nodes as they come out of the searches of the
statements, and the features as the searches meet them. In a tree with distinct ordinals this says
of every node, and not only of statements, whether it is tainted: a feature stands at or below it
and it is no part of an import. Taint rises from a node to everything above it, up to the root.

## Main definitions

* `CodeTree.IsCodeStatement`: a statement of a module that is no import.
* `Feature.ListsNames`: the distinct names of the features of one kind, in increasing order.

## Main results

* `id_mem_tainted_iff`: which nodes are tainted.
* `id_mem_tainted_of_below`: taint rises.
* `nodup_tainted`: no ordinal is listed twice.
* `classify_exact`: the classification of a module.
-/

namespace ClientBoundary

open Text ClientBoundary.Tree

/-- A statement of a module that is no import: a named child of the root that is neither a comment
nor an import. -/
def CodeTree.IsCodeStatement (program s : CodeTree) : Prop :=
  s ∈ program.children ∧ s.label.named = true ∧ s.label.kind ≠ .comment ∧
    s.label.kind ≠ .importDeclaration

/-- The names are the distinct names of the features of one kind, in increasing order. -/
def Feature.ListsNames (kind : FeatureKind) (features : List Feature) (names : List String) :
    Prop :=
  names.Pairwise (· < ·) ∧
    ∀ name, name ∈ names ↔ ∃ feature ∈ features, feature.kind = kind ∧ feature.name = name

theorem CodeTree.isCodeStatement_iff {program s : CodeTree} :
    program.IsCodeStatement s ↔ s ∈ program.statements ∧ s.label.kind ≠ .importDeclaration := by
  rw [IsCodeStatement, mem_statements_iff, and_assoc, and_assoc]

theorem Feature.listsNames_namesOfKind (kind : FeatureKind) (features : List Feature) :
    Feature.ListsNames kind features (namesOfKind kind features) :=
  ⟨pairwise_sortedDistinct _, fun _ ↦ mem_namesOfKind_iff⟩

section Taint

variable {program s u v : CodeTree} {path : Option String}

/-! ### Tainted nodes -/

/-- A node of a statement that is no import is tainted if a feature stands at or below it. -/
theorem id_mem_tainted_of_feature (hs : program.IsCodeStatement s) (hu : u ∈ s.subtrees)
    (hfeature : ∃ v ∈ u.subtrees, Feature.detect v ≠ none) :
    u.label.id ∈ (classify program path).tainted := by
  obtain ⟨hs, hkind⟩ := CodeTree.isCodeStatement_iff.mp hs
  exact mem_tainted_iff.mpr
    (Or.inl ⟨s, hs, hkind, u, hu, holdsWithin_isAt_iff.mpr hfeature, rfl⟩)

/-- A tainted ordinal is that of a node with a feature in a statement that is no import, or that of
the root of a module that has such a statement. -/
theorem exists_of_mem_tainted {n : Nat} (h : n ∈ (classify program path).tainted) :
    ∃ s, program.IsCodeStatement s ∧ (∃ t ∈ s.subtrees, Feature.detect t ≠ none) ∧
      ((∃ u ∈ s.subtrees, (∃ v ∈ u.subtrees, Feature.detect v ≠ none) ∧ u.label.id = n) ∨
        n = program.label.id) := by
  rcases mem_tainted_iff.mp h with ⟨s, hs, hkind, u, hu, hholds, hid⟩ | ⟨⟨s, hs, hclient⟩, hroot⟩
  · obtain ⟨v, hv, hfeature⟩ := holdsWithin_isAt_iff.mp hholds
    exact ⟨s, CodeTree.isCodeStatement_iff.mpr ⟨hs, hkind⟩, ⟨v, mem_subtrees_trans hu hv, hfeature⟩,
      Or.inl ⟨u, hu, ⟨v, hv, hfeature⟩, hid⟩⟩
  · exact ⟨s, CodeTree.isCodeStatement_iff.mpr ⟨hs, hclient.1⟩, hclient.2, Or.inr hroot⟩

/-- The root is tainted if a statement that is no import has a feature at or below it. -/
theorem root_id_mem_tainted (hs : program.IsCodeStatement s)
    (hfeature : ∃ v ∈ s.subtrees, Feature.detect v ≠ none) :
    program.label.id ∈ (classify program path).tainted := by
  obtain ⟨hs, hkind⟩ := CodeTree.isCodeStatement_iff.mp hs
  exact mem_tainted_iff.mpr (Or.inr ⟨⟨s, hs, hkind, hfeature⟩, rfl⟩)

/-- In a tree with distinct ordinals a node is tainted exactly when it stands in a statement that is
no import and has a feature at or below it, or is the root and such a statement is tainted. -/
theorem id_mem_tainted_iff (hids : program.HasDistinctIds) (hu : u ∈ program.subtrees) :
    u.label.id ∈ (classify program path).tainted ↔
      (∃ s, program.IsCodeStatement s ∧ u ∈ s.subtrees ∧
        ∃ v ∈ u.subtrees, Feature.detect v ≠ none) ∨
      (u = program ∧ ∃ s, program.IsCodeStatement s ∧
        s.label.id ∈ (classify program path).tainted) := by
  constructor
  · intro h
    obtain ⟨s, hs, hfeature, ⟨w, hw, hbelow, hid⟩ | hroot⟩ := exists_of_mem_tainted h
    · have hmem : w ∈ program.subtrees := mem_subtrees_of_mem_children hs.1 hw
      obtain rfl : w = u := hids.eq_of_id_eq hmem hu hid
      exact Or.inl ⟨s, hs, hw, hbelow⟩
    · have hself : u = program := hids.eq_of_id_eq hu program.self_mem_subtrees hroot
      exact Or.inr ⟨hself, s, hs, id_mem_tainted_of_feature hs s.self_mem_subtrees hfeature⟩
  · rintro (⟨s, hs, hu, hfeature⟩ | ⟨rfl, s, hs, hs'⟩)
    · exact id_mem_tainted_of_feature hs hu hfeature
    · obtain ⟨t, ht, hfeature, -⟩ := exists_of_mem_tainted hs'
      exact root_id_mem_tainted ht hfeature

/-- Taint rises to every node above. -/
theorem id_mem_tainted_of_below (hids : program.HasDistinctIds) (hu : u ∈ program.subtrees)
    (hv : v ∈ u.subtrees) (h : v.label.id ∈ (classify program path).tainted) :
    u.label.id ∈ (classify program path).tainted := by
  obtain ⟨s, hs, hfeature, hplace⟩ := exists_of_mem_tainted h
  rcases mem_subtrees_iff.mp hu with rfl | ⟨s', hs', hu'⟩
  · exact root_id_mem_tainted hs hfeature
  · have hv' : v ∈ s'.subtrees := mem_subtrees_trans hu' hv
    rcases hplace with ⟨w, hw, ⟨x, hx, hdetect⟩, hid⟩ | hroot
    · -- Both `w` and `v` carry the ordinal, so they are one node and stand below one child.
      obtain rfl : s = s' := hids.child_eq hs.1 hs' hw hv' hid
      obtain rfl : w = v := hids.eq_of_id_eq (mem_subtrees_of_mem_children hs' hw)
        (mem_subtrees_of_mem_children hs' hv') hid
      exact id_mem_tainted_of_feature hs hu' ⟨x, mem_subtrees_trans hv hx, hdetect⟩
    · exact absurd hroot.symm (hids.root_id_ne hs' hv')

/-- No node of an import is tainted. -/
theorem id_notMem_tainted_of_import (hids : program.HasDistinctIds) (hs : s ∈ program.children)
    (hkind : s.label.kind = .importDeclaration) (hu : u ∈ s.subtrees) :
    u.label.id ∉ (classify program path).tainted := by
  intro h
  obtain ⟨s', hs', -, ⟨w, hw, -, hid⟩ | hroot⟩ := exists_of_mem_tainted h
  · obtain rfl : s' = s := hids.child_eq hs'.1 hs hw hu hid
    exact hs'.2.2.2 hkind
  · exact hids.root_id_ne hs hu hroot.symm

/-- Every tainted ordinal is that of a node. -/
theorem exists_node_of_mem_tainted {n : Nat} (h : n ∈ (classify program path).tainted) :
    ∃ u ∈ program.subtrees, u.label.id = n := by
  obtain ⟨s, hs, -, ⟨u, hu, -, hid⟩ | hroot⟩ := exists_of_mem_tainted h
  · exact ⟨u, mem_subtrees_of_mem_children hs.1 hu, hid⟩
  · exact ⟨program, program.self_mem_subtrees, hroot.symm⟩

/-! ### Each ordinal once -/

theorem statementTaint_sublist (s : CodeTree) : (statementTaint s).Sublist s.postorder := by
  unfold statementTaint
  split_ifs
  · exact List.nil_sublist _
  · rw [search_eq]
    exact List.filter_sublist

/-- In a tree with distinct ordinals no ordinal is listed twice as tainted. -/
theorem nodup_tainted (hids : program.HasDistinctIds) :
    (classify program path).tainted.Nodup := by
  have hbelow : (program.children.flatMap CodeTree.ids).Nodup := by
    obtain ⟨n, ts⟩ := program
    rw [CodeTree.HasDistinctIds, CodeTree.ids_node] at hids
    exact (List.nodup_cons.mp hids).2
  have hpost : ((program.children.flatMap postorder).map fun t ↦ t.label.id).Nodup := by
    have hperm : (program.children.flatMap postorder).Perm (program.children.flatMap subtrees) :=
      .flatMap_left _ fun s _ ↦ s.postorder_perm_subtrees
    rw [(hperm.map _).nodup_iff, List.map_flatMap]
    exact hbelow
  have hsublist : (program.statements.flatMap statementTaint).Sublist
      (program.children.flatMap postorder) :=
    (List.Sublist.flatMap_right _ fun s _ ↦ statementTaint_sublist s).trans
      (List.filter_sublist.flatMap postorder)
  have hnodes : ((program.statements.flatMap statementTaint).map fun t ↦ t.label.id).Nodup :=
    (hsublist.map _).nodup hpost
  have hroot : program.label.id ∉
      (program.statements.flatMap statementTaint).map fun t ↦ t.label.id := by
    intro hmem
    obtain ⟨t, ht, hid⟩ := List.mem_map.mp hmem
    obtain ⟨s, hs, ht⟩ := List.mem_flatMap.mp (hsublist.subset ht)
    exact hids.root_id_ne hs (mem_postorder_iff.mp ht) hid.symm
  simp only [classify]
  split_ifs
  · rw [List.nodup_append']
    exact ⟨hnodes, List.nodup_singleton _, List.disjoint_singleton.mpr hroot⟩
  · exact hnodes

/-! ### The classification -/

/-- **A classification is exact.** In a tree with distinct ordinals a node is tainted exactly when
it stands in a statement that is no import and a feature stands at or below it, or when it is the
root and such a statement is tainted. The tainted ordinals are those of nodes, none twice; with a
node every node above it is tainted, and no node of an import is. The features are those that the
nodes of the statements introduce, imports included, in pre-order, and the report gives the distinct
names of each kind in increasing order. -/
theorem classify_exact (path : Option String) (hids : program.HasDistinctIds) :
    (∀ u ∈ program.subtrees, u.label.id ∈ (classify program path).tainted ↔
      (∃ s, program.IsCodeStatement s ∧ u ∈ s.subtrees ∧
        ∃ v ∈ u.subtrees, Feature.detect v ≠ none) ∨
      (u = program ∧ ∃ s, program.IsCodeStatement s ∧
        s.label.id ∈ (classify program path).tainted)) ∧
    (∀ n ∈ (classify program path).tainted, ∃ u ∈ program.subtrees, u.label.id = n) ∧
    (classify program path).tainted.Nodup ∧
    (∀ u ∈ program.subtrees, ∀ v ∈ u.subtrees,
      v.label.id ∈ (classify program path).tainted →
        u.label.id ∈ (classify program path).tainted) ∧
    (∀ s ∈ program.children, s.label.kind = .importDeclaration → ∀ u ∈ s.subtrees,
      u.label.id ∉ (classify program path).tainted) ∧
    (classify program path).features =
      ((program.children.filter fun s ↦ s.label.named && s.label.kind != .comment).flatMap
        subtrees).filterMap Feature.detect ∧
    Feature.ListsNames .hook (classify program path).features
      (classify program path).analysis.hooks ∧
    Feature.ListsNames .browserGlobal (classify program path).features
      (classify program path).analysis.browserGlobals ∧
    Feature.ListsNames .eventHandler (classify program path).features
      (classify program path).analysis.eventHandlers := by
  refine ⟨fun u hu ↦ id_mem_tainted_iff hids hu, fun n hn ↦ exists_node_of_mem_tainted hn,
    nodup_tainted hids, fun u hu v hv h ↦ id_mem_tainted_of_below hids hu hv h,
    fun s hs hkind u hu ↦ id_notMem_tainted_of_import hids hs hkind hu,
    features_classify program path, ?_, ?_, ?_⟩
  · exact Feature.listsNames_namesOfKind .hook _
  · exact Feature.listsNames_namesOfKind .browserGlobal _
  · exact Feature.listsNames_namesOfKind .eventHandler _

end Taint

/-- Of a global that is imported and one that is mentioned twice, the two mentions are tainted with
what stands above them, the import is not, and both names are reported. -/
theorem classify_exact_globals :
    ∃ program,
      CodeTree.ofSource (OneLine.parser globalsLine) .tsx (OneLine.source globalsLine) =
        .ok program ∧
      program.HasDistinctIds ∧ (classify program none).tainted = [16, 15, 19, 18, 0] ∧
      (classify program none).features.map Feature.name = ["window", "alert", "alert"] ∧
      Feature.ListsNames .browserGlobal (classify program none).features ["alert", "window"] ∧
      ∃ s ∈ program.children, s.label.kind = .importDeclaration ∧
        (∃ u ∈ s.subtrees, Feature.detect u ≠ none) ∧
        ∀ u ∈ s.subtrees, u.label.id ∉ (classify program none).tainted := by
  obtain ⟨program, hprogram, hvalues⟩ := exists_ok_of_toOption
    (x := CodeTree.ofSource (OneLine.parser globalsLine) .tsx (OneLine.source globalsLine))
    (f := fun program ↦
      ((classify program none).tainted, (classify program none).features.map Feature.name,
        (classify program none).analysis.browserGlobals,
        program.children.any fun s ↦ s.label.kind == .importDeclaration &&
          s.holdsWithin Feature.isAt))
    (b := ([16, 15, 19, 18, 0], ["window", "alert", "alert"], ["alert", "window"], true))
    (by decide +kernel)
  simp only [Prod.mk.injEq, List.any_eq_true, Bool.and_eq_true, beq_iff_eq,
    holdsWithin_isAt_iff] at hvalues
  obtain ⟨htainted, hnames, hglobals, s, hs, hkind, hfeature⟩ := hvalues
  have hids := CodeTree.hasDistinctIds_of_ofSource hprogram
  obtain ⟨-, -, -, -, himport, -, -, hlists, -⟩ := classify_exact none hids
  exact ⟨program, hprogram, hids, htainted, hnames, hglobals ▸ hlists, s, hs, hkind, hfeature,
    himport s hs hkind⟩

end ClientBoundary
