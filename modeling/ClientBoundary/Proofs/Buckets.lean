import ClientBoundary.Partition
import ClientBoundary.Proofs.Outcome
import Mathlib.Data.List.Perm.Basic

/-!
# The buckets of a partition

Partitioning adds one statement after the other to three buckets and stops at a second default
export. What comes out depends on the statements of each kind only: the buckets are the statements
of their kind in source order, and together they hold every statement once.

## Main definitions

* `CodeTree.isImport`, `CodeTree.isDefaultExport`, `CodeTree.isOther`: the bucket of a statement.
* `Partition.ofBuckets`: the partition with given buckets, refused at a second default export.
* `Partition.Sorts`: the buckets are the statements of their kind.

## Main results

* `Partition.ofStatements_eq`, `Partition.ofStatements_eq_ok_iff`: a partition in terms of the
  statements of each kind.
* `Partition.buckets_perm`: the buckets hold every statement once.
* `partitionModule_eq_ok_iff`, `exists_partitionModule`: the partition of a module.
-/

namespace ClientBoundary

namespace CodeTree

/-- Whether a statement is an import. -/
def isImport (s : CodeTree) : Bool :=
  s.label.kind == .importDeclaration

/-- Whether a statement is a default export. -/
def isDefaultExport (s : CodeTree) : Bool :=
  s.label.kind == .defaultExport

/-- Whether a statement is neither an import nor a default export. -/
def isOther (s : CodeTree) : Bool :=
  !s.isImport && !s.isDefaultExport

theorem isImport_iff {s : CodeTree} : s.isImport = true ↔ s.label.kind = .importDeclaration :=
  beq_iff_eq

theorem isDefaultExport_iff {s : CodeTree} :
    s.isDefaultExport = true ↔ s.label.kind = .defaultExport :=
  beq_iff_eq

theorem isOther_iff {s : CodeTree} :
    s.isOther = true ↔ s.isImport = false ∧ s.isDefaultExport = false := by
  simp [isOther]

theorem isImport_eq_false_of_isDefaultExport {s : CodeTree} (h : s.isDefaultExport = true) :
    s.isImport = false := by
  rw [isDefaultExport_iff] at h
  simp [isImport, h]

end CodeTree

namespace Partition

open CodeTree

/-- The partition with the given buckets, refused at a second default export. -/
def ofBuckets (imports other : List CodeTree) : List CodeTree → Except Failure Partition
  | [] => .ok ⟨imports, other, none⟩
  | [statement] => .ok ⟨imports, other, some statement⟩
  | _ :: second :: _ => .error (.secondDefaultExport (second.label.first.row + 1))

/-! ### Adding statements -/

theorem add_import (partition : Partition) {s : CodeTree} (h : s.isImport = true) :
    partition.add s = .ok { partition with imports := partition.imports ++ [s] } := by
  rw [isImport_iff] at h
  simp [add, h]

theorem add_other (partition : Partition) {s : CodeTree} (h : s.isOther = true) :
    partition.add s = .ok { partition with other := partition.other ++ [s] } := by
  rw [isOther_iff] at h
  unfold add
  split
  · rename_i hkind
    simp [isImport, hkind] at h
  · rename_i hkind
    simp [isDefaultExport, hkind] at h
  · rfl

theorem add_defaultExport (imports other : List CodeTree) (previous : Option CodeTree)
    {s : CodeTree} (h : s.isDefaultExport = true) :
    add ⟨imports, other, previous⟩ s = ofBuckets imports other (previous.toList ++ [s]) := by
  rw [isDefaultExport_iff] at h
  cases previous with
  | none => simp [add, h, ofBuckets]
  | some first => simp [add, h, ofBuckets]

/-- Adding statements puts those of each kind behind the bucket of their kind, and a second
default export stops it. -/
theorem foldlM_add (statements imports other : List CodeTree) (previous : Option CodeTree) :
    statements.foldlM add ⟨imports, other, previous⟩ =
      ofBuckets (imports ++ statements.filter isImport) (other ++ statements.filter isOther)
        (previous.toList ++ statements.filter isDefaultExport) := by
  induction statements generalizing imports other previous with
  | nil => cases previous <;> simp [ofBuckets, pure, Except.pure]
  | cons s statements ih =>
    rw [List.foldlM_cons]
    cases himport : s.isImport with
    | true =>
      have hexport : s.isDefaultExport = false := by
        by_contra h
        rw [Bool.not_eq_false] at h
        simp [isImport_eq_false_of_isDefaultExport h] at himport
      rw [add_import _ himport]
      change statements.foldlM add _ = _
      rw [ih]
      simp [himport, hexport, isOther]
    | false =>
      cases hexport : s.isDefaultExport with
      | false =>
        have hother : s.isOther = true := by simp [isOther, himport, hexport]
        rw [add_other _ hother]
        change statements.foldlM add _ = _
        rw [ih]
        simp [himport, hexport, hother]
      | true =>
        rw [add_defaultExport _ _ _ hexport]
        cases previous with
        | some first => simp [ofBuckets, hexport, bind, Except.bind]
        | none =>
          change statements.foldlM add _ = _
          rw [ih]
          simp [himport, hexport, isOther]

/-- The partition of a list of statements has the statements of each kind in its buckets, and a
second default export stops it. -/
theorem ofStatements_eq (statements : List CodeTree) :
    ofStatements statements =
      ofBuckets (statements.filter isImport) (statements.filter isOther)
        (statements.filter isDefaultExport) := by
  rw [ofStatements, empty, foldlM_add]
  simp

/-- The buckets of a partition are the statements of their kind in source order. -/
structure Sorts (partition : Partition) (statements : List CodeTree) : Prop where
  imports_eq : partition.imports = statements.filter isImport
  other_eq : partition.other = statements.filter isOther
  defaultExport_eq : partition.defaultExport.toList = statements.filter isDefaultExport

/-- The partition of a list of statements is the one whose buckets are the statements of their
kind. -/
theorem ofStatements_eq_ok_iff {statements : List CodeTree} {partition : Partition} :
    ofStatements statements = .ok partition ↔ partition.Sorts statements := by
  rw [ofStatements_eq]
  constructor
  · intro h
    match hexports : statements.filter isDefaultExport with
    | [] | [_] =>
      rw [hexports] at h
      obtain rfl := Except.ok.inj h
      exact ⟨rfl, rfl, hexports.symm⟩
    | _ :: _ :: _ =>
      rw [hexports] at h
      cases h
  · rintro ⟨himports, hother, hexport⟩
    rw [← himports, ← hother, ← hexport]
    obtain ⟨imports, other, defaultExport⟩ := partition
    cases defaultExport <;> rfl

/-- With at most one default export there is a partition, and it sorts the statements. -/
theorem exists_ofStatements {statements : List CodeTree}
    (h : statements.countP isDefaultExport ≤ 1) :
    ∃ partition, ofStatements statements = .ok partition ∧ partition.Sorts statements := by
  rw [List.countP_eq_length_filter] at h
  rw [ofStatements_eq]
  cases hexports : statements.filter isDefaultExport with
  | nil => exact ⟨_, rfl, rfl, rfl, hexports.symm⟩
  | cons first rest =>
    cases rest with
    | nil => exact ⟨_, rfl, rfl, rfl, hexports.symm⟩
    | cons second rest => simp [hexports] at h

/-- The buckets hold every statement once. -/
theorem buckets_perm (statements : List CodeTree) :
    (statements.filter isImport ++ statements.filter isOther ++
      statements.filter isDefaultExport).Perm statements := by
  have hrest : (statements.filter isOther ++ statements.filter isDefaultExport).Perm
      (statements.filter fun s ↦ !s.isImport) := by
    have h := List.filter_append_perm (fun s : CodeTree ↦ !s.isDefaultExport)
      (statements.filter fun s ↦ !s.isImport)
    simp only [List.filter_filter, Bool.not_not] at h
    convert h using 3
    · funext s
      rw [isOther, Bool.and_comm]
    · funext s
      cases hs : s.isDefaultExport with
      | false => rfl
      | true => simp [isImport_eq_false_of_isDefaultExport hs]
  rw [List.append_assoc]
  exact (hrest.append_left _).trans (List.filter_append_perm isImport statements)

/-- The buckets of a partition that sorts the statements hold every one of them once. -/
theorem Sorts.perm {partition : Partition} {statements : List CodeTree}
    (h : partition.Sorts statements) :
    (partition.imports ++ partition.other ++ partition.defaultExport.toList).Perm statements := by
  rw [h.imports_eq, h.other_eq, h.defaultExport_eq]
  exact buckets_perm statements

end Partition

/-! ### The partition of a module -/

theorem partitionModule_eq_ok_iff {isTainted : CodeTree → Bool} {program : CodeTree}
    {partition : Partition} {tainted : Bool} :
    partitionModule isTainted program = .ok (partition, tainted) ↔
      Partition.ofStatements program.statements = .ok partition ∧
        tainted = program.statements.any fun s ↦
          s.label.kind != .importDeclaration && isTainted s := by
  simp only [partitionModule, bind_eq_ok_iff, pure_eq_ok_iff, Prod.mk.injEq]
  constructor
  · rintro ⟨_, hpartition, rfl, rfl⟩
    exact ⟨hpartition, rfl⟩
  · rintro ⟨hpartition, rfl⟩
    exact ⟨partition, hpartition, rfl, rfl⟩

/-- A module with at most one default export has a partition, whatever is tainted. -/
theorem exists_partitionModule (isTainted : CodeTree → Bool) {program : CodeTree}
    (h : program.statements.countP CodeTree.isDefaultExport ≤ 1) :
    ∃ partition tainted, partitionModule isTainted program = .ok (partition, tainted) ∧
      partition.Sorts program.statements := by
  obtain ⟨partition, hpartition, hsorts⟩ := Partition.exists_ofStatements h
  exact ⟨partition, _, partitionModule_eq_ok_iff.mpr ⟨hpartition, rfl⟩, hsorts⟩

end ClientBoundary
