import ClientBoundary.Proofs.Buckets
import Mathlib.Data.List.Infix

/-!
# Partitioning a module

A module is partitioned in one pass over its statements, which fills the buckets, stops at a second
default export and asks about each statement that is no import whether it is tainted. Nothing is
lost, repeated or moved by it: the buckets are what the statements of each kind are, in source
order, and the failure is about the second default export. Imports are passed over before anything
is asked. To say so, the pass is written for questions that may do more than be answered, and run
with questions that are written down.

## Main definitions

* `Partition.askAll`: the pass over the statements, with questions that may have effects.
* `recordQuestion`: a question that is written down before it is answered.

## Main results

* `filter_isDefaultExport_eq_iff`: the first two default exports among some statements.
* `Partition.run_askAll`: the pass finds the partition and asks about no import.
* `partitionModule_complete`: the partition of a module, or its failure.
-/

namespace ClientBoundary

open CodeTree

/-! ### The second default export -/

/-- Two default exports are the first two of some statements if no other one stands in front of
either. -/
theorem filter_isDefaultExport_eq_iff {statements : List CodeTree} {first second : CodeTree} :
    (∃ rest, statements.filter isDefaultExport = first :: second :: rest) ↔
      ∃ before between after, statements = before ++ first :: (between ++ second :: after) ∧
        first.label.kind = .defaultExport ∧ second.label.kind = .defaultExport ∧
        ∀ s ∈ before ++ between, s.label.kind ≠ .defaultExport := by
  simp only [List.filter_eq_cons_iff, isDefaultExport_iff, List.forall_mem_append]
  constructor
  · rintro ⟨rest, before, -, rfl, hbefore, hfirst, between, after, rfl, hbetween, hsecond, -⟩
    exact ⟨before, between, after, rfl, hfirst, hsecond, hbefore, hbetween⟩
  · rintro ⟨before, between, after, rfl, hfirst, hsecond, hbefore, hbetween⟩
    exact ⟨_, before, _, rfl, hbefore, hfirst, between, after, rfl, hbetween, hsecond, rfl⟩

/-- Statements have no partition exactly when there is a second default export. -/
theorem Partition.ofStatements_eq_error_iff {statements : List CodeTree} {failure : Failure} :
    ofStatements statements = .error failure ↔
      ∃ first second, (∃ rest, statements.filter isDefaultExport = first :: second :: rest) ∧
        failure = .secondDefaultExport (second.label.first.row + 1) := by
  rw [ofStatements_eq]
  match statements.filter isDefaultExport with
  | [] => simp [ofBuckets]
  | [_] => simp [ofBuckets]
  | first :: second :: rest => simp [ofBuckets, eq_comm]

theorem partitionModule_eq_map (isTainted : CodeTree → Bool) (program : CodeTree) :
    partitionModule isTainted program =
      (Partition.ofStatements program.statements).map fun partition ↦
        (partition, program.statements.any fun s ↦ !s.isImport && isTainted s) := by
  rw [partitionModule]
  cases Partition.ofStatements program.statements <;> rfl

theorem partitionModule_eq_error_iff {isTainted : CodeTree → Bool} {program : CodeTree}
    {failure : Failure} :
    partitionModule isTainted program = .error failure ↔
      ∃ first second,
        (∃ rest, program.statements.filter isDefaultExport = first :: second :: rest) ∧
          failure = .secondDefaultExport (second.label.first.row + 1) := by
  rw [partitionModule_eq_map, ← Partition.ofStatements_eq_error_iff]
  cases Partition.ofStatements program.statements <;> simp [Except.map]

/-! ### Questions -/

/-- Puts statements into their buckets one after the other, and asks about each that is no import
whether it is tainted. -/
def Partition.askAll {m : Type → Type} [Monad m] (ask : CodeTree → m Bool) (partition : Partition)
    (tainted : Bool) : List CodeTree → m (Except Failure (Partition × Bool))
  | [] => pure (.ok (partition, tainted))
  | s :: statements =>
    match partition.add s with
    | .error failure => pure (.error failure)
    | .ok extended =>
      if s.isImport then askAll ask extended tainted statements
      else do
        let answer ← ask s
        askAll ask extended (tainted || answer) statements

/-- Writes down which statement is asked about, and answers. -/
def recordQuestion (isTainted : CodeTree → Bool) (s : CodeTree) : StateM (List CodeTree) Bool := do
  modify (· ++ [s])
  return isTainted s

namespace Partition

section Pass

variable (isTainted : CodeTree → Bool) {partition extended : Partition} {s : CodeTree}
  (tainted : Bool) (statements log : List CodeTree)

theorem run_askAll_nil (partition : Partition) :
    (askAll (recordQuestion isTainted) partition tainted []).run log =
      (.ok (partition, tainted), log) := rfl

theorem run_askAll_cons_error {failure : Failure} (h : partition.add s = .error failure) :
    (askAll (recordQuestion isTainted) partition tainted (s :: statements)).run log =
      (.error failure, log) := by
  rw [askAll, h]
  rfl

/-- An import is put into its bucket and nothing is asked. -/
theorem run_askAll_cons_import (h : partition.add s = .ok extended) (himport : s.isImport = true) :
    (askAll (recordQuestion isTainted) partition tainted (s :: statements)).run log =
      (askAll (recordQuestion isTainted) extended tainted statements).run log := by
  rw [askAll, h]
  simp only [himport, if_true]

/-- A statement that is no import is put into its bucket and asked about. -/
theorem run_askAll_cons_code (h : partition.add s = .ok extended) (himport : s.isImport = false) :
    (askAll (recordQuestion isTainted) partition tainted (s :: statements)).run log =
      (askAll (recordQuestion isTainted) extended (tainted || isTainted s) statements).run
        (log ++ [s]) := by
  rw [askAll, h]
  simp only [himport, Bool.false_eq_true, if_false]
  rfl

end Pass

/-- The pass finds the partition that adding the statements gives, and whether one of those that are
no imports is tainted. It asks about the statements that are no imports, in source order, up to a
second default export. -/
theorem run_askAll (isTainted : CodeTree → Bool) (statements : List CodeTree)
    (partition : Partition) (tainted : Bool) (log : List CodeTree) :
    ∃ asked, asked <+: statements.filter (!·.isImport) ∧
      (askAll (recordQuestion isTainted) partition tainted statements).run log =
        ((statements.foldlM add partition).map fun sorted ↦
          (sorted, tainted || statements.any fun s ↦ !s.isImport && isTainted s), log ++ asked) ∧
      ∀ sorted, statements.foldlM add partition = .ok sorted →
        asked = statements.filter (!·.isImport) := by
  induction statements generalizing partition tainted log with
  | nil =>
    refine ⟨[], List.nil_prefix, ?_, fun _ _ ↦ rfl⟩
    rw [run_askAll_nil, List.foldlM_nil, List.any_nil, Bool.or_false, List.append_nil]
    rfl
  | cons s statements ih =>
    rw [List.foldlM_cons]
    cases hadd : partition.add s with
    | error failure =>
      refine ⟨[], List.nil_prefix, ?_, ?_⟩
      · rw [run_askAll_cons_error isTainted tainted statements log hadd, List.append_nil]
        rfl
      · intro sorted hsorted
        cases hsorted
    | ok extended =>
      have hrest : (Except.ok extended >>= fun p ↦ statements.foldlM add p) =
          statements.foldlM add extended := rfl
      rw [hrest]
      cases himport : s.isImport with
      | true =>
        obtain ⟨asked, hasked, hrun, hall⟩ := ih extended tainted log
        refine ⟨asked, by simpa [himport] using hasked, ?_, by simpa [himport] using hall⟩
        rw [run_askAll_cons_import isTainted tainted statements log hadd himport, hrun]
        simp [himport]
      | false =>
        obtain ⟨asked, hasked, hrun, hall⟩ := ih extended (tainted || isTainted s) (log ++ [s])
        refine ⟨s :: asked, by simpa [himport] using hasked, ?_, by simpa [himport] using hall⟩
        rw [run_askAll_cons_code isTainted tainted statements log hadd himport, hrun]
        simp [himport, Bool.or_assoc]

end Partition

/-! ### The partition of a module -/

theorem two_le_countP_isDefaultExport_iff {statements : List CodeTree} :
    2 ≤ statements.countP isDefaultExport ↔
      ∃ first second, ∃ rest, statements.filter isDefaultExport = first :: second :: rest := by
  rw [List.countP_eq_length_filter]
  match statements.filter isDefaultExport with
  | [] => simp
  | [_] => simp
  | first :: second :: rest => simp

/-- A statement that is no import is tainted exactly when one in the buckets for code is. -/
theorem Partition.Sorts.any_isTainted_iff {partition : Partition} {statements : List CodeTree}
    (h : partition.Sorts statements) (isTainted : CodeTree → Bool) :
    (statements.any fun s ↦ !s.isImport && isTainted s) = true ↔
      ∃ s, (s ∈ partition.other ∨ partition.defaultExport = some s) ∧ isTainted s = true := by
  have hcode (s : CodeTree) : (s ∈ partition.other ∨ partition.defaultExport = some s) ↔
      s ∈ statements ∧ s.isImport = false := by
    rw [← Option.mem_toList, h.other_eq, h.defaultExport_eq, List.mem_filter, List.mem_filter,
      isOther_iff]
    cases hexport : s.isDefaultExport with
    | true => simp [isImport_eq_false_of_isDefaultExport hexport]
    | false => simp
  simp only [hcode, List.any_eq_true, Bool.and_eq_true, Bool.not_eq_true', and_assoc]

/-- **A partition is complete.** Partitioning a module fails exactly when it has two default exports
or more, and then names the line of the second one, counted from one. Otherwise the imports and the
other statements are those of their kind in source order and the default export is the only one
there is, or none; the buckets hold every statement once, and the module is tainted exactly when one
of the other statements or the default export is. No import is ever asked about, and every other
statement once in source order unless a second default export stops the pass. -/
theorem partitionModule_complete (isTainted : CodeTree → Bool) (program : CodeTree) :
    (∀ failure, partitionModule isTainted program = .error failure ↔
      ∃ before first between second after,
        program.statements = before ++ first :: (between ++ second :: after) ∧
        first.label.kind = .defaultExport ∧ second.label.kind = .defaultExport ∧
        (∀ s ∈ before ++ between, s.label.kind ≠ .defaultExport) ∧
        failure = .secondDefaultExport (second.label.first.row + 1)) ∧
    ((∃ failure, partitionModule isTainted program = .error failure) ↔
      2 ≤ program.statements.countP isDefaultExport) ∧
    (∀ partition tainted, partitionModule isTainted program = .ok (partition, tainted) ↔
      partition.Sorts program.statements ∧
      (partition.imports ++ partition.other ++ partition.defaultExport.toList).Perm
        program.statements ∧
      (tainted = true ↔
        ∃ s, (s ∈ partition.other ∨ partition.defaultExport = some s) ∧ isTainted s = true)) ∧
    ∃ asked,
      (Partition.empty.askAll (recordQuestion isTainted) false program.statements).run [] =
        (partitionModule isTainted program, asked) ∧
      asked <+: program.statements.filter (fun s ↦ s.label.kind != .importDeclaration) ∧
      ∀ result, partitionModule isTainted program = .ok result →
        asked = program.statements.filter fun s ↦ s.label.kind != .importDeclaration := by
  refine ⟨fun failure ↦ ?_, ?_, fun partition tainted ↦ ?_, ?_⟩
  · rw [partitionModule_eq_error_iff]
    constructor
    · rintro ⟨first, second, hexports, rfl⟩
      obtain ⟨before, between, after, hstatements, hfirst, hsecond, hnone⟩ :=
        filter_isDefaultExport_eq_iff.mp hexports
      exact ⟨before, first, between, second, after, hstatements, hfirst, hsecond, hnone, rfl⟩
    · rintro ⟨before, first, between, second, after, hstatements, hfirst, hsecond, hnone, rfl⟩
      exact ⟨first, second, filter_isDefaultExport_eq_iff.mpr
        ⟨before, between, after, hstatements, hfirst, hsecond, hnone⟩, rfl⟩
  · simp only [partitionModule_eq_error_iff, two_le_countP_isDefaultExport_iff]
    constructor
    · rintro ⟨-, first, second, hexports, -⟩
      exact ⟨first, second, hexports⟩
    · rintro ⟨first, second, hexports⟩
      exact ⟨_, first, second, hexports, rfl⟩
  · rw [partitionModule_eq_ok_iff, Partition.ofStatements_eq_ok_iff]
    constructor
    · rintro ⟨hsorts, rfl⟩
      exact ⟨hsorts, hsorts.perm, hsorts.any_isTainted_iff isTainted⟩
    · rintro ⟨hsorts, -, htainted⟩
      refine ⟨hsorts, ?_⟩
      rw [Bool.eq_iff_iff, htainted]
      exact (hsorts.any_isTainted_iff isTainted).symm
  · obtain ⟨asked, hasked, hrun, hall⟩ :=
      Partition.run_askAll isTainted program.statements .empty false []
    refine ⟨asked, ?_, hasked, ?_⟩
    · rw [hrun, partitionModule_eq_map, Partition.ofStatements, Bool.false_or, List.nil_append]
    · rintro ⟨partition, tainted⟩ hresult
      exact hall partition (partitionModule_eq_ok_iff.mp hresult).1

end ClientBoundary
