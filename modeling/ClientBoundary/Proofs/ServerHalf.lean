import ClientBoundary.Proofs.Buckets
import ClientBoundary.Proofs.OneLine
import ClientBoundary.ServerModule
import Mathlib.Data.List.Nodup

/-!
# What the server half depends on

The server half is written from the source and all its buckets, yet it shows little of them: the
text, the origin and the names of each import, and the name of the function that is exported by
default. Two modules that agree in these have the same server half, whatever else they do. Names
enter through the search for a free one, which stops at the first candidate that is not taken and so
asks of the taken names only which ones they are.

## Main definitions

* `CodeTree.ImportsAlike`: two imports agree in their texts, origins and names.

## Main results

* `exists_freeName`: the free name is the first candidate that is not taken.
* `Partition.sorts_of_partitionModule`: the buckets of a partitioned module.
* `serverText_eq_of_importsAlike`: modules with like imports have the same server half.
-/

namespace ClientBoundary

open CodeTree

/-! ### Free names -/

theorem length_longerName (base : String) (n : Nat) :
    (longerName base n).length = base.length + 6 * n := by
  induction n with
  | zero => rfl
  | succ n ih =>
    have hserver : "Server".length = 6 := rfl
    rw [longerName, String.length_append, ih, hserver]
    omega

theorem longerName_injective (base : String) : Function.Injective (longerName base) := by
  intro m n h
  have hlength := congrArg String.length h
  rw [length_longerName, length_longerName] at hlength
  omega

/-- Of more candidates than there are taken names one is free. -/
theorem exists_longerName_notMem (base : String) (taken : List String) :
    ∃ n ≤ taken.length, longerName base n ∉ taken := by
  by_contra hnone
  push Not at hnone
  have hsubset : (List.range (taken.length + 1)).map (longerName base) ⊆ taken := by
    intro name hname
    obtain ⟨n, hn, rfl⟩ := List.mem_map.mp hname
    exact hnone n (Nat.lt_succ_iff.mp (List.mem_range.mp hn))
  have hnodup : ((List.range (taken.length + 1)).map (longerName base)).Nodup :=
    List.nodup_range.map (longerName_injective base)
  have hlength := (List.subperm_of_subset hnodup hsubset).length_le
  rw [List.length_map, List.length_range] at hlength
  omega

/-- The free name is the first candidate that is not taken. -/
theorem exists_freeName (base : String) (taken : List String) :
    ∃ k, freeName base taken = longerName base k ∧ longerName base k ∉ taken ∧
      ∀ j < k, longerName base j ∈ taken := by
  unfold freeName
  cases hfind : (List.range taken.length).find? fun n ↦ !taken.contains (longerName base n) with
  | some k =>
    obtain ⟨hfree, -, hbefore⟩ := List.find?_range_eq_some.mp hfind
    exact ⟨k, rfl, by simpa using hfree, fun j hj ↦ by simpa using hbefore j hj⟩
  | none =>
    have htaken : ∀ j < taken.length, longerName base j ∈ taken := by
      intro j hj
      simpa using List.find?_eq_none.mp hfind j (List.mem_range.mpr hj)
    -- Every candidate that was tried is taken, so the next one is the free one there must be.
    obtain ⟨n, hn, hfree⟩ := exists_longerName_notMem base taken
    have hlast : n = taken.length := by
      by_contra hne
      exact hfree (htaken n (by omega))
    exact ⟨taken.length, rfl, hlast ▸ hfree, htaken⟩

/-- The free name depends on which names are taken, not on their order or number. -/
theorem freeName_congr {taken taken' : List String} (base : String)
    (h : ∀ name, name ∈ taken ↔ name ∈ taken') : freeName base taken = freeName base taken' := by
  obtain ⟨k, hk, hfree, hbefore⟩ := exists_freeName base taken
  obtain ⟨k', hk', hfree', hbefore'⟩ := exists_freeName base taken'
  rcases Nat.lt_trichotomy k k' with hlt | rfl | hlt
  · exact absurd ((h _).mpr (hbefore' k hlt)) hfree
  · rw [hk, hk']
  · exact absurd ((h _).mp (hbefore k' hlt)) hfree'

/-! ### Buckets -/

/-- The buckets of a partitioned module are its statements of each kind. -/
theorem Partition.sorts_of_partitionModule {isTainted : CodeTree → Bool} {program : CodeTree}
    {partition : Partition} {tainted : Bool}
    (h : partitionModule isTainted program = .ok (partition, tainted)) :
    partition.Sorts program.statements :=
  ofStatements_eq_ok_iff.mp (partitionModule_eq_ok_iff.mp h).1

theorem Partition.Sorts.defaultExport_eq_find? {partition : Partition} {statements : List CodeTree}
    (h : partition.Sorts statements) :
    partition.defaultExport = statements.find? isDefaultExport := by
  rw [← List.head?_filter, ← h.defaultExport_eq]
  cases partition.defaultExport <;> rfl

/-! ### Rendering like blocks -/

theorem renderBlocks_congr {bytes bytes' : Bytes} {blocks blocks' : List Block}
    (h : List.Forall₂ (fun b b' ↦ Block.text bytes b = Block.text bytes' b') blocks blocks') :
    renderBlocks bytes blocks = renderBlocks bytes' blocks' := by
  have htexts : blocks.mapM (Block.text bytes) = blocks'.mapM (Block.text bytes') := by
    induction h with
    | nil => rfl
    | cons hblock _ ih => rw [List.mapM_cons, List.mapM_cons, hblock, ih]
  rw [renderBlocks, renderBlocks, htexts]

/-- Two imports agree in the text that they cover in their sources, in the module that they import
from and in the names that they bind. -/
structure CodeTree.ImportsAlike (bytes bytes' : Bytes) (s s' : CodeTree) : Prop where
  text_eq : s.sourceText bytes = s'.sourceText bytes'
  importSource_eq : s.importSource? = s'.importSource?
  mem_boundNames_iff : ∀ name, name ∈ s.boundNames ↔ name ∈ s'.boundNames

section Alike

variable {bytes bytes' : Bytes} {partition partition' : Partition}

theorem CodeTree.ImportsAlike.isFrameworkImport_eq {s s' : CodeTree}
    (h : ImportsAlike bytes bytes' s s') : s.isFrameworkImport = s'.isFrameworkImport := by
  rw [isFrameworkImport, isFrameworkImport, h.importSource_eq]

theorem forall₂_copies {statements statements' : List CodeTree}
    (h : List.Forall₂ (ImportsAlike bytes bytes') statements statements') :
    List.Forall₂ (fun b b' ↦ Block.text bytes b = Block.text bytes' b')
      (statements.map .copy) (statements'.map .copy) := by
  rw [List.forall₂_map_left_iff, List.forall₂_map_right_iff]
  exact h.imp fun _ _ halike ↦ halike.text_eq

theorem mem_flatMap_boundNames_iff {statements statements' : List CodeTree}
    (h : List.Forall₂ (ImportsAlike bytes bytes') statements statements') (name : String) :
    name ∈ statements.flatMap boundNames ↔ name ∈ statements'.flatMap boundNames := by
  induction h with
  | nil => rfl
  | cons halike _ ih =>
    rw [List.flatMap_cons, List.flatMap_cons, List.mem_append, List.mem_append, ih,
      halike.mem_boundNames_iff]

variable (himports : List.Forall₂ (ImportsAlike bytes bytes') partition.imports partition'.imports)

include himports

theorem forall₂_carriedImports :
    List.Forall₂ (ImportsAlike bytes bytes') partition.carriedImports
      partition'.carriedImports := by
  refine List.rel_filter (fun s s' halike ↦ ?_) himports
  simp only [halike.isFrameworkImport_eq]

/-- Like imports have the same first import of the framework, or both have none. -/
theorem frameworkImport?_cases :
    (partition.frameworkImport? = none ∧ partition'.frameworkImport? = none) ∨
      ∃ s s', partition.frameworkImport? = some s ∧ partition'.frameworkImport? = some s' ∧
        ImportsAlike bytes bytes' s s' := by
  have hframework : List.Forall₂ (ImportsAlike bytes bytes')
      (partition.imports.filter (·.isFrameworkImport))
      (partition'.imports.filter (·.isFrameworkImport)) := by
    refine List.rel_filter (fun s s' halike ↦ ?_) himports
    simp only [halike.isFrameworkImport_eq]
  rw [Partition.frameworkImport?, Partition.frameworkImport?, ← List.head?_filter,
    ← List.head?_filter]
  generalize partition.imports.filter (·.isFrameworkImport) = framework at hframework ⊢
  generalize partition'.imports.filter (·.isFrameworkImport) = framework' at hframework ⊢
  cases hframework with
  | nil => exact Or.inl ⟨rfl, rfl⟩
  | cons halike _ => exact Or.inr ⟨_, _, rfl, rfl, halike⟩

theorem mem_serverNames_iff (path : Path) (name : String) :
    name ∈ serverNames path partition ↔ name ∈ serverNames path partition' := by
  have hcarried := mem_flatMap_boundNames_iff (forall₂_carriedImports himports) name
  rcases frameworkImport?_cases himports with ⟨hnone, hnone'⟩ | ⟨s, s', hsome, hsome', halike⟩
  · simp only [serverNames, hnone, hnone', List.mem_append, List.mem_cons, hcarried]
  · simp only [serverNames, hsome, hsome', List.mem_append, List.mem_cons, hcarried,
      halike.mem_boundNames_iff]

/-- Partitions with like imports and one name for the function have the same server half. -/
theorem serverText_congr (path : Path)
    (hdelegate : delegateName? partition.defaultExport = delegateName? partition'.defaultExport) :
    serverText bytes path partition = serverText bytes' path partition' := by
  have hname : serverFunctionName path partition = serverFunctionName path partition' := by
    rw [serverFunctionName, serverFunctionName, hdelegate]
    exact freeName_congr _ (mem_serverNames_iff himports path)
  refine renderBlocks_congr ?_
  rw [serverBlocks, serverBlocks, hname]
  refine .cons ?_ (.cons rfl ?_)
  · rcases frameworkImport?_cases himports with ⟨hnone, hnone'⟩ | ⟨s, s', hsome, hsome', halike⟩
    · rw [hnone, hnone']
      rfl
    · rw [hsome, hsome']
      exact halike.text_eq
  · refine List.rel_append (forall₂_copies (forall₂_carriedImports himports)) ?_
    exact .cons rfl (.cons rfl (.cons rfl (.cons rfl .nil)))

end Alike

/-- **What the server half depends on.** Take two modules, each with its source, and let their
imports agree one by one in text, origin and names and their default exports in the name of the
function that they declare, if any. Under one path both have the same server half, or fail to have
one in the same way, whatever their other statements, function bodies and comments are and wherever
their statements stand. -/
theorem serverText_eq_of_importsAlike (path : Path) {bytes bytes' : Bytes}
    {program program' : CodeTree} {isTainted isTainted' : CodeTree → Bool}
    {partition partition' : Partition} {tainted tainted' : Bool}
    (hpartition : partitionModule isTainted program = .ok (partition, tainted))
    (hpartition' : partitionModule isTainted' program' = .ok (partition', tainted'))
    (himports : List.Forall₂ (ImportsAlike bytes bytes') (program.statements.filter isImport)
      (program'.statements.filter isImport))
    (hdelegate : delegateName? (program.statements.find? isDefaultExport) =
      delegateName? (program'.statements.find? isDefaultExport)) :
    serverText bytes path partition = serverText bytes' path partition' := by
  have hsorts := Partition.sorts_of_partitionModule hpartition
  have hsorts' := Partition.sorts_of_partitionModule hpartition'
  rw [← hsorts.imports_eq, ← hsorts'.imports_eq] at himports
  rw [← hsorts.defaultExport_eq_find?, ← hsorts'.defaultExport_eq_find?] at hdelegate
  exact serverText_congr himports path hdelegate

/-- What a server half shows of an import. -/
def CodeTree.shownImport (bytes : Bytes) (s : CodeTree) :
    Except Failure String × Option String × List String :=
  (s.sourceText bytes, s.importSource?, s.boundNames)

theorem forall₂_importsAlike_of_map_eq {bytes bytes' : Bytes}
    {statements statements' : List CodeTree}
    (h : statements.map (shownImport bytes) = statements'.map (shownImport bytes')) :
    List.Forall₂ (ImportsAlike bytes bytes') statements statements' := by
  rw [← List.forall₂_eq_eq_eq, List.forall₂_map_left_iff, List.forall₂_map_right_iff] at h
  refine h.imp fun s s' hshown ↦ ?_
  obtain ⟨htext, hsource, hnames⟩ := Prod.mk.inj hshown |>.imp_right Prod.mk.inj
  exact ⟨htext, hsource, fun name ↦ by rw [hnames]⟩

/-- A module that uses a browser global behind its imports. -/
def globalBehind : List OneLine :=
  [.importDefault "React" "react", .importNamed "a" "w", .mention "window"]

/-- A module with other statements around the same imports, which exports something by default. -/
def globalsAround : List OneLine :=
  [.mention "alert", .importDefault "React" "react", .mention "b", .importNamed "a" "w",
   .exportDefault "document"]

/-- What both modules show of their imports. -/
def sharedImports : List (Except Failure String × Option String × List String) :=
  [(.ok "import React from 'react';", some "react", ["React"]),
   (.ok "import \x7b a \x7d from 'w';", some "w", ["a"])]

/-- Two modules with the same imports at different places and nothing else in common have the same
server half. -/
theorem serverText_eq_of_importsAlike_globals :
    ∃ program program' partition partition' tainted tainted',
      ofSource (OneLine.parser globalBehind) .tsx (OneLine.source globalBehind) = .ok program ∧
      ofSource (OneLine.parser globalsAround) .tsx (OneLine.source globalsAround) = .ok program' ∧
      partitionModule (fun _ ↦ true) program = .ok (partition, tainted) ∧
      partitionModule (fun _ ↦ true) program' = .ok (partition', tainted') ∧
      List.Forall₂ (ImportsAlike (OneLine.source globalBehind) (OneLine.source globalsAround))
        (program.statements.filter isImport) (program'.statements.filter isImport) ∧
      partition.imports.length = 2 ∧
      serverText (OneLine.source globalBehind) (.ofString "Counter.tsx") partition =
        serverText (OneLine.source globalsAround) (.ofString "Counter.tsx") partition' := by
  obtain ⟨program, hprogram, hfacts⟩ := exists_ok_of_toOption
    (x := ofSource (OneLine.parser globalBehind) .tsx (OneLine.source globalBehind))
    (f := fun program : CodeTree ↦ decide <|
      (program.statements.filter isImport).map (shownImport (OneLine.source globalBehind)) =
        sharedImports ∧
      delegateName? (program.statements.find? isDefaultExport) = none ∧
      (partitionModule (fun _ ↦ true) program).toOption.map
        (fun result : Partition × Bool ↦ result.1.imports.length) = some 2)
    (b := true) (by decide +kernel)
  obtain ⟨program', hprogram', hfacts'⟩ := exists_ok_of_toOption
    (x := ofSource (OneLine.parser globalsAround) .tsx (OneLine.source globalsAround))
    (f := fun program : CodeTree ↦ decide <|
      (program.statements.filter isImport).map (shownImport (OneLine.source globalsAround)) =
        sharedImports ∧
      delegateName? (program.statements.find? isDefaultExport) = none ∧
      (partitionModule (fun _ ↦ true) program).toOption.map
        (fun result : Partition × Bool ↦ result.1.imports.length) = some 2)
    (b := true) (by decide +kernel)
  obtain ⟨hshown, hdelegate, hlength⟩ := of_decide_eq_true hfacts
  obtain ⟨hshown', hdelegate', hlength'⟩ := of_decide_eq_true hfacts'
  obtain ⟨⟨partition, tainted⟩, hpartition, htwo⟩ := exists_ok_of_toOption hlength
  obtain ⟨⟨partition', tainted'⟩, hpartition', -⟩ := exists_ok_of_toOption hlength'
  have halike := forall₂_importsAlike_of_map_eq (hshown.trans hshown'.symm)
  exact ⟨program, program', partition, partition', tainted, tainted', hprogram, hprogram',
    hpartition, hpartition', halike, htwo, serverText_eq_of_importsAlike _ hpartition hpartition'
      halike (hdelegate.trans hdelegate'.symm)⟩

end ClientBoundary
