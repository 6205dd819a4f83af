import ClientBoundary.ClientModule
import ClientBoundary.Proofs.OneLine
import ClientBoundary.Proofs.Outcome
import ClientBoundary.ServerModule
import Mathlib.Data.List.Nodup
import Mathlib.Data.List.Pairwise

/-!
# Names bound by generated imports

Both halves begin with imports. Most are copied from the source, and two names may be added: that of
the client half and that of the framework. Copied imports bind different names whenever those of
the source do, so a name is bound twice only if an added name is one that the source imports. The
name of the framework is added when nothing is imported from it, even if the source imports
something else under that name.

## Main definitions

* `Block.boundNames`: the local names that a block binds by importing.
* `importLines`: the blocks up to the first empty line.
* `Partition.AddsBoundFrameworkName`: the framework is imported under a name that is taken.

## Main results

* `boundNames_serverImports_perm`: the imports of the server half bind `serverNames`.
* `nodup_importNames_iff`: when the imports of both halves bind different names.
-/

namespace ClientBoundary

open CodeTree

/-- Whether a block is an empty line. -/
def Block.isBlank : Block → Bool
  | .line text => text == ""
  | .copy _ | .clientImport _ => false

/-- The local names that a block binds by importing. -/
def Block.boundNames : Block → List String
  | .line text => if text = frameworkImport then [frameworkName] else []
  | .copy statement => statement.boundNames
  | .clientImport path => [clientName path]

/-- The blocks up to the first empty line. -/
def importLines (blocks : List Block) : List Block :=
  blocks.takeWhile (!·.isBlank)

/-- The blocks that import into the server half. -/
def serverImports (path : Path) (partition : Partition) : List Block :=
  importLines (serverBlocks path partition)

/-- The blocks that import into the client half, which stand below the directive. -/
def clientImports (partition : Partition) : List Block :=
  importLines ((clientBlocks partition).drop 2)

/-- Nothing is imported from the framework, but its name is bound by another import. -/
def Partition.AddsBoundFrameworkName (partition : Partition) : Prop :=
  partition.frameworkImport? = none ∧ frameworkName ∈ partition.imports.flatMap boundNames

instance (partition : Partition) : Decidable partition.AddsBoundFrameworkName :=
  inferInstanceAs (Decidable (_ ∧ _))

/-! ### Import lines -/

theorem importLines_append_blank {imports : List Block} (rest : List Block)
    (h : ∀ block ∈ imports, block.isBlank = false) :
    importLines (imports ++ .line "" :: rest) = imports := by
  rw [importLines, List.takeWhile_append_of_pos (by simpa using h)]
  simp [Block.isBlank]

theorem isBlank_of_mem_copies {statements : List CodeTree} {block : Block}
    (h : block ∈ statements.map .copy) : block.isBlank = false := by
  obtain ⟨s, -, rfl⟩ := List.mem_map.mp h
  rfl

theorem flatMap_boundNames_copies (statements : List CodeTree) :
    (statements.map Block.copy).flatMap Block.boundNames = statements.flatMap boundNames := by
  rw [List.flatMap_map]
  rfl

theorem serverImports_eq (path : Path) (partition : Partition) :
    serverImports path partition =
      (match partition.frameworkImport? with
        | some statement => .copy statement
        | none => .line frameworkImport) ::
      .clientImport path :: partition.carriedImports.map .copy := by
  rw [serverImports, serverBlocks]
  refine importLines_append_blank _ fun block hblock ↦ ?_
  rcases List.mem_cons.mp hblock with rfl | hblock
  · cases partition.frameworkImport? <;> rfl
  · rcases List.mem_cons.mp hblock with rfl | hblock
    · rfl
    · exact isBlank_of_mem_copies hblock

theorem clientImports_eq (partition : Partition) :
    clientImports partition = partition.imports.map .copy ++
      (if partition.imports.any (·.isFrameworkImport) then [] else [.line frameworkImport]) := by
  have hdrop : (clientBlocks partition).drop 2 =
      (partition.imports.map .copy ++
        (if partition.imports.any (·.isFrameworkImport) then [] else [.line frameworkImport])) ++
      .line "" :: (partition.remaining.map .copy ++ partition.defaultExport.toList.map .copy) := by
    simp [clientBlocks]
  rw [clientImports, hdrop]
  refine importLines_append_blank _ fun block hblock ↦ ?_
  rcases List.mem_append.mp hblock with hblock | hblock
  · exact isBlank_of_mem_copies hblock
  · split_ifs at hblock
    · cases hblock
    · rw [List.mem_singleton.mp hblock]
      rfl

/-- The imports of the server half bind the names that its function avoids. -/
theorem boundNames_serverImports_perm (path : Path) (partition : Partition) :
    ((serverImports path partition).flatMap Block.boundNames).Perm
      (serverNames path partition) := by
  rw [serverImports_eq, List.flatMap_cons, List.flatMap_cons, flatMap_boundNames_copies,
    serverNames]
  cases partition.frameworkImport? with
  | none => exact List.Perm.swap _ _ _
  | some statement => exact List.perm_middle

/-! ### Added names -/

/-- The name of the client half is longer than that of the framework. -/
theorem clientName_ne_frameworkName (path : Path) : clientName path ≠ frameworkName := by
  intro h
  have hlength := congrArg String.length h
  rw [clientName, String.length_append] at hlength
  have hclient : "Client".length = 6 := rfl
  have hframework : frameworkName.length = 5 := rfl
  omega

namespace Partition

variable {partition : Partition}

theorem carriedImports_of_frameworkImport?_eq_none (h : partition.frameworkImport? = none) :
    partition.carriedImports = partition.imports := by
  rw [frameworkImport?, List.find?_eq_none] at h
  exact List.filter_eq_self.mpr fun s hs ↦ by simpa using h s hs

theorem any_isFrameworkImport_eq :
    partition.imports.any (·.isFrameworkImport) = partition.frameworkImport?.isSome := by
  rw [Bool.eq_iff_iff, frameworkImport?, List.find?_isSome, List.any_eq_true]

end Partition

section

variable {partition : Partition}
  (hnodup : ∀ s ∈ partition.imports, s.boundNames.Nodup)
  (hdisjoint : partition.imports.Pairwise fun s t ↦ s.boundNames.Disjoint t.boundNames)

include hnodup hdisjoint

theorem nodup_boundNames_imports : (partition.imports.flatMap boundNames).Nodup :=
  List.nodup_flatMap.mpr ⟨hnodup, hdisjoint⟩

theorem nodup_boundNames_carriedImports :
    (partition.carriedImports.flatMap boundNames).Nodup :=
  List.nodup_flatMap.mpr ⟨fun s hs ↦ hnodup s (List.mem_of_mem_filter hs), hdisjoint.filter _⟩

/-- The import of the framework and the other imports bind different names. -/
theorem nodup_boundNames_frameworkImport_append {statement : CodeTree}
    (h : partition.frameworkImport? = some statement) :
    (statement.boundNames ++ partition.carriedImports.flatMap boundNames).Nodup := by
  have hmem : statement ∈ partition.imports := List.mem_of_find?_eq_some h
  have hframework : statement.isFrameworkImport = true := List.find?_some h
  refine List.nodup_append'.mpr
    ⟨hnodup statement hmem, nodup_boundNames_carriedImports hnodup hdisjoint, ?_⟩
  intro name hname hcarried
  obtain ⟨t, ht, htname⟩ := List.mem_flatMap.mp hcarried
  obtain ⟨htmem, htcarried⟩ := List.mem_filter.mp ht
  have hne : statement ≠ t := by
    rintro rfl
    simp [hframework] at htcarried
  have hsymm : Std.Symm fun s t : CodeTree ↦ s.boundNames.Disjoint t.boundNames :=
    ⟨fun _ _ hst ↦ List.disjoint_symm hst⟩
  exact hdisjoint.forall hmem htmem hne hname htname

/-- The imports of the client half bind different names unless the name of the framework is added
to imports that bind it. -/
theorem nodup_clientImports_iff :
    ((clientImports partition).flatMap Block.boundNames).Nodup ↔
      ¬ partition.AddsBoundFrameworkName := by
  have himports := nodup_boundNames_imports hnodup hdisjoint
  rw [clientImports_eq, List.flatMap_append, flatMap_boundNames_copies,
    Partition.any_isFrameworkImport_eq, Partition.AddsBoundFrameworkName]
  cases partition.frameworkImport? with
  | some statement => simpa using himports
  | none =>
    have hline : Block.boundNames (.line frameworkImport) = [frameworkName] := by
      rw [Block.boundNames, if_pos rfl]
    simp [hline, List.nodup_append', himports]

/-- The imports of the server half bind different names unless the name of the client half or that
of the framework is added to imports that bind it. -/
theorem nodup_serverImports_iff (path : Path) :
    ((serverImports path partition).flatMap Block.boundNames).Nodup ↔
      clientName path ∉ (partition.frameworkImport?.toList ++
        partition.carriedImports).flatMap boundNames ∧
      ¬ partition.AddsBoundFrameworkName := by
  rw [(boundNames_serverImports_perm path partition).nodup_iff, serverNames,
    Partition.AddsBoundFrameworkName]
  cases hframework : partition.frameworkImport? with
  | some statement =>
    have hcopied := nodup_boundNames_frameworkImport_append hnodup hdisjoint hframework
    simp only [List.cons_append, List.nodup_cons, hcopied]
    simp
  | none =>
    have himports := nodup_boundNames_imports hnodup hdisjoint
    rw [Partition.carriedImports_of_frameworkImport?_eq_none hframework]
    simp [himports, clientName_ne_frameworkName]

end

/-- **When the imports of both halves bind different names.** Let the imports of a source bind
different names. Those of the server half do exactly when neither the name of the client half nor
an added name of the framework is one of them, and those of the client half exactly when the latter
is not. -/
theorem nodup_importNames_iff (path : Path) (partition : Partition)
    (hnodup : ∀ s ∈ partition.imports, s.boundNames.Nodup)
    (hdisjoint : partition.imports.Pairwise fun s t ↦ s.boundNames.Disjoint t.boundNames) :
    (((serverImports path partition).flatMap Block.boundNames).Nodup ↔
      clientName path ∉ (partition.frameworkImport?.toList ++
        partition.carriedImports).flatMap boundNames ∧
      ¬ partition.AddsBoundFrameworkName) ∧
    (((clientImports partition).flatMap Block.boundNames).Nodup ↔
      ¬ partition.AddsBoundFrameworkName) :=
  ⟨nodup_serverImports_iff hnodup hdisjoint path, nodup_clientImports_iff hnodup hdisjoint⟩

/-- A source whose imports bind none of the names that are added. -/
def plainImports : List OneLine :=
  [.importNamed "a" "w", .importDefault "b" "v", .mention "window"]

/-- The imports of both halves of a source with plain imports bind different names. -/
theorem nodup_importNames_plainImports :
    ∃ program partition tainted,
      ofSource (OneLine.parser plainImports) .tsx (OneLine.source plainImports) = .ok program ∧
      partitionModule (fun _ ↦ false) program = .ok (partition, tainted) ∧
      partition.imports.flatMap boundNames = ["a", "b"] ∧
      ((serverImports (.ofString "Counter.tsx") partition).flatMap Block.boundNames).Nodup ∧
      ((clientImports partition).flatMap Block.boundNames).Nodup := by
  obtain ⟨program, hprogram, hpartitioned⟩ := exists_ok_of_toOption
    (x := ofSource (OneLine.parser plainImports) .tsx (OneLine.source plainImports))
    (f := fun program : CodeTree ↦ (partitionModule (fun _ ↦ false) program).toOption.map
      fun result : Partition × Bool ↦ decide <|
        result.1.imports.flatMap boundNames = ["a", "b"] ∧
        clientName (.ofString "Counter.tsx") ∉ (result.1.frameworkImport?.toList ++
          result.1.carriedImports).flatMap boundNames ∧
        ¬ result.1.AddsBoundFrameworkName)
    (b := some true) (by decide +kernel)
  obtain ⟨⟨partition, tainted⟩, hpartition, hfacts⟩ := exists_ok_of_toOption hpartitioned
  obtain ⟨hnames, hclient, hframework⟩ := of_decide_eq_true hfacts
  have hnodup : (partition.imports.flatMap boundNames).Nodup := by
    rw [hnames]
    decide
  obtain ⟨heach, hdisjoint⟩ := List.nodup_flatMap.mp hnodup
  obtain ⟨hserverIff, hclientIff⟩ :=
    nodup_importNames_iff (.ofString "Counter.tsx") partition heach hdisjoint
  exact ⟨program, partition, tainted, hprogram, hpartition, hnames,
    hserverIff.mpr ⟨hclient, hframework⟩, hclientIff.mpr hframework⟩

/-- A source that imports other things under both names that are added. -/
def takenImports : List OneLine :=
  [.importDefault "React" "preact", .importDefault "CounterClient" "./ui", .mention "window"]

/-- Imports of a source that bind different names do not keep the halves from binding one twice. -/
theorem nodup_importNames_takenImports :
    ∃ program partition tainted,
      ofSource (OneLine.parser takenImports) .tsx (OneLine.source takenImports) = .ok program ∧
      partitionModule (fun _ ↦ false) program = .ok (partition, tainted) ∧
      (partition.imports.flatMap boundNames).Nodup ∧
      ¬ ((serverImports (.ofString "Counter.tsx") partition).flatMap Block.boundNames).Nodup ∧
      ¬ ((clientImports partition).flatMap Block.boundNames).Nodup := by
  obtain ⟨program, hprogram, hpartitioned⟩ := exists_ok_of_toOption
    (x := ofSource (OneLine.parser takenImports) .tsx (OneLine.source takenImports))
    (f := fun program : CodeTree ↦ (partitionModule (fun _ ↦ false) program).toOption.map
      fun result : Partition × Bool ↦ decide <|
        (result.1.imports.flatMap boundNames).Nodup ∧
        ¬ ((serverImports (.ofString "Counter.tsx") result.1).flatMap Block.boundNames).Nodup ∧
        ¬ ((clientImports result.1).flatMap Block.boundNames).Nodup)
    (b := some true) (by decide +kernel)
  obtain ⟨⟨partition, tainted⟩, hpartition, hfacts⟩ := exists_ok_of_toOption hpartitioned
  exact ⟨program, partition, tainted, hprogram, hpartition, of_decide_eq_true hfacts⟩

end ClientBoundary
