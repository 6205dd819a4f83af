import ClientBoundary.Proofs.Buckets
import ClientBoundary.Proofs.OneLine
import ClientBoundary.Proofs.Taint
import ClientBoundary.Workspace

/-!
# When a module is split

A module is split exactly when one of its statements that is no import has a feature at or below
it. A split that is needed carries both paths and both texts, one that is not carries none of them,
so that writing a split never finds a part of it missing.

## Main definitions

* `Split.IsComplete`, `Split.IsBare`: all paths and texts are set, or none.

## Main results

* `any_isTainted_iff`: the verdict on a module with distinct ordinals.
* `ofPartition_shape`: which parts of a split are set.
* `writeSplit_ne_incompleteSplit`: a split of this shape can be written as far as its parts go.
* `ofSource_verdict`: all of this for the split of a source.
-/

namespace ClientBoundary

open ClientBoundary.Tree

/-- Both paths and both texts of a split are set. -/
def Split.IsComplete (split : Split) : Prop :=
  split.serverPath.isSome ∧ split.clientPath.isSome ∧
    split.serverText.isSome ∧ split.clientText.isSome

/-- Neither a path nor a text of a split is set. -/
def Split.IsBare (split : Split) : Prop :=
  split.serverPath = none ∧ split.clientPath = none ∧
    split.serverText = none ∧ split.clientText = none

/-! ### The verdict -/

/-- The partition finds a tainted statement exactly when a statement is client code. -/
theorem any_isTainted_iff {program : CodeTree} (hids : program.HasDistinctIds)
    (path : Option String) :
    (program.statements.any fun s ↦
        s.label.kind != .importDeclaration && (classify program path).isTainted s) = true ↔
      ∃ s ∈ program.statements, s.IsClientStatement := by
  simp only [List.any_eq_true, Bool.and_eq_true, bne_iff_ne]
  constructor
  · rintro ⟨s, hs, hkind, htaint⟩
    exact ⟨s, hs, (isTainted_iff hids hs hkind).mp htaint⟩
  · rintro ⟨s, hs, hclient⟩
    exact ⟨s, hs, hclient.1, (isTainted_iff hids hs hclient.1).mpr hclient⟩

/-- A partitioned module that is split gives a split with all its parts, not yet written. -/
theorem ofPartition_shape {bytes : Bytes} {path : Path} {partition : Partition} {split : Split}
    (h : Split.ofPartition bytes path partition = .ok split) :
    split.needsSplit = true ∧ split.IsComplete ∧ split.written = false := by
  simp only [Split.ofPartition, bind_eq_ok_iff, pure_eq_ok_iff] at h
  obtain ⟨server, -, client, -, serverText, -, clientText, -, rfl⟩ := h
  exact ⟨rfl, ⟨rfl, rfl, rfl, rfl⟩, rfl⟩

/-- A module is either split with all parts set or left alone with none, as its taint says. -/
theorem ofProgram_eq_ok {bytes : Bytes} {path : Path} {program : CodeTree} {split : Split}
    (h : Split.ofProgram bytes path program = .ok split) :
    (split.needsSplit = program.statements.any fun s ↦
      s.label.kind != .importDeclaration &&
        (classify program (some path.toString)).isTainted s) ∧
    (split.needsSplit = true → split.IsComplete) ∧
    (split.needsSplit = false → split.IsBare) ∧ split.written = false := by
  simp only [Split.ofProgram, bind_eq_ok_iff, Prod.exists] at h
  obtain ⟨partition, tainted, hpartition, hsplit⟩ := h
  obtain ⟨-, htaint⟩ := partitionModule_eq_ok_iff.mp hpartition
  rw [← htaint]
  cases tainted with
  | true =>
    obtain ⟨hneeds, hcomplete, hwritten⟩ := ofPartition_shape hsplit
    exact ⟨hneeds, fun _ ↦ hcomplete, fun hnot ↦ by simp [hneeds] at hnot, hwritten⟩
  | false =>
    obtain rfl := pure_eq_ok_iff.mp hsplit
    exact ⟨rfl, fun hneeds ↦ by simp at hneeds, fun _ ↦ ⟨rfl, rfl, rfl, rfl⟩, rfl⟩

/-! ### Writing -/

theorem FileStore.freeLocation_ne_incompleteSplit (store : FileStore) (directory path : Path)
    (folder : Location) (draws : List String) :
    store.freeLocation directory path folder draws ≠ .error .incompleteSplit := by
  induction draws with
  | nil => simp [freeLocation]
  | cons word draws ih =>
    unfold freeLocation
    dsimp only
    split_ifs
    · simp
    · exact ih
    · simp

theorem FileStore.temporaryLocation_ne_incompleteSplit (store : FileStore) (draws : List String)
    (directory path : Path) :
    store.temporaryLocation draws directory path ≠ .error .incompleteSplit := by
  unfold temporaryLocation
  dsimp only
  split_ifs
  · simp
  · split
    · simp
    · split
      · simp
      · simp
      · exact store.freeLocation_ne_incompleteSplit _ _ _ _

theorem FileStore.createTemporary_ne_incompleteSplit (store : FileStore) (refusals : Refusals)
    (draws : List String) (directory path : Path) (bytes : Bytes) :
    (store.createTemporary refusals draws directory path bytes).2 ≠ .error .incompleteSplit := by
  unfold createTemporary
  split
  · rename_i failure hlocation
    intro hfailure
    obtain rfl : failure = .incompleteSplit := by simpa using hfailure
    exact store.temporaryLocation_ne_incompleteSplit _ _ _ hlocation
  · split
    · simp
    · rename_i refusal _
      cases refusal <;> simp [WriteRefusal.failure]

theorem FileStore.writeWhole_ne_incompleteSplit (store : FileStore) (refusals : Refusals)
    (draws : List String) (directory path : Path) (text : String) :
    (store.writeWhole refusals draws directory path text).2 ≠ .error .incompleteSplit := by
  unfold writeWhole
  split
  · rename_i failure hcreate
    intro hfailure
    obtain rfl : failure = .incompleteSplit := by simpa using hfailure
    exact store.createTemporary_ne_incompleteSplit _ _ _ _ _ (congrArg Prod.snd hcreate)
  · dsimp only
    split
    · simp
    · simp
    · simp

/-- Writing a split finds no part of it missing if all are set whenever it is needed. -/
theorem writeSplit_ne_incompleteSplit (workspace : Workspace) {split : Split}
    (h : split.needsSplit = true → split.IsComplete) :
    (workspace.writeSplit split).2 ≠ .error .incompleteSplit := by
  have hhalf (workspace : Workspace) (path text : String) :
      (workspace.writeHalf path text).2 ≠ .error .incompleteSplit := by
    dsimp only [Workspace.writeHalf]
    exact FileStore.writeWhole_ne_incompleteSplit _ _ _ _ _ _
  unfold Workspace.writeSplit
  split_ifs with hneeds
  · obtain ⟨hserver, hclient, hserverText, hclientText⟩ := h hneeds
    obtain ⟨serverPath, hserver⟩ := Option.isSome_iff_exists.mp hserver
    obtain ⟨clientPath, hclient⟩ := Option.isSome_iff_exists.mp hclient
    obtain ⟨serverText, hserverText⟩ := Option.isSome_iff_exists.mp hserverText
    obtain ⟨clientText, hclientText⟩ := Option.isSome_iff_exists.mp hclientText
    rw [hserver, hclient, hserverText, hclientText]
    dsimp only
    split
    · rename_i failure hwrite
      intro hfailure
      obtain rfl : failure = .incompleteSplit := by simpa using hfailure
      exact hhalf _ _ _ (congrArg Prod.snd hwrite)
    · split
      · rename_i failure hwrite
        intro hfailure
        obtain rfl : failure = .incompleteSplit := by simpa using hfailure
        exact hhalf _ _ _ (congrArg Prod.snd hwrite)
      · simp
  · simp

/-! ### The split of a source -/

/-- The split of a source is needed exactly when a statement that is no import has a feature at or
below it. All its parts are set if it is needed and none if it is not, it has not been written, and
writing it in any workspace finds no part missing. Features inside imports alone never make it
needed. -/
theorem ofSource_verdict {parser : Parser} {grammar : Grammar} {bytes : Bytes} {path : Path}
    {program : CodeTree} {split : Split}
    (hprogram : CodeTree.ofSource parser grammar bytes = .ok program)
    (hsplit : Split.ofSource parser grammar bytes path = .ok split) :
    (split.needsSplit = true ↔
      ∃ s ∈ program.children, s.label.named = true ∧ s.label.kind ≠ .comment ∧
        s.label.kind ≠ .importDeclaration ∧ ∃ t ∈ s.subtrees, Feature.detect t ≠ none) ∧
    (split.needsSplit = true → split.IsComplete) ∧
    (split.needsSplit = false → split.IsBare) ∧
    split.written = false ∧
    (∀ workspace : Workspace, (workspace.writeSplit split).2 ≠ .error .incompleteSplit) ∧
    ((∀ t ∈ program.subtrees, Feature.detect t ≠ none →
        ∃ s ∈ program.children, s.label.kind = .importDeclaration ∧ t ∈ s.subtrees) →
      split.needsSplit = false) := by
  have hids := CodeTree.hasDistinctIds_of_ofSource hprogram
  simp only [Split.ofSource, hprogram, bind_eq_ok_iff, Except.ok.injEq, exists_eq_left'] at hsplit
  obtain ⟨htaint, hcomplete, hbare, hwritten⟩ := ofProgram_eq_ok hsplit
  have hverdict : split.needsSplit = true ↔
      ∃ s ∈ program.children, s.label.named = true ∧ s.label.kind ≠ .comment ∧
        s.label.kind ≠ .importDeclaration ∧ ∃ t ∈ s.subtrees, Feature.detect t ≠ none := by
    rw [htaint, any_isTainted_iff hids]
    simp only [CodeTree.mem_statements_iff, CodeTree.IsClientStatement, and_assoc]
  refine ⟨hverdict, hcomplete, hbare, hwritten,
    fun workspace ↦ writeSplit_ne_incompleteSplit workspace hcomplete, fun honly ↦ ?_⟩
  rw [← Bool.not_eq_true, hverdict]
  rintro ⟨s, hs, -, -, hkind, t, ht, hfeature⟩
  obtain ⟨s', hs', himport, ht'⟩ := honly t (mem_subtrees_of_mem_children hs ht) hfeature
  exact hkind (hids.child_eq hs hs' ht ht' rfl ▸ himport)

/-- A source that names a browser global in an import and outside of it. -/
def mixedLine : List OneLine :=
  [.importNamed "window" "w", .mention "window"]

/-- A module with a browser global in an import and outside of it is split into complete halves. -/
theorem ofSource_verdict_mixed :
    ∃ program split,
      CodeTree.ofSource (OneLine.parser mixedLine) .tsx (OneLine.source mixedLine) = .ok program ∧
      Split.ofSource (OneLine.parser mixedLine) .tsx (OneLine.source mixedLine)
        (.ofString "Counter.tsx") = .ok split ∧
      split.needsSplit = true ∧ split.IsComplete ∧
      ∃ s ∈ program.children, s.label.named = true ∧ s.label.kind ≠ .comment ∧
        s.label.kind ≠ .importDeclaration ∧ ∃ t ∈ s.subtrees, Feature.detect t ≠ none := by
  obtain ⟨program, hprogram, -⟩ := exists_ok_of_toOption
    (x := CodeTree.ofSource (OneLine.parser mixedLine) .tsx (OneLine.source mixedLine))
    (f := fun program ↦ program.statements.length) (b := 2) (by decide +kernel)
  obtain ⟨split, hsplit, hneeds⟩ := exists_ok_of_toOption
    (x := Split.ofSource (OneLine.parser mixedLine) .tsx (OneLine.source mixedLine)
      (.ofString "Counter.tsx"))
    (f := Split.needsSplit) (b := true) (by decide +kernel)
  obtain ⟨hverdict, hcomplete, -⟩ := ofSource_verdict hprogram hsplit
  exact ⟨program, split, hprogram, hsplit, hneeds, hcomplete hneeds, hverdict.mp hneeds⟩

end ClientBoundary
