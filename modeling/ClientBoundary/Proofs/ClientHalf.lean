import ClientBoundary.ClientModule
import ClientBoundary.Proofs.Buckets
import ClientBoundary.Proofs.Numbering
import ClientBoundary.Proofs.OneLine
import ClientBoundary.Proofs.Rendering

/-!
# What the client half holds

The client half is put together from the three buckets of a partition. The directive that leads the
source is looked for twice, as the first statement of the module and as the statement of the
buckets that starts earliest. When statements start one after the other both are the same, so the
client half copies the body of the module: every statement once, the leading directive excepted.
Imports come first and the default export last, so the other statements keep their order, and the
default export keeps its place among them only if no other statement stands behind it.

## Main definitions

* `StartInOrder`: statements start one after the other.
* `CodeTree.body`: the statements of a module without the directive that leads it.
* `copiedCode`: the statements that blocks copy, imports excepted.
* `ExportBehindCode`: no other statement stands behind a default export.

## Main results

* `earliest?_eq_head?`: the earliest statement of the buckets is the first of the module.
* `Partition.Sorts.clientBlocks_eq`: the blocks of the client half in terms of the body.
* `clientText_holds_body`: the text of the client half holds the body, byte for byte.
* `copiedCode_clientBlocks_eq_iff`: when the client half keeps the order of the source.
-/

namespace ClientBoundary

open CodeTree

/-! ### The earliest statement -/

theorem earliest?_eq_none_iff {statements : List CodeTree} :
    earliest? statements = none ↔ statements = [] := by
  cases statements with
  | nil => simp [earliest?]
  | cons first statements =>
    rw [earliest?]
    split
    · simp
    · split_ifs <;> simp

/-- The earliest of some statements is one of them, and none starts before it. -/
theorem mem_and_le_of_earliest? {statements : List CodeTree} {s : CodeTree}
    (h : earliest? statements = some s) :
    s ∈ statements ∧ ∀ t ∈ statements, s.label.span.start ≤ t.label.span.start := by
  induction statements generalizing s with
  | nil => cases h
  | cons first statements ih =>
    rw [earliest?] at h
    cases hrest : earliest? statements with
    | none =>
      obtain rfl := earliest?_eq_none_iff.mp hrest
      obtain rfl : first = s := by simpa [hrest] using h
      simp
    | some t =>
      obtain ⟨hmem, hle⟩ := ih hrest
      rw [hrest] at h
      dsimp only at h
      split_ifs at h with hlt
      · obtain rfl := Option.some.inj h
        refine ⟨List.mem_cons_of_mem first hmem, fun u hu ↦ ?_⟩
        rcases List.mem_cons.mp hu with rfl | hu
        · exact hlt.le
        · exact hle u hu
      · obtain rfl := Option.some.inj h
        refine ⟨List.mem_cons_self, fun u hu ↦ ?_⟩
        rcases List.mem_cons.mp hu with rfl | hu
        · exact le_rfl
        · exact (not_lt.mp hlt).trans (hle u hu)

/-- Statements start one after the other. -/
def StartInOrder (statements : List CodeTree) : Prop :=
  statements.Pairwise fun s t ↦ s.label.span.start < t.label.span.start

instance (statements : List CodeTree) : Decidable (StartInOrder statements) :=
  inferInstanceAs (Decidable (statements.Pairwise fun s t ↦
    s.label.span.start < t.label.span.start))

/-- When statements start one after the other, the earliest in any order is the first. -/
theorem earliest?_eq_head? {listed statements : List CodeTree} (hperm : listed.Perm statements)
    (hstart : StartInOrder statements) :
    earliest? listed = statements.head? := by
  cases statements with
  | nil => rw [hperm.eq_nil]; rfl
  | cons first rest =>
    cases hearliest : earliest? listed with
    | none =>
      rw [earliest?_eq_none_iff.mp hearliest] at hperm
      exact absurd hperm.symm.eq_nil (List.cons_ne_nil first rest)
    | some s =>
      obtain ⟨hmem, hle⟩ := mem_and_le_of_earliest? hearliest
      rcases List.mem_cons.mp (hperm.mem_iff.mp hmem) with rfl | hrest
      · rfl
      · have hlt := (List.pairwise_cons.mp hstart).1 s hrest
        exact absurd (hle first (hperm.mem_iff.mpr List.mem_cons_self)) hlt.not_ge

/-! ### The body of a module -/

namespace CodeTree

/-- The statements of a module without the directive that leads it. -/
def body (program : CodeTree) : List CodeTree :=
  if program.hasDirective then program.statements.tail else program.statements

theorem body_subset (program : CodeTree) : program.body ⊆ program.statements := by
  rw [body]
  split_ifs
  · exact List.tail_sublist program.statements |>.subset
  · exact List.Subset.refl program.statements

theorem isOther_of_isDirective {s : CodeTree} (h : s.isDirective = true) : s.isOther = true := by
  rw [isDirective, Bool.and_eq_true, beq_iff_eq] at h
  simp [isOther, isImport, isDefaultExport, h.1]

/-- Only the other statements are fewer in the body. -/
theorem filter_body {program : CodeTree} {p : CodeTree → Bool}
    (hp : ∀ s : CodeTree, s.isOther = true → p s = false) :
    program.body.filter p = program.statements.filter p := by
  rw [body]
  split_ifs with hdirective
  · rw [hasDirective] at hdirective
    cases hstatements : program.statements with
    | nil => rfl
    | cons first rest =>
      rw [hstatements, List.head?_cons, Option.any_some] at hdirective
      rw [List.tail_cons, List.filter_cons_of_neg]
      simp [hp first (isOther_of_isDirective hdirective)]
  · rfl

theorem filter_isImport_body (program : CodeTree) :
    program.body.filter isImport = program.statements.filter isImport :=
  filter_body fun _ hs ↦ (isOther_iff.mp hs).1

theorem filter_isDefaultExport_body (program : CodeTree) :
    program.body.filter isDefaultExport = program.statements.filter isDefaultExport :=
  filter_body fun _ hs ↦ (isOther_iff.mp hs).2

end CodeTree

namespace Partition

variable {partition : Partition} {program : CodeTree}

/-- The directive that leads the buckets is the one that leads the module. -/
theorem Sorts.leadingDirective?_eq (h : partition.Sorts program.statements)
    (hstart : StartInOrder program.statements) :
    partition.leadingDirective? = program.statements.head?.filter isDirective := by
  rw [leadingDirective?, earliest?_eq_head? h.perm hstart]

/-- What remains of the other statements are those of the body. -/
theorem Sorts.remaining_eq (h : partition.Sorts program.statements)
    (hstart : StartInOrder program.statements)
    (hids : program.statements.Pairwise fun s t ↦ s.label.id ≠ t.label.id) :
    partition.remaining = program.body.filter isOther := by
  rw [remaining, h.leadingDirective?_eq hstart, h.other_eq, body, hasDirective]
  cases hstatements : program.statements with
  | nil => rfl
  | cons first rest =>
    rw [hstatements, List.pairwise_cons] at hids
    rw [List.head?_cons, Option.any_some, List.tail_cons]
    cases hdirective : first.isDirective with
    | false => simp [hdirective]
    | true =>
      -- The directive is dropped by its ordinal, which no statement behind it has.
      have hrest : ∀ s ∈ rest.filter isOther, (s.label.id != first.label.id) = true := by
        intro s hs
        simpa using (hids.1 s (List.mem_of_mem_filter hs)).symm
      rw [Option.filter_some_pos hdirective, List.filter_cons_of_pos
        (isOther_of_isDirective hdirective)]
      simp only [Option.all_some]
      rw [List.filter_cons_of_neg (by simp), List.filter_eq_self.mpr hrest, if_pos trivial]

/-- The client half copies the body of the module: its imports, its other statements and its
default export. -/
theorem Sorts.clientBlocks_eq (h : partition.Sorts program.statements)
    (hstart : StartInOrder program.statements)
    (hids : program.statements.Pairwise fun s t ↦ s.label.id ≠ t.label.id) :
    clientBlocks partition =
      [.line "'use client';", .line ""] ++ (program.body.filter isImport).map .copy ++
        (if program.statements.any fun s ↦ s.isImport && s.isFrameworkImport then []
          else [.line "import React from 'react';"]) ++
        [.line ""] ++
        (program.body.filter isOther ++ program.body.filter isDefaultExport).map .copy := by
  rw [clientBlocks, h.remaining_eq hstart hids, h.imports_eq, h.defaultExport_eq,
    List.any_filter, filter_isImport_body, filter_isDefaultExport_body, List.map_append,
    ← List.append_assoc]
  rfl

end Partition

/-- The statements of a source have different ordinals. -/
theorem pairwise_id_ne_of_ofSource {parser : Parser} {grammar : Grammar} {bytes : Bytes}
    {program : CodeTree} (h : ofSource parser grammar bytes = .ok program) :
    program.statements.Pairwise fun s t ↦ s.label.id ≠ t.label.id :=
  (hasDistinctIds_of_ofSource h).pairwise_children.filter _

/-! ### Nothing is lost -/

/-- **The client half holds the body of the module.** Below the directive stand the statements of
the module, each of them once with the bytes it has in the source, and a directive that leads the
source is not repeated. Two empty lines and at most the import of the framework are added. -/
theorem clientText_holds_body {parser : Parser} {grammar : Grammar} {bytes : Bytes}
    {program : CodeTree} (hprogram : ofSource parser grammar bytes = .ok program)
    (hexport : program.statements.countP isDefaultExport ≤ 1)
    (hstart : StartInOrder program.statements)
    (htext : ∀ s ∈ program.statements, ∃ text, s.sourceText bytes = .ok text)
    (isTainted : CodeTree → Bool) :
    ∃ partition tainted imports code,
      partitionModule isTainted program = .ok (partition, tainted) ∧
      clientText bytes partition =
        .ok (terminated (["'use client';", ""] ++ imports ++
          (if program.statements.any fun s ↦ s.isImport && s.isFrameworkImport then []
            else ["import React from 'react';"]) ++
          [""] ++ code)) ∧
      ((imports ++ code).map Utf8.encode).Perm
        ((if program.hasDirective then program.statements.tail else program.statements).map
          fun s ↦ bytes.slice s.label.span.start s.label.span.stop) := by
  obtain ⟨partition, tainted, hpartition, hsorts⟩ := exists_partitionModule isTainted hexport
  have hbody : ∀ s ∈ program.body, ∃ text, s.sourceText bytes = .ok text :=
    fun s hs ↦ htext s (program.body_subset hs)
  obtain ⟨imports, himports, himportBytes⟩ := exists_copied_texts
    (program.body.filter isImport)
    fun s hs ↦ hbody s (List.mem_of_mem_filter hs)
  obtain ⟨code, hcode, hcodeBytes⟩ := exists_copied_texts
    (program.body.filter isOther ++ program.body.filter isDefaultExport)
    fun s hs ↦ hbody s ((List.mem_append.mp hs).elim List.mem_of_mem_filter
      List.mem_of_mem_filter)
  refine ⟨partition, tainted, imports, code, hpartition, ?_, ?_⟩
  · rw [clientText, hsorts.clientBlocks_eq hstart (pairwise_id_ne_of_ofSource hprogram),
      renderBlocks_eq_ok_iff (by simp)]
    refine ⟨_, ?_, rfl⟩
    have hheading : List.Forall₂ (fun block text ↦ Block.text bytes block = .ok text)
        [.line "'use client';", .line ""] ["'use client';", ""] :=
      .cons rfl (.cons rfl .nil)
    have hblank : List.Forall₂ (fun block text ↦ Block.text bytes block = .ok text)
        [.line ""] [""] :=
      .cons rfl .nil
    refine List.rel_append (List.rel_append (List.rel_append
      (List.rel_append hheading himports) ?_) hblank) hcode
    split_ifs
    · exact .nil
    · exact .cons rfl .nil
  · rw [List.map_append, himportBytes, hcodeBytes, ← List.map_append, ← List.append_assoc]
    exact (Partition.buckets_perm program.body).map _

/-- A source with a default export in front of its last statement. -/
def exportFirst : List OneLine :=
  [.directive, .importNamed "a" "w", .exportDefault "window", .mention "a"]

/-- The client half of a source that is client code already holds its statements, the directive
excepted, and imports the framework. -/
theorem clientText_holds_body_exportFirst :
    ∃ program partition tainted imports code,
      ofSource (OneLine.parser exportFirst) .tsx (OneLine.source exportFirst) = .ok program ∧
      partitionModule (fun _ ↦ false) program = .ok (partition, tainted) ∧
      clientText (OneLine.source exportFirst) partition =
        .ok (terminated (["'use client';", ""] ++ imports ++
          ["import React from 'react';", ""] ++ code)) ∧
      ((imports ++ code).map Utf8.encode).Perm
        ([OneLine.importNamed "a" "w", .exportDefault "window", .mention "a"].map
          fun s ↦ Utf8.encode s.text) := by
  obtain ⟨program, hprogram, hfacts⟩ := exists_ok_of_toOption
    (x := ofSource (OneLine.parser exportFirst) .tsx (OneLine.source exportFirst))
    (f := fun program : CodeTree ↦ decide <|
      program.statements.countP isDefaultExport ≤ 1 ∧
      StartInOrder program.statements ∧
      (∀ s ∈ program.statements,
        (s.sourceText (OneLine.source exportFirst)).toOption.isSome = true) ∧
      (program.statements.any fun s ↦ s.isImport && s.isFrameworkImport) = false ∧
      (if program.hasDirective then program.statements.tail else program.statements).map
          (fun s ↦ (OneLine.source exportFirst).slice s.label.span.start s.label.span.stop) =
        [OneLine.importNamed "a" "w", .exportDefault "window", .mention "a"].map
          fun s ↦ Utf8.encode s.text)
    (b := true) (by decide +kernel)
  obtain ⟨hexport, hstart, htext, hframework, hbytes⟩ := of_decide_eq_true hfacts
  obtain ⟨partition, tainted, imports, code, hpartition, hclient, hperm⟩ :=
    clientText_holds_body hprogram hexport hstart
      (fun s hs ↦ by
        obtain ⟨text, hread⟩ := Option.isSome_iff_exists.mp (htext s hs)
        obtain ⟨text, hok, -⟩ := exists_ok_of_toOption (f := id) (by rw [hread]; rfl)
        exact ⟨text, hok⟩)
      fun _ ↦ false
  rw [hframework] at hclient
  rw [hbytes] at hperm
  refine ⟨program, partition, tainted, imports, code, hprogram, hpartition, ?_, hperm⟩
  simpa using hclient

/-! ### What keeps its place -/

/-- The statement that a block copies. -/
def Block.statement? : Block → Option CodeTree
  | .copy statement => some statement
  | .line _ | .clientImport _ => none

theorem Block.filterMap_statement?_copy (statements : List CodeTree) :
    (statements.map Block.copy).filterMap Block.statement? = statements := by
  simp [List.filterMap_map, Function.comp_def, Block.statement?]

theorem Block.filterMap_statement?_line (texts : List String) :
    (texts.map Block.line).filterMap Block.statement? = [] := by
  simp [List.filterMap_map, Function.comp_def, Block.statement?]

/-- The statements that blocks copy, imports excepted. -/
def copiedCode (blocks : List Block) : List CodeTree :=
  (blocks.filterMap Block.statement?).filter fun s ↦ !s.isImport

/-- No other statement stands behind a default export. -/
def ExportBehindCode (statements : List CodeTree) : Prop :=
  statements.Pairwise fun s t ↦ s.isDefaultExport = true → t.isOther = false

instance (statements : List CodeTree) : Decidable (ExportBehindCode statements) :=
  inferInstanceAs (Decidable (statements.Pairwise fun s t ↦
    s.isDefaultExport = true → t.isOther = false))

/-- Default exports behind the other statements are in source order when no other statement stands
behind one in the source. -/
theorem filter_isOther_append_eq_iff (statements : List CodeTree) :
    statements.filter isOther ++ statements.filter isDefaultExport =
        statements.filter (fun s ↦ !s.isImport) ↔
      ExportBehindCode statements := by
  induction statements with
  | nil => simp [ExportBehindCode]
  | cons s statements ih =>
    rw [ExportBehindCode, List.pairwise_cons, ← ExportBehindCode, ← ih]
    cases hexport : s.isDefaultExport with
    | false => cases himport : s.isImport <;> simp [isOther, hexport, himport]
    | true =>
      have himport := isImport_eq_false_of_isDefaultExport hexport
      have hother : s.isOther = false := by simp [isOther, hexport]
      simp only [List.filter_cons, hexport, himport, hother, Bool.not_false, if_true]
      cases hrest : statements.filter isOther with
      | nil =>
        have hall : ∀ t ∈ statements, t.isOther = false := by simpa using hrest
        simpa using fun _ ↦ hall
      | cons t others =>
        -- A statement would stand in front of the default export that is behind it in the source.
        have ht : t ∈ statements.filter isOther := hrest ▸ List.mem_cons_self
        constructor
        · intro h
          obtain rfl : t = s := (List.cons.inj h).1
          simp [hother] at ht
        · rintro ⟨hall, -⟩
          have hnot := hall t (List.mem_of_mem_filter ht) trivial
          simp [hnot] at ht

/-- The client half copies the other statements of the body and then its default export. -/
theorem Partition.Sorts.copiedCode_clientBlocks {partition : Partition} {program : CodeTree}
    (h : partition.Sorts program.statements)
    (hstart : StartInOrder program.statements)
    (hids : program.statements.Pairwise fun s t ↦ s.label.id ≠ t.label.id) :
    copiedCode (clientBlocks partition) =
      program.body.filter isOther ++ program.body.filter isDefaultExport := by
  have hadded (condition : Bool) (text : String) :
      (if condition then [] else [Block.line text]).filterMap Block.statement? = [] := by
    cases condition
    · exact Block.filterMap_statement?_line [text]
    · exact Block.filterMap_statement?_line []
  have hkept : ∀ s ∈ program.body.filter isOther ++ program.body.filter isDefaultExport,
      (!s.isImport) = true := by
    intro s hs
    rcases List.mem_append.mp hs with hs | hs
    · simp [(isOther_iff.mp (List.mem_filter.mp hs).2).1]
    · simp [isImport_eq_false_of_isDefaultExport (List.mem_filter.mp hs).2]
  have himports : (program.body.filter isImport).filter (fun s ↦ !s.isImport) = [] := by
    simp [List.filter_filter]
  have hheading := Block.filterMap_statement?_line ["'use client';", ""]
  have hblank := Block.filterMap_statement?_line [""]
  rw [copiedCode, h.clientBlocks_eq hstart hids]
  simp only [List.map_cons, List.map_nil] at hheading hblank
  simp only [List.filterMap_append, Block.filterMap_statement?_copy, hadded, hheading, hblank,
    List.nil_append, List.append_nil]
  rw [List.filter_append, himports, List.filter_eq_self.mpr hkept, List.nil_append]

/-- **When the client half keeps the order of the source.** It copies the other statements of the
body and then its default export, which is their order in the source exactly when no other
statement stands behind the default export. -/
theorem copiedCode_clientBlocks_eq_iff {parser : Parser} {grammar : Grammar} {bytes : Bytes}
    {program : CodeTree} (hprogram : ofSource parser grammar bytes = .ok program)
    (hexport : program.statements.countP isDefaultExport ≤ 1)
    (hstart : StartInOrder program.statements) (isTainted : CodeTree → Bool) :
    ∃ partition tainted,
      partitionModule isTainted program = .ok (partition, tainted) ∧
      copiedCode (clientBlocks partition) =
        program.body.filter isOther ++ program.body.filter isDefaultExport ∧
      (copiedCode (clientBlocks partition) = program.body.filter (fun s ↦ !s.isImport) ↔
        ExportBehindCode program.body) := by
  obtain ⟨partition, tainted, hpartition, hsorts⟩ := exists_partitionModule isTainted hexport
  have hcopied :=
    hsorts.copiedCode_clientBlocks hstart (pairwise_id_ne_of_ofSource hprogram)
  refine ⟨partition, tainted, hpartition, hcopied, ?_⟩
  rw [hcopied]
  exact filter_isOther_append_eq_iff program.body

/-- A source with its default export behind all other statements. -/
def exportLast : List OneLine :=
  [.directive, .importNamed "a" "w", .mention "a", .exportDefault "window"]

/-- The client half keeps the order of a source that ends with its default export. -/
theorem copiedCode_clientBlocks_exportLast :
    ∃ program partition tainted,
      ofSource (OneLine.parser exportLast) .tsx (OneLine.source exportLast) = .ok program ∧
      partitionModule (fun _ ↦ false) program = .ok (partition, tainted) ∧
      copiedCode (clientBlocks partition) = program.body.filter (fun s ↦ !s.isImport) ∧
      (copiedCode (clientBlocks partition)).length = 2 := by
  obtain ⟨program, hprogram, hfacts⟩ := exists_ok_of_toOption
    (x := ofSource (OneLine.parser exportLast) .tsx (OneLine.source exportLast))
    (f := fun program : CodeTree ↦ decide <|
      program.statements.countP isDefaultExport ≤ 1 ∧
      StartInOrder program.statements ∧
      (program.body.filter fun s ↦ !s.isImport).length = 2 ∧
      ExportBehindCode program.body)
    (b := true) (by decide +kernel)
  obtain ⟨hexport, hstart, hlength, hlast⟩ := of_decide_eq_true hfacts
  obtain ⟨partition, tainted, hpartition, -, hiff⟩ :=
    copiedCode_clientBlocks_eq_iff hprogram hexport hstart fun _ ↦ false
  refine ⟨program, partition, tainted, hprogram, hpartition, hiff.mpr hlast, ?_⟩
  rw [hiff.mpr hlast, hlength]

/-- The client half moves a default export behind a statement that follows it in the source. -/
theorem copiedCode_clientBlocks_exportFirst :
    ∃ program partition tainted,
      ofSource (OneLine.parser exportFirst) .tsx (OneLine.source exportFirst) = .ok program ∧
      program.statements.countP isDefaultExport ≤ 1 ∧
      StartInOrder program.statements ∧
      partitionModule (fun _ ↦ false) program = .ok (partition, tainted) ∧
      copiedCode (clientBlocks partition) ≠ program.body.filter (fun s ↦ !s.isImport) := by
  obtain ⟨program, hprogram, hfacts⟩ := exists_ok_of_toOption
    (x := ofSource (OneLine.parser exportFirst) .tsx (OneLine.source exportFirst))
    (f := fun program : CodeTree ↦ decide <|
      program.statements.countP isDefaultExport ≤ 1 ∧
      StartInOrder program.statements ∧
      (partitionModule (fun _ ↦ false) program).toOption.map
        (fun result ↦ (copiedCode (clientBlocks result.1)).map fun s ↦ s.label.id) =
          some ((program.body.filter fun s ↦ !s.isImport).map fun s ↦ s.label.id).reverse ∧
      (program.body.filter fun s ↦ !s.isImport).map (fun s ↦ s.label.id) ≠
        ((program.body.filter fun s ↦ !s.isImport).map fun s ↦ s.label.id).reverse)
    (b := true) (by decide +kernel)
  obtain ⟨hexport, hstart, hcopied, hreverse⟩ := of_decide_eq_true hfacts
  obtain ⟨⟨partition, tainted⟩, hpartition, hids⟩ := exists_ok_of_toOption hcopied
  refine ⟨program, partition, tainted, hprogram, hexport, hstart, hpartition, fun heq ↦ ?_⟩
  rw [heq] at hids
  exact hreverse hids

end ClientBoundary
