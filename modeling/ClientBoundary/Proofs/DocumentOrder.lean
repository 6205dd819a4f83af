import ClientBoundary.Proofs.Conversion
import ClientBoundary.Proofs.InsertedDirective
import Mathlib.Data.List.Flatten
import Mathlib.Data.Prod.Lex

/-!
# Document order

A parser gives every node a range, and the ranges nest: children stand one behind the other inside
their parent. A feature may stand inside another one, a browser global in the call of a hook in an
event handler, and both are found at the nodes where they start. In pre-order the starts of nested
ranges never decrease, whatever the depth, and neither dropping the comments between statements nor
picking the nodes that introduce a feature changes the order of what is left. So the linter reports
from the top of a source to its bottom. This needs that no node ends before it starts: behind one
that does, a sibling may lie before what came first.

The directive that fixes a source is inserted before everything that is reported, and for that it is
enough that the starts of the nodes are in order.

## Main definitions

* `Tree.Nested`, `Tree.WellNested`: the ranges of the nodes of a tree nest.
* `Tree.StartsInOrder`: no node starts before its parent or before a sibling to its left.
* `Point.inOrder`: rows are compared first, then columns.

## Main results

* `Tree.WellNested.pairwise_subtrees`: in pre-order the starts of nested ranges never decrease.
* `pairwise_statementNodes`: so they do along the nodes of the statements of a module.
* `lintSource_inDocumentOrder`: diagnostics come in document order.
* `lintSource_outOfOrder_backward`: a node that ends before it starts breaks the order.
* `fixSource_inserts_before_features`: fixing a source is one insertion before all that is
  reported.
-/

namespace ClientBoundary

namespace Tree

variable {α β : Type} [Preorder β] {start stop : α → β} {t s u : Tree α}

/-- The ranges of the nodes of a tree nest: no child starts before its parent or before the child to
its left has ended, and none ends after its parent. -/
structure Nested (start stop : α → β) (t : Tree α) : Prop where
  inside : ∀ u ∈ t.subtrees, ∀ s ∈ u.children,
    start u.label ≤ start s.label ∧ stop s.label ≤ stop u.label
  inOrder : ∀ u ∈ t.subtrees, u.children.IsChain fun s s' ↦ stop s.label ≤ start s'.label

/-- The ranges of the nodes of a tree nest, and no node ends before it starts. -/
structure WellNested (start stop : α → β) (t : Tree α) : Prop extends Nested start stop t where
  start_le_stop : ∀ u ∈ t.subtrees, start u.label ≤ stop u.label

/-- The starts of the nodes of a tree are in order: no node starts before its parent or before a
sibling to its left. -/
structure StartsInOrder (start : α → β) (t : Tree α) : Prop where
  parent_le : ∀ u ∈ t.subtrees, ∀ s ∈ u.children, start u.label ≤ start s.label
  sibling_le : ∀ u ∈ t.subtrees, u.children.Pairwise fun s s' ↦ start s.label ≤ start s'.label

instance [DecidableLE β] (start stop : α → β) (t : Tree α) : Decidable (t.Nested start stop) :=
  decidable_of_iff
    ((∀ u ∈ t.subtrees, ∀ s ∈ u.children,
        start u.label ≤ start s.label ∧ stop s.label ≤ stop u.label) ∧
      ∀ u ∈ t.subtrees, u.children.IsChain fun s s' ↦ stop s.label ≤ start s'.label)
    ⟨fun ⟨hinside, horder⟩ ↦ ⟨hinside, horder⟩, fun h ↦ ⟨h.inside, h.inOrder⟩⟩

instance [DecidableLE β] (start stop : α → β) (t : Tree α) :
    Decidable (t.WellNested start stop) :=
  decidable_of_iff (t.Nested start stop ∧ ∀ u ∈ t.subtrees, start u.label ≤ stop u.label)
    ⟨fun ⟨hnested, hforward⟩ ↦ ⟨hnested, hforward⟩, fun h ↦ ⟨h.toNested, h.start_le_stop⟩⟩

instance [DecidableLE β] (start : α → β) (t : Tree α) : Decidable (t.StartsInOrder start) :=
  decidable_of_iff
    ((∀ u ∈ t.subtrees, ∀ s ∈ u.children, start u.label ≤ start s.label) ∧
      ∀ u ∈ t.subtrees, u.children.Pairwise fun s s' ↦ start s.label ≤ start s'.label)
    ⟨fun ⟨hparent, hsibling⟩ ↦ ⟨hparent, hsibling⟩, fun h ↦ ⟨h.parent_le, h.sibling_le⟩⟩

/-! ### Nested ranges -/

/-- What relates each node to its children relates the root to all nodes. -/
theorem rel_of_mem_subtrees {r : α → α → Prop} (hrefl : ∀ a, r a a)
    (htrans : ∀ a b c, r a b → r b c → r a c)
    (h : ∀ u ∈ t.subtrees, ∀ s ∈ u.children, r u.label s.label) (hu : u ∈ t.subtrees) :
    r t.label u.label := by
  induction t using induction with
  | node a ts ih =>
    rcases mem_subtrees_iff.mp hu with rfl | ⟨s, hs, hu⟩
    · exact hrefl _
    · have hbelow := ih s hs (fun v hv ↦ h v (mem_subtrees_of_mem_children hs hv)) hu
      exact htrans _ _ _ (h _ (self_mem_subtrees _) s hs) hbelow

theorem StartsInOrder.start_le (h : t.StartsInOrder start) (hs : s ∈ t.subtrees)
    (hu : u ∈ s.subtrees) : start s.label ≤ start u.label :=
  rel_of_mem_subtrees (r := fun a b ↦ start a ≤ start b) (fun _ ↦ le_rfl) (fun _ _ _ ↦ le_trans)
    (fun v hv ↦ h.parent_le v (mem_subtrees_trans hs hv)) hu

/-- Every node of a tree lies inside the range of the root. -/
theorem Nested.within (h : t.Nested start stop) (hu : u ∈ t.subtrees) :
    start t.label ≤ start u.label ∧ stop u.label ≤ stop t.label :=
  rel_of_mem_subtrees (r := fun a b ↦ start a ≤ start b ∧ stop b ≤ stop a)
    (fun _ ↦ ⟨le_rfl, le_rfl⟩) (fun _ _ _ hab hbc ↦ ⟨hab.1.trans hbc.1, hbc.2.trans hab.2⟩)
    h.inside hu

theorem WellNested.child (h : t.WellNested start stop) (hs : s ∈ t.children) :
    s.WellNested start stop where
  inside u hu := h.inside u (mem_subtrees_of_mem_children hs hu)
  inOrder u hu := h.inOrder u (mem_subtrees_of_mem_children hs hu)
  start_le_stop u hu := h.start_le_stop u (mem_subtrees_of_mem_children hs hu)

/-- Ranges of which each starts behind the one before it start behind all that are before them. -/
theorem pairwise_of_isChain {ts : List (Tree α)}
    (hforward : ∀ s ∈ ts, start s.label ≤ stop s.label)
    (h : ts.IsChain fun s s' ↦ stop s.label ≤ start s'.label) :
    ts.Pairwise fun s s' ↦ stop s.label ≤ start s'.label := by
  induction ts with
  | nil => exact .nil
  | cons s ts ih =>
    cases ts with
    | nil => exact List.pairwise_singleton _ _
    | cons next ts =>
      obtain ⟨hnext, hrest⟩ := List.isChain_cons_cons.mp h
      obtain ⟨-, hforward⟩ := List.forall_mem_cons.mp hforward
      have hlater := ih hforward hrest
      refine List.pairwise_cons.mpr ⟨?_, hlater⟩
      rw [List.forall_mem_cons]
      refine ⟨hnext, ?_⟩
      intro s' hs'
      calc stop s.label ≤ start next.label := hnext
        _ ≤ stop next.label := hforward next List.mem_cons_self
        _ ≤ start s'.label := List.rel_of_pairwise_cons hlater hs'

/-- In pre-order the starts of nested ranges never decrease: below one root they are behind its
start, and what stands below a child is behind all that stands below the children to its left. -/
theorem WellNested.pairwise_subtrees (h : t.WellNested start stop) :
    t.subtrees.Pairwise fun u v ↦ start u.label ≤ start v.label := by
  induction t using induction with
  | node a ts ih =>
    rw [subtrees, List.pairwise_cons]
    constructor
    · intro u hu
      refine (h.within ?_).1
      rw [subtrees]
      exact List.mem_cons_of_mem _ hu
    · have hroot := self_mem_subtrees (node a ts)
      have hchildren : ts.Pairwise fun s s' ↦ stop s.label ≤ start s'.label := by
        refine pairwise_of_isChain ?_ (h.inOrder _ hroot)
        intro s hs
        exact (h.child hs).start_le_stop s s.self_mem_subtrees
      rw [forestSubtrees_eq_flatMap, List.pairwise_flatMap]
      refine ⟨fun s hs ↦ ih s hs (h.child hs), hchildren.imp_of_mem ?_⟩
      intro s s' hs hs' hstop u hu v hv
      calc start u.label ≤ stop u.label := (h.child hs).start_le_stop u hu
        _ ≤ stop s.label := ((h.child hs).within hu).2
        _ ≤ start s'.label := hstop
        _ ≤ start v.label := ((h.child hs').within hv).1

end Tree

open ClientBoundary.Tree

/-! ### Nodes of statements -/

section StatementNodes

variable {bytes : Bytes} {raw : ParseTree} {program first : CodeTree}

/-- The nodes of a converted tree start where those of the parse tree do. -/
theorem CodeTree.map_first_subtrees (h : CodeTree.ofParseTree bytes raw = .ok program) :
    program.subtrees.map (fun u ↦ u.label.first) = raw.subtrees.map fun u ↦ u.label.first := by
  obtain ⟨⟨program, next⟩, hnumber, rfl⟩ := map_eq_ok_iff.mp h
  rw [← List.forall₂_eq_eq_eq, List.forall₂_map_left_iff, List.forall₂_map_right_iff]
  exact (forall₂_takesOver raw _ _ _ _ hnumber).imp fun _ _ hover ↦ hover.first

/-- The nodes of the statements of a module are some of its nodes, in pre-order. -/
theorem CodeTree.statementNodes_sublist (program : CodeTree) :
    (program.statements.flatMap subtrees).Sublist program.subtrees := by
  obtain ⟨n, ts⟩ := program
  rw [subtrees, forestSubtrees_eq_flatMap]
  exact (List.filter_sublist.flatMap subtrees).cons _

/-- Points are in the order of their rows, and in one row in that of their columns. -/
def Point.inOrder (p : Point) : ℕ ×ₗ ℕ :=
  toLex (p.row, p.column)

/-- Along the nodes of the statements of a module the points where they start never decrease. -/
theorem pairwise_statementNodes
    (hnested : raw.WellNested (fun n ↦ n.first.inOrder) (fun n ↦ n.last.inOrder))
    (h : CodeTree.ofParseTree bytes raw = .ok program) :
    (program.statements.flatMap subtrees).Pairwise
      fun u v ↦ u.label.first.inOrder ≤ v.label.first.inOrder := by
  refine List.Pairwise.sublist program.statementNodes_sublist ?_
  have hraw : (raw.subtrees.map fun u ↦ u.label.first).Pairwise
      fun p q ↦ p.inOrder ≤ q.inOrder := List.pairwise_map.mpr hnested.pairwise_subtrees
  rwa [← CodeTree.map_first_subtrees h, List.pairwise_map] at hraw

/-- No node of a statement starts before the first statement does. -/
theorem start_le_of_mem_statementNodes
    (horder : program.StartsInOrder fun n ↦ n.span.start)
    (hfirst : program.statements.head? = some first) :
    ∀ u ∈ program.statements.flatMap subtrees, first.label.span.start ≤ u.label.span.start := by
  intro u hu
  obtain ⟨s, hs, hu⟩ := List.mem_flatMap.mp hu
  have hchild := (CodeTree.mem_statements_iff.mp hs).1
  have hstatements : program.statements.Pairwise
      fun s s' ↦ s.label.span.start ≤ s'.label.span.start :=
    (horder.sibling_le _ program.self_mem_subtrees).sublist List.filter_sublist
  have hle : first.label.span.start ≤ s.label.span.start := by
    obtain ⟨rest, hcons⟩ := List.head?_eq_some_iff.mp hfirst
    rw [hcons] at hs hstatements
    rcases List.mem_cons.mp hs with rfl | hs
    · exact le_rfl
    · exact List.rel_of_pairwise_cons hstatements hs
  exact hle.trans
    (horder.start_le (mem_subtrees_of_mem_children hchild s.self_mem_subtrees) hu)

end StatementNodes

/-! ### Diagnostics -/

theorem toLex_succ_le_iff {p q : Point} :
    toLex (p.row + 1, p.column + 1) ≤ toLex (q.row + 1, q.column + 1) ↔ p.inOrder ≤ q.inOrder := by
  simp only [Point.inOrder, Prod.Lex.toLex_le_toLex]
  omega

/-- The diagnostics of a module tell of the nodes of its statements that introduce a feature. -/
theorem forall₂_reports_lintProgram {filename : String} {options : LintOptions}
    {program : CodeTree} (hne : lintProgram filename options program ≠ []) :
    List.Forall₂ Reports ((program.statements.flatMap subtrees).filter Feature.isAt)
      (lintProgram filename options program) := by
  obtain ⟨suggestion, fix, hlint⟩ := exists_lintProgram_eq filename options program none
  rw [hlint] at hne ⊢
  split_ifs at hne ⊢
  · exact absurd rfl hne
  · rw [features_classify]
    exact forall₂_reports _ suggestion fix

theorem fixSource_nil (bytes : Bytes) : fixSource bytes [] = bytes := by
  simp [fixSource, Edit.applyAll]

theorem sublist_withDirective (bytes : Bytes) (offset : Nat) :
    bytes.Sublist (withDirective bytes offset) := by
  rw [withDirective, List.append_assoc]
  nth_rewrite 1 [← List.take_append_drop offset bytes]
  exact (List.Sublist.refl _).append (List.sublist_append_right _ _)

section LintSource

variable {parser : Parser} {environment : Environment} {bytes : Bytes} {filename : String}
  {options : LintOptions} {language : Option String} {diagnostics : List Diagnostic}

/-- **Diagnostics come in document order.** If the ranges of the nodes nest in the tree that the
parser gives for a source, in the order of rows and columns, and no node ends before it starts, the
diagnostics of the source are sorted by line and column. -/
theorem lintSource_inDocumentOrder
    (hnested : ∀ grammar raw, lintGrammar environment filename language = .ok grammar →
      parser grammar bytes = some raw →
      raw.WellNested (fun n ↦ n.first.inOrder) (fun n ↦ n.last.inOrder))
    (hlint : lintSource parser environment bytes filename options language = .ok diagnostics) :
    diagnostics.Pairwise fun d e ↦ toLex (d.line, d.column) ≤ toLex (e.line, e.column) := by
  obtain rfl | ⟨-, grammar, program, hgrammar, hprogram, rfl⟩ := eq_nil_or_exists_lintProgram hlint
  · exact .nil
  by_cases hne : lintProgram filename options program = []
  · rw [hne]
    exact .nil
  obtain ⟨raw, hraw, -, hconverted⟩ := CodeTree.ofSource_eq_ok_iff.mp hprogram
  have hnodes : (program.statements.flatMap subtrees).Pairwise
      fun u v ↦ u.label.first.inOrder ≤ v.label.first.inOrder :=
    pairwise_statementNodes (hnested grammar raw hgrammar hraw) hconverted
  have hplaces : (lintProgram filename options program).map (fun d ↦ toLex (d.line, d.column)) =
      ((program.statements.flatMap subtrees).filter Feature.isAt).map
        fun u ↦ toLex (u.label.first.row + 1, u.label.first.column + 1) := by
    rw [eq_comm, ← List.forall₂_eq_eq_eq, List.forall₂_map_left_iff, List.forall₂_map_right_iff]
    refine (forall₂_reports_lintProgram hne).imp ?_
    rintro u d ⟨feature, -, -, -, hline, hcolumn⟩
    rw [hline, hcolumn]
  rw [← List.pairwise_map (R := (· ≤ ·)), hplaces, List.pairwise_map]
  exact (hnodes.sublist List.filter_sublist).imp toLex_succ_le_iff.mpr

end LintSource

/-! ### A module with nested features -/

/-- A module below an interpreter line: the handler of an element calls, on the next line, a hook
with a browser global. -/
def handlerText : String := "#!x\n<a onClick=\x7b\nuseX(window)\x7d />;"

namespace ParseTree

/-- A node of that module, the rows of which start at the bytes 0, 4 and 17. -/
def inHandler (rule : String) (field : Option String) (named : Bool) (start stop : Nat)
    (children : List ParseTree) : ParseTree :=
  let point (offset : Nat) : Point :=
    if offset < 4 then ⟨0, offset⟩ else if offset < 17 then ⟨1, offset - 4⟩ else ⟨2, offset - 17⟩
  .node ⟨rule, field, named, false, false, false, ⟨start, stop⟩, point start, point stop⟩ children

/-- The tree of that module. -/
def handlerModule : ParseTree :=
  let arguments := inHandler "arguments" (some "arguments") true 21 29
    [inHandler "(" none false 21 22 [], inHandler "identifier" none true 22 28 [],
      inHandler ")" none false 28 29 []]
  let call := inHandler "call_expression" none true 17 29
    [inHandler "identifier" (some "function") true 17 21 [], arguments]
  let value := inHandler "jsx_expression" none true 15 30
    [inHandler "\x7b" none false 15 16 [], call, inHandler "\x7d" none false 29 30 []]
  let handler := inHandler "jsx_attribute" (some "attribute") true 7 30
    [inHandler "property_identifier" none true 7 14 [], inHandler "=" none false 14 15 [], value]
  let element := inHandler "jsx_self_closing_element" none true 4 33
    [inHandler "<" none false 4 5 [], inHandler "identifier" (some "name") true 5 6 [], handler,
      inHandler "/" none false 31 32 [], inHandler ">" none false 32 33 []]
  inHandler "program" none true 0 34
    [inHandler "hash_bang_line" none true 0 3 [],
      inHandler "expression_statement" none true 4 34
        [element, inHandler ";" none false 33 34 []]]

end ParseTree

open ParseTree in
/-- The handler, the call in it and the global in the call are reported from top to bottom. -/
theorem lintSource_inDocumentOrder_handler :
    handlerModule.WellNested (fun n ↦ n.first.inOrder) (fun n ↦ n.last.inOrder) ∧
    ∃ diagnostics,
      lintSource (fun _ _ ↦ some handlerModule) {} (Utf8.encode handlerText) "a.tsx" {} none =
        .ok diagnostics ∧
      diagnostics.map (fun d ↦ (d.name, d.line, d.column)) =
        [("onClick", 2, 4), ("useX", 3, 1), ("window", 3, 6)] ∧
      diagnostics.Pairwise fun d e ↦ toLex (d.line, d.column) ≤ toLex (e.line, e.column) := by
  have hnested : handlerModule.WellNested (fun n ↦ n.first.inOrder) (fun n ↦ n.last.inOrder) := by
    decide +kernel
  obtain ⟨diagnostics, hlint, hplaces⟩ := exists_ok_of_toOption
    (x := lintSource (fun _ _ ↦ some handlerModule) {} (Utf8.encode handlerText) "a.tsx" {} none)
    (f := fun diagnostics ↦ diagnostics.map fun d ↦ (d.name, d.line, d.column))
    (b := [("onClick", 2, 4), ("useX", 3, 1), ("window", 3, 6)]) (by decide +kernel)
  refine ⟨hnested, diagnostics, hlint, hplaces, lintSource_inDocumentOrder ?_ hlint⟩
  intro grammar raw _ hraw
  rwa [← Option.some.inj hraw]

/-- The parse tree of a module with a statement between two others that ends before it starts, so
that the last one may stand in front of the first. -/
def ParseTree.backwardModule : ParseTree :=
  onFirstLine "program" none true 0 13
    [onFirstLine "expression_statement" none true 6 13 [identifier none "window" 6, token ";" 12],
      onFirstLine "empty_statement" none true 13 0 [],
      onFirstLine "expression_statement" none true 0 6 [identifier none "alert" 0, token ";" 5]]

open ParseTree in
/-- Where a node ends before it starts, nested ranges do not keep the diagnostics in order. -/
theorem lintSource_outOfOrder_backward :
    backwardModule.Nested (fun n ↦ n.first.inOrder) (fun n ↦ n.last.inOrder) ∧
    ∃ diagnostics,
      lintSource (fun _ _ ↦ some backwardModule) {} (Utf8.encode "alert;window;") "a.tsx" {} none =
        .ok diagnostics ∧
      diagnostics.map (fun d ↦ (d.name, d.line, d.column)) = [("window", 1, 7), ("alert", 1, 1)] ∧
      ¬ diagnostics.Pairwise fun d e ↦ toLex (d.line, d.column) ≤ toLex (e.line, e.column) := by
  obtain ⟨diagnostics, hlint, hplaces⟩ := exists_ok_of_toOption
    (x := lintSource (fun _ _ ↦ some backwardModule) {} (Utf8.encode "alert;window;") "a.tsx" {}
      none)
    (f := fun diagnostics ↦ diagnostics.map fun d ↦ (d.name, d.line, d.column))
    (b := [("window", 1, 7), ("alert", 1, 1)]) (by decide +kernel)
  refine ⟨by decide +kernel, diagnostics, hlint, hplaces, fun hsorted ↦ ?_⟩
  have hpoints : (diagnostics.map fun d ↦ (d.name, d.line, d.column)).Pairwise
      fun d e ↦ toLex d.2 ≤ toLex e.2 := List.pairwise_map.mpr hsorted
  rw [hplaces] at hpoints
  revert hpoints
  decide

section LintSource

variable {parser : Parser} {environment : Environment} {bytes : Bytes} {filename : String}
  {options : LintOptions} {language : Option String}

/-- **Fixing is one insertion before all that is reported.** Let a component file be read as a
module in which the starts of the nodes are in order, as they are when children lie in order inside
the byte ranges of their parents. Linting with fixes succeeds, and no byte of the source is lost
by applying them. Without diagnostics the source stays as it is. Otherwise the module has a first
statement, and however many diagnostics there are, the directive is inserted once where that
statement starts; none of the nodes that introduce a reported feature starts before. -/
theorem fixSource_inserts_before_features {grammar : Grammar} {program : CodeTree}
    (hfile : isComponentFile filename = true)
    (hgrammar : lintGrammar environment filename language = .ok grammar)
    (hprogram : CodeTree.ofSource parser grammar bytes = .ok program)
    (horder : program.StartsInOrder fun n ↦ n.span.start) (hfix : options.autoFix = true) :
    ∃ diagnostics,
      lintSource parser environment bytes filename options language = .ok diagnostics ∧
      bytes.Sublist (fixSource bytes diagnostics) ∧
      (diagnostics = [] → fixSource bytes diagnostics = bytes) ∧
      (diagnostics ≠ [] → ∃ first, program.statements.head? = some first ∧
        fixSource bytes diagnostics = bytes.take first.label.span.start ++
          Utf8.encode "'use client';\n" ++ bytes.drop first.label.span.start ∧
        List.Forall₂ (fun u d ↦ first.label.span.start ≤ u.label.span.start ∧ Reports u d)
          ((program.statements.flatMap subtrees).filter fun u ↦ (Feature.detect u).isSome)
          diagnostics) := by
  have hlint : lintSource parser environment bytes filename options language =
      .ok (lintProgram filename options program) := by
    rw [lintSource_eq hfile hgrammar, hprogram]
    rfl
  obtain hnil | hne := eq_or_ne (lintProgram filename options program) []
  · rw [hnil] at hlint
    refine ⟨[], hlint, ?_, fun _ ↦ fixSource_nil bytes, fun hne ↦ absurd rfl hne⟩
    rw [fixSource_nil]
  · obtain ⟨first, hfirst⟩ := exists_first_of_lintProgram hne
    have hfixed := fixSource_lintProgram hfix hfirst hne bytes
    refine ⟨_, hlint, ?_, fun hnil ↦ absurd hnil hne, fun _ ↦ ⟨first, hfirst, hfixed, ?_⟩⟩
    · rw [hfixed]
      exact sublist_withDirective bytes first.label.span.start
    · refine (List.forall₂_and_left _ _).mpr ⟨?_, forall₂_reports_lintProgram hne⟩
      intro u hu
      exact start_le_of_mem_statementNodes horder hfirst u (List.mem_of_mem_filter hu)

end LintSource

open ParseTree in
/-- For three diagnostics one directive is inserted, behind the interpreter line. -/
theorem fixSource_inserts_before_features_handler :
    ∃ program diagnostics,
      CodeTree.ofSource (fun _ _ ↦ some handlerModule) .tsx (Utf8.encode handlerText) =
        .ok program ∧
      program.StartsInOrder (fun n ↦ n.span.start) ∧
      lintSource (fun _ _ ↦ some handlerModule) {} (Utf8.encode handlerText) "a.tsx"
        { autoFix := true } none = .ok diagnostics ∧
      diagnostics.length = 3 ∧
      fixSource (Utf8.encode handlerText) diagnostics =
        Utf8.encode "#!x\n'use client';\n<a onClick=\x7b\nuseX(window)\x7d />;" := by
  have hfile : isComponentFile "a.tsx" = true := by decide +kernel
  have hgrammar : lintGrammar {} "a.tsx" none = .ok .tsx := by decide +kernel
  have hfix : LintOptions.autoFix { autoFix := true } = true := rfl
  obtain ⟨program, hprogram, hvalues⟩ := exists_ok_of_toOption
    (x := CodeTree.ofSource (fun _ _ ↦ some handlerModule) .tsx (Utf8.encode handlerText))
    (f := fun program : CodeTree ↦ (program.statements.head?.map fun s ↦ s.label.span.start,
      decide (program.StartsInOrder fun n : Node ↦ n.span.start)))
    (b := (some (4 : Nat), true)) (by decide +kernel)
  obtain ⟨hstart, horder⟩ := Prod.mk.inj hvalues
  have horder := of_decide_eq_true horder
  obtain ⟨diagnostics, hlint, hlength⟩ := exists_ok_of_toOption
    (x := lintSource (fun _ _ ↦ some handlerModule) {} (Utf8.encode handlerText) "a.tsx"
      { autoFix := true } none) (f := List.length) (b := 3) (by decide +kernel)
  obtain ⟨found, hfound, -, -, hisFixed⟩ :=
    fixSource_inserts_before_features hfile hgrammar hprogram horder hfix
  obtain rfl : diagnostics = found := Except.ok.inj (hlint.symm.trans hfound)
  have hne : diagnostics ≠ [] := by
    rintro rfl
    cases hlength
  obtain ⟨first, hfirst, hfixed, -⟩ := hisFixed hne
  rw [hfirst, Option.map_some, Option.some.injEq] at hstart
  refine ⟨program, diagnostics, hprogram, horder, hlint, hlength, ?_⟩
  rw [hfixed, hstart]
  decide +kernel

end ClientBoundary
