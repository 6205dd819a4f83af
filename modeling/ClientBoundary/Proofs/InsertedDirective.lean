import ClientBoundary.Proofs.LintAgreement
import ClientBoundary.Proofs.Utf8

/-!
# The directive where the linter inserts it

The problems of a source share one fix, the directive in front of the first statement. Applied
once, it gives a source in which the parser is assumed to see the directive as a string of its own.
The text of that string is what stands between its quotes, so the fixed source carries the
directive and has no problems left.

## Main definitions

* `withDirective`: the bytes of a source with the directive inserted.
* `AcceptsDirective`: a parser sees the directive that is inserted before the first statement.
* `StartsAtCharacters`: a parser lets no first statement start inside a character.

## Main results

* `CodeTree.nodeText_of_ofSource`: the text of a node is the one that its span covers.
* `fixSource_lintProgram`: fixing a source inserts the directive once.
* `lintSource_fixed`: a fixed source is text and has no problems.
-/

namespace ClientBoundary

open ClientBoundary.Tree

/-! ### Texts of nodes -/

namespace CodeTree

/-- What holds of each node as it is converted holds of all nodes of a converted tree. -/
theorem forall_mem_number {bytes : Bytes} (property : Node → Prop)
    (hnode : ∀ inName id raw ts text,
      nodeText bytes (NodeKind.ofRaw inName raw ts) raw.span = .ok text →
      property (raw.toNode id (NodeKind.ofRaw inName raw ts) text)) (raw : ParseTree) :
    ∀ inName id t next, number bytes inName id raw = .ok (t, next) →
      ∀ u ∈ t.subtrees, property u.label := by
  refine number_induction (fun _ _ _ t _ ↦ ∀ u ∈ t.subtrees, property u.label)
    (fun _ _ _ ts _ ↦ ∀ u ∈ forestSubtrees ts, property u.label) ?_ ?_ ?_ raw
  · intro inName id raw raws text ts next htext hbelow
    rw [subtrees, List.forall_mem_cons]
    exact ⟨hnode inName id raw raws text htext, hbelow⟩
  · intro inName id u hu
    cases hu
  · intro inName id middle next raw raws t ts hfirst hrest
    rw [forestSubtrees, List.forall_mem_append]
    exact ⟨hfirst, hrest⟩

theorem rule_of_ofRaw_eq_string {inName : Bool} {raw : RawNode} {ts : List ParseTree}
    (h : NodeKind.ofRaw inName raw ts = .string) : raw.rule = "string" := by
  unfold NodeKind.ofRaw at h
  split at h
  · cases h
  split at h
  · cases h
  -- Of the rules in the table only one gives this kind.
  split at h
  case h_9 hrule => exact hrule
  case h_3 => split_ifs at h
  all_goals cases h

/-- The text of a node is the one that its kind and its span say, and only strings have the kind of
strings. -/
theorem nodeText_of_ofSource {parser : Parser} {grammar : Grammar} {bytes : Bytes}
    {program u : CodeTree} (h : ofSource parser grammar bytes = .ok program)
    (hu : u ∈ program.subtrees) :
    nodeText bytes u.label.kind u.label.span = .ok u.label.text ∧
      (u.label.kind = .string → u.label.rule = "string") := by
  obtain ⟨raw, -, -, hprogram⟩ := ofSource_eq_ok_iff.mp h
  obtain ⟨⟨t, next⟩, hnumber, rfl⟩ := map_eq_ok_iff.mp hprogram
  refine forall_mem_number (fun n ↦ nodeText bytes n.kind n.span = .ok n.text ∧
    (n.kind = .string → n.rule = "string")) ?_ raw _ _ _ _ hnumber u hu
  intro inName id raw ts text htext
  exact ⟨htext, rule_of_ofRaw_eq_string⟩

/-! ### Seeing the directive -/

theorem firstInside?_eq (ts : List CodeTree) :
    firstInside? ts = (ts.find? (·.label.named)).bind insideParentheses? := by
  induction ts with
  | nil => rfl
  | cons t ts ih =>
    rw [firstInside?, List.find?_cons, ih]
    cases t.label.named with
    | true => rfl
    | false => rfl

theorem insideParentheses?_eq_self {t : CodeTree}
    (h : t.label.rule ≠ "parenthesized_expression") : insideParentheses? t = some t := by
  obtain ⟨n, ts⟩ := t
  have hrule : ¬ (n.rule == "parenthesized_expression") = true := by
    rw [beq_iff_eq]
    exact h
  rw [insideParentheses?, if_neg hrule]

end CodeTree

/-! ### Inserting the directive -/

/-- The bytes with the directive inserted at an offset. -/
def withDirective (bytes : Bytes) (offset : Nat) : Bytes :=
  bytes.take offset ++ Utf8.encode "'use client';\n" ++ bytes.drop offset

theorem slice_append (before middle after : Bytes) :
    (before ++ middle ++ after).slice before.length (before.length + middle.length) = middle := by
  rw [Bytes.slice, ← List.length_append, List.take_left, List.drop_left]

/-- Each piece of the directive is found behind the pieces before it. -/
theorem slice_withDirective {left middle right : Bytes}
    (h : Utf8.encode "'use client';\n" = left ++ middle ++ right) (bytes : Bytes) (offset : Nat) :
    (withDirective bytes offset).slice (min offset bytes.length + left.length)
      (min offset bytes.length + left.length + middle.length) = middle := by
  have hstart : (bytes.take offset ++ left).length = min offset bytes.length + left.length := by
    rw [List.length_append, List.length_take]
  have hwhole : withDirective bytes offset =
      bytes.take offset ++ left ++ middle ++ (right ++ bytes.drop offset) := by
    rw [withDirective, h]
    simp only [List.append_assoc]
  rw [hwhole, ← hstart]
  exact slice_append _ _ _

/-- Between the quotes of the directive stands its value. -/
theorem text_withDirective (bytes : Bytes) (offset : Nat) :
    Span.text ⟨min offset bytes.length + 1, min offset bytes.length + 11⟩
      (withDirective bytes offset) = .ok clientDirective := by
  have hpieces : Utf8.encode "'use client';\n" =
      Utf8.encode "'" ++ Utf8.encode clientDirective ++ Utf8.encode "';\n" := by decide +kernel
  have hslice : (withDirective bytes offset).slice (min offset bytes.length + 1)
      (min offset bytes.length + 11) = Utf8.encode clientDirective :=
    slice_withDirective hpieces bytes offset
  rw [Span.text, hslice]
  decide +kernel

/-- At the border of two characters the directive can be inserted into a text. -/
theorem exists_decode_withDirective {bytes : Bytes} {offset : Nat} {text before : String}
    (htext : Utf8.decode bytes = .ok text)
    (hbefore : Utf8.decode (bytes.take offset) = .ok before) :
    ∃ fixed, Utf8.decode (withDirective bytes offset) = .ok fixed := by
  have hafter : ∃ after, Utf8.decode (bytes.drop offset) = .ok after := by
    rw [← Utf8.decode_append_iff hbefore, List.take_append_drop]
    exact ⟨text, htext⟩
  have hliteral : Utf8.decode (Utf8.encode "'use client';\n") = .ok "'use client';\n" := by
    decide +kernel
  rw [withDirective, List.append_assoc, Utf8.decode_append_iff hbefore,
    Utf8.decode_append_iff hliteral]
  exact hafter

/-- Edits that are all the same are applied once. -/
theorem Edit.applyAll_eq_apply {edit : Edit} {edits : List Edit} (hne : edits ≠ [])
    (hall : ∀ e ∈ edits, e = edit) (bytes : Bytes) : applyAll bytes edits = edit.apply bytes := by
  cases edits with
  | nil => exact absurd rfl hne
  | cons first rest =>
    obtain rfl := hall first List.mem_cons_self
    have hrest : rest.filter (fun e ↦ !e == first) = [] := by
      rw [List.filter_eq_nil_iff]
      intro e he
      simp [hall e (List.mem_cons_of_mem first he)]
    rw [applyAll, List.eraseDups_cons, hrest, List.eraseDups_nil, List.mergeSort_singleton]
    rfl

/-- The fix of a module inserts the directive where its first statement starts. -/
theorem apply_directiveEdit {program first : CodeTree} (h : program.statements.head? = some first)
    (bytes : Bytes) :
    (directiveEdit program).apply bytes = withDirective bytes first.label.span.start := by
  have htext : s!"'{clientDirective}';\n" = "'use client';\n" := by decide +kernel
  rw [directiveEdit, h, htext]
  simp only [Option.map_some, Option.getD_some, Edit.apply, offsetOf_natCast, withDirective]
  rw [← List.take_eq_take_min, ← List.drop_eq_drop_min]

/-! ### Fixed modules -/

/-- A module with a problem has a first statement. -/
theorem exists_first_of_lintProgram {filename : String} {options : LintOptions}
    {program : CodeTree} (h : lintProgram filename options program ≠ []) :
    ∃ first, program.statements.head? = some first := by
  obtain ⟨suggestion, fix, hlint⟩ := exists_lintProgram_eq filename options program none
  cases hstatements : program.statements with
  | nil => simp [hlint, features_classify, hstatements] at h
  | cons first rest => exact ⟨first, rfl⟩

/-- Fixing a module with problems inserts the directive once. -/
theorem fixSource_lintProgram {filename : String} {options : LintOptions}
    {program first : CodeTree} (hfix : options.autoFix = true)
    (hfirst : program.statements.head? = some first)
    (hne : lintProgram filename options program ≠ []) (bytes : Bytes) :
    fixSource bytes (lintProgram filename options program) =
      withDirective bytes first.label.span.start := by
  have hcarries : ∀ d ∈ lintProgram filename options program,
      d.fix = some (directiveEdit program) := by
    intro d hd
    simp only [lintProgram, hfix, if_true] at hd
    split_ifs at hd
    · cases hd
    all_goals
      obtain ⟨feature, -, rfl⟩ := List.mem_map.mp hd
      rfl
  rw [← apply_directiveEdit hfirst, fixSource]
  apply Edit.applyAll_eq_apply
  · obtain ⟨d, hd⟩ := List.exists_mem_of_ne_nil _ hne
    exact List.ne_nil_of_mem (List.mem_filterMap.mpr ⟨d, hd, hcarries d hd⟩)
  · intro edit hedit
    obtain ⟨d, hd, hsome⟩ := List.mem_filterMap.mp hedit
    exact Option.some.inj (hsome.symm.trans (hcarries d hd))

/-- A parser sees the directive that is inserted before the first statement: whenever it accepts a
source, it accepts the source with the directive, and the first statement then is an expression
whose first named child is the string that covers the inserted literal. -/
def AcceptsDirective (parser : Parser) : Prop :=
  ∀ grammar bytes program first, CodeTree.ofSource parser grammar bytes = .ok program →
    program.statements.head? = some first →
    ∃ fixed statement literal,
      CodeTree.ofSource parser grammar (withDirective bytes first.label.span.start) = .ok fixed ∧
      fixed.statements.head? = some statement ∧
      statement.label.kind = .expressionStatement ∧
      statement.firstNamedChild? = some literal ∧ literal.label.kind = .string ∧
      literal.label.span = ⟨min first.label.span.start bytes.length,
        min first.label.span.start bytes.length + 12⟩

/-- A parser lets no first statement of a text start inside a character. -/
def StartsAtCharacters (parser : Parser) : Prop :=
  ∀ grammar bytes program first, (∃ text, Utf8.decode bytes = .ok text) →
    CodeTree.ofSource parser grammar bytes = .ok program →
    program.statements.head? = some first →
    ∃ before, Utf8.decode (bytes.take first.label.span.start) = .ok before

/-- A string that covers the inserted literal makes its statement the directive. -/
theorem hasDirective_of_inserted {parser : Parser} {grammar : Grammar} {bytes : Bytes}
    {offset : Nat} {fixed statement literal : CodeTree}
    (hisFixed : CodeTree.ofSource parser grammar (withDirective bytes offset) = .ok fixed)
    (hstatement : fixed.statements.head? = some statement)
    (hkind : statement.label.kind = .expressionStatement)
    (hliteral : statement.firstNamedChild? = some literal)
    (hstring : literal.label.kind = .string)
    (hspan : literal.label.span = ⟨min offset bytes.length, min offset bytes.length + 12⟩) :
    fixed.hasDirective = true := by
  have hchild := (CodeTree.mem_statements_iff.mp (List.mem_of_head? hstatement)).1
  have hmem : literal ∈ fixed.subtrees := mem_subtrees_of_mem_children hchild
    (mem_subtrees_of_mem_children (List.mem_of_find?_eq_some hliteral) literal.self_mem_subtrees)
  obtain ⟨htext, hrule⟩ := CodeTree.nodeText_of_ofSource hisFixed hmem
  have hvalue : literal.label.text = some clientDirective := by
    rw [hstring, hspan] at htext
    simp only [nodeText] at htext
    rw [if_pos (by omega), Nat.add_sub_assoc (by omega), text_withDirective] at htext
    exact (Except.ok.inj htext).symm
  have hinside : CodeTree.firstInside? statement.children = some literal := by
    rw [CodeTree.firstInside?_eq]
    have hfound : statement.children.find? (·.label.named) = some literal := hliteral
    have hplain : literal.label.rule ≠ "parenthesized_expression" := by
      rw [hrule hstring]
      decide
    rw [hfound, Option.bind_some, CodeTree.insideParentheses?_eq_self hplain]
  have hdenotes : StringLiteral.denotes clientDirective clientDirective = true := by decide +kernel
  simp [CodeTree.hasDirective, hstatement, CodeTree.isDirective, hkind, hinside, hstring, hvalue,
    hdenotes]

/-! ### Fixed sources -/

section FixedSource

variable {parser : Parser} {environment : Environment} {bytes : Bytes} {filename : String}
  {options : LintOptions} {language : Option String} {diagnostics : List Diagnostic}

/-- What is added to diagnostics does not matter where there are none. -/
theorem lintSource_eq_nil_congr
    (h : lintSource parser environment bytes filename options language = .ok [])
    (other : LintOptions) :
    lintSource parser environment bytes filename other language = .ok [] := by
  unfold lintSource at h ⊢
  split_ifs at h ⊢
  · simp only [bind_eq_ok_iff, pure_eq_ok_iff] at h ⊢
    obtain ⟨grammar, hgrammar, program, hprogram, hnil⟩ := h
    have hneeds : (classify program none).analysis.needsDirective = false :=
      lintProgram_eq_nil_iff.mp hnil
    exact ⟨grammar, hgrammar, program, hprogram, lintProgram_eq_nil_iff.mpr hneeds⟩
  · rfl

/-- Fixing a source with problems inserts the directive before its first statement, and gives a
text that has no problems. -/
theorem lintSource_fixed (hparser : AcceptsDirective parser)
    (hboundary : StartsAtCharacters parser) (htext : ∃ text, Utf8.decode bytes = .ok text)
    (hfix : options.autoFix = true)
    (hlint : lintSource parser environment bytes filename options language = .ok diagnostics)
    (hne : diagnostics ≠ []) :
    ∃ grammar program first,
      lintGrammar environment filename language = .ok grammar ∧
      CodeTree.ofSource parser grammar bytes = .ok program ∧
      program.statements.head? = some first ∧
      fixSource bytes diagnostics = withDirective bytes first.label.span.start ∧
      (∃ text, Utf8.decode (withDirective bytes first.label.span.start) = .ok text) ∧
      ∀ other, lintSource parser environment (withDirective bytes first.label.span.start) filename
        other language = .ok [] := by
  obtain rfl | ⟨hfile, grammar, program, hgrammar, hprogram, rfl⟩ :=
    eq_nil_or_exists_lintProgram hlint
  · exact absurd rfl hne
  obtain ⟨first, hfirst⟩ := exists_first_of_lintProgram hne
  obtain ⟨text, htext⟩ := htext
  obtain ⟨before, hbefore⟩ := hboundary grammar bytes program first ⟨text, htext⟩ hprogram hfirst
  obtain ⟨fixed, statement, literal, hisFixed, hstatement, hkind, hliteral, hstring, hspan⟩ :=
    hparser grammar bytes program first hprogram hfirst
  have hdirective :=
    hasDirective_of_inserted hisFixed hstatement hkind hliteral hstring hspan
  refine ⟨grammar, program, first, hgrammar, hprogram, hfirst,
    fixSource_lintProgram hfix hfirst hne bytes, exists_decode_withDirective htext hbefore, ?_⟩
  intro other
  rw [lintSource_eq hfile hgrammar, hisFixed]
  simp [Except.map, lintProgram, hdirective]

end FixedSource

end ClientBoundary
