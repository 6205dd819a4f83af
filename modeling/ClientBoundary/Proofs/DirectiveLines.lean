import ClientBoundary.Proofs.InsertedDirective

/-!
# Sources with directives on lines of their own

Some lines that each hold the directive, in front of one last statement that names a browser global:
inserting the directive before the first statement of such a source gives another one. What stands
in front of the first line need not end with a character, so the last statement may begin in the
middle of one.

## Main definitions

* `DirectiveLines.source`, `DirectiveLines.parser`: the bytes of such a source, and a parser that
  knows all sources with the same beginning and the same last statement.

## Main results

* `DirectiveLines.acceptsDirective`: the parser sees the directive that is inserted.
* `DirectiveLines.startsAtCharacters`: sources with nothing in front start at a character.
-/

namespace ClientBoundary

namespace DirectiveLines

open ParseTree

/-- A line that holds the directive. -/
def directiveLine : Bytes :=
  Utf8.encode "'use client';\n"

/-- The bytes `front`, some directives on lines of their own, and the last statement. -/
def source (front last : Bytes) (lines : Nat) : Bytes :=
  front ++ (List.replicate lines directiveLine).flatten ++ last

/-- A node without fault on a line that begins at the byte `lineStart`. -/
def onRow (row lineStart : Nat) (rule : String) (named : Bool) (start stop : Nat)
    (children : List ParseTree) : ParseTree :=
  .node ⟨rule, none, named, false, false, false, ⟨start, stop⟩, ⟨row, start - lineStart⟩,
    ⟨row, stop - lineStart⟩⟩ children

/-- The tree of a directive that starts at `start`. -/
def directiveTree (row lineStart start : Nat) : ParseTree :=
  onRow row lineStart "expression_statement" true start (start + 13)
    [onRow row lineStart "string" true start (start + 12)
      [onRow row lineStart "'" false start (start + 1) [],
        onRow row lineStart "string_fragment" true (start + 1) (start + 11) [],
        onRow row lineStart "'" false (start + 11) (start + 12) []],
      onRow row lineStart ";" false (start + 12) (start + 13) []]

/-- The tree of a statement of `size` bytes that starts at `start` and ends in `window;`. -/
def windowTree (row lineStart start size : Nat) : ParseTree :=
  onRow row lineStart "expression_statement" true start (start + size)
    [onRow row lineStart "identifier" true (start + size - 7) (start + size - 1) [],
      onRow row lineStart ";" false (start + size - 1) (start + size) []]

/-- The trees of some directives on lines of their own and the last statement. -/
def trees (size row lineStart start : Nat) : (lines : Nat) → List ParseTree
  | 0 => [windowTree row lineStart start size]
  | lines + 1 =>
    directiveTree row lineStart start :: trees size (row + 1) (start + 14) (start + 14) lines

/-- The tree of a source. -/
def tree (front last : Bytes) (lines : Nat) : ParseTree :=
  .node ⟨"program", none, true, false, false, false, ⟨0, (source front last lines).length⟩, ⟨0, 0⟩,
    ⟨lines, if lines = 0 then front.length + last.length else last.length⟩⟩
    (trees last.length 0 0 front.length lines)

/-- A parser that knows all sources with the same beginning and the same last statement. -/
def parser (front last : Bytes) : Parser := fun _ bytes ↦
  ((List.range (bytes.length + 1)).find? fun lines ↦ source front last lines = bytes).map
    (tree front last)

/-! ### The sources that the parser knows -/

section Sources

variable {front last : Bytes}

theorem length_directiveLine : directiveLine.length = 14 := by decide +kernel

theorem length_source (front last : Bytes) (lines : Nat) :
    (source front last lines).length = front.length + 14 * lines + last.length := by
  simp [source, length_directiveLine]
  omega

theorem source_succ (front last : Bytes) (lines : Nat) :
    source front last (lines + 1) = source (front ++ directiveLine) last lines := by
  simp [source, List.replicate_succ]

theorem parser_source (grammar : Grammar) (lines : Nat) :
    parser front last grammar (source front last lines) = some (tree front last lines) := by
  have hfind : (List.range ((source front last lines).length + 1)).find?
      (fun other ↦ source front last other = source front last lines) = some lines := by
    rw [List.find?_range_eq_some]
    refine ⟨by simp, ?_, fun other hother ↦ ?_⟩
    · rw [List.mem_range, length_source]
      omega
    · have hne : source front last other ≠ source front last lines := by
        intro heq
        have hlength := congrArg List.length heq
        rw [length_source, length_source] at hlength
        omega
      simp [hne]
  rw [parser, hfind, Option.map_some]

theorem exists_lines_of_parsed {grammar : Grammar} {bytes : Bytes} {raw : ParseTree}
    (h : parser front last grammar bytes = some raw) :
    ∃ lines, bytes = source front last lines ∧ raw = tree front last lines := by
  obtain ⟨lines, hfind, rfl⟩ := Option.map_eq_some_iff.mp h
  have hsource := List.find?_some hfind
  exact ⟨lines, (of_decide_eq_true hsource).symm, rfl⟩

/-- Inserting the directive gives a source with one line more. -/
theorem withDirective_source (front last : Bytes) (lines : Nat) :
    withDirective (source front last lines) front.length = source front last (lines + 1) := by
  rw [withDirective, source, List.append_assoc front, List.take_left, List.drop_left, source,
    List.replicate_succ, List.flatten_cons]
  simp only [directiveLine, List.append_assoc]

end Sources

/-! ### Conversion of the trees -/

/-- A directive is converted to an expression statement around its string. -/
theorem exists_number_directiveTree {bytes : Bytes} {start : Nat}
    (htext : Span.text ⟨start + 1, start + 11⟩ bytes = .ok clientDirective)
    (row lineStart id : Nat) :
    ∃ statement literal : CodeTree,
      CodeTree.number bytes false id (directiveTree row lineStart start) =
        .ok (statement, id + 6) ∧
      statement.label.named = true ∧ statement.label.kind = .expressionStatement ∧
      statement.label.span.start = start ∧
      statement.firstNamedChild? = some literal ∧ literal.label.kind = .string ∧
      literal.label.span = ⟨start, start + 12⟩ := by
  simp [directiveTree, onRow, CodeTree.number_eq_ok_iff, CodeTree.numberForest_cons_eq_ok_iff,
    CodeTree.numberForest_nil, NodeKind.ofRaw, isIdentifierRule, nodeText, htext, RawNode.toNode,
    CodeTree.firstNamedChild?, Tree.label, Tree.children, Except.map]

/-- The last statement is converted. -/
theorem exists_number_windowTree {bytes : Bytes} {start size : Nat} {name : String}
    (htext : Span.text ⟨start + size - 7, start + size - 1⟩ bytes = .ok name)
    (row lineStart id : Nat) :
    ∃ statement : CodeTree,
      CodeTree.number bytes false id (windowTree row lineStart start size) =
        .ok (statement, id + 3) ∧
      statement.label.named = true ∧ statement.label.kind = .expressionStatement ∧
      statement.label.span.start = start := by
  simp [windowTree, onRow, CodeTree.number_eq_ok_iff, CodeTree.numberForest_cons_eq_ok_iff,
    CodeTree.numberForest_nil, NodeKind.ofRaw, namesElement, isTagRule, isIdentifierRule, nodeText,
    htext, RawNode.toNode, Tree.label, Except.map]

/-- What a span within the last statement covers. -/
theorem text_append_right (front last : Bytes) (start stop : Nat) :
    Span.text ⟨front.length + start, front.length + stop⟩ (front ++ last) =
      Span.text ⟨start, stop⟩ last := by
  rw [Span.text, Span.text, Bytes.slice, Bytes.slice, List.take_length_add_append,
    List.drop_length_add_append]

/-- All statements of a source are converted, from any of its lines on. The first one starts where
the line does, and it is a directive unless it is the last one. -/
theorem exists_numberForest_trees {last : Bytes} {name : String} (hname : 7 ≤ last.length)
    (hlast : Span.text ⟨last.length - 7, last.length - 1⟩ last = .ok name) (lines : Nat) :
    ∀ (front : Bytes) (row lineStart id : Nat), ∃ (statement : CodeTree) (rest : List CodeTree)
      (next : Nat),
      CodeTree.numberForest (source front last lines) (namesElement false "program") id
        (trees last.length row lineStart front.length lines) = .ok (statement :: rest, next) ∧
      statement.label.named = true ∧ statement.label.kind = .expressionStatement ∧
      statement.label.span.start = front.length ∧
      (lines ≠ 0 → ∃ literal, statement.firstNamedChild? = some literal ∧
        literal.label.kind = .string ∧
        literal.label.span = ⟨front.length, front.length + 12⟩) := by
  induction lines with
  | zero =>
    intro front row lineStart id
    have htext := (text_append_right front last (last.length - 7) (last.length - 1)).trans hlast
    rw [← Nat.add_sub_assoc hname, ← Nat.add_sub_assoc (by omega)] at htext
    obtain ⟨statement, hstatement, hnamed, hkind, hstart⟩ :=
      exists_number_windowTree htext row lineStart id
    refine ⟨statement, [], id + 3, ?_, hnamed, hkind, hstart, by simp⟩
    rw [source, List.replicate_zero, List.flatten_nil, List.append_nil]
    exact CodeTree.numberForest_cons_eq_ok_iff.mpr
      ⟨statement, id + 3, [], hstatement, CodeTree.numberForest_nil, rfl⟩
  | succ lines ih =>
    intro front row lineStart id
    have htext := text_withDirective (source front last lines) front.length
    rw [withDirective_source, Nat.min_eq_left (by rw [length_source]; omega)] at htext
    obtain ⟨statement, literal, hstatement, hnamed, hkind, hstart, hliteral⟩ :=
      exists_number_directiveTree htext row lineStart id
    obtain ⟨later, rest, next, hrest, -⟩ :=
      ih (front ++ directiveLine) (row + 1) (front.length + 14) (id + 6)
    rw [← source_succ, List.length_append, length_directiveLine] at hrest
    refine ⟨statement, later :: rest, next, ?_, hnamed, hkind, hstart, fun _ ↦ ⟨literal, hliteral⟩⟩
    exact CodeTree.numberForest_cons_eq_ok_iff.mpr
      ⟨statement, id + 6, later :: rest, hstatement, hrest, rfl⟩

/-- A source is read as its tree says. -/
theorem exists_ofSource {front last : Bytes} {name : String} (hname : 7 ≤ last.length)
    (hlast : Span.text ⟨last.length - 7, last.length - 1⟩ last = .ok name) (grammar : Grammar)
    (lines : Nat) :
    ∃ program statement,
      CodeTree.ofSource (parser front last) grammar (source front last lines) = .ok program ∧
      program.statements.head? = some statement ∧
      statement.label.kind = .expressionStatement ∧
      statement.label.span.start = front.length ∧
      (lines ≠ 0 → ∃ literal, statement.firstNamedChild? = some literal ∧
        literal.label.kind = .string ∧
        literal.label.span = ⟨front.length, front.length + 12⟩) := by
  obtain ⟨statement, rest, next, hforest, hnamed, hkind, hstart, hliteral⟩ :=
    exists_numberForest_trees hname hlast lines front 0 0 1
  obtain ⟨program, hprogram, hchildren⟩ : ∃ program : CodeTree,
      CodeTree.ofParseTree (source front last lines) (tree front last lines) = .ok program ∧
      program.children = statement :: rest :=
    ⟨_, map_eq_ok_iff.mpr
      ⟨_, CodeTree.number_eq_ok_iff.mpr ⟨_, none, hforest, rfl, rfl⟩, rfl⟩, rfl⟩
  refine ⟨program, statement, ?_, ?_, hkind, hstart, hliteral⟩
  · exact CodeTree.ofSource_eq_ok_iff.mpr ⟨_, parser_source grammar lines, rfl, hprogram⟩
  · simp [CodeTree.statements, hchildren, hnamed, hkind]

/-! ### What the parser promises -/

/-- The first statement of any source that the parser accepts starts where the lines start. -/
theorem exists_lines_of_ofSource {front last : Bytes} {name : String} (hname : 7 ≤ last.length)
    (hlast : Span.text ⟨last.length - 7, last.length - 1⟩ last = .ok name) {grammar : Grammar}
    {bytes : Bytes} {program first : CodeTree}
    (hprogram : CodeTree.ofSource (parser front last) grammar bytes = .ok program)
    (hfirst : program.statements.head? = some first) :
    (∃ lines, bytes = source front last lines) ∧ first.label.span.start = front.length := by
  obtain ⟨raw, hraw, -, -⟩ := CodeTree.ofSource_eq_ok_iff.mp hprogram
  obtain ⟨lines, rfl, -⟩ := exists_lines_of_parsed hraw
  obtain ⟨program', statement, hprogram', hstatement, -, hstart, -⟩ :=
    exists_ofSource hname hlast grammar lines
  obtain rfl := Except.ok.inj (hprogram'.symm.trans hprogram)
  obtain rfl := Option.some.inj (hstatement.symm.trans hfirst)
  exact ⟨⟨lines, rfl⟩, hstart⟩

/-- The parser sees the directive that is inserted. -/
theorem acceptsDirective {front last : Bytes} {name : String} (hname : 7 ≤ last.length)
    (hlast : Span.text ⟨last.length - 7, last.length - 1⟩ last = .ok name) :
    AcceptsDirective (parser front last) := by
  intro grammar bytes program first hprogram hfirst
  obtain ⟨⟨lines, rfl⟩, hstart⟩ := exists_lines_of_ofSource hname hlast hprogram hfirst
  obtain ⟨fixed, statement, hfixed, hstatement, hkind, -, hliteral⟩ :=
    exists_ofSource hname hlast grammar (lines + 1)
  obtain ⟨literal, hchild, hstring, hspan⟩ := hliteral (Nat.succ_ne_zero lines)
  rw [hstart, withDirective_source, Nat.min_eq_left (by rw [length_source]; omega)]
  exact ⟨fixed, statement, literal, hfixed, hstatement, hkind, hchild, hstring, hspan⟩

/-- With nothing in front of the lines the first statement starts at a character. -/
theorem startsAtCharacters {last : Bytes} {name : String} (hname : 7 ≤ last.length)
    (hlast : Span.text ⟨last.length - 7, last.length - 1⟩ last = .ok name) :
    StartsAtCharacters (parser [] last) := by
  intro grammar bytes program first htext hprogram hfirst
  obtain ⟨-, hstart⟩ := exists_lines_of_ofSource hname hlast hprogram hfirst
  rw [hstart]
  exact ⟨"", rfl⟩

end DirectiveLines

end ClientBoundary
