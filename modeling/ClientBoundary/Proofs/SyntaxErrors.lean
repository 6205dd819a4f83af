import ClientBoundary.Proofs.Numbering
import ClientBoundary.Proofs.OneLine

/-!
# Syntax errors

A parser recovers from errors, so a source with errors has a tree too. The search for the first
fault of a tree goes below a node only where the parser reports an error. With a parser whose
reports are exact it therefore passes over no faulty node, and a node that merely stands above a
faulty one is never taken for it.

## Main definitions

* `RawNode.isFaulty`: a node that stands for no correct text.
* `ParseTree.ReportsFaults`: a parser reports an error exactly where a faulty node stands.

## Main results

* `ParseTree.firstFault_eq`: the first fault of a tree is its first faulty node in pre-order.
* `ofSource_syntaxError_iff`: the syntax error of a source.
-/

namespace ClientBoundary

open ClientBoundary.Tree

/-- Whether a node stands for no correct text: it covers text that fits no rule, or the parser
inserted it. -/
def RawNode.isFaulty (raw : RawNode) : Bool :=
  raw.isError || raw.isMissing

theorem RawNode.isFaulty_iff {raw : RawNode} :
    raw.isFaulty = true ↔ raw.isError = true ∨ raw.isMissing = true := by
  rw [isFaulty, Bool.or_eq_true]

namespace ParseTree

/-- The parser reports an error in a node exactly when the node or one below it is faulty. -/
def ReportsFaults (t : ParseTree) : Prop :=
  ∀ u ∈ t.subtrees, u.label.hasError = true ↔
    ∃ v ∈ u.subtrees, v.label.isError = true ∨ v.label.isMissing = true

/-- The first faulty node among some nodes. -/
def firstFaulty? (nodes : List ParseTree) : Option ParseTree :=
  nodes.find? fun u ↦ u.label.isFaulty

theorem firstFaulty?_append (us vs : List ParseTree) :
    firstFaulty? (us ++ vs) = (firstFaulty? us).or (firstFaulty? vs) :=
  List.find?_append

theorem exists_firstFaulty?_iff {nodes : List ParseTree} :
    (∃ u, firstFaulty? nodes = some u) ↔
      ∃ u ∈ nodes, u.label.isError = true ∨ u.label.isMissing = true := by
  rw [← Option.isSome_iff_exists, firstFaulty?, List.find?_isSome]
  simp only [RawNode.isFaulty_iff]

/-- The first faulty node is the faulty one with no faulty one in front of it. -/
theorem firstFaulty?_eq_some_iff {nodes : List ParseTree} {u : ParseTree} :
    firstFaulty? nodes = some u ↔
      ∃ before after, nodes = before ++ u :: after ∧
        (u.label.isError = true ∨ u.label.isMissing = true) ∧
        ∀ v ∈ before, ¬ (v.label.isError = true ∨ v.label.isMissing = true) := by
  rw [firstFaulty?, List.find?_eq_some_iff_append]
  simp only [← RawNode.isFaulty_iff, Bool.not_eq_true', Bool.not_eq_true]
  constructor
  · rintro ⟨hu, before, after, hnodes, hbefore⟩
    exact ⟨before, after, hnodes, hu, hbefore⟩
  · rintro ⟨before, after, hnodes, hu, hbefore⟩
    exact ⟨hu, before, after, hnodes, hbefore⟩

theorem ReportsFaults.child {t s : ParseTree} (h : t.ReportsFaults) (hs : s ∈ t.children) :
    s.ReportsFaults :=
  fun u hu ↦ h u (mem_subtrees_of_mem_children hs hu)

private theorem forestFault_eq {ts : List ParseTree}
    (htrees : ∀ t ∈ ts, t.firstFault = (firstFaulty? t.subtrees).map label) :
    forestFault ts = (firstFaulty? (forestSubtrees ts)).map label := by
  induction ts with
  | nil => rfl
  | cons t ts ih =>
    have hrest := ih fun u hu ↦ htrees u (List.mem_cons_of_mem t hu)
    rw [forestFault, htrees t List.mem_cons_self, hrest, forestSubtrees, firstFaulty?_append,
      Option.map_or]

/-- Where the parser's reports are exact, the first fault of a tree is its first faulty node in
pre-order. -/
theorem firstFault_eq {t : ParseTree} (h : t.ReportsFaults) :
    t.firstFault = (firstFaulty? t.subtrees).map label := by
  induction t using Tree.induction with
  | node raw ts ih =>
    have hbelow := forestFault_eq fun s hs ↦ ih s hs (h.child hs)
    have hreport := h _ (Tree.node raw ts).self_mem_subtrees
    rw [← exists_firstFaulty?_iff] at hreport
    rw [firstFault, ← RawNode.isFaulty, hbelow]
    by_cases hfaulty : raw.isFaulty = true
    · have hfirst : firstFaulty? (Tree.node raw ts).subtrees = some (.node raw ts) := by
        rw [subtrees, firstFaulty?]
        exact List.find?_cons_of_pos hfaulty
      rw [if_pos hfaulty, hfirst, Option.map_some, label]
    · -- The root is not faulty itself, so a report on it is about a node below.
      have hfirst :
          firstFaulty? (Tree.node raw ts).subtrees = firstFaulty? (forestSubtrees ts) := by
        rw [subtrees, firstFaulty?]
        exact List.find?_cons_of_neg hfaulty
      rw [hfirst] at hreport ⊢
      rw [if_neg hfaulty]
      by_cases herror : raw.hasError = true
      · obtain ⟨u, hu⟩ := hreport.mp herror
        rw [if_pos herror, hu, Option.map_some, Option.getD_some]
      · have hnone : firstFaulty? (forestSubtrees ts) = none := by
          rw [Option.eq_none_iff_forall_ne_some]
          exact fun u hu ↦ herror (hreport.mpr ⟨u, hu⟩)
        rw [if_neg herror, hnone, Option.map_none]

end ParseTree

open ParseTree

/-- Texts that cannot be read are no syntax errors, so that these come from the first faulty node
alone. -/
theorem ofAccepted_eq_syntaxError_iff {bytes : Bytes} {raw : ParseTree} (h : raw.ReportsFaults)
    {line column : Nat} :
    CodeTree.ofAccepted bytes raw = .error (.syntaxError line column) ↔
      ∃ u, firstFaulty? raw.subtrees = some u ∧
        line = u.label.first.row + 1 ∧ column = u.label.first.column + 1 := by
  rw [CodeTree.ofAccepted, firstFault_eq h]
  cases firstFaulty? raw.subtrees with
  | none =>
    cases CodeTree.ofParseTree bytes raw with
    | error fault => simp [Except.mapError]
    | ok program => simp [Except.mapError]
  | some u => simp [eq_comm]

/-- **The first error is the one reported.** For a parser whose reports are exact, a source has a
syntax error exactly when some node of its tree covers text that fits no rule or was inserted by the
parser. The error is then at the start of the first such node in pre-order, line and column counted
from one. -/
theorem ofSource_syntaxError_iff {parser : Parser} {grammar : Grammar} {bytes : Bytes}
    {raw : ParseTree} (hparse : parser grammar bytes = some raw) (hreports : raw.ReportsFaults) :
    ((∃ line column,
        CodeTree.ofSource parser grammar bytes = .error (.syntaxError line column)) ↔
      ∃ u ∈ raw.subtrees, u.label.isError = true ∨ u.label.isMissing = true) ∧
    ∀ line column, CodeTree.ofSource parser grammar bytes = .error (.syntaxError line column) ↔
      ∃ before u after, raw.subtrees = before ++ u :: after ∧
        (u.label.isError = true ∨ u.label.isMissing = true) ∧
        (∀ v ∈ before, ¬ (v.label.isError = true ∨ v.label.isMissing = true)) ∧
        line = u.label.first.row + 1 ∧ column = u.label.first.column + 1 := by
  have hsource : CodeTree.ofSource parser grammar bytes = CodeTree.ofAccepted bytes raw := by
    rw [CodeTree.ofSource, hparse]
  simp only [hsource, ofAccepted_eq_syntaxError_iff hreports]
  constructor
  · rw [← exists_firstFaulty?_iff]
    constructor
    · rintro ⟨-, -, u, hu, -⟩
      exact ⟨u, hu⟩
    · rintro ⟨u, hu⟩
      exact ⟨_, _, u, hu, rfl, rfl⟩
  · intro line column
    simp only [firstFaulty?_eq_some_iff]
    constructor
    · rintro ⟨u, ⟨before, after, hnodes, hu, hbefore⟩, hline, hcolumn⟩
      exact ⟨before, u, after, hnodes, hu, hbefore, hline, hcolumn⟩
    · rintro ⟨before, u, after, hnodes, hu, hbefore, hline, hcolumn⟩
      exact ⟨u, ⟨before, after, hnodes, hu, hbefore⟩, hline, hcolumn⟩

namespace ParseTree

/-- A node on the first line in which the parser reports an error. -/
def reported (rule : String) (field : Option String) (start stop : Nat)
    (children : List ParseTree) : ParseTree :=
  .node ⟨rule, field, true, false, false, true, ⟨start, stop⟩, ⟨0, start⟩, ⟨0, stop⟩⟩ children

/-- A closing parenthesis that the parser inserted on the first line. -/
def insertedParenthesis (start : Nat) : ParseTree :=
  .node ⟨")", none, false, false, true, true, ⟨start, start⟩, ⟨0, start⟩, ⟨0, start⟩⟩ []

/-- The tree of a call without its closing parenthesis and a stray sign on the second line. -/
def unclosedCall : ParseTree :=
  let arguments := reported "arguments" (some "arguments") 1 2
    [token "(" 1, insertedParenthesis 2]
  let call := reported "call_expression" none 0 2 [identifier (some "function") "f" 0, arguments]
  let stray := .node ⟨"ERROR", none, true, true, false, true, ⟨3, 4⟩, ⟨1, 0⟩, ⟨1, 1⟩⟩ []
  reported "program" none 0 4 [reported "expression_statement" none 0 2 [call], stray]

end ParseTree

/-- Of the two faults of a source, the one deep inside its first statement is reported. -/
theorem ofSource_syntaxError_unclosedCall :
    unclosedCall.ReportsFaults ∧
      CodeTree.ofSource (fun _ _ ↦ some unclosedCall) .tsx (Utf8.encode "f(\n%") =
        .error (.syntaxError 1 3) := by
  have hreports : unclosedCall.ReportsFaults := by
    unfold ReportsFaults
    decide
  have hbefore : ∀ v ∈ unclosedCall.subtrees.take 6,
      ¬ (v.label.isError = true ∨ v.label.isMissing = true) := by
    decide
  refine ⟨hreports, ((ofSource_syntaxError_iff rfl hreports).2 1 3).mpr ?_⟩
  exact ⟨unclosedCall.subtrees.take 6, insertedParenthesis 2, unclosedCall.subtrees.drop 7, rfl,
    Or.inr rfl, hbefore, rfl, rfl⟩

end ClientBoundary
