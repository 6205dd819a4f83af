import ClientBoundary.Proofs.OneLine
import ClientBoundary.Proofs.Outcome
import ClientBoundary.ServerModule

/-!
# The forms of import declarations

A declaration binds a default name, a namespace, the names of some specifiers, or the one name of a
required module. The grammar keeps these apart: each kind of name has nodes of its own, and names
are identifiers directly below them or stand in fields of theirs. The bound names are gathered by
looking at each node of the declaration alone, so a declaration laid out in this way is seen to bind
exactly the names of its clause. The node of a required module is not among those that are looked
at.

## Main definitions

* `LocalName`, `ImportSpecifier`, `ImportForm`: what a declaration consists of.
* `ImportForm.localNames`: the names that a declaration binds.
* `ImportForm.IsLaidOutIn`: how the grammar lays a declaration out in a tree.

## Main results

* `CodeTree.mem_boundNames_iff`: the bound names by the nodes that they come from.
* `boundNames_exact_iff`: for which declarations all bound names are found.
-/

namespace ClientBoundary

/-! ### Declarations -/

/-- A name that a declaration binds. Identifiers have at least one character. -/
structure LocalName where
  text : String
  ne_empty : text ≠ ""

/-- A specifier: a name that is imported and bound as it is, or one that is bound under another. The
imported name of the latter may be a keyword, which has no text in the tree. -/
inductive ImportSpecifier where
  | plain (name : LocalName)
  | renamed (imported : Option String) (name : LocalName)

namespace ImportSpecifier

/-- The name that a specifier binds. -/
def localName : ImportSpecifier → LocalName
  | plain name => name
  | renamed _ name => name

/-- The text of the imported name. -/
def imported : ImportSpecifier → Option String
  | plain name => some name.text
  | renamed imported _ => imported

/-- The other name, if there is one. -/
def otherName? : ImportSpecifier → Option LocalName
  | plain _ => none
  | renamed _ name => some name

end ImportSpecifier

/-- The forms of import declarations: one with a clause, in which each part may be missing, and one
that binds a required module. -/
inductive ImportForm where
  | clause (defaultName namespaceName : Option LocalName) (specifiers : List ImportSpecifier)
  | required (name : LocalName)

namespace ImportForm

def defaultName? : ImportForm → Option LocalName
  | clause name _ _ => name
  | required _ => none

def namespaceName? : ImportForm → Option LocalName
  | clause _ name _ => name
  | required _ => none

def specifiers : ImportForm → List ImportSpecifier
  | clause _ _ specifiers => specifiers
  | required _ => []

def requiredName? : ImportForm → Option LocalName
  | clause _ _ _ => none
  | required name => some name

/-- The names that the clause of a declaration binds. -/
def clauseNames (form : ImportForm) : List LocalName :=
  form.defaultName?.toList ++ form.namespaceName?.toList ++
    form.specifiers.map ImportSpecifier.localName

/-- The names that a declaration binds. -/
def localNames (form : ImportForm) : List LocalName :=
  form.clauseNames ++ form.requiredName?.toList

end ImportForm

/-! ### Nodes of declarations -/

namespace CodeTree

/-- The nodes of a tree with a rule. -/
def nodesOf (t : CodeTree) (rule : String) : List CodeTree :=
  t.subtrees.filter (·.label.rule == rule)

/-- The texts of the identifiers directly below a node. -/
def identifierTexts (t : CodeTree) : List (Option String) :=
  (t.children.filter (·.label.rule == "identifier")).map (·.label.text)

/-- The texts of the children in a field. -/
def fieldTexts (t : CodeTree) (field : String) : List (Option String) :=
  (t.children.filter (·.label.field == some field)).map (·.label.text)

theorem nonemptyText?_eq_some_iff {t : CodeTree} {name : String} :
    nonemptyText? t = some name ↔ t.label.text = some name ∧ name ≠ "" := by
  rw [nonemptyText?, Option.filter_eq_some_iff, bne_iff_ne]

/-- The first child in a field has the first of the texts in the field. -/
theorem map_text_childInField? (t : CodeTree) (field : String) :
    (t.childInField? field).map (·.label.text) = (t.fieldTexts field).head? := by
  rw [fieldTexts, List.head?_map, List.head?_filter, childInField?]

/-- A specifier binds the text in the field of its alias or else in that of its name. -/
theorem mem_namesBoundAt_specifier_iff {t : CodeTree} (h : t.label.rule = "import_specifier")
    {name : String} :
    name ∈ namesBoundAt t ↔
      ((t.fieldTexts "alias").head?.or (t.fieldTexts "name").head?) = some (some name) ∧
        name ≠ "" := by
  rw [← map_text_childInField?, ← map_text_childInField?, ← Option.map_or, Option.map_eq_some_iff,
    namesBoundAt, if_pos (by rw [h]; rfl)]
  cases (t.childInField? "alias").or (t.childInField? "name") with
  | none => simp
  | some child => simp [nonemptyText?_eq_some_iff]

/-- A clause and a namespace bind the identifiers directly below them. -/
theorem mem_namesBoundAt_clause_iff {t : CodeTree}
    (h : t.label.rule = "import_clause" ∨ t.label.rule = "namespace_import") {name : String} :
    name ∈ namesBoundAt t ↔ some name ∈ t.identifierTexts ∧ name ≠ "" := by
  have hnames : namesBoundAt t =
      (t.children.filter (·.label.rule == "identifier")).filterMap nonemptyText? := by
    rcases h with h | h
    · simp [namesBoundAt, h]
    · simp [namesBoundAt, h]
  rw [hnames, List.mem_filterMap, identifierTexts, List.mem_map]
  simp only [nonemptyText?_eq_some_iff]
  constructor
  · rintro ⟨child, hchild, htext, hne⟩
    exact ⟨⟨child, hchild, htext⟩, hne⟩
  · rintro ⟨⟨child, hchild, htext⟩, hne⟩
    exact ⟨child, hchild, htext, hne⟩

theorem mem_nodesOf {t node : CodeTree} {rule : String} :
    node ∈ t.nodesOf rule ↔ node ∈ t.subtrees ∧ node.label.rule = rule := by
  rw [nodesOf, List.mem_filter, beq_iff_eq]

/-- The bound names of a declaration by the nodes that they come from. -/
theorem mem_boundNames_iff {t : CodeTree} {name : String} :
    name ∈ t.boundNames ↔ name ≠ "" ∧
      (some name ∈ (t.nodesOf "import_clause").flatMap identifierTexts ∨
        some name ∈ (t.nodesOf "namespace_import").flatMap identifierTexts ∨
        ∃ node ∈ t.nodesOf "import_specifier",
          ((node.fieldTexts "alias").head?.or (node.fieldTexts "name").head?) =
            some (some name)) := by
  simp only [boundNames, List.mem_flatMap, mem_nodesOf]
  constructor
  · rintro ⟨node, hnode, hname⟩
    by_cases hspecifier : node.label.rule = "import_specifier"
    · obtain ⟨htext, hne⟩ := (mem_namesBoundAt_specifier_iff hspecifier).mp hname
      exact ⟨hne, Or.inr (Or.inr ⟨node, ⟨hnode, hspecifier⟩, htext⟩)⟩
    by_cases hclause : node.label.rule = "import_clause"
    · obtain ⟨htext, hne⟩ := (mem_namesBoundAt_clause_iff (Or.inl hclause)).mp hname
      exact ⟨hne, Or.inl ⟨node, ⟨hnode, hclause⟩, htext⟩⟩
    by_cases hnamespace : node.label.rule = "namespace_import"
    · obtain ⟨htext, hne⟩ := (mem_namesBoundAt_clause_iff (Or.inr hnamespace)).mp hname
      exact ⟨hne, Or.inr (Or.inl ⟨node, ⟨hnode, hnamespace⟩, htext⟩)⟩
    · -- Nodes of other rules bind nothing.
      simp [namesBoundAt, hspecifier, hclause, hnamespace] at hname
  · rintro ⟨hne, ⟨node, ⟨hnode, hrule⟩, htext⟩ | ⟨node, ⟨hnode, hrule⟩, htext⟩ |
      ⟨node, ⟨hnode, hrule⟩, htext⟩⟩
    · exact ⟨node, hnode, (mem_namesBoundAt_clause_iff (Or.inl hrule)).mpr ⟨htext, hne⟩⟩
    · exact ⟨node, hnode, (mem_namesBoundAt_clause_iff (Or.inr hrule)).mpr ⟨htext, hne⟩⟩
    · exact ⟨node, hnode, (mem_namesBoundAt_specifier_iff hrule).mpr ⟨htext, hne⟩⟩

end CodeTree

/-! ### Declarations laid out in trees -/

/-- How the grammar lays out a declaration in a tree. The default name is the identifier below the
clause, the name of a namespace the one below the namespace, and a required module is named by the
one below its node. Specifiers are nodes at any depth, with the imported name in one field and the
other name, if there is one, in another. -/
structure ImportForm.IsLaidOutIn (form : ImportForm) (t : CodeTree) : Prop where
  clauses : (t.nodesOf "import_clause").flatMap CodeTree.identifierTexts =
    form.defaultName?.toList.map (some ·.text)
  namespaces : (t.nodesOf "namespace_import").flatMap CodeTree.identifierTexts =
    form.namespaceName?.toList.map (some ·.text)
  specifiers : (t.nodesOf "import_specifier").map
      (fun node ↦ (node.fieldTexts "name", node.fieldTexts "alias")) =
    form.specifiers.map fun specifier ↦
      ([specifier.imported], specifier.otherName?.toList.map (some ·.text))
  requiredModules : (t.nodesOf "import_require_clause").flatMap CodeTree.identifierTexts =
    form.requiredName?.toList.map (some ·.text)

instance (form : ImportForm) (t : CodeTree) : Decidable (form.IsLaidOutIn t) :=
  decidable_of_iff (_ ∧ _ ∧ _ ∧ _)
    ⟨fun h ↦ ⟨h.1, h.2.1, h.2.2.1, h.2.2.2⟩,
      fun h ↦ ⟨h.clauses, h.namespaces, h.specifiers, h.requiredModules⟩⟩

/-- What is bound by a specifier with these texts in its fields is its local name. -/
theorem ImportSpecifier.head?_otherName?_or (specifier : ImportSpecifier) :
    ((specifier.otherName?.toList.map (some ·.text)).head?.or [specifier.imported].head?) =
      some (some specifier.localName.text) := by
  cases specifier with
  | plain name => rfl
  | renamed imported name => rfl

namespace ImportForm

theorem mem_clauseNames_iff {form : ImportForm} {name : LocalName} :
    name ∈ form.clauseNames ↔ form.defaultName? = some name ∨ form.namespaceName? = some name ∨
      ∃ specifier ∈ form.specifiers, specifier.localName = name := by
  simp only [clauseNames, List.mem_append, Option.mem_toList, List.mem_map, or_assoc]

/-- Identifiers that write a name, if there is one, write no other. -/
theorem mem_map_text_iff {name? : Option LocalName} {text : String} :
    some text ∈ name?.toList.map (some ·.text) ↔ ∃ name, name? = some name ∧ name.text = text := by
  cases name? with
  | none => simp
  | some name => simp [eq_comm]

namespace IsLaidOutIn

variable {form : ImportForm} {t : CodeTree} (h : form.IsLaidOutIn t)

include h

/-- The nodes of specifiers bind the local names of the specifiers. -/
theorem exists_specifier_iff {text : String} :
    (∃ node ∈ t.nodesOf "import_specifier",
      ((node.fieldTexts "alias").head?.or (node.fieldTexts "name").head?) = some (some text)) ↔
    ∃ specifier ∈ form.specifiers, specifier.localName.text = text := by
  have htexts : (t.nodesOf "import_specifier").map
        (fun node ↦ (node.fieldTexts "alias").head?.or (node.fieldTexts "name").head?) =
      form.specifiers.map fun specifier ↦ some (some specifier.localName.text) := by
    have hfields := congrArg
      (List.map fun fields : List (Option String) × List (Option String) ↦
        fields.2.head?.or fields.1.head?) h.specifiers
    rw [List.map_map, List.map_map] at hfields
    exact hfields.trans (List.map_congr_left fun specifier _ ↦ specifier.head?_otherName?_or)
  rw [← List.mem_map, htexts]
  simp

/-- A declaration is seen to bind the names of its clause and nothing else. -/
theorem mem_boundNames_iff {text : String} :
    text ∈ t.boundNames ↔ ∃ name ∈ form.clauseNames, name.text = text := by
  simp only [CodeTree.mem_boundNames_iff, h.clauses, h.namespaces, h.exists_specifier_iff,
    mem_map_text_iff, mem_clauseNames_iff]
  constructor
  · rintro ⟨-, ⟨name, hname, htext⟩ | ⟨name, hname, htext⟩ | ⟨specifier, hspecifier, htext⟩⟩
    · exact ⟨name, Or.inl hname, htext⟩
    · exact ⟨name, Or.inr (Or.inl hname), htext⟩
    · exact ⟨specifier.localName, Or.inr (Or.inr ⟨specifier, hspecifier, rfl⟩), htext⟩
  · rintro ⟨name, hname | hname | ⟨specifier, hspecifier, rfl⟩, rfl⟩
    · exact ⟨name.ne_empty, Or.inl ⟨name, hname, rfl⟩⟩
    · exact ⟨name.ne_empty, Or.inr (Or.inl ⟨name, hname, rfl⟩)⟩
    · exact ⟨specifier.localName.ne_empty, Or.inr (Or.inr ⟨specifier, hspecifier, rfl⟩)⟩

end IsLaidOutIn

end ImportForm

/-- **The bound names of all forms but one are exact.** A declaration that is laid out in a tree as
the grammar does is seen to bind the names of its clause: the default name, the name of the
namespace, and for each specifier the other name if there is one and else the imported name. These
are the names that the declaration binds if and only if it does not bind a required module. -/
theorem boundNames_exact_iff {form : ImportForm} {t : CodeTree} (h : form.IsLaidOutIn t) :
    (∀ text, text ∈ t.boundNames ↔ ∃ name ∈ form.clauseNames, name.text = text) ∧
      ((∀ text, text ∈ t.boundNames ↔ ∃ name ∈ form.localNames, name.text = text) ↔
        form.requiredName? = none) := by
  refine ⟨fun _ ↦ h.mem_boundNames_iff, ?_⟩
  cases form with
  | clause defaultName namespaceName specifiers =>
    have hnames : (ImportForm.clause defaultName namespaceName specifiers).localNames =
        (ImportForm.clause defaultName namespaceName specifiers).clauseNames := List.append_nil _
    rw [hnames]
    exact iff_of_true (fun _ ↦ h.mem_boundNames_iff) rfl
  | required name =>
    refine iff_of_false (fun hexact ↦ ?_) (Option.some_ne_none name)
    have hfound := (hexact name.text).mpr ⟨name, List.mem_singleton_self name, rfl⟩
    obtain ⟨_, hnone, -⟩ := h.mem_boundNames_iff.mp hfound
    cases hnone

open ParseTree

/-- The parse tree of `import A, { b, c as d } from 'm';`. -/
def mixedImport : ParseTree :=
  let plain := onFirstLine "import_specifier" none true 12 13 [identifier (some "name") "b" 12]
  let renamed := onFirstLine "import_specifier" none true 15 21
    [identifier (some "name") "c" 15, token "as" 17, identifier (some "alias") "d" 20]
  let names := onFirstLine "named_imports" none true 10 23
    [token "\x7b" 10, plain, token "," 13, renamed, token "\x7d" 22]
  onFirstLine "import_statement" none true 0 33
    (token "import" 0 ::
      onFirstLine "import_clause" none true 7 23 [identifier none "A" 7, token "," 8, names] ::
      importTail "m" 23)

/-- A default name, a specifier and one with another name are all bound. -/
theorem boundNames_exact_mixedImport :
    ∃ t,
      CodeTree.ofParseTree (Utf8.encode "import A, \x7b b, c as d \x7d from 'm';") mixedImport =
        .ok t ∧
      (ImportForm.clause (some ⟨"A", by decide⟩) none
        [.plain ⟨"b", by decide⟩, .renamed (some "c") ⟨"d", by decide⟩]).IsLaidOutIn t ∧
      ∀ text, text ∈ t.boundNames ↔ text ∈ ["A", "b", "d"] := by
  obtain ⟨t, ht, hlaidOut⟩ := exists_ok_of_toOption
    (x := CodeTree.ofParseTree (Utf8.encode "import A, \x7b b, c as d \x7d from 'm';") mixedImport)
    (f := fun t ↦ decide ((ImportForm.clause (some ⟨"A", by decide⟩) none
      [.plain ⟨"b", by decide⟩, .renamed (some "c") ⟨"d", by decide⟩]).IsLaidOutIn t))
    (b := true) (by decide +kernel)
  have hlaidOut := of_decide_eq_true hlaidOut
  refine ⟨t, ht, hlaidOut, fun text ↦ ((boundNames_exact_iff hlaidOut).1 text).trans ?_⟩
  simp [ImportForm.clauseNames, ImportForm.defaultName?, ImportForm.namespaceName?,
    ImportForm.specifiers, ImportSpecifier.localName, eq_comm]

/-- A source that binds a required module. -/
def requiringSource : Bytes :=
  Utf8.encode "import Card = require('./card'); window;"

/-- The parse tree of `requiringSource`. -/
def requiringParser : Parser := fun _ _ ↦
  let clause := onFirstLine "import_require_clause" none true 7 31
    [identifier none "Card" 7, token "=" 12, token "require" 14, token "(" 21,
      stringLiteral (some "source") "./card" 22, token ")" 30]
  let statement := onFirstLine "import_statement" none true 0 32
    [token "import" 0, clause, token ";" 31]
  some (onFirstLine "program" none true 0 40 (statement :: OneLine.trees 33 [.mention "window"]))

/-- The name of a required module is not seen to be bound, so that the function of the server half
gets the same name. -/
theorem boundNames_misses_requiredModule :
    ∃ program partition tainted statement,
      CodeTree.ofSource requiringParser .tsx requiringSource = .ok program ∧
      partitionModule (fun _ ↦ false) program = .ok (partition, tainted) ∧
      partition.imports = [statement] ∧
      (ImportForm.required ⟨"Card", by decide⟩).IsLaidOutIn statement ∧
      ¬ (∀ text, text ∈ statement.boundNames ↔
        ∃ name ∈ (ImportForm.required ⟨"Card", by decide⟩).localNames, name.text = text) ∧
      serverFunctionName (.ofString "card.tsx") partition = "Card" := by
  obtain ⟨program, hprogram, hpartitioned⟩ := exists_ok_of_toOption
    (x := CodeTree.ofSource requiringParser .tsx requiringSource)
    (f := fun program : CodeTree ↦ (partitionModule (fun _ ↦ false) program).toOption.map
      fun result : Partition × Bool ↦ decide <|
        result.1.imports.length = 1 ∧
        (∀ statement ∈ result.1.imports,
          (ImportForm.required ⟨"Card", by decide⟩).IsLaidOutIn statement ∧
          statement.boundNames = []) ∧
        serverFunctionName (.ofString "card.tsx") result.1 = "Card")
    (b := some true) (by decide +kernel)
  obtain ⟨⟨partition, tainted⟩, hpartition, hfacts⟩ := exists_ok_of_toOption hpartitioned
  obtain ⟨hlength, hstatements, hname⟩ := of_decide_eq_true hfacts
  obtain ⟨statement, himports⟩ := List.length_eq_one_iff.mp hlength
  obtain ⟨hlaidOut, hnone⟩ := hstatements statement (by rw [himports, List.mem_singleton])
  refine ⟨program, partition, tainted, statement, hprogram, hpartition, himports, hlaidOut,
    fun hexact ↦ ?_, hname⟩
  have hfound := (hexact "Card").mpr ⟨_, List.mem_singleton_self _, rfl⟩
  rw [hnone] at hfound
  cases hfound

end ClientBoundary
