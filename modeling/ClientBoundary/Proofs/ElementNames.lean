import ClientBoundary.Feature
import ClientBoundary.Proofs.Conversion
import ClientBoundary.Proofs.Utf8

/-!
# Names of elements

The name of an element is no reference to a variable, even if a variable of that name exists.
Whether a name is part of an element's name is settled by the way from the root down to it: once a
step enters the name of an element, everything further down is part of it. The conversion of a parse
tree hands this down as a flag, which every step may set and none resets. So the kind of a converted
name tells whether some step of its way enters the name of an element, and a browser global is found
at an identifier exactly when none does.

## Main definitions

* `Tree.at?`: the subtree at a place, given by the children on the way to it.
* `RawNode.EntersElementName`: a step from a node to a child enters the name of an element.
* `ParseTree.InElementName`: some step of the way to a place does.

## Main results

* `CodeTree.rel_at?_of_number`: what the node at each place of a parse tree becomes.
* `CodeTree.ofParseTree_elementNames`: the kinds of names, and where browser globals are found.
-/

namespace ClientBoundary

namespace Tree

variable {α : Type}

/-- The subtree at a place, which lists the child taken at each step from the root. -/
def at? (t : Tree α) : List Nat → Option (Tree α)
  | [] => some t
  | i :: place => t.children[i]?.bind fun s ↦ s.at? place

@[simp] theorem at?_nil (t : Tree α) : t.at? [] = some t := rfl

theorem at?_cons (t : Tree α) (i : Nat) (place : List Nat) :
    t.at? (i :: place) = t.children[i]?.bind fun s ↦ s.at? place := rfl

end Tree

open ClientBoundary.Tree

/-! ### Ways into the name of an element -/

/-- The rules of the grammar that stand for an identifier. -/
def identifierRules : List String :=
  ["identifier", "shorthand_property_identifier", "shorthand_property_identifier_pattern"]

/-- A step from a node to a child enters the name of an element: it goes down from a name with a
namespace, or from a tag through its field for the name. -/
def RawNode.EntersElementName (parent child : RawNode) : Prop :=
  parent.rule = "jsx_namespace_name" ∨
    parent.rule ∈ ["jsx_opening_element", "jsx_closing_element", "jsx_self_closing_element"] ∧
      child.field = some "name"

instance (parent child : RawNode) : Decidable (parent.EntersElementName child) :=
  inferInstanceAs (Decidable (_ ∨ _))

/-- Some step of the way from the root to a place enters the name of an element. -/
def ParseTree.InElementName (raw : ParseTree) (place : List Nat) : Prop :=
  ∃ before i after parent child, place = before ++ i :: after ∧ raw.at? before = some parent ∧
    parent.children[i]? = some child ∧ parent.label.EntersElementName child.label

theorem isIdentifierRule_iff {rule : String} :
    isIdentifierRule rule = true ↔ rule ∈ identifierRules := by
  simp [isIdentifierRule, identifierRules, or_assoc]

/-- The flag of a child is set if that of its parent is or the step to it sets it. -/
theorem namesElement_iff {inName : Bool} {parent child : RawNode} :
    namesElement inName parent.rule child.field = true ↔
      inName = true ∨ parent.EntersElementName child := by
  simp [namesElement, isTagRule, RawNode.EntersElementName, or_assoc]

namespace ParseTree

variable {raw child : ParseTree} {i : Nat} {place : List Nat}

theorem not_inElementName_nil : ¬ raw.InElementName [] := by
  rintro ⟨before, i, after, parent, child, hplace, -⟩
  exact List.append_ne_nil_of_right_ne_nil before (List.cons_ne_nil i after) hplace.symm

/-- The first step of a way enters the name of an element, or a later one does. -/
theorem inElementName_cons_iff (h : raw.children[i]? = some child) :
    raw.InElementName (i :: place) ↔
      raw.label.EntersElementName child.label ∨ child.InElementName place := by
  constructor
  · rintro ⟨before, j, after, parent, last, hplace, hparent, hlast, henters⟩
    cases before with
    | nil =>
      obtain ⟨rfl, -⟩ := List.cons.inj hplace
      obtain rfl := Option.some.inj hparent
      obtain rfl := Option.some.inj (h.symm.trans hlast)
      exact Or.inl henters
    | cons k before =>
      obtain ⟨rfl, hrest⟩ := List.cons.inj hplace
      rw [at?_cons, h, Option.bind_some] at hparent
      exact Or.inr ⟨before, j, after, parent, last, hrest, hparent, hlast, henters⟩
  · rintro (henters | ⟨before, j, after, parent, last, rfl, hparent, hlast, henters⟩)
    · exact ⟨[], i, place, raw, child, rfl, rfl, h, henters⟩
    · refine ⟨i :: before, j, after, parent, last, rfl, ?_, hlast, henters⟩
      rw [at?_cons, h, Option.bind_some, hparent]

theorem not_inElementName_of_none (h : raw.children[i]? = none) :
    ¬ raw.InElementName (i :: place) := by
  rintro ⟨before, j, after, parent, last, hplace, hparent, hlast, -⟩
  cases before with
  | nil =>
    obtain ⟨rfl, -⟩ := List.cons.inj hplace
    obtain rfl := Option.some.inj hparent
    cases h.symm.trans hlast
  | cons k before =>
    obtain ⟨rfl, -⟩ := List.cons.inj hplace
    rw [at?_cons, h] at hparent
    cases hparent

instance decidableInElementName (raw : ParseTree) :
    (place : List Nat) → Decidable (raw.InElementName place)
  | [] => .isFalse not_inElementName_nil
  | i :: place =>
    match h : raw.children[i]? with
    | none => .isFalse (not_inElementName_of_none h)
    | some child =>
      have := decidableInElementName child place
      decidable_of_iff _ (inElementName_cons_iff h).symm

end ParseTree

/-! ### What the node at a place becomes -/

/-- A node carries what a node of the parse tree says, has the kind that the flag for element names
gives it, and its text is the one that its kind and its span say. -/
structure CodeTree.Becomes (bytes : Bytes) (inName : Bool) (raw : ParseTree) (u : CodeTree) :
    Prop where
  takesOver : u.label.TakesOver raw.label
  kind_eq : u.label.kind = NodeKind.ofRaw inName raw.label raw.children
  text_eq : nodeText bytes u.label.kind u.label.span = .ok u.label.text

/-- What the node at a place becomes if the root is converted with the flag `inName`: a step of the
way to it may have set the flag. -/
def CodeTree.BecomesAt (bytes : Bytes) (inName : Bool) (root : ParseTree) (place : List Nat)
    (raw : ParseTree) (u : CodeTree) : Prop :=
  ∃ flag : Bool, (flag = true ↔ inName = true ∨ root.InElementName place) ∧
    u.Becomes bytes flag raw

theorem rel_getElem? {α β : Type} {r : α → β → Prop} {as : List α} {bs : List β}
    (h : List.Forall₂ r as bs) (i : Nat) : Option.Rel r as[i]? bs[i]? := by
  induction h generalizing i with
  | nil => exact .none
  | cons hhead _ ih =>
    cases i with
    | zero => exact .some hhead
    | succ i => exact ih i

namespace CodeTree

/-- The step to a child hands the flag down. -/
theorem becomesAt_cons {bytes : Bytes} {inName : Bool} {root child raw : ParseTree} {u : CodeTree}
    {i : Nat} {place : List Nat} (hchild : root.children[i]? = some child)
    (h : BecomesAt bytes (namesElement inName root.label.rule child.label.field) child place
      raw u) :
    BecomesAt bytes inName root (i :: place) raw u := by
  obtain ⟨flag, hflag, hbecomes⟩ := h
  refine ⟨flag, ?_, hbecomes⟩
  rw [hflag, namesElement_iff, ParseTree.inElementName_cons_iff hchild, or_assoc]

/-- A converted tree has the places of the parse tree, and each node in it has been converted with
the flag that the way to it gives. -/
theorem rel_at?_of_number {bytes : Bytes} (raw : ParseTree) :
    ∀ inName id t next, number bytes inName id raw = .ok (t, next) →
      ∀ place, Option.Rel (BecomesAt bytes inName raw place) (raw.at? place) (t.at? place) := by
  refine number_induction
    (fun inName _ raw t _ ↦
      ∀ place, Option.Rel (BecomesAt bytes inName raw place) (raw.at? place) (t.at? place))
    (fun inName _ raws ts _ ↦ List.Forall₂ (fun raw t ↦ ∀ place, Option.Rel
      (BecomesAt bytes (inName raw.label.field) raw place) (raw.at? place) (t.at? place)) raws ts)
    ?_ ?_ ?_ raw
  · intro inName id raw raws text ts next htext hbelow place
    cases place with
    | nil =>
      refine .some ⟨inName, by simp [ParseTree.not_inElementName_nil], ?_⟩
      exact ⟨raw.takesOver_toNode id _ text, rfl, htext⟩
    | cons i place =>
      have hchildren := rel_getElem? hbelow i
      change Option.Rel _ (raws[i]?.bind _) (ts[i]?.bind _)
      generalize hraw : raws[i]? = child? at hchildren ⊢
      generalize ts[i]? = t? at hchildren ⊢
      cases hchildren with
      | none => exact .none
      | @some child t hchild =>
        have hplace := hchild place
        change Option.Rel _ (child.at? place) (t.at? place)
        generalize child.at? place = raw? at hplace ⊢
        generalize t.at? place = u? at hplace ⊢
        cases hplace with
        | none => exact .none
        | some hbecomes => exact .some (becomesAt_cons hraw hbecomes)
  · intro inName id
    exact .nil
  · intro inName id middle next raw raws t ts hfirst hrest
    exact .cons hfirst hrest

theorem rel_at?_of_ofParseTree {bytes : Bytes} {root : ParseTree} {t : CodeTree}
    (h : ofParseTree bytes root = .ok t) (place : List Nat) :
    Option.Rel (BecomesAt bytes false root place) (root.at? place) (t.at? place) := by
  obtain ⟨⟨t, next⟩, hnumber, rfl⟩ := map_eq_ok_iff.mp h
  exact rel_at?_of_number root _ _ _ _ hnumber place

/-- A converted tree has the places of the parse tree. -/
theorem isSome_at?_of_ofParseTree {bytes : Bytes} {root : ParseTree} {t : CodeTree}
    (h : ofParseTree bytes root = .ok t) (place : List Nat) :
    (t.at? place).isSome = (root.at? place).isSome := by
  have hrel := rel_at?_of_ofParseTree h place
  generalize root.at? place = raw? at hrel ⊢
  generalize t.at? place = u? at hrel ⊢
  cases hrel with
  | none => rfl
  | some _ => rfl

/-- The node at a place of a parse tree is converted as part of an element's name exactly when some
step of the way to it enters one. -/
theorem becomes_of_at? {bytes : Bytes} {root raw : ParseTree} {t u : CodeTree} {place : List Nat}
    (h : ofParseTree bytes root = .ok t) (hraw : root.at? place = some raw)
    (hu : t.at? place = some u) :
    ∃ inName : Bool, (inName = true ↔ root.InElementName place) ∧ u.Becomes bytes inName raw := by
  have hrel := rel_at?_of_ofParseTree h place
  rw [hraw, hu] at hrel
  cases hrel with
  | some hbecomes => simpa [BecomesAt] using hbecomes

end CodeTree

/-! ### Kinds of names -/

namespace NodeKind

variable {inName : Bool} {raw : RawNode} {ts : List ParseTree}

theorem ofRaw_identifier (h : raw.rule ∈ identifierRules) :
    ofRaw inName raw ts = if inName then .jsxName else .identifier := by
  have hrule := isIdentifierRule_iff.mpr h
  cases inName <;> simp [ofRaw, hrule]

theorem ofRaw_propertyIdentifier (h : raw.rule = "property_identifier") :
    ofRaw inName raw ts = if inName then .jsxName else .propertyName := by
  cases inName <;> simp [ofRaw, h, isIdentifierRule]

/-- Only names outside the names of elements count as identifiers. -/
theorem of_ofRaw_eq_identifier (h : ofRaw inName raw ts = .identifier) :
    raw.rule ∈ identifierRules ∧ inName = false := by
  unfold ofRaw at h
  split at h
  · cases h
  rename_i hname
  split at h
  · rename_i hidentifier
    refine ⟨isIdentifierRule_iff.mp hidentifier, ?_⟩
    by_contra hflag
    rw [Bool.not_eq_false] at hflag
    simp [hflag, hidentifier] at hname
  · -- The table of the other rules has no entry of this kind.
    split at h
    case h_3 => split_ifs at h
    all_goals cases h

end NodeKind

/-! ### Browser globals -/

/-- A browser global is found at identifiers only. -/
theorem Feature.kind_of_detect_browserGlobal {u : CodeTree} {feature : Feature}
    (h : detect u = some feature) (hglobal : feature.kind = .browserGlobal) :
    u.label.kind = .identifier := by
  unfold detect at h
  split at h
  · obtain ⟨name, -, rfl⟩ := Option.map_eq_some_iff.mp h
    cases hglobal
  · assumption
  · obtain ⟨name, -, rfl⟩ := Option.map_eq_some_iff.mp h
    cases hglobal
  · cases h

/-- The browser global of an identifier is the one that is its text. -/
theorem Feature.detect_identifier_iff {u : CodeTree} {name : String}
    (hkind : u.label.kind = .identifier) (hname : name ∈ browserGlobals) :
    detect u = some ⟨u.label, .browserGlobal, name⟩ ↔ u.label.text = some name := by
  have hglobal : isBrowserGlobal name = true := by simpa [isBrowserGlobal] using hname
  simp [detect, hkind, Option.filter_eq_some_iff, hglobal]

theorem decode_encode_of_mem_browserGlobals :
    ∀ name ∈ browserGlobals, Utf8.decode (Utf8.encode name) = .ok name := by
  decide +kernel

/-- The text of an identifier is the name of a browser global exactly when the name stands in the
source where the identifier does. -/
theorem text_eq_iff_slice_eq {bytes : Bytes} {u : CodeTree} {name : String}
    (htext : nodeText bytes u.label.kind u.label.span = .ok u.label.text)
    (hkind : u.label.kind = .identifier) (hname : name ∈ browserGlobals) :
    u.label.text = some name ↔
      bytes.slice u.label.span.start u.label.span.stop = Utf8.encode name := by
  rw [hkind, nodeText] at htext
  obtain ⟨text, hdecode, hsome⟩ := map_eq_ok_iff.mp htext
  rw [← hsome, Option.some.injEq]
  constructor
  · rintro rfl
    exact (Utf8.encode_of_decode hdecode).symm
  · intro hslice
    rw [Span.text, hslice, decode_encode_of_mem_browserGlobals name hname] at hdecode
    exact (Except.ok.inj hdecode).symm

namespace CodeTree

/-- **Names of elements are no references to variables.** The tree that a parse tree becomes has the
same places. An identifier or the name of a property gets the kind of element names exactly when
some step of the way from the root to it goes down from a name with a namespace or from a tag
through the field for its name; otherwise an identifier counts as such and the name of a property as
such. So no browser global is found where the way enters the name of an element, and elsewhere one
is found at exactly the identifiers that cover the name of one in the source. -/
theorem ofParseTree_elementNames {bytes : Bytes} {root : ParseTree} {t : CodeTree}
    (h : ofParseTree bytes root = .ok t) (place : List Nat) :
    (t.at? place).isSome = (root.at? place).isSome ∧
    ∀ raw u, root.at? place = some raw → t.at? place = some u →
      u.label.TakesOver raw.label ∧
      (raw.label.rule ∈ identifierRules ∨ raw.label.rule = "property_identifier" →
        (u.label.kind = .jsxName ↔ root.InElementName place)) ∧
      (¬ root.InElementName place →
        (raw.label.rule ∈ identifierRules → u.label.kind = .identifier) ∧
        (raw.label.rule = "property_identifier" → u.label.kind = .propertyName)) ∧
      (root.InElementName place →
        ∀ feature, Feature.detect u = some feature → feature.kind ≠ .browserGlobal) ∧
      (¬ root.InElementName place → raw.label.rule ∈ identifierRules → ∀ name ∈ browserGlobals,
        Feature.detect u = some ⟨u.label, .browserGlobal, name⟩ ↔
          bytes.slice raw.label.span.start raw.label.span.stop = Utf8.encode name) := by
  refine ⟨isSome_at?_of_ofParseTree h place, ?_⟩
  intro raw u hraw hu
  obtain ⟨inName, hflag, hover, hkind, htext⟩ := becomes_of_at? h hraw hu
  refine ⟨hover, ?_, ?_, ?_, ?_⟩
  · rw [← hflag]
    rintro (hrule | hrule)
    · rw [hkind, NodeKind.ofRaw_identifier hrule]
      cases inName <;> simp
    · rw [hkind, NodeKind.ofRaw_propertyIdentifier hrule]
      cases inName <;> simp
  · intro houtside
    rw [← hflag, Bool.not_eq_true] at houtside
    subst houtside
    constructor
    · intro hrule
      rw [hkind, NodeKind.ofRaw_identifier hrule]
      rfl
    · intro hrule
      rw [hkind, NodeKind.ofRaw_propertyIdentifier hrule]
      rfl
  · intro hinside feature hdetect hglobal
    have hidentifier := Feature.kind_of_detect_browserGlobal hdetect hglobal
    obtain ⟨-, hnot⟩ := NodeKind.of_ofRaw_eq_identifier (hkind ▸ hidentifier)
    rw [hflag.mpr hinside] at hnot
    cases hnot
  · intro houtside hrule name hname
    rw [← hflag, Bool.not_eq_true] at houtside
    subst houtside
    have hidentifier : u.label.kind = .identifier := by
      rw [hkind, NodeKind.ofRaw_identifier hrule]
      rfl
    rw [← hover.span, ← text_eq_iff_slice_eq htext hidentifier hname,
      Feature.detect_identifier_iff hidentifier hname]

end CodeTree

namespace ParseTree

/-- The text of an element that is named after a property of a browser global and sets an attribute
to another one. -/
def globalElementText : String := "<location.Item alert=\x7bhistory\x7d />"

/-- The tree of that element. -/
def globalElement : ParseTree :=
  let name := onFirstLine "member_expression" (some "name") true 1 14
    [identifier (some "object") "location" 1, token "." 9,
      onFirstLine "property_identifier" (some "property") true 10 14 []]
  let value := onFirstLine "jsx_expression" none true 21 30
    [token "\x7b" 21, identifier none "history" 22, token "\x7d" 29]
  let alert := onFirstLine "jsx_attribute" (some "attribute") true 15 30
    [onFirstLine "property_identifier" none true 15 20 [], token "=" 20, value]
  let element := onFirstLine "jsx_self_closing_element" none true 0 33
    [token "<" 0, name, alert, token "/" 31, token ">" 32]
  onFirstLine "program" none true 0 33 [onFirstLine "expression_statement" none true 0 33 [element]]

end ParseTree

open ParseTree in
/-- Of the two browser globals in an element, the one in its name is none and the one in the value
of an attribute is found. -/
theorem CodeTree.ofParseTree_elementNames_globalElement :
    globalElement.InElementName [0, 0, 1, 0] ∧ ¬ globalElement.InElementName [0, 0, 2, 2, 1] ∧
    ∃ t u v, ofParseTree (Utf8.encode globalElementText) globalElement = .ok t ∧
      t.at? [0, 0, 1, 0] = some u ∧ u.label.kind = .jsxName ∧ u.label.text = some "location" ∧
      t.at? [0, 0, 2, 2, 1] = some v ∧ v.label.kind = .identifier ∧
      Feature.detect v = some ⟨v.label, .browserGlobal, "history"⟩ := by
  have hinside : globalElement.InElementName [0, 0, 1, 0] := by decide
  have houtside : ¬ globalElement.InElementName [0, 0, 2, 2, 1] := by decide
  obtain ⟨t, ht, htexts⟩ := exists_ok_of_toOption
    (x := ofParseTree (Utf8.encode globalElementText) globalElement)
    (f := fun t ↦ ((t.at? [0, 0, 1, 0]).bind (·.label.text), (t.at? [0, 0, 2, 2, 1]).isSome))
    (b := (some "location", true)) (by decide +kernel)
  obtain ⟨hlocation, hmention⟩ := Prod.mk.inj htexts
  obtain ⟨u, hu, hutext⟩ := Option.bind_eq_some_iff.mp hlocation
  obtain ⟨v, hv⟩ := Option.isSome_iff_exists.mp hmention
  obtain ⟨-, hname, -⟩ := (ofParseTree_elementNames ht [0, 0, 1, 0]).2 _ u rfl hu
  obtain ⟨-, -, hkinds, -, hglobals⟩ := (ofParseTree_elementNames ht [0, 0, 2, 2, 1]).2 _ v rfl hv
  refine ⟨hinside, houtside, t, u, v, ht, hu, ?_, hutext, hv, ?_, ?_⟩
  · exact (hname (Or.inl (by decide))).mpr hinside
  · exact (hkinds houtside).1 (by decide)
  · exact (hglobals houtside (by decide) "history" (by decide)).mpr (by decide +kernel)

end ClientBoundary
