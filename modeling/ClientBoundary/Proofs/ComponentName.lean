import ClientBoundary.Proofs.DelegateName
import ClientBoundary.Proofs.WrittenPaths

/-!
# The name of the component

The name of a component is made of those characters of a file name that can stand in an identifier.
Every word of them starts with a capital, so the first character is no lower-case letter, and it is
no digit since an underscore is put in front of one. A file name without any such character gives a
name of its own. The client half is imported under this name with a fixed ending. Nothing of
that depends on the file name, so the server half always binds an identifier, and the element that
it renders is always read as a component.

## Main definitions

* `IsComponentName`: how names of components are written.
* `reservedWords`, `IsIdentifier`: names that a module can bind.
* `isBuiltInElement`: names of elements that are not components.

## Main results

* `isComponentName_identifierOf`, `isComponentName_clientName`: both derived names are of this form.
* `IsComponentName.isIdentifier`, `IsComponentName.isBuiltInElement_eq`: what follows from it.
* `serverText_renders_component`: the element in the text of the server half.
-/

namespace ClientBoundary

open Text CodeTree ClientBoundary.Path

/-- A name in letters, digits, underscores and dollar signs that starts with neither a digit nor a
lower-case letter. -/
structure IsComponentName (name : String) : Prop where
  ne_empty : name ≠ ""
  chars : ∀ c ∈ name.toList, c.isAlphanum = true ∨ c = '_' ∨ c = '$'
  first : ∀ c, name.toList.head? = some c → c.isDigit = false ∧ c.isLower = false

/-- The words that a module cannot bind. -/
def reservedWords : List String :=
  ["arguments", "await", "break", "case", "catch", "class", "const", "continue", "debugger",
    "default", "delete", "do", "else", "enum", "eval", "export", "extends", "false", "finally",
    "for", "function", "if", "implements", "import", "in", "instanceof", "interface", "let", "new",
    "null", "package", "private", "protected", "public", "return", "static", "super", "switch",
    "this", "throw", "true", "try", "typeof", "var", "void", "while", "with", "yield"]

/-- A name that a module can bind, in ASCII: it starts with no digit and is not reserved. -/
def IsIdentifier (name : String) : Prop :=
  (∃ first rest, name.toList = first :: rest ∧
    (first.isAlpha = true ∨ first = '_' ∨ first = '$') ∧
    ∀ c ∈ rest, c.isAlphanum = true ∨ c = '_' ∨ c = '$') ∧
  name ∉ reservedWords

/-- Whether an element of this name is built in. These names start with a lower-case letter, and all
others are references to components. -/
def isBuiltInElement (name : String) : Bool :=
  name.toList.head?.any Char.isLower

/-! ### Characters of identifiers -/

theorem isIdentifierChar_iff {c : Char} :
    isIdentifierChar c = true ↔ c.isAlphanum = true ∨ c = '_' ∨ c = '$' := by
  simp only [isIdentifierChar, Bool.or_eq_true, beq_iff_eq, or_assoc]

theorem toNat_lt_of_isIdentifierChar {c : Char} (h : isIdentifierChar c = true) :
    c.toNat < 0x80 := by
  have hlt {d : Char} (hcd : c.val ≤ d.val) (hd : d.toNat < 0x80) : c.toNat < 0x80 :=
    Nat.lt_of_le_of_lt (UInt32.le_iff_toNat_le.mp hcd) hd
  rcases isIdentifierChar_iff.mp h with halphanum | rfl | rfl
  · have hkinds : (c.isUpper || c.isLower || c.isDigit) = true := halphanum
    rw [Bool.or_eq_true, Bool.or_eq_true] at hkinds
    rcases hkinds with (hupper | hlower) | hdigit
    · exact hlt (of_decide_eq_true hupper).2 (by decide)
    · exact hlt (of_decide_eq_true (Bool.and_eq_true_iff.mp hlower).2) (by decide)
    · exact hlt (of_decide_eq_true (Bool.and_eq_true_iff.mp hdigit).2) (by decide)
  · decide
  · decide

/-- A capital stands in an identifier where its letter does. -/
theorem toUpper_of_isIdentifierChar {c : Char} (h : isIdentifierChar c = true) :
    isIdentifierChar c.toUpper = true ∧ c.toUpper.isLower = false := by
  have hascii : ∀ n < 0x80, isIdentifierChar (Char.ofNat n) = true →
      isIdentifierChar (Char.ofNat n).toUpper = true ∧
        (Char.ofNat n).toUpper.isLower = false := by
    decide
  have hc := hascii c.toNat (toNat_lt_of_isIdentifierChar h)
  rw [Char.ofNat_toNat] at hc
  exact hc h

/-! ### Words with capitals -/

theorem capitalize_word {word : List Char} (h : ∀ c ∈ word, isIdentifierChar c = true) :
    (∀ c ∈ capitalize word, isIdentifierChar c = true) ∧
      ∀ c, (capitalize word).head? = some c → c.isLower = false := by
  cases word with
  | nil => simp [capitalize]
  | cons c word =>
    obtain ⟨hc, hword⟩ := List.forall_mem_cons.mp h
    obtain ⟨hupper, hlower⟩ := toUpper_of_isIdentifierChar hc
    refine ⟨List.forall_mem_cons.mpr ⟨hupper, hword⟩, ?_⟩
    rintro d ⟨⟩
    exact hlower

/-- Words with capitals one behind the other start with a capital if they start with a letter. -/
theorem flatMap_capitalize {words : List (List Char)}
    (h : ∀ word ∈ words, ∀ c ∈ word, isIdentifierChar c = true) :
    (∀ c ∈ words.flatMap capitalize, isIdentifierChar c = true) ∧
      ∀ c, (words.flatMap capitalize).head? = some c → c.isLower = false := by
  induction words with
  | nil => simp
  | cons word words ih =>
    obtain ⟨hword, hwords⟩ := List.forall_mem_cons.mp h
    obtain ⟨hchars, hfirst⟩ := capitalize_word hword
    obtain ⟨hrestChars, hrestFirst⟩ := ih hwords
    rw [List.flatMap_cons]
    refine ⟨fun c hc ↦ (List.mem_append.mp hc).elim (hchars c) (hrestChars c), fun c hc ↦ ?_⟩
    rw [List.head?_append] at hc
    cases hhead : (capitalize word).head? with
    | none =>
      rw [hhead, Option.none_or] at hc
      exact hrestFirst c hc
    | some d =>
      rw [hhead, Option.some_or] at hc
      exact hfirst c (hhead.trans hc)

/-! ### Derived names -/

theorem isComponentName_ofList {first : Char} {rest : List Char} (hdigit : first.isDigit = false)
    (hlower : first.isLower = false) (hchars : ∀ c ∈ first :: rest, isIdentifierChar c = true) :
    IsComponentName (String.ofList (first :: rest)) where
  ne_empty h := by simpa using congrArg String.toList h
  chars c hc := by
    rw [String.toList_ofList] at hc
    exact isIdentifierChar_iff.mp (hchars c hc)
  first c hc := by
    rw [String.toList_ofList, List.head?_cons] at hc
    cases hc
    exact ⟨hdigit, hlower⟩

/-- The identifier made of the words of any text is the name of a component. -/
theorem isComponentName_identifierOf (cs : List Char) :
    IsComponentName (String.ofList (identifierOf cs)) := by
  have hfields : ∀ word ∈ fields (!isIdentifierChar ·) cs, ∀ c ∈ word,
      isIdentifierChar c = true := by
    intro word hword c hc
    simpa using (mem_fields hword).1 c hc
  obtain ⟨hchars, hfirst⟩ := flatMap_capitalize hfields
  unfold identifierOf
  split
  · exact isComponentName_ofList (by decide) (by decide) (List.all_eq_true.mp (by decide))
  · rename_i c rest hwords
    rw [hwords] at hchars hfirst
    have hlower : c.isLower = false := hfirst c rfl
    split_ifs with hdigit
    · exact isComponentName_ofList (by decide) (by decide)
        (List.forall_mem_cons.mpr ⟨by decide, hchars⟩)
    · exact isComponentName_ofList (by simpa using hdigit) hlower hchars

theorem isComponentName_componentIdentifier (path : Path) :
    IsComponentName (componentIdentifier path) :=
  isComponentName_identifierOf path.stem.toList

namespace IsComponentName

variable {name : String} (h : IsComponentName name)

include h

theorem exists_first :
    ∃ first rest, name.toList = first :: rest ∧ first.isDigit = false ∧ first.isLower = false := by
  cases hname : name.toList with
  | nil => exact absurd (String.toList_eq_nil_iff.mp hname) h.ne_empty
  | cons first rest => exact ⟨first, rest, rfl, h.first first (by rw [hname, List.head?_cons])⟩

/-- An ending in characters of identifiers makes no difference. -/
theorem append {ending : String} (hending : ∀ c ∈ ending.toList, isIdentifierChar c = true) :
    IsComponentName (name ++ ending) := by
  obtain ⟨first, rest, hname, hdigit, hlower⟩ := h.exists_first
  have hchars : ∀ c ∈ first :: (rest ++ ending.toList), isIdentifierChar c = true := by
    rw [← List.cons_append, ← hname]
    intro c hc
    rcases List.mem_append.mp hc with hc | hc
    · exact isIdentifierChar_iff.mpr (h.chars c hc)
    · exact hending c hc
  have heq : name ++ ending = String.ofList (first :: (rest ++ ending.toList)) := by
    rw [← String.toList_inj, String.toList_append, String.toList_ofList, hname, List.cons_append]
  rw [heq]
  exact isComponentName_ofList hdigit hlower hchars

/-- Elements with the name of a component are not built in. -/
theorem isBuiltInElement_eq : isBuiltInElement name = false := by
  obtain ⟨first, rest, hname, -, hlower⟩ := h.exists_first
  rw [isBuiltInElement, hname, List.head?_cons, Option.any_some, hlower]

/-- The name of a component is no word that starts with a lower-case letter. -/
theorem ne_of_isBuiltInElement {word : String} (hword : isBuiltInElement word = true) :
    name ≠ word := by
  rintro rfl
  cases hword.symm.trans h.isBuiltInElement_eq

/-- A module can bind the name of a component. -/
theorem isIdentifier : IsIdentifier name := by
  obtain ⟨first, rest, hname, hdigit, -⟩ := h.exists_first
  have hchars : ∀ c ∈ first :: rest, c.isAlphanum = true ∨ c = '_' ∨ c = '$' := hname ▸ h.chars
  obtain ⟨hfirst, hrest⟩ := List.forall_mem_cons.mp hchars
  refine ⟨⟨first, rest, hname, ?_, hrest⟩, fun hreserved ↦ ?_⟩
  · rwa [Char.isAlphanum, hdigit, Bool.or_false] at hfirst
  · have hlower : ∀ word ∈ reservedWords, isBuiltInElement word = true := by decide
    exact h.ne_of_isBuiltInElement (hlower name hreserved) rfl

end IsComponentName

theorem isComponentName_clientName (path : Path) : IsComponentName (clientName path) :=
  (isComponentName_componentIdentifier path).append (List.all_eq_true.mp (by decide))

/-! ### The server half -/

/-- The function of the server half has none of the names that its imports bind. -/
theorem serverFunctionName_notMem (path : Path) (partition : Partition) :
    serverFunctionName path partition ∉ serverNames path partition := by
  obtain ⟨base, -, hname⟩ := partition.exists_base path
  obtain ⟨k, hk, hfree, -⟩ := exists_freeName base (serverNames path partition)
  rw [hname, hk]
  exact hfree

/-- **The delegate renders a component.** For every path the name derived from it is not empty, has
only letters, digits, underscores and dollar signs, and starts with neither a digit nor a lower-case
letter. Whenever the server half has a text, its second block binds this name with `Client` behind
it, the function has the name of the delegate, and the element in it is named as the import. That is
an identifier, not the name of a built-in element, and neither the name of the function nor that of
its parameter. -/
theorem serverText_renders_component (path : Path) :
    IsComponentName (componentIdentifier path) ∧
      ∀ {bytes : Bytes} {partition : Partition} {text : String},
        serverText bytes path partition = .ok text →
        ∃ (client framework specifier function parameter : String) (copied : List String),
          client = componentIdentifier path ++ "Client" ∧
          function = serverFunctionName path partition ∧
          (parameter = "props" ∨ parameter = "props: any") ∧
          text = terminated (framework :: s!"import {client} from '{specifier}';" :: copied ++
            ["", s!"export default function {function}({parameter}) \x7b",
              s!"  return <{client} \x7b...props\x7d />;", "\x7d"]) ∧
          IsIdentifier client ∧ isBuiltInElement client = false ∧
          client ≠ function ∧ client ≠ "props" := by
  refine ⟨isComponentName_componentIdentifier path, fun {bytes partition text} h ↦ ?_⟩
  have hclient := isComponentName_clientName path
  obtain ⟨imports, himports, htext⟩ := serverText_eq_ok_iff.mp h
  rw [serverImports_eq, List.forall₂_cons_left_iff] at himports
  obtain ⟨framework, _, -, himports, rfl⟩ := himports
  obtain ⟨line, copied, hline, -, rfl⟩ := List.forall₂_cons_left_iff.mp himports
  obtain ⟨specifier, -, hline⟩ := bind_eq_ok_iff.mp hline
  obtain rfl := pure_eq_ok_iff.mp hline
  refine ⟨clientName path, framework, specifier, serverFunctionName path partition,
    if path.isTypeScript then "props: any" else "props", copied, rfl, rfl, ?_, htext,
    hclient.isIdentifier, hclient.isBuiltInElement_eq, ?_, ?_⟩
  · split_ifs
    · exact Or.inr rfl
    · exact Or.inl rfl
  · intro heq
    refine serverFunctionName_notMem path partition ?_
    rw [← heq, serverNames]
    exact List.mem_cons_self
  · exact hclient.ne_of_isBuiltInElement (by decide)

/-- A file name that starts with a digit and has a letter that identifiers here do not. -/
theorem serverText_renders_component_digits :
    ∃ program partition tainted text,
      ofSource (OneLine.parser [.mention "window"]) .tsx (OneLine.source [.mention "window"]) =
        .ok program ∧
      partitionModule (fun _ ↦ false) program = .ok (partition, tainted) ∧
      serverText (OneLine.source [.mention "window"]) (.ofString "ui/404-é.tsx") partition =
        .ok text ∧
      IsComponentName "_404" ∧
      ∃ (framework specifier function parameter : String) (copied : List String),
        function = serverFunctionName (.ofString "ui/404-é.tsx") partition ∧
        text = terminated (framework :: s!"import _404Client from '{specifier}';" :: copied ++
          ["", s!"export default function {function}({parameter}) \x7b",
            "  return <_404Client \x7b...props\x7d />;", "\x7d"]) ∧
        IsIdentifier "_404Client" ∧ isBuiltInElement "_404Client" = false ∧
        "_404Client" ≠ function := by
  obtain ⟨program, hprogram, hpartitioned⟩ := exists_ok_of_toOption
    (x := ofSource (OneLine.parser [.mention "window"]) .tsx (OneLine.source [.mention "window"]))
    (f := fun program : CodeTree ↦ (partitionModule (fun _ ↦ false) program).toOption.map
      fun result : Partition × Bool ↦
        (serverText (OneLine.source [.mention "window"]) (.ofString "ui/404-é.tsx")
          result.1).toOption.map fun _ ↦ true)
    (b := some (some true)) (by decide +kernel)
  obtain ⟨⟨partition, tainted⟩, hpartition, htext⟩ := exists_ok_of_toOption hpartitioned
  obtain ⟨text, htext, -⟩ := exists_ok_of_toOption htext
  obtain ⟨hname, hrenders⟩ := serverText_renders_component (.ofString "ui/404-é.tsx")
  have hidentifier : componentIdentifier (.ofString "ui/404-é.tsx") = "_404" := by decide +kernel
  rw [hidentifier] at hname hrenders
  obtain ⟨_, framework, specifier, function, parameter, copied, rfl, hfunction, -, hlines, hbinds,
    hcomponent, hne, -⟩ := hrenders htext
  exact ⟨program, partition, tainted, text, hprogram, hpartition, htext, hname, framework,
    specifier, function, parameter, copied, hfunction, hlines, hbinds, hcomponent, hne⟩

end ClientBoundary
