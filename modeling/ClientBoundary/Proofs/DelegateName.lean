import ClientBoundary.Proofs.ImportNames
import ClientBoundary.Proofs.Rendering
import ClientBoundary.Proofs.ServerHalf

/-!
# The name of the delegate

The server half exports a function under a name that no import of it binds. The search for that name
starts with the name of the function that the source exports, or of the component, and makes it
longer as long as it is taken. It has no bound of its own, but each candidate is longer than the one
before, so it comes to an end as soon as all taken names have been met. What is taken are the names
that the imports of the server half bind, and these are read off the text that is written.

## Main definitions

* `FreeNameSearch`: the runs of a search for a name that is not taken.
* `Partition.ExportsFunction`: the name of the function that a default export declares.
* `BindsOnServer`: a name that an import of the server half binds.

## Main results

* `freeNameSearch_iff`: every search ends, and it ends at the first candidate that is not taken.
* `serverText_eq_ok_iff`: the text of the server half.
* `serverText_delegateName`: the name of the function in the text of the server half.
-/

namespace ClientBoundary

open CodeTree

/-! ### Searching for a free name -/

/-- The runs of a search for a free name: it stops at a name that is not taken, and goes on with the
name made longer at one that is. -/
inductive FreeNameSearch (taken : String → Prop) : String → String → Prop
  | stop {name : String} (h : ¬ taken name) : FreeNameSearch taken name name
  | longer {name found : String} (h : taken name)
      (rest : FreeNameSearch taken (name ++ "Server") found) : FreeNameSearch taken name found

theorem longerName_eq (base : String) (k : Nat) :
    longerName base k = base ++ String.join (List.replicate k "Server") := by
  induction k with
  | zero => simp [longerName]
  | succ k ih => simp [longerName, ih, List.replicate_succ', String.append_assoc]

/-- A search ends at one name only. -/
theorem FreeNameSearch.eq {taken : String → Prop} {name found found' : String}
    (h : FreeNameSearch taken name found) (h' : FreeNameSearch taken name found') :
    found = found' := by
  induction h with
  | stop hfree =>
    cases h' with
    | stop => rfl
    | longer htaken => exact absurd htaken hfree
  | longer htaken _ ih =>
    cases h' with
    | stop hfree => exact absurd htaken hfree
    | longer _ rest => exact ih rest

/-- A search that starts `n` candidates before the first free one ends there. -/
theorem freeNameSearch_of_least {taken : String → Prop} {base : String} {k : Nat}
    (hfree : ¬ taken (longerName base k)) (hbefore : ∀ j < k, taken (longerName base j)) (j n : Nat)
    (hn : j + n = k) : FreeNameSearch taken (longerName base j) (longerName base k) := by
  induction n generalizing j with
  | zero =>
    obtain rfl : j = k := by omega
    exact .stop hfree
  | succ n ih =>
    refine .longer (hbefore j (by omega)) ?_
    exact ih (j + 1) (by omega)

/-- Every search for a name outside a list ends, and at the free name. -/
theorem freeNameSearch_iff (base : String) (taken : List String) (found : String) :
    FreeNameSearch (· ∈ taken) base found ↔ found = freeName base taken := by
  obtain ⟨k, hname, hfree, hbefore⟩ := exists_freeName base taken
  have hsearch : FreeNameSearch (· ∈ taken) base (longerName base k) :=
    freeNameSearch_of_least hfree hbefore 0 k k.zero_add
  rw [hname]
  exact ⟨fun h ↦ h.eq hsearch, fun h ↦ h ▸ hsearch⟩

/-! ### Where the name comes from -/

/-- The default export declares a function of a name that is not empty. -/
def Partition.ExportsFunction (partition : Partition) (name : String) : Prop :=
  ∃ statement declaration node, partition.defaultExport = some statement ∧
    statement.childInField? "declaration" = some declaration ∧
    declaration.label.kind = .functionDeclaration ∧
    declaration.childInField? "name" = some node ∧ node.label.text = some name ∧ name ≠ ""

theorem Partition.filter_delegateName?_eq_some_iff {partition : Partition} {name : String} :
    (delegateName? partition.defaultExport).filter (· != "") = some name ↔
      partition.ExportsFunction name := by
  simp only [delegateName?, ExportsFunction, Option.filter_eq_some_iff, Option.bind_eq_bind,
    Option.bind_eq_some_iff, bne_iff_ne]
  constructor
  · rintro ⟨⟨statement, hstatement, declaration, hdeclaration, hname⟩, hne⟩
    split_ifs at hname with hkind
    obtain ⟨node, hnode, htext⟩ := Option.bind_eq_some_iff.mp hname
    exact ⟨statement, declaration, node, hstatement, hdeclaration, hkind, hnode, htext, hne⟩
  · rintro ⟨statement, declaration, node, hstatement, hdeclaration, hkind, hnode, htext, hne⟩
    refine ⟨⟨statement, hstatement, declaration, hdeclaration, ?_⟩, hne⟩
    rw [if_pos hkind, hnode, Option.bind_some, htext]

/-- The name with which the search starts: that of the function that the source exports by default,
or else that of the component. -/
theorem Partition.exists_base (path : Path) (partition : Partition) :
    ∃ base, (partition.ExportsFunction base ∨
        (∀ name, ¬ partition.ExportsFunction name) ∧ base = componentIdentifier path) ∧
      serverFunctionName path partition = freeName base (serverNames path partition) := by
  unfold serverFunctionName
  cases hname : (delegateName? partition.defaultExport).filter (· != "") with
  | some name =>
    exact ⟨name, Or.inl (filter_delegateName?_eq_some_iff.mp hname), rfl⟩
  | none =>
    refine ⟨componentIdentifier path, Or.inr ⟨?_, rfl⟩, rfl⟩
    intro name hexports
    rw [← filter_delegateName?_eq_some_iff, hname] at hexports
    cases hexports

/-! ### Names that are taken -/

/-- An import of the server half binds a name: it is the one under which the client half is
imported, a copied import binds it, or it is that of the framework and the import of the framework
is added. -/
def BindsOnServer (path : Path) (partition : Partition) (name : String) : Prop :=
  name = clientName path ∨
    (∃ s, Block.copy s ∈ serverImports path partition ∧ name ∈ s.boundNames) ∨
    Block.line frameworkImport ∈ serverImports path partition ∧ name = "React"

/-- The names that the function of the server half avoids are those that its imports bind. -/
theorem mem_serverNames_iff_binds {path : Path} {partition : Partition} {name : String} :
    name ∈ serverNames path partition ↔ BindsOnServer path partition name := by
  rw [BindsOnServer, serverNames, serverImports_eq]
  cases partition.frameworkImport? with
  | none => simp [frameworkName, or_comm, or_left_comm]
  | some statement => simp [or_and_right, exists_or]

/-! ### The text of the server half -/

/-- The lines of the server half below its imports. -/
def delegateLines (path : Path) (name : String) : List String :=
  let parameter := if path.isTypeScript then "props: any" else "props"
  ["", s!"export default function {name}({parameter}) \x7b",
    s!"  return <{clientName path} \x7b...props\x7d />;", "\x7d"]

theorem serverBlocks_eq (path : Path) (partition : Partition) :
    serverBlocks path partition = serverImports path partition ++
      (delegateLines path (serverFunctionName path partition)).map .line := by
  rw [serverImports_eq]
  rfl

theorem forall₂_lines_iff {bytes : Bytes} {lines texts : List String} :
    List.Forall₂ (fun block text ↦ Block.text bytes block = .ok text) (lines.map .line) texts ↔
      lines = texts := by
  rw [List.forall₂_map_left_iff]
  simp only [Block.text, Except.ok.injEq, List.forall₂_eq_eq_eq]

/-- The text of the server half is that of its imports and of the function below them. -/
theorem serverText_eq_ok_iff {bytes : Bytes} {path : Path} {partition : Partition} {text : String} :
    serverText bytes path partition = .ok text ↔
      ∃ imports,
        List.Forall₂ (fun block text ↦ Block.text bytes block = .ok text)
          (serverImports path partition) imports ∧
        text = terminated (imports ++ delegateLines path (serverFunctionName path partition)) := by
  rw [serverText, serverBlocks_eq, renderBlocks_eq_ok_iff (by simp [delegateLines])]
  constructor
  · rintro ⟨texts, htexts, rfl⟩
    have himports := List.forall₂_take (serverImports path partition).length htexts
    have hlines := List.forall₂_drop (serverImports path partition).length htexts
    rw [List.take_left] at himports
    rw [List.drop_left, forall₂_lines_iff] at hlines
    exact ⟨_, himports, by rw [hlines, List.take_append_drop]⟩
  · rintro ⟨imports, himports, rfl⟩
    exact ⟨_, List.rel_append himports (forall₂_lines_iff.mpr rfl), rfl⟩

/-- **The name of the delegate is free.** Whenever the server half has a text, the search for the
name of its function ends, and at one name only. This name is a base with `Server` repeated `k`
times, where the base is the name of the function that the source exports by default, if it has one
that is not empty, and else that of the component. Here `k` is the least number for which the name
differs from all that the imports of the text bind: the name of the client half, the names of all
copied imports, and `React` if the import of the framework is added. The function in the text has
that name. -/
theorem serverText_delegateName {bytes : Bytes} {path : Path} {partition : Partition}
    {text : String} (h : serverText bytes path partition = .ok text) :
    ∃ base k name,
      (partition.ExportsFunction base ∨
        (∀ other, ¬ partition.ExportsFunction other) ∧ base = componentIdentifier path) ∧
      name = base ++ String.join (List.replicate k "Server") ∧
      ¬ BindsOnServer path partition name ∧
      (∀ j < k, BindsOnServer path partition (base ++ String.join (List.replicate j "Server"))) ∧
      (∀ found, FreeNameSearch (BindsOnServer path partition) base found ↔ found = name) ∧
      ∃ imports,
        List.Forall₂ (fun block line ↦ Block.text bytes block = .ok line)
          (serverImports path partition) imports ∧
        text = terminated (imports ++ delegateLines path name) := by
  obtain ⟨base, hbase, hname⟩ := partition.exists_base path
  obtain ⟨k, hk, hfree, hbefore⟩ := exists_freeName base (serverNames path partition)
  have hbinds : (· ∈ serverNames path partition) = BindsOnServer path partition :=
    funext fun _ ↦ propext mem_serverNames_iff_binds
  refine ⟨base, k, serverFunctionName path partition, hbase, ?_, ?_, ?_, ?_,
    serverText_eq_ok_iff.mp h⟩
  · rw [hname, hk, longerName_eq]
  · rw [← mem_serverNames_iff_binds, hname, hk]
    exact hfree
  · intro j hj
    rw [← mem_serverNames_iff_binds, ← longerName_eq]
    exact hbefore j hj
  · intro found
    rw [hname, ← freeNameSearch_iff, hbinds]

/-- A source that imports something under the name of its component and under the next candidate. -/
def takenCard : List OneLine :=
  [.importDefault "Card" "./card", .importNamed "CardServer" "./base", .mention "window"]

/-- The delegate of a component whose name is imported, with the next candidate, gets the third
one. -/
theorem serverText_delegateName_takenCard :
    ∃ program partition tainted text imports,
      ofSource (OneLine.parser takenCard) .tsx (OneLine.source takenCard) = .ok program ∧
      partitionModule (fun _ ↦ false) program = .ok (partition, tainted) ∧
      serverText (OneLine.source takenCard) (.ofString "card.tsx") partition = .ok text ∧
      FreeNameSearch (BindsOnServer (.ofString "card.tsx") partition) "Card" "CardServerServer" ∧
      text = terminated (imports ++ delegateLines (.ofString "card.tsx") "CardServerServer") := by
  obtain ⟨program, hprogram, hpartitioned⟩ := exists_ok_of_toOption
    (x := ofSource (OneLine.parser takenCard) .tsx (OneLine.source takenCard))
    (f := fun program : CodeTree ↦ (partitionModule (fun _ ↦ false) program).toOption.map
      fun result : Partition × Bool ↦ decide <|
        serverNames (.ofString "card.tsx") result.1 =
          ["CardClient", "React", "Card", "CardServer"] ∧
        delegateName? result.1.defaultExport = none ∧
        (serverText (OneLine.source takenCard) (.ofString "card.tsx") result.1).toOption.map
          (fun _ ↦ true) = some true)
    (b := some true) (by decide +kernel)
  obtain ⟨⟨partition, tainted⟩, hpartition, hfacts⟩ := exists_ok_of_toOption hpartitioned
  obtain ⟨hnames, hdelegate, htext⟩ := of_decide_eq_true hfacts
  obtain ⟨text, htext, -⟩ := exists_ok_of_toOption htext
  have hbinds (name : String) : BindsOnServer (.ofString "card.tsx") partition name ↔
      name ∈ ["CardClient", "React", "Card", "CardServer"] := by
    rw [← mem_serverNames_iff_binds, hnames]
  have hsearch : FreeNameSearch (BindsOnServer (.ofString "card.tsx") partition) "Card"
      "CardServerServer" := by
    refine .longer ((hbinds "Card").mpr (by decide)) ?_
    refine .longer ((hbinds "CardServer").mpr (by decide)) ?_
    exact .stop fun htaken ↦ absurd ((hbinds "CardServerServer").mp htaken) (by decide)
  obtain ⟨base, k, name, hbase, -, -, -, hfound, imports, -, hwritten⟩ :=
    serverText_delegateName htext
  have hcard : base = "Card" := by
    rcases hbase with hexports | ⟨-, rfl⟩
    · rw [← Partition.filter_delegateName?_eq_some_iff, hdelegate] at hexports
      cases hexports
    · decide +kernel
  subst hcard
  obtain rfl := (hfound _).mp hsearch
  exact ⟨program, partition, tainted, text, imports, hprogram, hpartition, htext, hsearch, hwritten⟩

end ClientBoundary
