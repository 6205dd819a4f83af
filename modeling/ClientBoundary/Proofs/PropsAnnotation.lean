import ClientBoundary.Proofs.ComponentName
import ClientBoundary.Proofs.SiblingPaths
import ClientBoundary.Proofs.SplitVerdict

/-!
# The annotation of the delegate

The grammar of a source is that of the language named on the command line, or else in the
environment, or else that of the suffix of the file. Whether the delegate annotates its parameter is
decided by the suffix alone. Both decisions agree as long as no language is named, and a language
that is named can only do harm in one way: when a file with a suffix of typed sources is read as
plain script, the delegate is annotated although the grammar knows no annotations.

## Main definitions

* `EndsInDelegate`: the parameter of the function at the end of a text.
* `AnnotatesProps`: the parameter is annotated with a type.

## Main results

* `EndsInDelegate.parameter_eq`: the parameter can be read off the text.
* `Grammar.resolve_eq_ok_iff`: where a grammar comes from.
* `Split.exists_annotatesProps_iff`: the delegate of a split is annotated as the suffix says.
* `annotatesProps_only_tsx_iff`: when annotations are written for the grammar that knows them only.
* `annotatesProps_plainScript`: an annotation that the grammar of the source does not know.
-/

namespace ClientBoundary

open ClientBoundary.Path

/-! ### The end of the server half -/

/-- A text ends in the body of a function that renders a component, and the header of that function
ends in a list of parameters. -/
def EndsInDelegate (parameters text : String) : Prop :=
  ∃ front component, '\n' ∉ component.toList ∧
    text = front ++ terminated
      ["(" ++ parameters ++ ") \x7b", "  return <" ++ component ++ " \x7b...props\x7d />;", "\x7d"]

/-- The function at the end of a text annotates its parameter with a type. -/
def AnnotatesProps (text : String) : Prop :=
  EndsInDelegate "props: any" text

/-- A text ends in one list of parameters only. -/
theorem EndsInDelegate.parameter_eq {parameters parameters' text : String}
    (h : EndsInDelegate parameters text) (h' : EndsInDelegate parameters' text)
    (hopen : '(' ∉ parameters.toList) (hopen' : '(' ∉ parameters'.toList) :
    parameters = parameters' := by
  obtain ⟨front, component, hcomponent, rfl⟩ := h
  obtain ⟨front', component', hcomponent', htext⟩ := h'
  have hline {name : String} (hname : '\n' ∉ name.toList) :
      '\n' ∉ "  return <".toList ++ name.toList := by
    rw [List.mem_append, not_or]
    exact ⟨by decide, hname⟩
  -- Behind the last line feed but two stands the element, before it the header.
  have hlines : (front.toList ++ '(' :: (parameters.toList ++ ") \x7b".toList)) ++
        '\n' :: ("  return <".toList ++ component.toList) =
      (front'.toList ++ '(' :: (parameters'.toList ++ ") \x7b".toList)) ++
        '\n' :: ("  return <".toList ++ component'.toList) := by
    have hlist := congrArg String.toList htext
    simp only [terminated, List.map_cons, List.map_nil, String.join_cons, String.join_nil,
      String.toList_append, ← List.append_assoc] at hlist
    refine (List.append_left_inj " \x7b...props\x7d />;\n\x7d\n".toList).mp ?_
    simpa using hlist
  have hheaders := (append_cons_inj (hline hcomponent) (hline hcomponent') hlines).1
  have hparenthesis {list : String} (hlist : '(' ∉ list.toList) :
      '(' ∉ list.toList ++ ") \x7b".toList := by
    rw [List.mem_append, not_or]
    exact ⟨hlist, by decide⟩
  have hlists := (append_cons_inj (hparenthesis hopen) (hparenthesis hopen') hheaders).2
  exact String.toList_injective (List.append_cancel_right hlists)

/-- The server half ends in a function whose parameter is annotated as the suffix says. -/
theorem endsInDelegate_serverText {bytes : Bytes} {path : Path} {partition : Partition}
    {text : String} (h : serverText bytes path partition = .ok text) :
    EndsInDelegate (if path.isTypeScript then "props: any" else "props") text := by
  obtain ⟨imports, -, rfl⟩ := serverText_eq_ok_iff.mp h
  have hfeed : '\n' ∉ (clientName path).toList := by
    intro hmem
    have hchars := (isComponentName_clientName path).chars _ hmem
    exact absurd hchars (by decide)
  have hlines : delegateLines path (serverFunctionName path partition) =
      ["", "export default function " ++ serverFunctionName path partition ++ "(" ++
        (if path.isTypeScript then "props: any" else "props") ++ ") \x7b",
        "  return <" ++ clientName path ++ " \x7b...props\x7d />;", "\x7d"] := rfl
  refine ⟨terminated imports ++ ("\n" ++ ("export default function " ++
    serverFunctionName path partition)), clientName path, hfeed, ?_⟩
  rw [hlines]
  simp only [terminated, List.map_append, List.map_cons, String.join_append, String.join_cons,
    String.append_assoc, String.empty_append]

theorem annotatesProps_iff_isTypeScript {bytes : Bytes} {path : Path} {partition : Partition}
    {text : String} (h : serverText bytes path partition = .ok text) :
    AnnotatesProps text ↔ path.isTypeScript = true := by
  have hends := endsInDelegate_serverText h
  cases htyped : path.isTypeScript with
  | true =>
    rw [htyped, if_pos rfl] at hends
    exact iff_of_true hends rfl
  | false =>
    rw [htyped, if_neg Bool.false_ne_true] at hends
    refine iff_of_false (fun hannotated ↦ ?_) Bool.false_ne_true
    exact absurd (hends.parameter_eq hannotated (by decide) (by decide)) (by decide)

/-- The server half of a split annotates the delegate exactly when the file has a suffix of typed
sources. -/
theorem Split.exists_annotatesProps_iff {parser : Parser} {grammar : Grammar} {bytes : Bytes}
    {path : Path} {split : Split} (h : Split.ofSource parser grammar bytes path = .ok split)
    (hneeds : split.needsSplit = true) :
    ∃ text, split.serverText = some text ∧ (AnnotatesProps text ↔ path.isTypeScript = true) := by
  obtain ⟨program, -, h⟩ := bind_eq_ok_iff.mp h
  simp only [Split.ofProgram, bind_eq_ok_iff, Prod.exists] at h
  obtain ⟨partition, tainted, -, hsplit⟩ := h
  cases tainted with
  | false =>
    obtain rfl := pure_eq_ok_iff.mp hsplit
    cases hneeds
  | true =>
    simp only [Split.ofPartition, if_true, bind_eq_ok_iff, pure_eq_ok_iff] at hsplit
    obtain ⟨_, -, _, -, text, htext, _, -, rfl⟩ := hsplit
    exact ⟨text, rfl, annotatesProps_iff_isTypeScript htext⟩

/-! ### Where the grammar comes from -/

/-- The grammar that a suffix stands for is the typed one exactly for the suffixes of typed
sources. -/
theorem Grammar.isTypeScript_iff_of_ofPath {path : Path} {grammar : Grammar}
    (h : Grammar.ofPath path = .ok grammar) : path.isTypeScript = true ↔ grammar = .tsx := by
  unfold Grammar.ofPath at h
  unfold Path.isTypeScript
  split at h
  case h_9 => cases h
  all_goals
    rename_i hsuffix
    obtain rfl := Except.ok.inj h
    rw [hsuffix]
    decide

theorem Environment.ne_empty_of_languageOr {environment : Environment} {language : Option String}
    {name : String} (h : environment.languageOr language = some name) : name ≠ "" := by
  unfold Environment.languageOr Environment.defaultLanguage at h
  rcases Option.or_eq_some_iff.mp h with hgiven | ⟨-, hdefault⟩
  · exact bne_iff_ne.mp (Option.filter_eq_some_iff.mp hgiven).2
  · exact bne_iff_ne.mp (Option.filter_eq_some_iff.mp hdefault).2

/-- A grammar comes from the language that is named, if one is, and otherwise from the suffix. -/
theorem Grammar.resolve_eq_ok_iff {environment : Environment} {language : Option String}
    {path : Path} {grammar : Grammar} :
    Grammar.resolve (environment.languageOr language) (some path) = .ok grammar ↔
      (∃ name, environment.languageOr language = some name ∧ ofName name = .ok grammar) ∨
      environment.languageOr language = none ∧ ofPath path = .ok grammar := by
  cases hname : environment.languageOr language with
  | none =>
    have hresolve : Grammar.resolve none (some path) = ofPath path := rfl
    simp [hresolve]
  | some name =>
    have hne : (name != "") = true := bne_iff_ne.mpr (Environment.ne_empty_of_languageOr hname)
    have hresolve : Grammar.resolve (some name) (some path) = ofName name := by
      unfold Grammar.resolve
      rw [Option.filter_some, if_pos hne]
    simp [hresolve]

/-- **Annotations and grammars.** Let a source be split with the grammar that the named language,
the environment or the suffix of its file gives. The delegate is annotated only where the grammar
knows annotations, unless the file has a suffix of typed sources and the language that is named
for it is that of plain scripts. If no language is named, the delegate is annotated exactly where
the grammar knows annotations. -/
theorem annotatesProps_only_tsx_iff {parser : Parser} {environment : Environment}
    {language : Option String} {grammar : Grammar} {bytes : Bytes} {path : Path} {split : Split}
    (hgrammar : Grammar.resolve (environment.languageOr language) (some path) = .ok grammar)
    (hsplit : Split.ofSource parser grammar bytes path = .ok split)
    (hneeds : split.needsSplit = true) :
    ∃ text, split.serverText = some text ∧
      ((AnnotatesProps text → grammar = .tsx) ↔
        ¬ (path.isTypeScript = true ∧ ∃ name, environment.languageOr language = some name ∧
          Grammar.ofName name = .ok .javascript)) ∧
      (environment.languageOr language = none → (AnnotatesProps text ↔ grammar = .tsx)) := by
  obtain ⟨text, htext, hannotated⟩ := Split.exists_annotatesProps_iff hsplit hneeds
  refine ⟨text, htext, ?_, ?_⟩
  · rw [hannotated]
    rcases Grammar.resolve_eq_ok_iff.mp hgrammar with ⟨name, hname, hnamed⟩ | ⟨hnone, hsuffix⟩
    · simp only [hname, Option.some.injEq, exists_eq_left', hnamed, Except.ok.injEq]
      cases grammar <;> simp
    · simp [hnone, Grammar.isTypeScript_iff_of_ofPath hsuffix]
  · intro hnone
    rcases Grammar.resolve_eq_ok_iff.mp hgrammar with ⟨name, hname, -⟩ | ⟨-, hsuffix⟩
    · rw [hnone] at hname
      cases hname
    · rw [hannotated, Grammar.isTypeScript_iff_of_ofPath hsuffix]

/-- A typed suffix in capital letters and no language that is named: the delegate is annotated, and
the grammar is the one that knows annotations. -/
theorem annotatesProps_only_tsx_capitals :
    Grammar.resolve (Environment.languageOr {} none) (some (.ofString "ui/Counter.MTS")) =
      .ok .tsx ∧
    ∃ split text,
      Split.ofSource (OneLine.parser [.mention "window"]) .tsx (OneLine.source [.mention "window"])
        (.ofString "ui/Counter.MTS") = .ok split ∧
      split.needsSplit = true ∧ split.serverText = some text ∧ AnnotatesProps text := by
  have hgrammar : Grammar.resolve (Environment.languageOr {} none)
      (some (.ofString "ui/Counter.MTS")) = .ok .tsx := by decide
  obtain ⟨split, hsplit, hneeds⟩ := exists_ok_of_toOption
    (x := Split.ofSource (OneLine.parser [.mention "window"]) .tsx
      (OneLine.source [.mention "window"]) (.ofString "ui/Counter.MTS"))
    (f := Split.needsSplit) (b := true) (by decide +kernel)
  obtain ⟨text, htext, -, hagrees⟩ := annotatesProps_only_tsx_iff hgrammar hsplit hneeds
  exact ⟨hgrammar, split, text, hsplit, hneeds, htext, (hagrees rfl).mpr rfl⟩

/-- A typed suffix with the language of plain scripts: the delegate is annotated, although the
source was read with a grammar that knows no annotations. -/
theorem annotatesProps_plainScript :
    Grammar.resolve (Environment.languageOr {} (some "js")) (some (.ofString "Counter.tsx")) =
      .ok .javascript ∧
    ∃ split text,
      Split.ofSource (OneLine.parser [.mention "window"]) .javascript
        (OneLine.source [.mention "window"]) (.ofString "Counter.tsx") = .ok split ∧
      split.needsSplit = true ∧ split.serverText = some text ∧ AnnotatesProps text := by
  obtain ⟨split, hsplit, hneeds⟩ := exists_ok_of_toOption
    (x := Split.ofSource (OneLine.parser [.mention "window"]) .javascript
      (OneLine.source [.mention "window"]) (.ofString "Counter.tsx"))
    (f := Split.needsSplit) (b := true) (by decide +kernel)
  obtain ⟨text, htext, hannotated⟩ := Split.exists_annotatesProps_iff hsplit hneeds
  have htyped : (Path.ofString "Counter.tsx").isTypeScript = true := by decide
  exact ⟨by decide, split, text, hsplit, hneeds, htext, hannotated.mpr htyped⟩

end ClientBoundary
