import ClientBoundary.Proofs.LintAgreement
import ClientBoundary.Proofs.SiblingPaths

/-!
# Files that the linter looks at

The linter looks at a file by the end of its name as it is written, where a line feed behind the end
does not count, while the grammar comes from the suffix of the path. They agree on all names but
two kinds: a name that ends in a line feed has a suffix with that line feed in it, and a name that
consists of nothing but a dot and an extension has no suffix at all. Such files are looked at, and
no grammar is found for them.

## Main definitions

* `componentExtensions`: the extensions of the files that the linter looks at.

## Main results

* `isComponentFile_iff`: how the names of these files end.
* `Grammar.exists_ofPath_iff`: the suffixes that have a grammar.
* `Path.suffix_of_name_eq`: the suffix of a name that ends in a dot and an extension.
* `componentFile_hasGrammar_iff`: which of the files have a grammar.
* `componentFile_noGrammar`: a file that has none.
-/

namespace ClientBoundary

open Text ClientBoundary.Path

/-! ### Names of component files -/

/-- The extensions of the files that the linter looks at. -/
def componentExtensions : List (List Char) :=
  ["js".toList, "jsx".toList, "ts".toList, "tsx".toList]

theorem hasComponentSuffix_iff {cs : List Char} :
    hasComponentSuffix cs = true ↔
      ∃ extension ∈ componentExtensions, ∃ front, cs = front ++ '.' :: extension := by
  have hsuffixes : [".js", ".jsx", ".ts", ".tsx"].map String.toList =
      componentExtensions.map ('.' :: ·) := by decide
  have hany : hasComponentSuffix cs =
      (componentExtensions.map ('.' :: ·)).any (·.isSuffixOf cs) := by
    rw [← hsuffixes, List.any_map]
    rfl
  simp only [hany, List.any_map, List.any_eq_true, Function.comp_apply, List.isSuffixOf_iff_suffix]
  exact exists_congr fun _ ↦ and_congr_right fun _ ↦ exists_congr fun _ ↦ eq_comm

/-- The name of a file that the linter looks at ends in a dot and an extension, with or without a
line feed. -/
theorem isComponentFile_iff {filename : String} :
    isComponentFile filename = true ↔
      ∃ extension ∈ componentExtensions, ∃ front,
        filename.toList = front ++ '.' :: extension ∨
        filename.toList = front ++ '.' :: (extension ++ ['\n']) := by
  simp only [isComponentFile, Bool.or_eq_true, Bool.and_eq_true, beq_iff_eq,
    hasComponentSuffix_iff]
  constructor
  · rintro (⟨extension, hextension, front, hname⟩ | ⟨hlast, extension, hextension, front, hname⟩)
    · exact ⟨extension, hextension, front, Or.inl hname⟩
    · refine ⟨extension, hextension, front, Or.inr ?_⟩
      rw [← List.dropLast_append_getLast? _ hlast, hname]
      simp
  · rintro ⟨extension, hextension, front, hname | hname⟩
    · exact Or.inl ⟨extension, hextension, front, hname⟩
    · refine Or.inr ⟨?_, extension, hextension, front, ?_⟩
      · rw [hname, ← List.cons_append, ← List.append_assoc, List.getLast?_concat]
      · rw [hname, ← List.cons_append, ← List.append_assoc, List.dropLast_concat]

/-! ### Suffixes -/

namespace Path

/-- A name with nothing before its only dot has no suffix. -/
theorem divideName_dot_cons {extension : List Char} (hdot : '.' ∉ extension) :
    divideName ('.' :: extension) = ('.' :: extension, []) := by
  rcases divideName_cases ('.' :: extension) with hwhole | ⟨stem, rest, hstem, -, hrest, hname⟩
  · exact hwhole
  · exact absurd (@append_cons_inj '.' [] _ _ _ hdot hrest hname).1.symm hstem

/-- The suffix of a name that ends in a dot and an extension: nothing if this is the whole name. -/
theorem suffix_of_name_eq {path : Path} {piece extension : List Char}
    (hname : path.name.toList = piece ++ '.' :: extension) (hextension : extension ≠ [])
    (hdot : '.' ∉ extension) :
    path.suffix = if piece = [] then "" else String.ofList ('.' :: extension) := by
  rw [suffix, hname]
  split_ifs with hpiece
  · rw [hpiece, List.nil_append, divideName_dot_cons hdot]
  · rw [divideName_append_dot hpiece hextension hdot]

/-- The last part of a path ends as the text does from which it is read, unless this ends in a slash
or a part that is dropped. -/
theorem exists_partsOf_append {tail : List Char} (hslash : '/' ∉ tail) (hempty : tail ≠ [])
    (hdot : tail ≠ ['.']) (front : List Char) :
    ∃ parts piece, partsOf (front ++ tail) = parts ++ [String.ofList (piece ++ tail)] := by
  obtain ⟨before, piece, rfl, hbefore, hpiece⟩ := exists_last_piece front
  have hlast : partsOf (piece ++ tail) = [String.ofList (piece ++ tail)] := by
    apply partsOf_eq_singleton
    · simp [hpiece, hslash]
    · simp [hempty]
    · cases piece <;> simp [hempty, hdot]
  refine ⟨partsOf before, piece, ?_⟩
  rw [List.append_assoc, partsOf_append (Or.inl hbefore), hlast]

theorem exists_name_eq {text : String} {front extension : List Char}
    (htext : text.toList = front ++ '.' :: extension) (hextension : extension ≠ [])
    (hslash : '/' ∉ extension) :
    ∃ piece, (ofString text).name.toList = piece ++ '.' :: extension := by
  obtain ⟨parts, piece, hparts⟩ := @exists_partsOf_append ('.' :: extension)
    (by simpa using hslash) (by simp) (by simpa using hextension) front
  refine ⟨piece, ?_⟩
  rw [name, parts_ofString, htext, hparts, List.getLast?_concat, Option.getD_some,
    String.toList_ofList]

end Path

/-! ### Grammars of suffixes -/

/-- The suffixes that have a grammar. -/
def grammarSuffixes : List String :=
  [".cjs", ".js", ".jsx", ".mjs", ".cts", ".mts", ".ts", ".tsx"]

theorem Grammar.exists_ofPath_iff {path : Path} :
    (∃ grammar, Grammar.ofPath path = .ok grammar) ↔ lower path.suffix ∈ grammarSuffixes := by
  unfold Grammar.ofPath
  split
  case h_9 => simp_all [grammarSuffixes]
  all_goals
    rename_i hsuffix
    rw [hsuffix]
    exact iff_of_true ⟨_, rfl⟩ (by decide)

theorem Grammar.eq_of_ofPath_eq_error {path : Path} {failure : Failure}
    (h : Grammar.ofPath path = .error failure) :
    failure = .unsupportedExtension (lower path.suffix) := by
  unfold Grammar.ofPath at h
  split at h
  case h_9 => exact (Except.error.inj h).symm
  all_goals cases h

/-- What reading a source as a module complains of is never its suffix. -/
theorem CodeTree.ofSource_ne_unsupportedExtension (parser : Parser) (grammar : Grammar)
    (bytes : Bytes) (suffix : String) :
    CodeTree.ofSource parser grammar bytes ≠ .error (.unsupportedExtension suffix) := by
  unfold CodeTree.ofSource
  cases parser grammar bytes with
  | none => simp
  | some tree =>
    simp only [CodeTree.ofAccepted]
    cases tree.firstFault with
    | some raw => simp
    | none => cases CodeTree.ofParseTree bytes tree <;> simp [Except.mapError]

/-- Where no language is named, linting a file complains of its suffix exactly when the linter looks
at the file and finds no grammar for it. -/
theorem exists_lintSource_eq_unsupportedExtension_iff {filename : String}
    (hfile : isComponentFile filename = true) {environment : Environment}
    {language : Option String} (hlanguage : environment.languageOr language = none)
    (parser : Parser) (bytes : Bytes) (options : LintOptions) :
    (∃ suffix, lintSource parser environment bytes filename options language =
        .error (.unsupportedExtension suffix)) ↔
      ¬ ∃ grammar, Grammar.ofPath (.ofString filename) = .ok grammar := by
  have hgrammar : lintGrammar environment filename language =
      Grammar.ofPath (.ofString filename) := by
    rw [lintGrammar, hlanguage]
    rfl
  cases hpath : Grammar.ofPath (.ofString filename) with
  | error failure =>
    obtain rfl := Grammar.eq_of_ofPath_eq_error hpath
    rw [lintSource, if_pos hfile, hgrammar, hpath]
    exact iff_of_true ⟨_, rfl⟩ (by simp)
  | ok grammar =>
    refine iff_of_false ?_ (not_not_intro ⟨grammar, rfl⟩)
    rintro ⟨suffix, hlint⟩
    rw [lintSource_eq hfile (hgrammar.trans hpath)] at hlint
    cases hprogram : CodeTree.ofSource parser grammar bytes with
    | error failure =>
      rw [hprogram] at hlint
      obtain rfl := Except.error.inj hlint
      exact CodeTree.ofSource_ne_unsupportedExtension parser grammar bytes suffix hprogram
    | ok program =>
      rw [hprogram] at hlint
      cases hlint

/-! ### Files with a grammar -/

/-- What all extensions of component files have in common. -/
theorem componentExtensions_facts : ∀ extension ∈ componentExtensions,
    extension ≠ [] ∧ '.' ∉ extension ∧ '/' ∉ extension ∧ '\n' ∉ extension ∧
      lower (String.ofList ('.' :: extension)) ∈ grammarSuffixes ∧
      lower (String.ofList ('.' :: (extension ++ ['\n']))) ∉ grammarSuffixes := by
  decide

/-- A name that ends in a dot and an extension has a grammar if more stands before the dot. -/
theorem Grammar.exists_ofPath_iff_of_extension {path : Path} {piece extension : List Char}
    (hextension : extension ∈ componentExtensions)
    (hname : path.name.toList = piece ++ '.' :: extension) :
    (∃ grammar, Grammar.ofPath path = .ok grammar) ↔ piece ≠ [] := by
  obtain ⟨hne, hdot, -, -, hgrammar, -⟩ := componentExtensions_facts extension hextension
  rw [Grammar.exists_ofPath_iff, suffix_of_name_eq hname hne hdot]
  split_ifs with hpiece
  · exact iff_of_false (by decide) (not_not_intro hpiece)
  · exact iff_of_true hgrammar hpiece

/-- A name that ends in a line feed behind an extension has no grammar. -/
theorem Grammar.not_exists_ofPath_of_lineFeed {path : Path} {piece extension : List Char}
    (hextension : extension ∈ componentExtensions)
    (hname : path.name.toList = piece ++ '.' :: (extension ++ ['\n'])) :
    ¬ ∃ grammar, Grammar.ofPath path = .ok grammar := by
  obtain ⟨-, hdot, -, -, -, hgrammar⟩ := componentExtensions_facts extension hextension
  have hdot' : '.' ∉ extension ++ ['\n'] := by simpa using hdot
  rw [Grammar.exists_ofPath_iff, suffix_of_name_eq hname (by simp) hdot']
  split_ifs with hpiece
  · decide
  · exact hgrammar

/-- A name that ends in a dot and an extension is nothing but a suffix exactly when nothing stands
before the dot. -/
theorem mem_componentSuffixes_iff {name : String} {piece extension : List Char}
    (hextension : extension ∈ componentExtensions)
    (hname : name.toList = piece ++ '.' :: extension) :
    name ∈ [".js", ".jsx", ".ts", ".tsx"] ↔ piece = [] := by
  have hsuffixes : [".js", ".jsx", ".ts", ".tsx"] =
      componentExtensions.map fun other ↦ String.ofList ('.' :: other) := by decide
  rw [hsuffixes, List.mem_map]
  constructor
  · rintro ⟨other, hother, rfl⟩
    rw [String.toList_ofList] at hname
    have hdot := (componentExtensions_facts other hother).2.1
    have hdot' := (componentExtensions_facts extension hextension).2.1
    exact (@append_cons_inj '.' [] _ _ _ hdot hdot' hname).1.symm
  · rintro rfl
    refine ⟨extension, hextension, String.toList_injective ?_⟩
    rw [String.toList_ofList, hname, List.nil_append]

/-- **Files that the linter looks at.** A file that the linter looks at has a grammar by its suffix
exactly when its name does not end in a line feed and is more than a suffix. Where no language is
named, linting complains of an unknown suffix in all other cases, and in no other. -/
theorem componentFile_hasGrammar_iff {filename : String} (h : isComponentFile filename = true) :
    ((∃ grammar, Grammar.ofPath (.ofString filename) = .ok grammar) ↔
      filename.toList.getLast? ≠ some '\n' ∧
        (Path.ofString filename).name ∉ [".js", ".jsx", ".ts", ".tsx"]) ∧
    ∀ parser environment bytes options language, environment.languageOr language = none →
      ((∃ suffix, lintSource parser environment bytes filename options language =
          .error (.unsupportedExtension suffix)) ↔
        filename.toList.getLast? = some '\n' ∨
          (Path.ofString filename).name ∈ [".js", ".jsx", ".ts", ".tsx"]) := by
  have hgrammar : (∃ grammar, Grammar.ofPath (.ofString filename) = .ok grammar) ↔
      filename.toList.getLast? ≠ some '\n' ∧
        (Path.ofString filename).name ∉ [".js", ".jsx", ".ts", ".tsx"] := by
    obtain ⟨extension, hextension, front, hends | hends⟩ := isComponentFile_iff.mp h
    · obtain ⟨hne, -, hslash, hfeed, -⟩ := componentExtensions_facts extension hextension
      obtain ⟨piece, hname⟩ := exists_name_eq hends hne hslash
      have hlast : filename.toList.getLast? ≠ some '\n' := by
        intro hlast
        rw [hends, List.getLast?_append_cons, List.getLast?_cons_of_ne_nil hne] at hlast
        exact hfeed (List.mem_of_getLast? hlast)
      rw [Grammar.exists_ofPath_iff_of_extension hextension hname,
        mem_componentSuffixes_iff hextension hname]
      exact ⟨fun hpiece ↦ ⟨hlast, hpiece⟩, And.right⟩
    · obtain ⟨-, -, hslash, -⟩ := componentExtensions_facts extension hextension
      obtain ⟨piece, hname⟩ := exists_name_eq hends (by simp) (by simpa using hslash)
      have hlast : filename.toList.getLast? = some '\n' := by
        rw [hends, ← List.cons_append, ← List.append_assoc, List.getLast?_concat]
      exact iff_of_false (Grammar.not_exists_ofPath_of_lineFeed hextension hname)
        fun hplain ↦ hplain.1 hlast
  refine ⟨hgrammar, fun parser environment bytes options language hlanguage ↦ ?_⟩
  rw [exists_lintSource_eq_unsupportedExtension_iff h hlanguage, hgrammar, not_and_or, not_not,
    not_not]

/-- A name with two dots before its extension has a suffix, and linting it never complains of it. -/
theorem componentFile_hasGrammar_dots :
    isComponentFile "ui/..tsx" = true ∧
    (∃ grammar, Grammar.ofPath (.ofString "ui/..tsx") = .ok grammar) ∧
    ∀ parser bytes suffix,
      lintSource parser {} bytes "ui/..tsx" {} none ≠ .error (.unsupportedExtension suffix) := by
  have hfile : isComponentFile "ui/..tsx" = true := by decide
  have hplain : "ui/..tsx".toList.getLast? ≠ some '\n' ∧
      (Path.ofString "ui/..tsx").name ∉ [".js", ".jsx", ".ts", ".tsx"] := by decide
  obtain ⟨hgrammar, hlint⟩ := componentFile_hasGrammar_iff hfile
  refine ⟨hfile, hgrammar.mpr hplain, fun parser bytes suffix hfailed ↦ ?_⟩
  rcases (hlint parser {} bytes {} none rfl).mp ⟨suffix, hfailed⟩ with hfeed | hbare
  · exact hplain.1 hfeed
  · exact hplain.2 hbare

/-- The linter looks at a file whose name is nothing but a suffix and at one whose name ends in a
line feed, and finds a grammar for neither. -/
theorem componentFile_noGrammar :
    isComponentFile "ui/.tsx" = true ∧ isComponentFile "a.tsx\n" = true ∧
    Grammar.ofPath (.ofString "ui/.tsx") = .error (.unsupportedExtension "") ∧
    Grammar.ofPath (.ofString "a.tsx\n") = .error (.unsupportedExtension ".tsx\n") ∧
    ∀ parser bytes, lintSource parser {} bytes "ui/.tsx" {} none =
      .error (.unsupportedExtension "") := by
  have hfile : isComponentFile "ui/.tsx" = true := by decide
  have hgrammar : Grammar.ofPath (.ofString "ui/.tsx") = .error (.unsupportedExtension "") := by
    decide
  refine ⟨hfile, by decide, hgrammar, by decide, fun parser bytes ↦ ?_⟩
  have hlint : lintGrammar {} "ui/.tsx" none = .error (.unsupportedExtension "") := hgrammar
  rw [lintSource, if_pos hfile, hlint]
  rfl

end ClientBoundary
