import ClientBoundary.Proofs.CommandRuns
import ClientBoundary.Proofs.SiblingNames
import ClientBoundary.Proofs.SplitWrites

/-!
# What a split does to the files

Splitting a source file without writing changes nothing. Writing puts the two halves at the places
that their paths lead to, and these are neither the place of the source nor that of a temporary
file. So the source keeps its bytes, and what stays beside the halves when writing fails can only be
a temporary file that the system would not let be filled or removed.

## Main definitions

* `Workspace.IsSplitOf`: the paths of a split are those of the siblings of a source.

## Main results

* `Workspace.splitFile_eq_ok`: the paths of a split are siblings of the source.
* `Workspace.applySplit_cases`: what splitting a file can do.
* `exists_mirroring_runs_runSplit`: the command that splits a file ends as the operation does and
  changes the same.
* `applySplit_effect`: what splitting a file does to the files.
-/

namespace ClientBoundary

namespace Workspace

/-! ### The paths of a split -/

/-- A split is that of a source: its paths are those of the two siblings of the source. -/
def IsSplitOf (source : SourceFile) (split : Split) : Prop :=
  ∃ server client serverText clientText,
    siblingPath source.path "server" = .ok server ∧
    siblingPath source.path "client" = .ok client ∧
    split.HasParts server.toString serverText client.toString clientText

theorem IsSplitOf.needed {source : SourceFile} {split : Split} (h : IsSplitOf source split) :
    split.needsSplit = true := by
  obtain ⟨server, client, serverText, clientText, hserver, hclient, hparts⟩ := h
  exact hparts.needed

/-- A split of a source file has not been written, and if it is needed it is that of the source. -/
theorem splitFile_eq_ok {workspace : Workspace} {parser : Parser} {file : String}
    {language : Option String} {split : Split}
    (h : workspace.splitFile parser file language = .ok split) :
    ∃ source, workspace.readSource file = .ok source ∧ split.written = false ∧
      (split.needsSplit = true → IsSplitOf source split) := by
  simp only [splitFile, Split.ofSource, Split.ofProgram, bind_eq_ok_iff, Prod.exists] at h
  obtain ⟨source, hsource, -, -, -, -, partition, tainted, -, hsplit⟩ := h
  refine ⟨source, hsource, ?_⟩
  cases tainted with
  | true =>
    simp only [Split.ofPartition, if_true, bind_eq_ok_iff, pure_eq_ok_iff] at hsplit
    obtain ⟨server, hserver, client, hclient, serverText, -, clientText, -, rfl⟩ := hsplit
    exact ⟨rfl, fun _ ↦
      ⟨server, client, serverText, clientText, hserver, hclient, rfl, rfl, rfl, rfl, rfl⟩⟩
  | false =>
    obtain rfl := pure_eq_ok_iff.mp hsplit
    exact ⟨rfl, fun hneeds ↦ by simp at hneeds⟩

/-- A sibling of a path is not found at the place of the path. -/
theorem ne_parts_of_sibling {path sibling : Path} {tag : String} {target : Location}
    (htag : '/' ∉ tag.toList) (hne : tag ≠ "") (h : siblingPath path tag = .ok sibling)
    (hlast : target.getLast? = some (Path.ofString sibling.toString).name) :
    target ≠ path.parts := by
  rintro rfl
  apply name_sibling_ne_name htag hne h
  rw [Path.name.eq_def path, hlast, Option.getD_some]

theorem length_temporaryName (path : Path) (word : String) :
    path.name.toList.length < (FileStore.temporaryName path word).toList.length := by
  change _ < ("." ++ path.name ++ "." ++ word).toList.length
  have hdot : ".".toList.length = 1 := rfl
  simp only [String.toList_append, List.length_append, hdot]
  omega

/-- A temporary file has a longer name than the two halves, so it is at the place of neither. -/
theorem LeftOf.not_isPlaceOf {workspace after : Workspace} {source : SourceFile} {split : Split}
    {location : Location} (hpaths : IsSplitOf source split)
    (h : workspace.LeftOf after split location) : ¬workspace.IsPlaceOf split location := by
  obtain ⟨server, client, serverText, clientText, hserver, hclient, hparts⟩ := hpaths
  obtain ⟨n, hn, hserverName, hclientName⟩ := length_name_siblings hserver hclient
  have hlength {path : String} (h : split.serverPath = some path ∨ split.clientPath = some path) :
      (Path.ofString path).name.toList.length = n := by
    rw [hparts.serverPath_eq, hparts.clientPath_eq, Option.some.injEq, Option.some.injEq] at h
    rcases h with rfl | rfl
    · exact hserverName
    · exact hclientName
  rintro ⟨path, hpath, hlocate⟩
  have hname := hlength hpath
  have hplace : location.getLast? = some (Path.ofString path).name := by
    apply FileStore.getLast?_of_locate hlocate
    · intro hempty
      simp [hempty] at hname
      omega
    · intro hdots
      simp [hdots] at hname
      omega
  obtain ⟨path', word, hpath', hlocation⟩ : ∃ path' word,
      (split.serverPath = some path' ∨ split.clientPath = some path') ∧
        location.getLast? = some (FileStore.temporaryName (.ofString path') word) := by
    rcases h with ⟨path', -, -, hpath', -, ⟨folder, word, -, -, rfl, -⟩, -⟩ |
      ⟨path', -, -, hpath', -, ⟨folder, word, -, -, rfl, -⟩, -⟩
    · exact ⟨path', word, Or.inl hpath', List.getLast?_concat⟩
    · exact ⟨path', word, Or.inr hpath', List.getLast?_concat⟩
  have hlong := length_temporaryName (.ofString path') word
  rw [← Option.some.inj (hplace.symm.trans hlocation), hname, hlength hpath'] at hlong
  omega

/-! ### Splitting a file -/

section ApplySplit

variable {workspace after : Workspace} {parser : Parser} {file : String} {write : Bool}
  {language : Option String} {split : Split} {source : SourceFile} {result : Except Failure Split}

/-- Splitting a file fails, is done without writing, or writes the split. -/
theorem applySplit_cases (workspace : Workspace) (parser : Parser) (file : String) (write : Bool)
    (language : Option String) :
    (∃ failure, workspace.splitFile parser file language = .error failure ∧
      workspace.applySplit parser file write language = (workspace, .error failure)) ∨
    ∃ split, workspace.splitFile parser file language = .ok split ∧
      ((workspace.applySplit parser file write language = (workspace, .ok split) ∧
          ¬(write = true ∧ split.needsSplit = true)) ∨
        (workspace.applySplit parser file write language = workspace.writeSplit split ∧
          write = true ∧ ∃ source, workspace.readSource file = .ok source ∧
            IsSplitOf source split)) := by
  unfold applySplit
  cases hsplit : workspace.splitFile parser file language with
  | error failure => exact Or.inl ⟨failure, rfl, rfl⟩
  | ok split =>
    refine Or.inr ⟨split, rfl, ?_⟩
    cases write with
    | false => exact Or.inl ⟨rfl, by simp⟩
    | true =>
      cases hneeds : split.needsSplit with
      | false => exact Or.inl ⟨by simp [writeSplit, hneeds], by simp⟩
      | true =>
        obtain ⟨source, hsource, -, hpaths⟩ := splitFile_eq_ok hsplit
        exact Or.inr ⟨rfl, rfl, source, hsource, hpaths hneeds⟩

/-- If splitting a file fails although there is a split, writing that split has failed. -/
theorem writeSplit_of_applySplit_error {failure : Failure}
    (hsplit : workspace.splitFile parser file language = .ok split)
    (h : workspace.applySplit parser file write language = (after, .error failure)) :
    ∃ source, workspace.readSource file = .ok source ∧ IsSplitOf source split ∧
      workspace.writeSplit split = (after, .error failure) := by
  rcases workspace.applySplit_cases parser file write language with
    ⟨failure, hfailed, -⟩ |
      ⟨proposed, hproposed, ⟨happly, -⟩ | ⟨happly, -, source, hsource, hpaths⟩⟩
  · simp [hfailed] at hsplit
  · simp [happly] at h
  · obtain rfl := Except.ok.inj (hproposed.symm.trans hsplit)
    exact ⟨source, hsource, hpaths, happly.symm.trans h⟩

/-- The source keeps its bytes, since neither half nor a temporary file is found at its place. -/
theorem lookup_source_applySplit (hsource : workspace.readSource file = .ok source)
    (h : workspace.applySplit parser file write language = (after, result)) :
    after.files.lookup source.path.parts = some (.file source.bytes) := by
  have hbytes := (readSource_eq_ok_iff.mp hsource).2.2.2.1
  rcases workspace.applySplit_cases parser file write language with
    ⟨failure, -, happly⟩ | ⟨split, -, ⟨happly, -⟩ | ⟨happly, -, source', hsource', hpaths⟩⟩
  · obtain ⟨rfl, -⟩ := Prod.mk.inj (happly.symm.trans h)
    exact hbytes
  · obtain ⟨rfl, -⟩ := Prod.mk.inj (happly.symm.trans h)
    exact hbytes
  · obtain rfl := Except.ok.inj (hsource'.symm.trans hsource)
    obtain ⟨server, client, serverText, clientText, hserver, hclient, hparts⟩ := hpaths
    rw [happly] at h
    cases result with
    | ok result =>
      obtain ⟨-, s, c, -, hs, -, hc, hafter⟩ := writeSplit_eq_ok hparts h
      have hne := (ne_parts_of_sibling (by decide) (by decide) hserver hs).symm
      have hne' := (ne_parts_of_sibling (by decide) (by decide) hclient hc).symm
      rw [hafter, if_neg hne', if_neg hne, hbytes]
    | error failure =>
      obtain ⟨places, hdiffers, hplaces⟩ := exists_places_of_writeSplit_error hparts h
      rw [hdiffers _ ?_, hbytes]
      intro hmem
      rcases hplaces _ hmem with ⟨halfway, hwrites, -⟩ | hleft | hleft
      · exact ne_parts_of_sibling (by decide) (by decide) hserver hwrites.getLast? rfl
      · simp [hleft.lookup_eq_none] at hbytes
      · simp [hleft.lookup_eq_none] at hbytes

/-- Without a split that is asked for and needed nothing changes. -/
theorem applySplit_eq_self
    (hnot : ¬∃ split, workspace.splitFile parser file language = .ok split ∧
      write = true ∧ split.needsSplit = true)
    (h : workspace.applySplit parser file write language = (after, result)) :
    after = workspace := by
  rcases workspace.applySplit_cases parser file write language with
    ⟨failure, -, happly⟩ | ⟨split, hsplit, ⟨happly, -⟩ | ⟨-, hwrite, source, -, hpaths⟩⟩
  · exact (Prod.mk.inj (h.symm.trans happly)).1
  · exact (Prod.mk.inj (h.symm.trans happly)).1
  · exact absurd ⟨split, hsplit, hwrite, hpaths.needed⟩ hnot

/-- A split says that it was written exactly when it was asked for and needed. -/
theorem written_applySplit
    (h : workspace.applySplit parser file write language = (after, .ok split)) :
    split.written = true ↔ write = true ∧ split.needsSplit = true := by
  rcases workspace.applySplit_cases parser file write language with
    ⟨failure, -, happly⟩ | ⟨proposed, hsplit, ⟨happly, hnot⟩ | ⟨happly, hwrite, source, -, hpaths⟩⟩
  · simp [happly] at h
  · obtain rfl : proposed = split := by simpa using (Prod.mk.inj (happly.symm.trans h)).2
    obtain ⟨-, -, hwritten, -⟩ := splitFile_eq_ok hsplit
    simpa [hwritten] using hnot
  · obtain ⟨server, client, serverText, clientText, -, -, hparts⟩ := hpaths
    obtain ⟨rfl, -⟩ := writeSplit_eq_ok hparts (happly.symm.trans h)
    simp [hwrite, hparts.needed]

/-- A split that was written is found at two places, and all else is as before. -/
theorem exists_holdsAt_applySplit
    (h : workspace.applySplit parser file write language = (after, .ok split))
    (hwritten : split.written = true) :
    ∃ server client, server ≠ client ∧
      workspace.HoldsAt after split.serverPath split.serverText server ∧
      workspace.HoldsAt after split.clientPath split.clientText client ∧
      ∀ location, location ≠ server → location ≠ client →
        after.files.lookup location = workspace.files.lookup location := by
  rcases workspace.applySplit_cases parser file write language with
    ⟨failure, -, happly⟩ | ⟨proposed, -, ⟨happly, hnot⟩ | ⟨happly, -, source, -, hpaths⟩⟩
  · simp [happly] at h
  · obtain rfl : proposed = split := by simpa using (Prod.mk.inj (happly.symm.trans h)).2
    exact absurd ((written_applySplit h).mp hwritten) hnot
  · obtain ⟨server, client, serverText, clientText, hserver, hclient, hparts⟩ := hpaths
    obtain ⟨rfl, s, c, hlocate, hs, hlocate', hc, hafter⟩ :=
      writeSplit_eq_ok hparts (happly.symm.trans h)
    have hne : s ≠ c := by
      rintro rfl
      exact name_siblings_ne hserver hclient (Option.some.inj (hs.symm.trans hc))
    refine ⟨s, c, hne, ?_, ?_, ?_⟩
    · exact ⟨_, _, hparts.serverPath_eq, hparts.serverText_eq, hlocate,
        by rw [hafter, if_neg hne, if_pos rfl]⟩
    · exact ⟨_, _, hparts.clientPath_eq, hparts.clientText_eq, hlocate',
        by rw [hafter, if_pos rfl]⟩
    · intro location hserver hclient
      rw [hafter, if_neg hclient, if_neg hserver]

/-- When writing fails the places of the halves are as before or hold a half that was written whole,
and any other place is as before or holds a temporary file that stays. -/
theorem lookup_applySplit_of_error {failure : Failure}
    (hsplit : workspace.splitFile parser file language = .ok split)
    (h : workspace.applySplit parser file write language = (after, .error failure))
    (location : Location) :
    (workspace.IsPlaceOf split location →
      after.files.lookup location = workspace.files.lookup location ∨
        workspace.HoldsAt after split.serverPath split.serverText location ∨
        workspace.HoldsAt after split.clientPath split.clientText location) ∧
    (¬workspace.IsPlaceOf split location →
      after.files.lookup location = workspace.files.lookup location ∨
        workspace.LeftOf after split location) := by
  obtain ⟨source, -, hpaths, hwrite⟩ := writeSplit_of_applySplit_error hsplit h
  obtain ⟨server, client, serverText, clientText, -, -, hparts⟩ := id hpaths
  obtain ⟨places, hdiffers, hplaces⟩ := exists_places_of_writeSplit_error hparts hwrite
  by_cases hmem : location ∈ places
  · rcases hplaces location hmem with ⟨halfway, hwrites, hholds⟩ | hleft
    · have hplace : workspace.IsPlaceOf split location :=
        ⟨_, Or.inl hparts.serverPath_eq, hwrites.locate⟩
      exact ⟨fun _ ↦ Or.inr (Or.inl hholds), fun hnot ↦ absurd hplace hnot⟩
    · exact ⟨fun hplace ↦ absurd hplace (LeftOf.not_isPlaceOf hpaths hleft),
        fun _ ↦ Or.inr hleft⟩
  · exact ⟨fun _ ↦ Or.inl (hdiffers location hmem), fun _ ↦ Or.inl (hdiffers location hmem)⟩

/-- When writing fails one temporary file stays, or none does; the failure says which. -/
theorem leftOf_applySplit_of_error {failure : Failure}
    (hsplit : workspace.splitFile parser file language = .ok split)
    (h : workspace.applySplit parser file write language = (after, .error failure)) :
    (failure.leavesTemporary = true ∧ ∃! temporary, workspace.LeftOf after split temporary) ∨
      (failure.leavesTemporary = false ∧ ∀ location, ¬workspace.LeftOf after split location) := by
  obtain ⟨source, -, hpaths, hwrite⟩ := writeSplit_of_applySplit_error hsplit h
  obtain ⟨server, client, serverText, clientText, -, -, hparts⟩ := id hpaths
  -- The place of the server half is no place of a temporary file.
  have hserver {halfway : Workspace} {place location : Location}
      (hwrites : workspace.WritesAt halfway server.toString serverText place)
      (hleft : workspace.LeftOf after split location) : location ≠ place := by
    rintro rfl
    exact LeftOf.not_isPlaceOf hpaths hleft ⟨_, Or.inl hparts.serverPath_eq, hwrites.locate⟩
  rcases writeSplit_eq_error hparts hwrite with
    ⟨-, ⟨hkind, rfl⟩ | ⟨hkind, temporary, hleft, hdiffers⟩⟩ |
      ⟨halfway, place, -, hwrites, -, -, ⟨hkind, -, hdiffers⟩ |
        ⟨hkind, temporary, -, hleft, hdiffers⟩⟩
  · refine Or.inr ⟨hkind, fun location hleft ↦ ?_⟩
    have hnowhere : after.DiffersOnlyAt after [] := fun _ _ ↦ rfl
    simpa using hleft.mem_of_differsOnlyAt hnowhere
  · refine Or.inl ⟨hkind, temporary, Or.inl hleft, fun location hother ↦ ?_⟩
    simpa using hother.mem_of_differsOnlyAt hdiffers
  · refine Or.inr ⟨hkind, fun location hleft ↦ hserver hwrites hleft ?_⟩
    simpa using hleft.mem_of_differsOnlyAt hdiffers
  · refine Or.inl ⟨hkind, temporary, Or.inr hleft, fun location hother ↦ ?_⟩
    have hmem := hother.mem_of_differsOnlyAt hdiffers
    simp only [List.mem_cons, List.not_mem_nil, or_false] at hmem
    exact hmem.resolve_left (hserver hwrites hother)

end ApplySplit

end Workspace

/-! ### The command -/

theorem runs_printProposal (console : Console)
    (serverPath serverText clientPath clientText : String) (workspace : Workspace) :
    Runs (printProposal console serverPath serverText clientPath clientText) workspace (.ok ())
      workspace := by
  refine (runs_printOut _ _).bind ?_
  refine (runs_printOut _ _).bind ?_
  refine (runs_printOut _ _).bind ?_
  refine (runs_printOut _ _).bind ?_
  exact (runs_printOut _ _).bind (runs_printOut _ _)

theorem exists_runs_writeAndTell (context : CommandContext) (split : Split)
    (serverPath clientPath : String) (workspace : Workspace) :
    ∃ result, Mirrors (workspace.writeSplit split).2 result ∧
      Runs (writeAndTell context split serverPath clientPath) workspace result
        (workspace.writeSplit split).1 := by
  cases hwrite : workspace.writeSplit split with
  | mk after written =>
    refine (runs_currentWorkspace workspace).exists_bind ?_
    rw [hwrite]
    refine (runs_setWorkspace workspace after).exists_bind ?_
    cases written with
    | ok written =>
      refine ⟨.ok (), .ok written, (runs_orFail_ok context written after).bind ?_⟩
      refine (runs_printLog context _ after).bind ?_
      exact (runs_printOut _ after).bind (runs_printOut _ after)
    | error failure =>
      obtain ⟨stop, hstop, hfail⟩ := exists_runs_orFail_error context failure after
      exact ⟨.error stop, .error failure hstop, hfail.bind_error⟩

/-- The command that splits a file ends as splitting the file does and changes the same. -/
theorem exists_mirroring_runs_runSplit (context : CommandContext) (file : String)
    (apply dryRun : Bool) (language : Option String) (workspace : Workspace) :
    ∃ result,
      Mirrors (workspace.applySplit context.parser file (apply && !dryRun) language).2 result ∧
      Runs (runSplit context file apply dryRun language) workspace result
        (workspace.applySplit context.parser file (apply && !dryRun) language).1 := by
  refine (runs_currentWorkspace workspace).exists_bind ?_
  refine (runs_printLog context _ workspace).exists_bind ?_
  rcases workspace.applySplit_cases context.parser file (apply && !dryRun) language with
    ⟨failure, hsplit, happly⟩ | ⟨split, hsplit, hcase⟩
  · obtain ⟨stop, hstop, hfail⟩ := exists_runs_orFail_error context failure workspace
    rw [happly, hsplit]
    exact ⟨.error stop, .error failure hstop, hfail.bind_error⟩
  · rw [hsplit]
    refine (runs_orFail_ok context split workspace).exists_bind ?_
    cases hneeds : split.needsSplit with
    | false =>
      rcases hcase with ⟨happly, -⟩ | ⟨-, -, source, -, hpaths⟩
      · rw [happly]
        exact ⟨.ok (), .ok split, runs_printOut _ workspace⟩
      · simp [hpaths.needed] at hneeds
    | true =>
      obtain ⟨source, -, -, hpaths⟩ := Workspace.splitFile_eq_ok hsplit
      obtain ⟨server, client, serverText, clientText, -, -, hparts⟩ := hpaths hneeds
      rw [if_pos rfl, hparts.serverPath_eq, hparts.serverText_eq, hparts.clientPath_eq,
        hparts.clientText_eq]
      dsimp only
      rcases hcase with ⟨happly, hnot⟩ | ⟨happly, hwrite, -⟩
      · have hwrite : ¬(apply && !dryRun) = true := fun h ↦ hnot ⟨h, hneeds⟩
        rw [happly, if_neg hwrite]
        exact ⟨.ok (), .ok split, runs_printProposal _ _ _ _ _ workspace⟩
      · rw [happly, if_pos hwrite]
        exact exists_runs_writeAndTell context split _ _ workspace

/-- The command that splits a file changes what splitting the file changes. -/
theorem exists_runs_runSplit (context : CommandContext) (file : String) (apply dryRun : Bool)
    (language : Option String) (workspace : Workspace) :
    ∃ result, Runs (runSplit context file apply dryRun language) workspace result
      (workspace.applySplit context.parser file (apply && !dryRun) language).1 := by
  obtain ⟨result, -, hruns⟩ :=
    exists_mirroring_runs_runSplit context file apply dryRun language workspace
  exact ⟨result, hruns⟩

/-! ### All effects together -/

/-- **What splitting a file does to the files.** The source keeps its bytes. Nothing changes if no
writing is asked for, if no split is needed, or if there is no split because reading, the language,
parsing, partitioning or rendering fails. A split says that it was written exactly when it was asked
for and needed, and then its paths lead to two different places, which hold the encoded texts, and
all other places are as before. When writing fails the places of the two halves are as before or
hold a half that was written whole, and all other places are as before, unless the system stopped
while the content of a temporary file was written or refused to remove one: then exactly that one
stays, and not at the place of a half. The command has the same effect if it applies the split and
none otherwise. -/
theorem applySplit_effect {workspace after : Workspace} {parser : Parser} {file : String}
    {write : Bool} {language : Option String} {result : Except Failure Split}
    (h : workspace.applySplit parser file write language = (after, result)) :
    (∀ source, workspace.readSource file = .ok source →
      workspace.files.lookup source.path.parts = some (.file source.bytes) ∧
        after.files.lookup source.path.parts = some (.file source.bytes)) ∧
    (write = false ∨
        (∃ failure, workspace.splitFile parser file language = .error failure) ∨
        (∃ split, workspace.splitFile parser file language = .ok split ∧
          split.needsSplit = false) →
      after = workspace) ∧
    (∀ split, result = .ok split →
      (split.written = true ↔ write = true ∧ split.needsSplit = true)) ∧
    (∀ split, result = .ok split → split.written = true →
      ∃ server client, server ≠ client ∧
        workspace.HoldsAt after split.serverPath split.serverText server ∧
        workspace.HoldsAt after split.clientPath split.clientText client ∧
        ∀ location, location ≠ server → location ≠ client →
          after.files.lookup location = workspace.files.lookup location) ∧
    (∀ split failure, workspace.splitFile parser file language = .ok split →
      result = .error failure →
      (∀ location, workspace.IsPlaceOf split location →
        after.files.lookup location = workspace.files.lookup location ∨
          workspace.HoldsAt after split.serverPath split.serverText location ∨
          workspace.HoldsAt after split.clientPath split.clientText location) ∧
      (∀ location, ¬workspace.IsPlaceOf split location →
        after.files.lookup location = workspace.files.lookup location ∨
          workspace.LeftOf after split location) ∧
      (∀ location, workspace.LeftOf after split location → ¬workspace.IsPlaceOf split location) ∧
      ((failure.leavesTemporary = true ∧ ∃! temporary, workspace.LeftOf after split temporary) ∨
        (failure.leavesTemporary = false ∧
          ∀ location, ¬workspace.LeftOf after split location))) ∧
    ∀ time threshold console apply dryRun,
      (Outcome.ofCommand workspace ((Request.split file apply dryRun language).run
        ⟨parser, time, threshold, console⟩)).workspace =
        if apply && !dryRun then (workspace.applySplit parser file true language).1
        else workspace := by
  refine ⟨?_, ?_, ?_, ?_, ?_, ?_⟩
  · intro source hsource
    exact ⟨(Workspace.readSource_eq_ok_iff.mp hsource).2.2.2.1,
      Workspace.lookup_source_applySplit hsource h⟩
  · intro hwhy
    refine Workspace.applySplit_eq_self ?_ h
    rintro ⟨split, hsplit, rfl, hneeds⟩
    rcases hwhy with hwrite | ⟨failure, hfailed⟩ | ⟨split', hsplit', hneeds'⟩
    · simp at hwrite
    · simp [hfailed] at hsplit
    · obtain rfl := Except.ok.inj (hsplit.symm.trans hsplit')
      simp [hneeds] at hneeds'
  · rintro split rfl
    exact Workspace.written_applySplit h
  · rintro split rfl hwritten
    exact Workspace.exists_holdsAt_applySplit h hwritten
  · rintro split failure hsplit rfl
    obtain ⟨source, -, hpaths, -⟩ := Workspace.writeSplit_of_applySplit_error hsplit h
    exact ⟨fun location ↦ (Workspace.lookup_applySplit_of_error hsplit h location).1,
      fun location ↦ (Workspace.lookup_applySplit_of_error hsplit h location).2,
      fun location hleft ↦ Workspace.LeftOf.not_isPlaceOf hpaths hleft,
      Workspace.leftOf_applySplit_of_error hsplit h⟩
  · intro time threshold console apply dryRun
    obtain ⟨result, hruns⟩ := exists_runs_runSplit ⟨parser, time, threshold, console⟩ file apply
      dryRun language workspace
    rw [Request.run, hruns.outcome.1]
    cases hwrite : apply && !dryRun with
    | true => rfl
    | false =>
      have hnot : ¬∃ split, workspace.splitFile parser file language = .ok split ∧
          false = true ∧ split.needsSplit = true := by simp
      exact Workspace.applySplit_eq_self hnot rfl

/-- A workspace in which no byte of a file can be written. -/
def fullDisk : Workspace :=
  { sourceBeside [] with
    refusals :=
      { write := fun _ _ ↦ some (.content (.system (.other 28 "No space left on device")) 0) } }

/-- A source that lies alone is split, and on a full disk exactly one temporary file stays. -/
theorem applySplit_effect_window :
    (∃ after split,
      (sourceBeside []).applySplit (OneLine.parser [.mention "window"]) "a.tsx" true none =
        (after, .ok split) ∧
      split.written = true ∧
      ∃ server client, server ≠ client ∧
        (sourceBeside []).HoldsAt after split.serverPath split.serverText server ∧
        (sourceBeside []).HoldsAt after split.clientPath split.clientText client ∧
        ∀ location, location ≠ server → location ≠ client →
          after.files.lookup location = (sourceBeside []).files.lookup location) ∧
    ∃ after split failure,
      fullDisk.splitFile (OneLine.parser [.mention "window"]) "a.tsx" none = .ok split ∧
      fullDisk.applySplit (OneLine.parser [.mention "window"]) "a.tsx" true none =
        (after, .error failure) ∧
      ((failure.leavesTemporary = true ∧ ∃! temporary, fullDisk.LeftOf after split temporary) ∨
        (failure.leavesTemporary = false ∧
          ∀ location, ¬fullDisk.LeftOf after split location)) := by
  constructor
  · obtain ⟨split, hsplit, hwritten⟩ := exists_ok_of_toOption
      (x := ((sourceBeside []).applySplit (OneLine.parser [.mention "window"]) "a.tsx" true
        none).2) (f := Split.written) (b := true) (by decide +kernel)
    have happly : (sourceBeside []).applySplit (OneLine.parser [.mention "window"]) "a.tsx" true
        none = (_, .ok split) := Prod.ext rfl hsplit
    exact ⟨_, split, happly, hwritten, (applySplit_effect happly).2.2.2.1 split rfl hwritten⟩
  · obtain ⟨split, hsplit, -⟩ := exists_ok_of_toOption
      (x := fullDisk.splitFile (OneLine.parser [.mention "window"]) "a.tsx" none)
      (f := Split.needsSplit) (b := true) (by decide +kernel)
    have hfailed : (fullDisk.applySplit (OneLine.parser [.mention "window"]) "a.tsx" true
        none).2.toOption = none := by decide +kernel
    cases hresult : (fullDisk.applySplit (OneLine.parser [.mention "window"]) "a.tsx" true
        none).2 with
    | ok written => simp [hresult, Except.toOption] at hfailed
    | error failure =>
      have happly : fullDisk.applySplit (OneLine.parser [.mention "window"]) "a.tsx" true
          none = (_, .error failure) := Prod.ext rfl hresult
      exact ⟨_, split, failure, hsplit, happly,
        ((applySplit_effect happly).2.2.2.2.1 split failure hsplit rfl).2.2.2⟩

/-- A workspace whose environment asks for a log level that does not exist. -/
def unknownLogLevel : Workspace :=
  { sourceBeside [] with environment := { logLevel := some "LOUD" } }

/-- Not every split leaves only its two halves, and not every command line does what the operation
does. On a full disk a temporary file is left behind. With a log level that does not exist the
command ends before it writes the halves that the operation writes. -/
theorem applySplit_leaves_temporary :
    (fullDisk.files.lookup [".a.server.tsx.00000000"] = none ∧
      (fullDisk.applySplit (OneLine.parser [.mention "window"]) "a.tsx" true none).1.files.lookup
        [".a.server.tsx.00000000"] = some (.file [])) ∧
    ((unknownLogLevel.applySplit (OneLine.parser [.mention "window"]) "a.tsx" true
        none).1.files.lookup ["a.server.tsx"]).isSome = true ∧
      (runCommandLine (OneLine.parser [.mention "window"]) "" unknownLogLevel
        ["split", "a.tsx", "--apply"]).workspace.files.lookup ["a.server.tsx"] = none := by
  refine ⟨⟨?_, ?_⟩, ?_, ?_⟩ <;> decide +kernel

end ClientBoundary
