import ClientBoundary.Proofs.Files
import ClientBoundary.Proofs.OneLine

/-!
# Writing the halves of a split

Writing a split puts the two halves, the server half first, at the places that their paths lead to.
Each of them is written whole or not at all. If the client half is refused, the server half stays
written. If the system stops while the content of a temporary file is written, or refuses to remove
one whose move was refused, that temporary file stays. Nothing else changes.

## Main definitions

* `Split.HasParts`: a split that is needed, with its paths and texts.
* `Workspace.HoldsAt`: a path leads to a location, and the file there holds a text.
* `Workspace.LeftAt`, `Workspace.LeftOf`: a temporary file stays at a location.
* `Workspace.DiffersOnlyAt`: apart from some places everything is as before.

## Main results

* `Workspace.writeHalf_eq_ok`, `Workspace.writeHalf_eq_error`: how far writing a half gets.
* `Workspace.writeSplit_cases`, `Workspace.writeSplit_eq_error`: how far writing a split gets.
* `writeSplit_refused`: what is left when writing a split fails.
-/

namespace ClientBoundary

/-- A split that is needed, with its paths and texts. -/
structure Split.HasParts (split : Split) (serverPath serverText clientPath clientText : String) :
    Prop where
  needed : split.needsSplit = true
  serverPath_eq : split.serverPath = some serverPath
  serverText_eq : split.serverText = some serverText
  clientPath_eq : split.clientPath = some clientPath
  clientText_eq : split.clientText = some clientText

namespace Workspace

/-- The path leads to the location, and afterwards the file there holds exactly the text. -/
def HoldsAt (before after : Workspace) (path text : Option String) (location : Location) : Prop :=
  ∃ written content, path = some written ∧ text = some content ∧
    before.files.locate before.directory (.ofString written) = .ok location ∧
    after.files.lookup location = some (.file (Utf8.encode content))

/-- A temporary file for the text of the path was made at the location and is still there
afterwards, with what the system leaves of the text. -/
def LeftAt (before after : Workspace) (path text : Option String) (location : Location) : Prop :=
  ∃ written content part, path = some written ∧ text = some content ∧
    before.files.IsTemporary before.draws before.directory (.ofString written) location ∧
    before.refusals.Leaves location (Utf8.encode content) part ∧
    after.files.lookup location = some (.file part)

/-- A path of the split leads to the location. -/
def IsPlaceOf (workspace : Workspace) (split : Split) (location : Location) : Prop :=
  ∃ path, (split.serverPath = some path ∨ split.clientPath = some path) ∧
    workspace.files.locate workspace.directory (.ofString path) = .ok location

/-- A temporary file for a half of the split stays at the location. -/
def LeftOf (before after : Workspace) (split : Split) (location : Location) : Prop :=
  before.LeftAt after split.serverPath split.serverText location ∨
    before.LeftAt after split.clientPath split.clientText location

/-- Apart from some places everything is as before. -/
def DiffersOnlyAt (before after : Workspace) (places : List Location) : Prop :=
  ∀ location, location ∉ places → after.files.lookup location = before.files.lookup location

theorem LeftAt.lookup_eq_none {before after : Workspace} {path text : Option String}
    {location : Location} (h : before.LeftAt after path text location) :
    before.files.lookup location = none := by
  obtain ⟨-, -, -, -, -, ⟨folder, word, -, -, -, hfree⟩, -, -⟩ := h
  exact hfree

/-- A temporary file that stays is at a place that is not as before. -/
theorem LeftAt.mem_of_differsOnlyAt {before after : Workspace} {path text : Option String}
    {location : Location} {places : List Location} (h : before.LeftAt after path text location)
    (hplaces : before.DiffersOnlyAt after places) : location ∈ places := by
  by_contra hmem
  have hsame := hplaces location hmem
  rw [h.lookup_eq_none] at hsame
  obtain ⟨-, -, part, -, -, -, -, hheld⟩ := h
  simp [hheld] at hsame

theorem LeftOf.mem_of_differsOnlyAt {before after : Workspace} {split : Split}
    {location : Location} {places : List Location} (h : before.LeftOf after split location)
    (hplaces : before.DiffersOnlyAt after places) : location ∈ places :=
  h.elim (·.mem_of_differsOnlyAt hplaces) (·.mem_of_differsOnlyAt hplaces)

/-! ### How far writing a half gets -/

/-- A half is written: its path leads to the place, which is no directory and holds the text
afterwards. -/
structure WritesAt (before after : Workspace) (path text : String) (place : Location) : Prop where
  locate : before.files.locate before.directory (.ofString path) = .ok place
  getLast? : place.getLast? = some (Path.ofString path).name
  isDirectory : before.files.isDirectory place = false
  after_eq : after = { before with files := before.files.insert place (.file (Utf8.encode text)) }

/-- A half is not written, and a temporary file stays with a part of its text. -/
structure LeavesAt (before after : Workspace) (path text : String) (temporary : Location)
    (part : Bytes) : Prop where
  isTemporary :
    before.files.IsTemporary before.draws before.directory (.ofString path) temporary
  leaves : before.refusals.Leaves temporary (Utf8.encode text) part
  after_eq : after = { before with files := before.files.insert temporary (.file part) }

section Half

variable {workspace after : Workspace} {path text : String} {place : Location} {part : Bytes}

theorem WritesAt.lookup (h : workspace.WritesAt after path text place) (location : Location) :
    after.files.lookup location =
      if location = place then some (.file (Utf8.encode text))
      else workspace.files.lookup location := by
  have hne : place ≠ [] := by
    rintro rfl
    simpa using h.getLast?
  rw [h.after_eq]
  exact FileStore.lookup_insert _ hne location _

theorem WritesAt.isDirectory_eq (h : workspace.WritesAt after path text place)
    (location : Location) :
    after.files.isDirectory location = workspace.files.isDirectory location := by
  rw [h.after_eq]
  exact FileStore.isDirectory_insert_file h.isDirectory _ location

theorem WritesAt.holdsAt (h : workspace.WritesAt after path text place) :
    workspace.HoldsAt after (some path) (some text) place :=
  ⟨path, text, rfl, rfl, h.locate, by rw [h.lookup, if_pos rfl]⟩

theorem WritesAt.differsOnlyAt (h : workspace.WritesAt after path text place) :
    workspace.DiffersOnlyAt after [place] := by
  intro location hmem
  rw [h.lookup, if_neg (by simpa using hmem)]

theorem LeavesAt.lookup (h : workspace.LeavesAt after path text place part)
    (location : Location) :
    after.files.lookup location =
      if location = place then some (.file part) else workspace.files.lookup location := by
  obtain ⟨folder, word, -, -, -, hfree⟩ := h.isTemporary
  rw [h.after_eq]
  exact FileStore.lookup_insert _ (FileStore.ne_nil_of_lookup_eq_none hfree) location _

theorem LeavesAt.leftAt (h : workspace.LeavesAt after path text place part) :
    workspace.LeftAt after (some path) (some text) place :=
  ⟨path, text, part, rfl, rfl, h.isTemporary, h.leaves, by rw [h.lookup, if_pos rfl]⟩

theorem LeavesAt.differsOnlyAt (h : workspace.LeavesAt after path text place part) :
    workspace.DiffersOnlyAt after [place] := by
  intro location hmem
  rw [h.lookup, if_neg (by simpa using hmem)]

/-- A half that is written is found where its path leads to, and all else is as before. -/
theorem writeHalf_eq_ok (h : workspace.writeHalf path text = (after, .ok ())) :
    ∃ place, workspace.WritesAt after path text place := by
  rcases workspace.writeHalf_cases path text with
    ⟨failure, -, hwrite⟩ | ⟨location, part, failure, -, -, -, hwrite⟩ |
      ⟨place, hlocate, hlast, hdirectory, hwrite⟩
  · simp [hwrite] at h
  · simp [hwrite] at h
  · exact ⟨place, hlocate, hlast, hdirectory, congrArg Prod.fst (h.symm.trans hwrite)⟩

/-- When a half is not written, everything is as before or a temporary file stays; the failure says
which. -/
theorem writeHalf_eq_error {failure : Failure}
    (h : workspace.writeHalf path text = (after, .error failure)) :
    (failure.leavesTemporary = false ∧ after = workspace) ∨
      (failure.leavesTemporary = true ∧
        ∃ temporary part, workspace.LeavesAt after path text temporary part) := by
  rcases workspace.writeHalf_cases path text with
    ⟨failure', hkind, hwrite⟩ | ⟨temporary, part, failure', htemporary, hleaves, hkind, hwrite⟩ |
      ⟨place, -, -, -, hwrite⟩
  · obtain ⟨rfl, hfailure⟩ := Prod.mk.inj (hwrite.symm.trans h)
    obtain rfl := Except.error.inj hfailure
    exact Or.inl ⟨hkind, rfl⟩
  · obtain ⟨rfl, hfailure⟩ := Prod.mk.inj (hwrite.symm.trans h)
    obtain rfl := Except.error.inj hfailure
    exact Or.inr ⟨hkind, temporary, part, htemporary, hleaves, rfl⟩
  · simp [hwrite] at h

/-- What is left of a half after another half was written is left as if that had not been
written. -/
theorem LeavesAt.leftAt_of_writesAt {halfway : Workspace} {path' text' : String}
    {place' : Location} (hwrites : workspace.WritesAt halfway path' text' place')
    (h : halfway.LeavesAt after path text place part) :
    place ≠ place' ∧ workspace.LeftAt after (some path) (some text) place := by
  obtain ⟨written, content, part, hpath, htext, ⟨folder, word, hword, hfolder, hplace, hfree⟩,
    hleaves, hheld⟩ := h.leftAt
  have hne : place ≠ place' := by
    rintro rfl
    rw [hwrites.lookup, if_pos rfl] at hfree
    cases hfree
  rw [hwrites.lookup, if_neg hne] at hfree
  rw [FileStore.locate_eq_ok_congr hwrites.isDirectory_eq] at hfolder
  rw [hwrites.after_eq] at hword hfolder hleaves
  exact ⟨hne, written, content, part, hpath, htext, ⟨folder, word, hword, hfolder, hplace, hfree⟩,
    hleaves, hheld⟩

end Half

/-! ### How far writing a split gets -/

section WriteSplit

variable {workspace after : Workspace} {split : Split}
  {serverPath serverText clientPath clientText : String}

/-- A split with all its parts is refused at the server half, refused at the client half, or
written. -/
theorem writeSplit_cases (workspace : Workspace)
    (hparts : split.HasParts serverPath serverText clientPath clientText) :
    (∃ after failure, workspace.writeHalf serverPath serverText = (after, .error failure) ∧
      workspace.writeSplit split = (after, .error failure)) ∨
    ∃ halfway, workspace.writeHalf serverPath serverText = (halfway, .ok ()) ∧
      ((∃ after failure, halfway.writeHalf clientPath clientText = (after, .error failure) ∧
        workspace.writeSplit split = (after, .error failure)) ∨
      ∃ after, halfway.writeHalf clientPath clientText = (after, .ok ()) ∧
        workspace.writeSplit split = (after, .ok { split with written := true })) := by
  unfold writeSplit
  rw [if_pos hparts.needed, hparts.serverPath_eq, hparts.serverText_eq, hparts.clientPath_eq,
    hparts.clientText_eq]
  dsimp only
  match hserver : workspace.writeHalf serverPath serverText with
  | (after, .error failure) => exact Or.inl ⟨after, failure, rfl, rfl⟩
  | (halfway, .ok ()) =>
    refine Or.inr ⟨halfway, rfl, ?_⟩
    dsimp only
    match hclient : halfway.writeHalf clientPath clientText with
    | (after, .error failure) => exact Or.inl ⟨after, failure, rfl, rfl⟩
    | (after, .ok ()) => exact Or.inr ⟨after, rfl, rfl⟩

/-- A split that is written changes the two places that its paths lead to. -/
theorem writeSplit_eq_ok {result : Split}
    (hparts : split.HasParts serverPath serverText clientPath clientText)
    (h : workspace.writeSplit split = (after, .ok result)) :
    result = { split with written := true } ∧
    ∃ server client,
      workspace.files.locate workspace.directory (.ofString serverPath) = .ok server ∧
      server.getLast? = some (Path.ofString serverPath).name ∧
      workspace.files.locate workspace.directory (.ofString clientPath) = .ok client ∧
      client.getLast? = some (Path.ofString clientPath).name ∧
      ∀ location, after.files.lookup location =
        if location = client then some (.file (Utf8.encode clientText))
        else if location = server then some (.file (Utf8.encode serverText))
        else workspace.files.lookup location := by
  rcases writeSplit_cases workspace hparts with
    ⟨_, _, -, hwrite⟩ | ⟨halfway, hserver, ⟨_, _, -, hwrite⟩ | ⟨_, hclient, hwrite⟩⟩
  · simp [hwrite] at h
  · simp [hwrite] at h
  · obtain ⟨rfl, hresult⟩ := Prod.mk.inj (hwrite.symm.trans h)
    obtain ⟨server, hserver⟩ := writeHalf_eq_ok hserver
    obtain ⟨client, hclient⟩ := writeHalf_eq_ok hclient
    -- The server half is no directory, so the client path leads where it led before.
    have hlocate := hclient.locate
    rw [FileStore.locate_eq_ok_congr hserver.isDirectory_eq, hserver.after_eq] at hlocate
    refine ⟨(Except.ok.inj hresult).symm, server, client, hserver.locate, hserver.getLast?, hlocate,
      hclient.getLast?, ?_⟩
    intro location
    rw [hclient.lookup, hserver.lookup]

/-- How far a split got that is not written. The server half is refused and everything is as before,
or a temporary file for it stays; or the server half is written and the client half is refused, and
there also a temporary file may stay. -/
theorem writeSplit_eq_error {failure : Failure}
    (hparts : split.HasParts serverPath serverText clientPath clientText)
    (h : workspace.writeSplit split = (after, .error failure)) :
    (workspace.writeHalf serverPath serverText = (after, .error failure) ∧
      ((failure.leavesTemporary = false ∧ after = workspace) ∨
        (failure.leavesTemporary = true ∧ ∃ temporary,
          workspace.LeftAt after split.serverPath split.serverText temporary ∧
          workspace.DiffersOnlyAt after [temporary]))) ∨
    ∃ halfway server, workspace.writeHalf serverPath serverText = (halfway, .ok ()) ∧
      workspace.WritesAt halfway serverPath serverText server ∧
      halfway.writeHalf clientPath clientText = (after, .error failure) ∧
      workspace.HoldsAt after split.serverPath split.serverText server ∧
      ((failure.leavesTemporary = false ∧ after = halfway ∧
          workspace.DiffersOnlyAt after [server]) ∨
        (failure.leavesTemporary = true ∧ ∃ temporary, temporary ≠ server ∧
          workspace.LeftAt after split.clientPath split.clientText temporary ∧
          workspace.DiffersOnlyAt after [server, temporary])) := by
  rw [hparts.serverPath_eq, hparts.serverText_eq, hparts.clientPath_eq, hparts.clientText_eq]
  rcases writeSplit_cases workspace hparts with
    ⟨_, _, hserver, hwrite⟩ | ⟨halfway, hserver, ⟨_, _, hclient, hwrite⟩ | ⟨_, -, hwrite⟩⟩
  · obtain ⟨rfl, hfailure⟩ := Prod.mk.inj (hwrite.symm.trans h)
    obtain rfl := Except.error.inj hfailure
    refine Or.inl ⟨hserver, ?_⟩
    rcases writeHalf_eq_error hserver with hrefused | ⟨hkind, temporary, part, hleaves⟩
    · exact Or.inl hrefused
    · exact Or.inr ⟨hkind, temporary, hleaves.leftAt, hleaves.differsOnlyAt⟩
  · obtain ⟨rfl, hfailure⟩ := Prod.mk.inj (hwrite.symm.trans h)
    obtain rfl := Except.error.inj hfailure
    obtain ⟨server, hwrites⟩ := writeHalf_eq_ok hserver
    refine Or.inr ⟨halfway, server, hserver, hwrites, hclient, ?_⟩
    rcases writeHalf_eq_error hclient with ⟨hkind, rfl⟩ | ⟨hkind, temporary, part, hleaves⟩
    · exact ⟨hwrites.holdsAt, Or.inl ⟨hkind, rfl, hwrites.differsOnlyAt⟩⟩
    · obtain ⟨hne, hleft⟩ := hleaves.leftAt_of_writesAt hwrites
      refine ⟨⟨_, _, rfl, rfl, hwrites.locate, ?_⟩, Or.inr ⟨hkind, temporary, hne, hleft, ?_⟩⟩
      · rw [hleaves.lookup, if_neg hne.symm, hwrites.lookup, if_pos rfl]
      · intro location hmem
        simp only [List.mem_cons, List.not_mem_nil, or_false, not_or] at hmem
        rw [hleaves.lookup, if_neg hmem.2, hwrites.lookup, if_neg hmem.1]
  · simp [hwrite] at h

/-- A split that is not written changes the place of the server half, if that was written whole, and
places where a temporary file stays. -/
theorem exists_places_of_writeSplit_error {failure : Failure}
    (hparts : split.HasParts serverPath serverText clientPath clientText)
    (h : workspace.writeSplit split = (after, .error failure)) :
    ∃ places, workspace.DiffersOnlyAt after places ∧ ∀ location ∈ places,
      (∃ halfway, workspace.WritesAt halfway serverPath serverText location ∧
        workspace.HoldsAt after split.serverPath split.serverText location) ∨
      workspace.LeftOf after split location := by
  rcases writeSplit_eq_error hparts h with
    ⟨-, ⟨-, rfl⟩ | ⟨-, temporary, hleft, hdiffers⟩⟩ |
      ⟨halfway, server, -, hwrites, -, hholds, ⟨-, -, hdiffers⟩ |
        ⟨-, temporary, -, hleft, hdiffers⟩⟩
  · exact ⟨[], fun _ _ ↦ rfl, by simp⟩
  · refine ⟨_, hdiffers, ?_⟩
    simp only [List.mem_singleton, forall_eq]
    exact Or.inr (Or.inl hleft)
  · refine ⟨_, hdiffers, ?_⟩
    simp only [List.mem_singleton, forall_eq]
    exact Or.inl ⟨halfway, hwrites, hholds⟩
  · refine ⟨_, hdiffers, ?_⟩
    simp only [List.mem_cons, List.not_mem_nil, or_false, forall_eq_or_imp, forall_eq]
    exact ⟨Or.inl ⟨halfway, hwrites, hholds⟩, Or.inr (Or.inr hleft)⟩

end WriteSplit

end Workspace

/-! ### Writing that fails -/

/-- **What is left when writing a split fails.** Either half may be refused, and either refusal may
leave a temporary file behind, which the failure tells. If the server half is refused and no
temporary file stays nothing changes. If the client half is refused the server half stays written
whole. All places but that of the server half and of the temporary file are as before. So everything
is as before exactly when no temporary file stays and the server half was refused or its place held
the text already. -/
theorem writeSplit_refused {workspace after : Workspace} {split : Split} {failure : Failure}
    {serverPath serverText clientPath clientText : String}
    (hparts : split.HasParts serverPath serverText clientPath clientText)
    (h : workspace.writeSplit split = (after, .error failure)) :
    ((workspace.writeHalf serverPath serverText = (after, .error failure) ∧
        ((failure.leavesTemporary = false ∧ after = workspace) ∨
          (failure.leavesTemporary = true ∧ ∃ temporary,
            workspace.LeftAt after split.serverPath split.serverText temporary ∧
            workspace.DiffersOnlyAt after [temporary]))) ∨
      ∃ halfway server, workspace.writeHalf serverPath serverText = (halfway, .ok ()) ∧
        halfway.writeHalf clientPath clientText = (after, .error failure) ∧
        workspace.HoldsAt after split.serverPath split.serverText server ∧
        ((failure.leavesTemporary = false ∧ after = halfway ∧
            workspace.DiffersOnlyAt after [server]) ∨
          (failure.leavesTemporary = true ∧ ∃ temporary, temporary ≠ server ∧
            workspace.LeftAt after split.clientPath split.clientText temporary ∧
            workspace.DiffersOnlyAt after [server, temporary]))) ∧
    ((∀ location, after.files.lookup location = workspace.files.lookup location) ↔
      failure.leavesTemporary = false ∧
        ((workspace.writeHalf serverPath serverText).2 = .error failure ∨
          ∃ server, workspace.HoldsAt workspace split.serverPath split.serverText server)) := by
  have hcases := Workspace.writeSplit_eq_error hparts h
  -- A temporary file that stays was not there before.
  have hchanged {path text : Option String} {temporary : Location}
      (hleft : workspace.LeftAt after path text temporary) :
      ¬∀ location, after.files.lookup location = workspace.files.lookup location := by
    intro hsame
    have hnowhere : workspace.DiffersOnlyAt after [] := fun location _ ↦ hsame location
    simpa using hleft.mem_of_differsOnlyAt hnowhere
  rcases hcases with
    ⟨hserver, hcase⟩ | ⟨halfway, server, hserver, hwrites, hclient, hholds, hcase⟩
  · refine ⟨Or.inl ⟨hserver, hcase⟩, ?_⟩
    rcases hcase with ⟨hkind, rfl⟩ | ⟨hkind, temporary, hleft, -⟩
    · exact iff_of_true (fun _ ↦ rfl) ⟨hkind, Or.inl (by rw [hserver])⟩
    · exact iff_of_false (hchanged hleft) (by simp [hkind])
  · refine ⟨Or.inr ⟨halfway, server, hserver, hclient, hholds, hcase⟩, ?_⟩
    rcases hcase with ⟨hkind, rfl, hdiffers⟩ | ⟨hkind, temporary, -, hleft, -⟩
    · constructor
      · intro hsame
        obtain ⟨path, text, hpath, htext, hlocate, hheld⟩ := hholds
        exact ⟨hkind, Or.inr ⟨server, path, text, hpath, htext, hlocate,
          (hsame server).symm.trans hheld⟩⟩
      · rintro ⟨-, hrefused | ⟨server', path, text, hpath, htext, hlocate, hheld⟩⟩ location
        · simp [hserver] at hrefused
        · obtain rfl := Option.some.inj (hparts.serverPath_eq.symm.trans hpath)
          obtain rfl := Option.some.inj (hparts.serverText_eq.symm.trans htext)
          obtain rfl := Except.ok.inj (hwrites.locate.symm.trans hlocate)
          rw [hwrites.lookup]
          split_ifs with hplace
          · rw [hplace, hheld]
          · rfl
    · exact iff_of_false (hchanged hleft) (by simp [hkind])

/-- A workspace with a source that names a browser global, next to other entries. -/
def sourceBeside (others : List (Location × Entry)) : Workspace where
  files := ⟨(["a.tsx"], .file (OneLine.source [.mention "window"])) :: others⟩
  directory := ⟨.single, []⟩
  environment := {}
  draws := ["00000000"]

/-- A workspace with a directory in the place of the client half. -/
def clientPlaceTaken : Workspace :=
  sourceBeside [(["a.client.tsx"], .directory)]

/-- A split with short texts. -/
def plainSplit : Split where
  needsSplit := true
  sourcePath := "/a.tsx"
  serverPath := some "/a.server.tsx"
  clientPath := some "/a.client.tsx"
  serverText := some "s"
  clientText := some "c"

theorem plainSplit_hasParts : plainSplit.HasParts "/a.server.tsx" "s" "/a.client.tsx" "c" :=
  ⟨rfl, rfl, rfl, rfl, rfl⟩

/-- Beside a directory in the place of the client half only the server half is written. -/
theorem writeSplit_refused_clientPlaceTaken :
    ∃ after failure, clientPlaceTaken.writeSplit plainSplit = (after, .error failure) ∧
      ∃ halfway server, clientPlaceTaken.writeHalf "/a.server.tsx" "s" = (halfway, .ok ()) ∧
        halfway.writeHalf "/a.client.tsx" "c" = (after, .error failure) ∧
        clientPlaceTaken.HoldsAt after plainSplit.serverPath plainSplit.serverText server := by
  have hfailed : (clientPlaceTaken.writeSplit plainSplit).2.toOption = none := by decide +kernel
  cases hresult : (clientPlaceTaken.writeSplit plainSplit).2 with
  | ok written => simp [hresult, Except.toOption] at hfailed
  | error failure =>
    have hwrite : clientPlaceTaken.writeSplit plainSplit = (_, .error failure) :=
      Prod.ext rfl hresult
    have hserver : (clientPlaceTaken.writeHalf "/a.server.tsx" "s").2 = .ok () := by decide +kernel
    rcases (writeSplit_refused plainSplit_hasParts hwrite).1 with
      ⟨hrefused, -⟩ | ⟨halfway, server, hserver, hclient, hholds, -⟩
    · simp [hrefused] at hserver
    · exact ⟨_, failure, hwrite, halfway, server, hserver, hclient, hholds⟩

/-- A split that cannot be written leaves the files changed: beside a directory in the place of the
client half a file for the server half appears. -/
theorem writeSplit_leaves_serverHalf :
    plainSplit.HasParts "/a.server.tsx" "s" "/a.client.tsx" "c" ∧
    (clientPlaceTaken.writeSplit plainSplit).2.toOption = none ∧
    clientPlaceTaken.files.lookup ["a.server.tsx"] = none ∧
    (clientPlaceTaken.writeSplit plainSplit).1.files.lookup ["a.server.tsx"] =
      some (.file (Utf8.encode "s")) :=
  ⟨plainSplit_hasParts, by decide +kernel, by decide +kernel, by decide +kernel⟩

end ClientBoundary
