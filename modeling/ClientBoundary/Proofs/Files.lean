import ClientBoundary.Proofs.Outcome
import ClientBoundary.Workspace
import Mathlib.Data.List.Basic

/-!
# Reading and writing files

A file is written through a temporary file beside it. The temporary file gets a name that is not
taken, so that removing it gives back the store in which it was made, and being a file it changes
nothing about where paths lead. Writing therefore either leaves the store as it was or puts the new
content at the place that the path leads to, and no temporary file stays in either case. There are
two exceptions, in which the temporary file stays: the system stops while the content is written
into it, or refuses to remove it again. Reading depends on the entry that is read and on the
directories, and on what the system refuses.

## Main definitions

* `FileStore.IsTemporary`: where a temporary file is made.
* `Refusals.Leaves`: what stays of the content of a temporary file.
* `Failure.leavesTemporary`: the failures that leave a temporary file behind.

## Main results

* `FileStore.erase_insert`: removing a new entry gives back the store.
* `FileStore.locate_insert_file`: a new file changes nothing about where paths lead.
* `FileStore.getLast?_of_locate`: a path leads to an entry of its own name.
* `FileStore.createTemporary_cases`: a temporary file is new.
* `FileStore.writeWhole_cases`, `Workspace.writeHalf_cases`: writing a file does nothing or all of
  it, or leaves a temporary file behind.
* `Workspace.readSource_eq_ok_iff`: when a source can be read.
* `Workspace.saveSource_cases`: how far writing a source back gets.
-/

namespace ClientBoundary

/-- What stays of a content at the location of a temporary file: the part that the system took
before it stopped, or all of it when the system refuses to remove the file. -/
def Refusals.Leaves (refusals : Refusals) (location : Location) (bytes part : Bytes) : Prop :=
  (∃ fault taken, refusals.write location bytes = some (.content fault taken) ∧
      part = bytes.take taken) ∨
    (∃ cause, refusals.remove location = some cause) ∧ part = bytes

/-- A failure that leaves a temporary file behind when a file is written in one step. -/
def Failure.leavesTemporary : Failure → Bool
  | .contentRefused _ | .removeRefused _ _ => true
  | _ => false

namespace FileStore

variable {store : FileStore} {location : Location}

/-! ### New entries -/

theorem ne_nil_of_lookup_eq_none (h : store.lookup location = none) : location ≠ [] := by
  rintro rfl
  simp [lookup] at h

/-- Removing an entry from where nothing was gives back the store. -/
theorem erase_insert (h : store.lookup location = none) (entry : Entry) :
    (store.insert location entry).erase location = store := by
  have hne := ne_nil_of_lookup_eq_none h
  have hkeys : ∀ e ∈ store.entries, (e.1 != location) = true := by
    intro e he
    rw [lookup, if_neg hne, List.lookup_eq_none_iff] at h
    rw [bne_iff_ne]
    rintro rfl
    simpa using h e he
  obtain ⟨entries⟩ := store
  simp only [insert, erase, List.filter_cons, bne_self_eq_false, Bool.false_eq_true, if_false,
    mk.injEq, List.filter_filter, Bool.and_self]
  exact List.filter_eq_self.mpr hkeys

/-- A file where no directory was leaves the directories as they are. -/
theorem isDirectory_insert_file (h : store.isDirectory location = false) (bytes : Bytes)
    (other : Location) :
    (store.insert location (.file bytes)).isDirectory other = store.isDirectory other := by
  have hne : location ≠ [] := by
    rintro rfl
    simp [isDirectory, lookup] at h
  rw [isDirectory, lookup_insert store hne]
  split_ifs with hother
  · subst hother
    rw [h]
    rfl
  · rfl

/-! ### Where paths lead -/

theorem follow_eq_ok_iff {part : String} {next : Location} :
    store.follow location part = .ok next ↔
      store.isDirectory location = true ∧ isLong part = false ∧
        next = if part = ".." then location.dropLast else location ++ [part] := by
  unfold follow isDirectory
  split
  · rename_i hlookup
    cases hlong : isLong part with
    | true => simp [hlookup]
    | false => simp [hlookup, eq_comm]
  · rename_i hlookup
    simp [hlookup]
  · rename_i hlookup
    simp [hlookup]

/-- In stores with the same directories the same paths lead to the same places. -/
theorem locate_eq_ok_congr {other : FileStore}
    (h : ∀ location, other.isDirectory location = store.isDirectory location)
    {directory path : Path} {target : Location} :
    other.locate directory path = .ok target ↔ store.locate directory path = .ok target := by
  have hfold (parts : List String) (start : Location) :
      parts.foldlM other.follow start = .ok target ↔
        parts.foldlM store.follow start = .ok target := by
    induction parts generalizing start with
    | nil => rfl
    | cons part parts ih =>
      simp only [List.foldlM_cons, bind_eq_ok_iff, follow_eq_ok_iff, h, ih]
  unfold locate
  split_ifs
  · rfl
  · exact hfold _ _
  · exact hfold _ _

/-- A new file changes nothing about where paths lead. -/
theorem locate_insert_file (h : store.isDirectory location = false) (bytes : Bytes)
    {directory path : Path} {target : Location} :
    (store.insert location (.file bytes)).locate directory path = .ok target ↔
      store.locate directory path = .ok target :=
  locate_eq_ok_congr (isDirectory_insert_file h bytes)

/-- A path with a name of its own leads to an entry of that name. -/
theorem getLast?_of_locate {directory path : Path} {target : Location}
    (h : store.locate directory path = .ok target) (hempty : path.name ≠ "")
    (hdots : path.name ≠ "..") : target.getLast? = some path.name := by
  obtain ⟨start, hfold⟩ : ∃ start, path.parts.foldlM store.follow start = .ok target := by
    unfold locate at h
    split_ifs at h
    · exact ⟨_, h⟩
    · exact ⟨_, h⟩
  rcases List.eq_nil_or_concat' path.parts with hparts | ⟨parts, last, hparts⟩
  · simp [Path.name, hparts] at hempty
  · have hname : path.name = last := by simp [Path.name, hparts]
    rw [hparts, List.foldlM_append, bind_eq_ok_iff] at hfold
    obtain ⟨folder, -, hlast⟩ := hfold
    simp only [List.foldlM_cons, List.foldlM_nil, bind_eq_ok_iff, pure_eq_ok_iff,
      follow_eq_ok_iff, exists_eq_right] at hlast
    rw [hlast.2.2, hname, if_neg (hname ▸ hdots), List.getLast?_concat]

/-! ### Writing -/

/-- A temporary file for the content of a path may be made at the location: it is named after the
path and a word that is drawn, stands in the folder of the path, and nothing is there. -/
def IsTemporary (store : FileStore) (draws : List String) (directory path : Path)
    (location : Location) : Prop :=
  ∃ folder, ∃ word ∈ draws, store.locate directory (temporaryFolder directory path) = .ok folder ∧
    location = folder ++ [temporaryName path word] ∧ store.lookup location = none

theorem freeLocation_eq_ok {directory path : Path} {folder : Location} {draws : List String}
    (h : store.freeLocation directory path folder draws = .ok location) :
    (∃ word ∈ draws, location = folder ++ [temporaryName path word]) ∧
      store.lookup location = none := by
  induction draws with
  | nil => cases h
  | cons word draws ih =>
    unfold freeLocation at h
    dsimp only at h
    split_ifs at h with hlong htaken
    · obtain ⟨⟨drawn, hdrawn, hlocation⟩, hfree⟩ := ih h
      exact ⟨⟨drawn, List.mem_cons_of_mem word hdrawn, hlocation⟩, hfree⟩
    · obtain rfl := Except.ok.inj h
      exact ⟨⟨word, List.mem_cons_self, rfl⟩, by simpa using htaken⟩

/-- Finding a name for a temporary file fails before any file is made. -/
theorem leavesTemporary_of_freeLocation {directory path : Path} {folder : Location}
    {draws : List String} {failure : Failure}
    (h : store.freeLocation directory path folder draws = .error failure) :
    failure.leavesTemporary = false := by
  induction draws with
  | nil =>
    obtain rfl := Except.error.inj h
    rfl
  | cons word draws ih =>
    unfold freeLocation at h
    dsimp only at h
    split_ifs at h with hlong htaken
    · obtain rfl := Except.error.inj h
      rfl
    · exact ih h

theorem temporaryLocation_eq_ok {draws : List String} {directory path : Path}
    (h : store.temporaryLocation draws directory path = .ok location) :
    store.IsTemporary draws directory path location := by
  unfold temporaryLocation at h
  dsimp only at h
  split_ifs at h
  split at h
  · cases h
  · rename_i folder hfolder
    split at h
    · cases h
    · cases h
    · obtain ⟨⟨word, hword, hlocation⟩, hfree⟩ := freeLocation_eq_ok h
      exact ⟨folder, word, hword, hfolder, hlocation, hfree⟩

theorem leavesTemporary_of_temporaryLocation {draws : List String} {directory path : Path}
    {failure : Failure} (h : store.temporaryLocation draws directory path = .error failure) :
    failure.leavesTemporary = false := by
  unfold temporaryLocation at h
  dsimp only at h
  split_ifs at h
  · obtain rfl := Except.error.inj h
    rfl
  · split at h
    · obtain rfl := Except.error.inj h
      rfl
    · split at h
      · obtain rfl := Except.error.inj h
        rfl
      · obtain rfl := Except.error.inj h
        rfl
      · exact leavesTemporary_of_freeLocation h

/-- A temporary file is made with all its content, is left with a part of it, or is not made. -/
theorem createTemporary_cases (store : FileStore) (refusals : Refusals) (draws : List String)
    (directory path : Path) (bytes : Bytes) :
    (∃ failure, failure.leavesTemporary = false ∧
      store.createTemporary refusals draws directory path bytes = (store, .error failure)) ∨
    ∃ location, store.IsTemporary draws directory path location ∧
      ((∃ part failure, refusals.Leaves location bytes part ∧ failure.leavesTemporary = true ∧
        store.createTemporary refusals draws directory path bytes =
          (store.insert location (.file part), .error failure)) ∨
      store.createTemporary refusals draws directory path bytes =
        (store.insert location (.file bytes), .ok location)) := by
  unfold createTemporary
  cases hlocation : store.temporaryLocation draws directory path with
  | error failure => exact Or.inl ⟨failure, leavesTemporary_of_temporaryLocation hlocation, rfl⟩
  | ok location =>
    have htemporary := temporaryLocation_eq_ok hlocation
    dsimp only [write]
    cases hwrite : refusals.write location bytes with
    | none => exact Or.inr ⟨location, htemporary, Or.inr rfl⟩
    | some refusal =>
      cases refusal with
      | opening cause => exact Or.inl ⟨_, rfl, rfl⟩
      | content fault taken =>
        exact Or.inr ⟨location, htemporary,
          Or.inl ⟨_, _, Or.inl ⟨fault, taken, hwrite, rfl⟩, rfl, rfl⟩⟩

/-- An entry is moved onto the place that a path leads to, if no directory is there. -/
theorem move_eq_ok {refusals : Refusals} {source : Location} {directory path : Path}
    {moved : FileStore} (h : store.move refusals source directory path = .ok moved) :
    ∃ target entry, path.name ≠ "" ∧ path.name ≠ ".." ∧
      store.locate directory path = .ok target ∧ store.isDirectory target = false ∧
      store.lookup source = some entry ∧ moved = (store.erase source).insert target entry := by
  unfold move at h
  split_ifs at h with hname
  obtain ⟨hempty, hdots⟩ := not_or.mp hname
  split at h
  · cases h
  · rename_i target htarget
    split_ifs at h with hdirectory
    split at h
    · cases h
    · cases h
    · rename_i entry hentry _
      obtain rfl := Except.ok.inj h
      exact ⟨target, entry, hempty, hdots, htarget, by simpa using hdirectory, hentry, rfl⟩

/-- A file moved from where nothing was before is found at its new place, and nothing is left at the
old one. -/
theorem move_insert_eq_ok {refusals : Refusals} {directory path : Path} {bytes : Bytes}
    {moved : FileStore} (hfree : store.lookup location = none)
    (h : (store.insert location (.file bytes)).move refusals location directory path = .ok moved) :
    ∃ target, store.locate directory path = .ok target ∧ target.getLast? = some path.name ∧
      store.isDirectory target = false ∧ moved = store.insert target (.file bytes) := by
  obtain ⟨target, entry, hempty, hdots, htarget, hnone, hentry, rfl⟩ := move_eq_ok h
  have hdirectory : store.isDirectory location = false := by simp [isDirectory, hfree]
  rw [locate_insert_file hdirectory] at htarget
  rw [isDirectory_insert_file hdirectory] at hnone
  rw [lookup_insert store (ne_nil_of_lookup_eq_none hfree), if_pos rfl] at hentry
  obtain rfl := Option.some.inj hentry
  exact ⟨target, htarget, getLast?_of_locate htarget hempty hdots, hnone,
    by rw [erase_insert hfree]⟩

/-- **Writing a file does nothing or all of it, unless a temporary file stays.** If it fails the
store is as before, or a temporary file stays because the system stopped while its content was
written or refused to remove it again; the failure says which. If it succeeds the path leads to an
entry of its name, which holds the bytes of the text, and all else is as before. -/
theorem writeWhole_cases (store : FileStore) (refusals : Refusals) (draws : List String)
    (directory path : Path) (text : String) :
    (∃ failure, failure.leavesTemporary = false ∧
      store.writeWhole refusals draws directory path text = (store, .error failure)) ∨
    (∃ location part failure, store.IsTemporary draws directory path location ∧
      refusals.Leaves location (Utf8.encode text) part ∧ failure.leavesTemporary = true ∧
      store.writeWhole refusals draws directory path text =
        (store.insert location (.file part), .error failure)) ∨
    ∃ target, store.locate directory path = .ok target ∧ target.getLast? = some path.name ∧
      store.isDirectory target = false ∧
      store.writeWhole refusals draws directory path text =
        (store.insert target (.file (Utf8.encode text)), .ok ()) := by
  unfold writeWhole
  rcases store.createTemporary_cases refusals draws directory path (Utf8.encode text) with
    ⟨failure, hkind, hcreate⟩ | ⟨location, htemporary, ⟨part, failure, hleaves, hkind, hcreate⟩ |
      hcreate⟩
  · exact Or.inl ⟨failure, hkind, by rw [hcreate]⟩
  · exact Or.inr (Or.inl ⟨location, part, failure, htemporary, hleaves, hkind, by rw [hcreate]⟩)
  · obtain ⟨folder, word, hword, hfolder, hlocation, hfree⟩ := id htemporary
    rw [hcreate]
    dsimp only
    cases hmove : (store.insert location (.file (Utf8.encode text))).move refusals location
        directory path with
    | ok moved =>
      obtain ⟨target, htarget, hlast, hnone, rfl⟩ := move_insert_eq_ok hfree hmove
      exact Or.inr (Or.inr ⟨target, htarget, hlast, hnone, rfl⟩)
    | error cause =>
      cases hremove : refusals.remove location with
      | none => exact Or.inl ⟨_, rfl, by rw [erase_insert hfree]⟩
      | some cause =>
        exact Or.inr (Or.inl ⟨location, _, _, htemporary, Or.inr ⟨⟨cause, hremove⟩, rfl⟩, rfl,
          rfl⟩)

/-! ### Reading -/

theorem isTooLong_congr {other : FileStore}
    (h : ∀ location, other.isDirectory location = store.isDirectory location) (path : Path) :
    other.isTooLong path = store.isTooLong path := by
  unfold isTooLong
  simp only [h]

end FileStore

namespace Workspace

/-- Writing a half of a split does nothing or all of it, unless a temporary file stays. -/
theorem writeHalf_cases (workspace : Workspace) (path text : String) :
    (∃ failure, failure.leavesTemporary = false ∧
      workspace.writeHalf path text = (workspace, .error failure)) ∨
    (∃ location part failure,
      workspace.files.IsTemporary workspace.draws workspace.directory (.ofString path) location ∧
      workspace.refusals.Leaves location (Utf8.encode text) part ∧
      failure.leavesTemporary = true ∧
      workspace.writeHalf path text =
        ({ workspace with files := workspace.files.insert location (.file part) },
          .error failure)) ∨
    ∃ target, workspace.files.locate workspace.directory (.ofString path) = .ok target ∧
      target.getLast? = some (Path.ofString path).name ∧
      workspace.files.isDirectory target = false ∧
      workspace.writeHalf path text =
        ({ workspace with files := workspace.files.insert target (.file (Utf8.encode text)) },
          .ok ()) := by
  rcases workspace.files.writeWhole_cases workspace.refusals workspace.draws workspace.directory
    (.ofString path) text with ⟨failure, hkind, hwrite⟩ |
      ⟨location, part, failure, htemporary, hleaves, hkind, hwrite⟩ |
      ⟨target, hlocate, hlast, hdirectory, hwrite⟩
  · exact Or.inl ⟨failure, hkind, by rw [writeHalf, hwrite]⟩
  · exact Or.inr (Or.inl
      ⟨location, part, failure, htemporary, hleaves, hkind, by rw [writeHalf, hwrite]⟩)
  · exact Or.inr (Or.inr ⟨target, hlocate, hlast, hdirectory, by rw [writeHalf, hwrite]⟩)

/-- A source can be read when its path holds no null character and is not too long, and a file that
spells text is there and may be read. -/
theorem readSource_eq_ok_iff {workspace : Workspace} {file : String} {source : SourceFile} :
    workspace.readSource file = .ok source ↔
      file.toList.contains '\x00' = false ∧
      source.path = Path.resolve workspace.directory (.ofString file) ∧
      workspace.files.isTooLong source.path = false ∧
      workspace.files.lookup source.path.parts = some (.file source.bytes) ∧
      (∃ text, Utf8.decode source.bytes = .ok text) ∧
      workspace.refusals.read source.path.parts = none := by
  obtain ⟨path, bytes⟩ := source
  constructor
  · intro h
    unfold readSource FileStore.inspect at h
    dsimp only at h
    split_ifs at h with hnull hlong
    split at h
    · cases h
    · cases h
    · cases h
    · rename_i found hfound
      split at h
      · cases h
      · rename_i text hread hdecode
        obtain ⟨rfl, rfl⟩ := SourceFile.mk.inj (Except.ok.inj h)
        exact ⟨by simpa using hnull, rfl, by simpa using hlong, Except.ok.inj hfound,
          ⟨text, hdecode⟩, hread⟩
      · cases h
  · rintro ⟨hnull, rfl, hlong, hlookup, ⟨text, hdecode⟩, hread⟩
    unfold readSource FileStore.inspect
    simp only [hnull, hlong, hlookup, hdecode, hread, Bool.false_eq_true, if_false]

/-- Writing a source back succeeds, is refused with nothing changed, or stops when a part of the
content has been taken. -/
theorem saveSource_cases (workspace : Workspace) (source : SourceFile) (bytes : Bytes) :
    (∃ failure, workspace.saveSource source bytes = (workspace, .error failure)) ∨
    (∃ taken failure, workspace.saveSource source bytes =
      ({ workspace with
          files := workspace.files.insert source.path.parts (.file (bytes.take taken)) },
        .error failure)) ∨
    workspace.saveSource source bytes =
      ({ workspace with files := workspace.files.insert source.path.parts (.file bytes) },
        .ok ()) := by
  unfold saveSource FileStore.write
  cases hwrite : workspace.refusals.write source.path.parts bytes with
  | none => exact Or.inr (Or.inr rfl)
  | some refusal =>
    cases refusal with
    | opening cause => exact Or.inl ⟨_, rfl⟩
    | content fault taken => exact Or.inr (Or.inl ⟨taken, _, rfl⟩)

/-- A source that is written back holds the new content, and all else is as before. -/
theorem saveSource_eq_ok {workspace after : Workspace} {source : SourceFile} {bytes : Bytes}
    (h : workspace.saveSource source bytes = (after, .ok ())) :
    after = { workspace with files := workspace.files.insert source.path.parts (.file bytes) } := by
  rcases workspace.saveSource_cases source bytes with
    ⟨failure, hsave⟩ | ⟨taken, failure, hsave⟩ | hsave
  · simp [hsave] at h
  · simp [hsave] at h
  · exact congrArg Prod.fst (h.symm.trans hsave)

end Workspace

end ClientBoundary
