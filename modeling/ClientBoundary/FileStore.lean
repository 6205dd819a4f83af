import ClientBoundary.Path
import ClientBoundary.Text.Hex
import ClientBoundary.Text.Sorted
import ClientBoundary.Text.Utf8

/-!
# File stores

A tree of directories and files as a value. An entry is found by its location, the list of names
that lead to it from the root; the root itself is always a directory. There are no links, so a
location names one entry and an entry has one location. Names and paths have limited lengths, and a
name is only looked at when the directories before it exist. What the system refuses besides is
given apart from the store; when it refuses the content of a file, a part may have been taken.

Source: SPEC_FULL.md, §4.6, writing both files whole.

## Main declarations

* `FileStore`, `FileStore.lookup`: entries and how they are found.
* `FileStore.put`, `FileStore.erase`, `FileStore.makeDirectories`, `FileStore.remove`: changes.
* `FileStore.locate`: where a path leads.
* `FileStore.inspect`, `FileStore.contentAt`: what is found at a path.
* `FileStore.createFile`, `FileStore.createDirectories`, `FileStore.delete`: changes that the system
  may refuse.
* `Refusals`, `FileStore.write`: the content of a file, as far as the system takes it.
* `FileStore.createTemporary`, `FileStore.move`: a new temporary file, and moving it onto a path.
* `FileStore.writeWhole`: writes a file in one step, or not at all.
* `FileStore.listing`: everything below a directory.
-/

namespace ClientBoundary

open Text

/-- The names that lead from the root to an entry. -/
abbrev Location := List String

/-- An entry of a file store. -/
inductive Entry where
  | directory
  | file (bytes : Bytes)
  deriving DecidableEq, Repr

/-- How the writing of a file is refused: it is not opened, or it ends when some bytes of the
content have been taken. -/
inductive WriteRefusal where
  | opening (cause : SystemCause)
  | content (fault : ContentFault) (taken : Nat)
  deriving DecidableEq, Repr

/-- What a refusal to write a path is told with. -/
def WriteRefusal.failure (path : String) : WriteRefusal → Failure
  | .opening cause => .system cause path
  | .content fault _ => .contentRefused fault

/-- What the system refuses to do with the files at given locations, for reasons that the entries of
a store do not show: missing permissions, a full disk and the like. -/
structure Refusals where
  read : Location → Option SystemCause := fun _ ↦ none
  write : Location → Bytes → Option WriteRefusal := fun _ _ ↦ none
  move : (source target : Location) → Option SystemCause := fun _ _ ↦ none
  remove : Location → Option SystemCause := fun _ ↦ none

/-- A tree of directories and files. -/
structure FileStore where
  entries : List (Location × Entry)
  deriving Repr

namespace FileStore

/-- The entry at a location. -/
def lookup (store : FileStore) (location : Location) : Option Entry :=
  if location = [] then some .directory else store.entries.lookup location

/-- Whether there is a directory at a location. -/
def isDirectory (store : FileStore) (location : Location) : Bool :=
  store.lookup location == some .directory

/-- The store with another entry at a location. -/
def insert (store : FileStore) (location : Location) (entry : Entry) : FileStore :=
  ⟨(location, entry) :: store.entries.filter (·.1 != location)⟩

/-- The store without the entry at a location. -/
def erase (store : FileStore) (location : Location) : FileStore :=
  ⟨store.entries.filter (·.1 != location)⟩

/-- The number of bytes that a name may have. -/
def nameLimit : Nat := 255

/-- The number of bytes that a path may have. -/
def pathLimit : Nat := 4095

/-- Whether a name has too many bytes. -/
def isLong (name : String) : Bool :=
  nameLimit < name.utf8ByteSize

/-- Makes the directories `parts` below `above` where nothing is, as far as the system lets it. -/
def createBelow (above : Location) :
    (parts : List String) → FileStore → FileStore × Except SystemCause Unit
  | [], store => (store, .ok ())
  | part :: parts, store =>
    let location := above ++ [part]
    if isLong part then (store, .error .tooLong)
    else
      match store.lookup location with
      | none => createBelow location parts (store.insert location .directory)
      | some .directory => createBelow location parts store
      | some (.file _) => (store, .error (if parts = [] then .alreadyThere else .notDirectory))

/-- Makes directories at a location and above it where nothing is, as far as the system lets it. -/
def createDirectories (store : FileStore) (location : Location) :
    FileStore × Except SystemCause Unit :=
  createBelow [] location store

/-- The store with directories at a location and above it. -/
def makeDirectories (store : FileStore) (location : Location) : FileStore :=
  (store.createDirectories location).1

/-- The store with a file at a location, and directories above it. -/
def put (store : FileStore) (location : Location) (bytes : Bytes) : FileStore :=
  (store.makeDirectories location.dropLast).insert location (.file bytes)

/-- The store without the entry at a location and everything below it. -/
def remove (store : FileStore) (location : Location) : FileStore :=
  ⟨store.entries.filter fun e ↦ !location.isPrefixOf e.1⟩

/-- One step of following a path. -/
def follow (store : FileStore) (location : Location) (part : String) :
    Except SystemCause Location :=
  match store.lookup location with
  | some .directory =>
    if isLong part then .error .tooLong
    else .ok (if part = ".." then location.dropLast else location ++ [part])
  | some (.file _) => .error .notDirectory
  | none => .error .missing

/-- The location that a path leads to from a directory. The directories on the way must exist; the
entry itself need not. -/
def locate (store : FileStore) (directory path : Path) : Except SystemCause Location :=
  if pathLimit < path.toString.utf8ByteSize then .error .tooLong
  else path.parts.foldlM store.follow (if path.root = .relative then directory.parts else [])

/-- Whether the system refuses to look for an absolute path because it, or a name that is reached
in it, is too long. -/
def isTooLong (store : FileStore) (path : Path) : Bool :=
  pathLimit < path.toString.utf8ByteSize ||
    match path.parts.findIdx? isLong with
    | some i => store.isDirectory (path.parts.take i)
    | none => false

/-- The entry at an absolute path, if there is one. -/
def inspect (store : FileStore) (path : Path) : Except SystemCause (Option Entry) :=
  if store.isTooLong path then .error .tooLong else .ok (store.lookup path.parts)

/-- The content of the file at an absolute path. -/
def contentAt (store : FileStore) (path : Path) : Except SystemCause Bytes := do
  match store.lookup (← store.locate path path) with
  | some (.file bytes) => .ok bytes
  | some .directory => .error .isDirectory
  | none => .error .missing

/-- Writes a file at a location and makes the directories above it, as far as the system lets it. -/
def createFile (store : FileStore) (location : Location) (bytes : Bytes) :
    FileStore × Except SystemCause Unit :=
  match store.createDirectories location.dropLast with
  | (store, .error cause) => (store, .error cause)
  | (store, .ok ()) =>
    if location.getLast?.any isLong then (store, .error .tooLong)
    else if store.isDirectory location then (store, .error .isDirectory)
    else (store.insert location (.file bytes), .ok ())

/-- Removes what is found at an absolute path. -/
def delete (store : FileStore) (path : Path) : Except SystemCause FileStore := do
  let location ← store.locate path path
  if (store.lookup location).isSome then .ok (store.remove location) else .error .missing

/-- The directory in which the content of `path` is gathered. -/
def temporaryFolder (directory path : Path) : Path :=
  Path.resolve directory path.parent

/-- The name of a temporary file in which the content of `path` is gathered; it ends with a word
drawn at random. -/
def temporaryName (path : Path) (word : String) : String :=
  s!".{path.name}.{word}"

/-- The path of the temporary file in which the content of `path` is gathered, with the word that
was drawn shown as three letters. -/
def temporaryPath (directory path : Path) : Path :=
  let folder := temporaryFolder directory path
  { folder with parts := folder.parts ++ [temporaryName path "TMP"] }

/-- Whether the temporary file of `path` has too long a name or path. -/
def isTemporaryTooLong (directory path : Path) (word : String) : Bool :=
  let size := (temporaryName path word).utf8ByteSize
  nameLimit < size ||
    pathLimit < (temporaryFolder directory path).toString.utf8ByteSize + 1 + size

/-- The words that are drawn for the name of a temporary file before the attempt is given up. -/
def drawnWords : List String :=
  (List.range 10000).map fun n ↦ String.ofList (hexDigits 8 n)

/-- The location of a new temporary file in a folder: that of the first word drawn whose name is not
taken. -/
def freeLocation (store : FileStore) (directory path : Path) (folder : Location) :
    (draws : List String) → Except Failure Location
  | [] => .error .noTemporaryName
  | word :: draws =>
    let location := folder ++ [temporaryName path word]
    if isTemporaryTooLong directory path word then
      .error (.system .tooLong (temporaryPath directory path).toString)
    else if (store.lookup location).isSome then store.freeLocation directory path folder draws
    else .ok location

/-- Where a new temporary file for the content of `path` is made. -/
def temporaryLocation (store : FileStore) (draws : List String) (directory path : Path) :
    Except Failure Location :=
  let temporary := (temporaryPath directory path).toString
  if path.toString.toList.contains '\x00' then .error .nullCharacter
  else
    match store.locate directory (temporaryFolder directory path) with
    | .error cause => .error (.system cause temporary)
    | .ok folder =>
      match store.lookup folder with
      | none => .error (.system .missing temporary)
      | some (.file _) => .error (.system .notDirectory temporary)
      | some .directory => store.freeLocation directory path folder draws

/-- Opens the file at a location and writes its content, as far as the system lets it. -/
def write (store : FileStore) (refusals : Refusals) (location : Location) (bytes : Bytes) :
    FileStore × Except WriteRefusal Unit :=
  match refusals.write location bytes with
  | none => (store.insert location (.file bytes), .ok ())
  | some (.opening cause) => (store, .error (.opening cause))
  | some (.content fault taken) =>
    (store.insert location (.file (bytes.take taken)), .error (.content fault taken))

/-- Makes a temporary file for the content of `path` and gives its location. When the system stops
while the content is written, the file stays. -/
def createTemporary (store : FileStore) (refusals : Refusals) (draws : List String)
    (directory path : Path) (bytes : Bytes) : FileStore × Except Failure Location :=
  match store.temporaryLocation draws directory path with
  | .error failure => (store, .error failure)
  | .ok location =>
    match store.write refusals location bytes with
    | (store, .ok ()) => (store, .ok location)
    | (store, .error refusal) =>
      (store, .error (refusal.failure (temporaryPath directory path).toString))

/-- Moves the entry at a location onto a path. -/
def move (store : FileStore) (refusals : Refusals) (source : Location) (directory path : Path) :
    Except SystemCause FileStore :=
  if path.name = "" ∨ path.name = ".." then .error .busy
  else
    match store.locate directory path with
    | .error cause => .error cause
    | .ok target =>
      if store.isDirectory target then .error .isDirectory
      else
        match store.lookup source, refusals.move source target with
        | none, _ => .error .missing
        | some _, some cause => .error cause
        | some entry, none => .ok ((store.erase source).insert target entry)

/-- Writes a file in one step: its content is gathered in a temporary file beside it, which is then
moved onto it, or removed again if the move is refused. When gathering the content is refused
nothing is removed. -/
def writeWhole (store : FileStore) (refusals : Refusals) (draws : List String)
    (directory path : Path) (text : String) : FileStore × Except Failure Unit :=
  match store.createTemporary refusals draws directory path (Utf8.encode text) with
  | (gathered, .error failure) => (gathered, .error failure)
  | (gathered, .ok temporary) =>
    let temporaryPath := (temporaryPath directory path).toString
    match gathered.move refusals temporary directory path, refusals.remove temporary with
    | .ok moved, _ => (moved, .ok ())
    | .error _, some cause => (gathered, .error (.removeRefused cause temporaryPath))
    | .error cause, none =>
      (gathered.erase temporary, .error (.moveRefused cause temporaryPath path.toString))

/-- The name of an entry in a listing; that of a directory ends in a slash. -/
def listed (base : Location) (entry : Location × Entry) : Option String :=
  if base.isPrefixOf entry.1 ∧ entry.1 ≠ base then
    let name := "/".intercalate (entry.1.drop base.length)
    some (if entry.2 = .directory then name ++ "/" else name)
  else none

/-- The names of all entries below a location, relative to it and sorted. -/
def listing (store : FileStore) (base : Location) : List String :=
  sortedDistinct (store.entries.filterMap (listed base))

private theorem lookup_filter_ne (entries : List (Location × Entry)) {location other : Location}
    (h : other ≠ location) :
    (entries.filter (·.1 != location)).lookup other = entries.lookup other := by
  induction entries with
  | nil => rfl
  | cons e entries ih =>
    obtain ⟨key, entry⟩ := e
    by_cases hkey : key = location
    · subst hkey
      have hbeq : (other == key) = false := by simpa using h
      simp [List.lookup_cons, ih, hbeq]
    · simp [List.lookup_cons, ih, hkey]

/-- Inserting an entry changes what is found at its location and nowhere else. -/
theorem lookup_insert (store : FileStore) {location : Location} (h : location ≠ [])
    (other : Location) (entry : Entry) :
    (store.insert location entry).lookup other =
      if other = location then some entry else store.lookup other := by
  by_cases ho : other = location
  · subst ho
    simp [lookup, insert, h]
  · have hbeq : (other == location) = false := by simpa using ho
    simp [lookup, insert, ho, List.lookup_cons, lookup_filter_ne, hbeq]

end FileStore

end ClientBoundary
