import ClientBoundary.Command
import ClientBoundary.ParseTree.Listing

/-!
# The program

Runs a command line on the files of the machine. The files that the words of the command line name,
and the places where their halves would be written, are read into a workspace; the command runs
there; what it changed is written back. Parsing is left to a parser that stores the listing of a
source's tree beside it, under the name of the source followed by the name of the grammar and
`tree`.

## Main declarations

* `Program.loadEntry`, `Program.loadTrees`: what is read before a command runs.
* `Program.saveChanges`: what is written after it.
* `Program.run`, `main`: a command line and its exit status.
-/

namespace ClientBoundary.Program

/-- The content of a file as a list of bytes. -/
def readBytes (path : String) : IO Bytes := do
  return (← IO.FS.readBinFile path).toList

/-- Reads what stands at a path into a file store. -/
def loadEntry (store : FileStore) (path : Path) : IO FileStore := do
  let place := (← IO.currentDir) / path.toString
  if ← place.isDir then return store.makeDirectories path.parts
  else if ← place.pathExists then return store.put path.parts (← readBytes path.toString)
  else return store.makeDirectories path.parent.parts

/-- A path and the places of its two halves. -/
def placesOf (path : Path) : List Path :=
  path :: ["server", "client"].filterMap fun tag ↦ (siblingPath path tag).toOption

/-- The tree that was stored for a source under a grammar. -/
def loadTree (path : Path) (grammar : Grammar) : IO (Option ParseTree) := do
  let listing := s!"{path}.{grammar.name}.tree"
  if ← ((← IO.currentDir) / listing).pathExists then
    return ParseTree.ofListing? (← IO.FS.readFile listing)
  else return none

/-- The trees that were stored for the sources of a file store. -/
def loadTrees (store : FileStore) (paths : List Path) : IO (List (Grammar × Bytes × ParseTree)) :=
  paths.foldlM (fun trees path ↦ do
    match store.lookup path.parts with
    | some (.file bytes) =>
      let found ← [Grammar.javascript, .tsx].filterMapM fun grammar ↦ do
        return (← loadTree path grammar).map (grammar, bytes, ·)
      return trees ++ found
    | _ => return trees) []

/-- The parser that looks trees up. -/
def parserOf (trees : List (Grammar × Bytes × ParseTree)) : Parser := fun grammar bytes ↦
  (trees.find? fun (g, source, _) ↦ g == grammar && source == bytes).map fun (_, _, tree) ↦ tree

/-- Writes the files of a store that differ from those of another. -/
def saveChanges (before after : FileStore) : IO Unit :=
  after.entries.forM fun (location, entry) ↦ do
    match entry with
    | .file bytes =>
      if before.lookup location != some entry then
        IO.FS.writeBinFile (Path.toString ⟨.single, location⟩) ⟨bytes.toArray⟩
    | .directory => return ()

/-- Runs a command line and gives its exit status. -/
def run (words : List String) : IO UInt32 := do
  let directory := Path.ofString (← IO.currentDir).toString
  let paths := words.map fun word ↦ Path.resolve directory (Path.ofString word)
  let files ← (paths.flatMap placesOf).foldlM loadEntry ⟨[]⟩
  let parser := parserOf (← loadTrees files paths)
  let environment : Environment := {
    language := ← IO.getEnv "RSC_GUARDIAN_LANGUAGE"
    logLevel := ← IO.getEnv "RSC_GUARDIAN_LOG_LEVEL" }
  let outcome := runCommandLine parser (toString (← IO.monoMsNow))
    { files := files, directory := directory, environment := environment } words
  saveChanges files outcome.workspace.files
  IO.print outcome.out
  IO.eprint outcome.err
  match outcome.ending with
  | .exit status => return status.toUInt32
  | .usage =>
    IO.eprintln "Usage: rsc-guardian [-v] analyze|split|lint [OPTIONS] FILE..."
    return 2
  | .crash (.failure failure) =>
    IO.eprintln failure.message
    return 1
  | .crash (.markup fault) =>
    IO.eprintln fault.message
    return 1

end ClientBoundary.Program

/-- Runs the command line. -/
def main (words : List String) : IO UInt32 :=
  ClientBoundary.Program.run words
