import ExitLang.CommandLine.Execute
import ExitLang.CommandLine.Footprint
import ExitLang.Process.Launch

/-!
# The command on real files

What a call can touch is loaded into a file tree, the call is executed on the tree, and what it has
changed there is stored. Of the external tools none is started here: a build reports them as not
found.
-/

namespace ExitLang.Main

/-- A byte string as the text that names a file. -/
def fileName (path : Bytes) : String := (String.fromUTF8? (ByteArray.mk path.toArray)).getD ""

/-- What stands at a path. -/
def probe (path : Bytes) : IO (Option Entry) := do
  try
    let content ← IO.FS.readBinFile (fileName path)
    return some (.file content.data.toList)
  catch e =>
    match e with
    | .noFileOrDirectory .. => return none
    | _ => return some .directory

/-- Loads what stands at a location and above it, as far as there are directories. -/
def load (tree : FileTree) : Location → IO FileTree
  | [] => return tree
  | name :: outer => do
    let tree ← load tree outer
    if tree.get? outer ≠ some .directory then return tree
    match ← probe (Location.path (name :: outer)) with
    | some entry => return tree.put (name :: outer) entry
    | none => return tree

/-- Loads a location, and where a directory stands there the names in it. What has these names does
not matter to a call, only that the directory is not empty. -/
def loadWithNames (tree : FileTree) (location : Location) : IO FileTree := do
  let tree ← load tree location
  if location = [] ∨ tree.get? location ≠ some .directory then return tree
  let children ← (IO.FS.DirEntry.mk (fileName location.path) ".").path.readDir
  return children.foldl
    (fun tree child => tree.put (utf8 child.fileName :: location) .directory) tree

/-- Stores the entry that a location has after a call, where it is another than before. -/
def store (before after : FileTree) (location : Location) : IO Unit := do
  if before.get? location ≠ after.get? location then
    let path := fileName location.path
    match before.get? location, after.get? location with
    | _, some (.file content) => IO.FS.writeBinFile path (ByteArray.mk content.toArray)
    | some .directory, none => IO.FS.removeDir path
    | some (.file _), none => IO.FS.removeFile path
    | _, _ => return

/-- The directory that a call starts from. Where the working directory has been removed nothing is
known of the one above it, and a location with an empty name, where nothing can stand, takes its
place. -/
def standpoint : Option Location → Standpoint
  | some location => .present location
  | none => .removed (.present [[]])

/-- Executes a call. -/
def call (arguments : List Bytes) : IO Result := do
  let workingPath ← try pure (some (utf8 (← IO.currentDir).toString)) catch _ => pure none
  let workingDirectory := workingPath.map (Location.ofPath [])
  let footprint := match Request.ofArguments arguments with
    | .ok request => request.footprint workingPath
    | .error _ => []
  let locations := footprint.map (Location.ofPath (workingDirectory.getD []))
  let tree ← locations.foldlM loadWithNames (← workingDirectory.toList.foldlM load .empty)
  let result := execute arguments .installed ⟨tree, standpoint workingDirectory⟩
  locations.forM (store tree result.files.tree)
  return result

end ExitLang.Main

/-- The command. -/
def main (arguments : List String) : IO UInt32 := do
  let result ← ExitLang.Main.call (arguments.map ExitLang.utf8)
  (← IO.getStdout).write (ByteArray.mk result.output.toArray)
  (← IO.getStderr).write (ByteArray.mk result.errorStream.toArray)
  return UInt32.ofNat result.exitCode
