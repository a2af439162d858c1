import ExitLang.Files.Standpoint
import ExitLang.Files.Tree

/-!
# Working on files

A file system is a tree with a working directory. Paths are followed through the tree: every
component but the last has to be a directory on the way, and `..` goes up from wherever the path has
led. Reading, writing and removing either change one location or fail with a named fault and change
nothing. Who removes the working directory goes on from the removed one.

Nothing is refused but for what the tree holds and for the form of a path. Permissions, read-only
or full devices, links and everything else for which a system can refuse are left out.
-/

namespace ExitLang

/-- The reasons for which the file system refuses: all of them lie in the tree or in the path. -/
inductive FileFault where
  | missing
  | notDirectory
  | isDirectory
  | notEmpty
  | invalidArgument
  | busy
  | nameTooLong
  deriving DecidableEq

/-- The wording of a fault. -/
def FileFault.message : FileFault → Bytes
  | missing => utf8 "no such file or directory"
  | notDirectory => utf8 "not a directory"
  | isDirectory => utf8 "is a directory"
  | notEmpty => utf8 "directory not empty"
  | invalidArgument => utf8 "invalid argument"
  | busy => utf8 "device or resource busy"
  | nameTooLong => utf8 "file name too long"

/-- What was being done to a file. -/
inductive FileAction where
  | opening
  | reading
  | removing
  deriving DecidableEq

/-- The word for an action in messages. -/
def FileAction.word : FileAction → Bytes
  | opening => utf8 "open"
  | reading => utf8 "read"
  | removing => utf8 "remove"

/-- A refused action. The path is the one that was asked for. -/
structure FileError where
  action : FileAction
  path : Bytes
  fault : FileFault
  deriving DecidableEq

/-- The wording of a refused action. -/
def FileError.message (error : FileError) : Bytes :=
  error.action.word ++ utf8 " " ++ error.path ++ utf8 ": " ++ error.fault.message

/-- The longest name that a directory can hold, in bytes. -/
def maxNameLength : Nat := 255

/-- The longest path that can be followed, in bytes. -/
def maxPathLength : Nat := 4095

/-- Follows components from a directory, each through a directory that is there. In a removed one
nothing is found. -/
def FileTree.walk (tree : FileTree) : Standpoint → List Bytes → Except FileFault Standpoint
  | standpoint, [] => .ok standpoint
  | .removed above, component :: rest =>
    if component = Path.here then tree.walk (.removed above) rest
    else if component = Path.above then tree.walk above rest
    else .error .missing
  | .present location, component :: rest =>
    match tree.get? location with
    | none => .error .missing
    | some (.file _) => .error .notDirectory
    | some .directory =>
      if component = Path.here then tree.walk (.present location) rest
      else if component = Path.above then tree.walk (.present location.tail) rest
      else if component.length > maxNameLength then .error .nameTooLong
      else if (tree.get? (component :: location)).isNone then .error .missing
      else tree.walk (.present (component :: location)) rest

/-- Where a path leads: to a name in a directory, or by its last component to a directory itself. -/
inductive Place where
  | root
  | here
  | above
  /-- `slash` tells whether the path insists on a directory by a slash at its end. -/
  | named (directory : Standpoint) (name : Bytes) (slash : Bool)
  deriving DecidableEq

/-- The location of a name in a directory. -/
def Standpoint.locate (directory : Standpoint) (name : Bytes) : Except FileFault Location :=
  match directory with
  | .removed _ => .error .missing
  | .present location =>
    if name.length > maxNameLength then .error .nameTooLong else .ok (name :: location)

/-- A file tree with a working directory. -/
structure FileSystem where
  tree : FileTree
  workingDirectory : Standpoint
  deriving DecidableEq

namespace FileSystem

/-- The absolute path of the working directory, unless that was removed. -/
def workingPath (files : FileSystem) : Option Bytes :=
  files.workingDirectory.location?.map Location.path

/-- The fault of something that was taken for a directory, if it is none. -/
def directoryFault? (files : FileSystem) : Standpoint → Option FileFault
  | .removed _ => none
  | .present location =>
    match files.tree.get? location with
    | none => some .missing
    | some (.file _) => some .notDirectory
    | some .directory => none

/-- The place of a last component in the directory that the components before it lead to. -/
def placeIn (files : FileSystem) (directory : Standpoint) (last : Bytes) (slash : Bool) :
    Except FileFault Place :=
  match files.directoryFault? directory with
  | some fault => .error fault
  | none =>
    if last = Path.here then .ok .here
    else if last = Path.above then .ok .above
    else .ok (.named directory last slash)

/-- Follows a path up to its last component. -/
def place (files : FileSystem) (path : Bytes) : Except FileFault Place :=
  if path.contains 0 then .error .invalidArgument
  else if path.length > maxPathLength then .error .nameTooLong
  else
    let start := if Path.isAbsolute path then .present [] else files.workingDirectory
    let names := (Path.components path).filter fun name => !name.isEmpty
    match names.getLast? with
    | none => if path = [] then .error .missing else .ok .root
    | some last =>
      match files.tree.walk start names.dropLast with
      | .error fault => .error fault
      | .ok directory => files.placeIn directory last (path.getLast? == some 0x2F)

/-- The content of the file at a path. -/
def read (files : FileSystem) (path : Bytes) : Except FileError Bytes :=
  match files.place path with
  | .error fault => .error ⟨.opening, path, fault⟩
  | .ok (.named directory name slash) =>
    match directory.locate name with
    | .error fault => .error ⟨.opening, path, fault⟩
    | .ok location =>
      match files.tree.get? location with
      | none => .error ⟨.opening, path, .missing⟩
      | some (.file content) =>
        if slash then .error ⟨.opening, path, .notDirectory⟩ else .ok content
      | some .directory => .error ⟨.reading, path, .isDirectory⟩
  | .ok _ => .error ⟨.reading, path, .isDirectory⟩

/-- Writes a file at a path. A file that is there loses its old content. -/
def write (files : FileSystem) (path content : Bytes) : Except FileError FileSystem :=
  match files.place path with
  | .error fault => .error ⟨.opening, path, fault⟩
  | .ok (.named directory name false) =>
    match directory.locate name with
    | .error fault => .error ⟨.opening, path, fault⟩
    | .ok location =>
      if files.tree.get? location = some .directory then .error ⟨.opening, path, .isDirectory⟩
      else .ok { files with tree := files.tree.put location (.file content) }
  | .ok _ => .error ⟨.opening, path, .isDirectory⟩

/-- Removes what is at a path: a file, or a directory that is empty. -/
def remove (files : FileSystem) (path : Bytes) : Except FileError FileSystem :=
  let refuse (fault : FileFault) : Except FileError FileSystem := .error ⟨.removing, path, fault⟩
  match files.place path with
  | .error fault => refuse fault
  | .ok .root => refuse .busy
  | .ok .here => refuse .invalidArgument
  | .ok .above => refuse .notEmpty
  | .ok (.named directory name slash) =>
    match directory.locate name with
    | .error fault => refuse fault
    | .ok location =>
      match files.tree.get? location with
      | none => refuse .missing
      | some (.file _) =>
        if slash then refuse .notDirectory else .ok { files with tree := files.tree.erase location }
      | some .directory =>
        if files.tree.hasChildren location then refuse .notEmpty
        else .ok ⟨files.tree.erase location, files.workingDirectory.without location⟩

end FileSystem

end ExitLang
