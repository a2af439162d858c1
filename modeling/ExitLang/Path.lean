import ExitLang.Bytes

/-!
# Paths

A path is a byte string cut into components by slashes. Cleaning a path is lexical: empty components
and `.` go, and `..` takes the component before it away, whether or not the file system would agree.
A path that starts with a slash is absolute; any other is read from a working directory.
-/

namespace ExitLang.Path

/-- The component that stays where it is. -/
def here : Bytes := utf8 "."

/-- The component that goes up. -/
def above : Bytes := utf8 ".."

/-- The components of a path, with the empty ones before, between and after slashes. -/
def components (path : Bytes) : List Bytes := Bytes.splitOn 0x2F path

/-- Components with slashes between them. -/
def joinComponents (names : List Bytes) : Bytes := Bytes.joinWith (utf8 "/") names

/-- Whether a path starts at the root. -/
def isAbsolute (path : Bytes) : Bool := path.head? == some 0x2F

/-- Takes a component into the names gathered so far, the last of them first. Going up from the root
stays there; going up from the start of a relative path is kept. -/
def pushComponent (rooted : Bool) (names : List Bytes) (component : Bytes) : List Bytes :=
  if component = [] ∨ component = here then names
  else if component = above then
    match names with
    | [] => if rooted then [] else [above]
    | name :: outer => if name = above then above :: name :: outer else outer
  else component :: names

/-- The shortest path of the same lexical meaning; the empty path is the working directory. -/
def clean (path : Bytes) : Bytes :=
  let rooted := isAbsolute path
  let names := ((components path).foldl (pushComponent rooted) []).reverse
  if rooted then utf8 "/" ++ joinComponents names
  else if names = [] then here
  else joinComponents names

/-- The clean path of a name in a directory. Where both are empty there is no path. -/
def join (directory name : Bytes) : Bytes :=
  if directory ≠ [] then clean (directory ++ utf8 "/" ++ name)
  else if name ≠ [] then clean name
  else []

/-- The last component that is not empty: `/` for a path of slashes and `.` for the empty path. -/
def base (path : Bytes) : Bytes :=
  if path = [] then here
  else ((components path).filter fun name => !name.isEmpty).getLast?.getD (utf8 "/")

/-- The extension of a name: its last dot and what follows it. -/
def extension (name : Bytes) : Bytes :=
  match Bytes.splitOn 0x2E name with
  | [] | [_] => []
  | stretches => utf8 "." ++ stretches.getLast?.getD []

/-- A name without its extension. -/
def stem (name : Bytes) : Bytes := name.take (name.length - (extension name).length)

/-- The clean path of the directory that a path lies in: all up to its last slash. -/
def parent (path : Bytes) : Bytes :=
  match (components path).dropLast with
  | [] => clean []
  | outer => clean (joinComponents outer ++ utf8 "/")

/-- The clean absolute form of a path. A relative path has none where the working directory is
gone. -/
def absolute (workingDirectory : Option Bytes) (path : Bytes) : Option Bytes :=
  if isAbsolute path then some (clean path) else workingDirectory.map (join · path)

end ExitLang.Path
