import ExitLang.Path

/-!
# Locations

A location is a place in the file tree, given by the names on the way from the root. It is where a
path leads when its components are followed one by one without looking at the tree.
-/

namespace ExitLang

/-- The names from an entry up to the root, its own name first. The root has none. -/
abbrev Location := List Bytes

namespace Location

/-- The location one component further. -/
def follow (location : Location) (component : Bytes) : Location :=
  if component = [] ∨ component = Path.here then location
  else if component = Path.above then location.tail
  else component :: location

/-- The location of a path that is read from a working directory. -/
def ofPath (workingDirectory : Location) (path : Bytes) : Location :=
  (Path.components path).foldl follow (if Path.isAbsolute path then [] else workingDirectory)

/-- The absolute path of a location. -/
def path (location : Location) : Bytes := utf8 "/" ++ Path.joinComponents location.reverse

end Location

end ExitLang
