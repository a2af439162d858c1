import ExitLang.Path.Location

/-!
# Standpoints

A relative path is read from a directory. That directory can be removed while it is still the one to
start from: then nothing can be found or made in it any more, but it stays what it is, whatever
comes to stand at its old location, and it still knows the directory above it.
-/

namespace ExitLang

/-- A directory that paths are read from: one in the tree, or one that was removed from it and is
left with the directory above it, which can have been removed as well. -/
inductive Standpoint where
  | present (location : Location)
  | removed (above : Standpoint)
  deriving DecidableEq

namespace Standpoint

/-- The location of a directory that is in the tree. -/
def location? : Standpoint → Option Location
  | present location => some location
  | removed _ => none

/-- The directory above. The root is above itself. -/
def parent : Standpoint → Standpoint
  | present location => .present location.tail
  | removed above => above

/-- The standpoint after the directory at a location has been removed. -/
def without (location : Location) : Standpoint → Standpoint
  | present here => if here = location then .removed (present here).parent else .present here
  | removed above => .removed (above.without location)

/-- The removal of one directory does not move any other. -/
theorem without_present_of_ne {here location : Location} (h : here ≠ location) :
    (present here).without location = present here := if_neg h

/-- A removed directory is left with the directory that was above it. -/
theorem without_present_self (here : Location) :
    (present here).without here = removed (present here).parent := if_pos rfl

end Standpoint

end ExitLang
