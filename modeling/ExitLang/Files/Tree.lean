import ExitLang.Path.Location

/-!
# File trees

A file tree holds files and directories at locations; there are no links. The root is always a
directory. Everything that happens to a tree is a change of the entry at one location.
-/

namespace ExitLang

/-- What stands at a location. -/
inductive Entry where
  | file (content : Bytes)
  | directory
  deriving DecidableEq

/-- A tree of files and directories, each listed with its location. -/
structure FileTree where
  entries : List (Location × Entry)
  deriving DecidableEq

namespace FileTree

/-- The tree that has nothing but its root. -/
def empty : FileTree := ⟨[]⟩

/-- What stands at a location, if anything. -/
def get? (tree : FileTree) (location : Location) : Option Entry :=
  if location = [] then some .directory else tree.entries.lookup location

/-- The tree with an entry at a location, in place of what stood there. -/
def put (tree : FileTree) (location : Location) (entry : Entry) : FileTree :=
  ⟨(location, entry) :: tree.entries.filter fun item => item.1 ≠ location⟩

/-- The tree with nothing at a location. -/
def erase (tree : FileTree) (location : Location) : FileTree :=
  ⟨tree.entries.filter fun item => item.1 ≠ location⟩

private theorem lookup_filter_fst_ne {α β : Type} [DecidableEq α] [BEq α] [LawfulBEq α]
    (items : List (α × β)) (a b : α) :
    (items.filter fun item => item.1 ≠ a).lookup b = if b = a then none else items.lookup b := by
  induction items with
  | nil => simp
  | cons item rest ih =>
    obtain ⟨key, value⟩ := item
    by_cases hkey : key = a
    · subst hkey
      simp only [ne_eq, not_true_eq_false, decide_false, Bool.false_eq_true, not_false_eq_true,
        List.filter_cons_of_neg]
      rw [ih]
      by_cases hb : b = key
      · simp [hb]
      · have hbeq : (b == key) = false := by simpa using hb
        simp [hb, List.lookup_cons, hbeq]
    · rw [List.filter_cons_of_pos (by simpa using hkey)]
      by_cases hb : b = key
      · subst hb
        simp [hkey]
      · have hbeq : (b == key) = false := by simpa using hb
        simp only [List.lookup_cons, hbeq, ih]

/-- Putting an entry changes its location and no other. -/
theorem get?_put (tree : FileTree) {location : Location} (hne : location ≠ []) (entry : Entry)
    (other : Location) :
    (tree.put location entry).get? other =
      if other = location then some entry else tree.get? other := by
  unfold get? put
  by_cases hother : other = []
  · subst hother
    simp [Ne.symm hne]
  · by_cases heq : other = location
    · subst heq
      simp [hother]
    · have hbeq : (other == location) = false := by simpa using heq
      simp only [hother, heq, if_false, List.lookup_cons, hbeq, lookup_filter_fst_ne]

/-- Erasing an entry changes its location and no other. -/
theorem get?_erase (tree : FileTree) {location : Location} (hne : location ≠ [])
    (other : Location) :
    (tree.erase location).get? other =
      if other = location then none else tree.get? other := by
  unfold get? erase
  by_cases hother : other = []
  · subst hother
    simp [Ne.symm hne]
  · simp only [hother, if_false, lookup_filter_fst_ne]

/-- Whether something stands directly in the directory at a location. -/
def hasChildren (tree : FileTree) (location : Location) : Bool :=
  tree.entries.any fun item =>
    match item.1 with
    | [] => false
    | _ :: outer => outer == location

/-- The tree with a directory at a location and at all locations above it that are still free. -/
def addDirectory (tree : FileTree) : Location → FileTree
  | [] => tree
  | name :: outer =>
    let tree := tree.addDirectory outer
    if (tree.get? (name :: outer)).isSome then tree else tree.put (name :: outer) .directory

/-- The tree with a file at a location and directories above it. -/
def addFile (tree : FileTree) (location : Location) (content : Bytes) : FileTree :=
  (tree.addDirectory location.tail).put location (.file content)

end FileTree

end ExitLang
