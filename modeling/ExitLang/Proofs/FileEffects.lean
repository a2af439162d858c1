import ExitLang.Files.System
import ExitLang.Proofs.Locations
import Mathlib.Data.List.Basic

/-!
# What file operations change

Every path has at most one location that an operation can act on, and it is found without looking at
the tree: `Standpoint.reach?` follows the components from a directory that may have been removed.
Writing puts a file at this location, removing erases what is there, and all other locations stay as
they are. Removing the working directory does not make a path reach any other place, it can only
make it reach none.
-/

namespace ExitLang

namespace Standpoint

/-- The directory one component further. In a removed directory nothing can be named. -/
def follow? : Standpoint → Bytes → Option Standpoint
  | present location, component => some (.present (location.follow component))
  | removed above, component =>
    if component = [] ∨ component = Path.here then some (.removed above)
    else if component = Path.above then some above
    else none

/-- The directory that components lead to. -/
def followAll? (start : Standpoint) (components : List Bytes) : Option Standpoint :=
  components.foldlM follow? start

/-- The location that a path reaches from a directory. -/
def reach? (start : Standpoint) (path : Bytes) : Option Location :=
  (followAll? (if Path.isAbsolute path then .present [] else start) (Path.components path)).bind
    location?

theorem follow?_nil (start : Standpoint) : start.follow? [] = some start := by
  cases start with
  | present location => rw [follow?, Location.follow_nil]
  | removed above => rw [follow?, if_pos (Or.inl rfl)]

@[simp]
theorem followAll?_nil (start : Standpoint) : start.followAll? [] = some start := rfl

theorem followAll?_cons (start : Standpoint) (component : Bytes) (rest : List Bytes) :
    start.followAll? (component :: rest) = (start.follow? component).bind (followAll? · rest) :=
  List.foldlM_cons

theorem followAll?_append (start : Standpoint) (left right : List Bytes) :
    start.followAll? (left ++ right) = (start.followAll? left).bind (followAll? · right) :=
  List.foldlM_append

theorem followAll?_filter (start : Standpoint) (components : List Bytes) :
    start.followAll? (components.filter fun name => !name.isEmpty) =
      start.followAll? components := by
  induction components generalizing start with
  | nil => rfl
  | cons component rest ih =>
      by_cases hempty : component = []
      · rw [hempty, List.filter_cons_of_neg (by simp), followAll?_cons, follow?_nil, ih]
        rfl
      · rw [List.filter_cons_of_pos (by simpa using hempty), followAll?_cons, followAll?_cons]
        congr 1
        funext next
        exact ih next

theorem followAll?_present (location : Location) (components : List Bytes) :
    (present location).followAll? components =
      some (.present (components.foldl Location.follow location)) := by
  induction components generalizing location with
  | nil => rfl
  | cons component rest ih =>
      rw [followAll?_cons, follow?, Option.bind_some, ih, List.foldl_cons]

theorem reach?_present (location : Location) (path : Bytes) :
    (present location).reach? path = some (location.ofPath path) := by
  have hstart : (if Path.isAbsolute path then Standpoint.present [] else .present location)
      = .present (if Path.isAbsolute path then [] else location) := by split <;> rfl
  rw [reach?, hstart, followAll?_present]
  rfl

theorem reach?_of_isAbsolute (start : Standpoint) {path : Bytes}
    (h : Path.isAbsolute path = true) (workingDirectory : Location) :
    start.reach? path = some (workingDirectory.ofPath path) := by
  rw [reach?, if_pos h, followAll?_present, Location.ofPath, if_pos h]
  rfl

end Standpoint

/-! ### Following paths through a tree -/

namespace FileTree

/-- One component leads from a directory to the next. -/
inductive Step (tree : FileTree) : Standpoint → Bytes → Standpoint → Prop
  | stay (above : Standpoint) : Step tree (.removed above) Path.here (.removed above)
  | leave (above : Standpoint) : Step tree (.removed above) Path.above above
  | here {location : Location} (directory : tree.get? location = some .directory) :
      Step tree (.present location) Path.here (.present location)
  | above {location : Location} (directory : tree.get? location = some .directory) :
      Step tree (.present location) Path.above (.present location.tail)
  | child {location : Location} {name : Bytes}
      (directory : tree.get? location = some .directory) (ne_here : name ≠ Path.here)
      (ne_above : name ≠ Path.above) (short : name.length ≤ maxNameLength)
      (found : tree.get? (name :: location) ≠ none) :
      Step tree (.present location) name (.present (name :: location))

variable {tree : FileTree} {start directory : Standpoint}

theorem walk_cons_eq_ok_iff {component : Bytes} {rest : List Bytes} :
    tree.walk start (component :: rest) = .ok directory ↔
      ∃ next, tree.Step start component next ∧ tree.walk next rest = .ok directory := by
  constructor
  · intro hwalk
    cases start with
    | removed above =>
        rw [walk] at hwalk
        split at hwalk
        · rename_i hhere
          subst hhere
          exact ⟨_, .stay above, hwalk⟩
        split at hwalk
        · rename_i hup
          subst hup
          exact ⟨_, .leave above, hwalk⟩
        · cases hwalk
    | present location =>
        rw [walk] at hwalk
        split at hwalk
        · cases hwalk
        · cases hwalk
        rename_i hdirectory
        split at hwalk
        · rename_i hhere
          subst hhere
          exact ⟨_, .here hdirectory, hwalk⟩
        rename_i hhere
        split at hwalk
        · rename_i hup
          subst hup
          exact ⟨_, .above hdirectory, hwalk⟩
        rename_i hup
        split at hwalk
        · cases hwalk
        rename_i hlong
        split at hwalk
        · cases hwalk
        rename_i hfound
        exact ⟨_, .child hdirectory hhere hup (by omega) (by simpa using hfound), hwalk⟩
  · rintro ⟨next, hstep, hrest⟩
    have hdots : Path.above ≠ Path.here := by decide
    cases hstep with
    | stay => rwa [walk, if_pos rfl]
    | leave => rwa [walk, if_neg hdots, if_pos rfl]
    | here hdirectory =>
        rw [walk, hdirectory]
        exact (if_pos rfl).trans hrest
    | above hdirectory =>
        rw [walk, hdirectory]
        dsimp only
        rwa [if_neg hdots, if_pos rfl]
    | child hdirectory hhere hup hshort hfound =>
        rw [walk, hdirectory]
        dsimp only
        rw [if_neg hhere, if_neg hup, if_neg (by omega), if_neg (by simpa using hfound)]
        exact hrest

/-- A step through the tree, if it succeeds, is the step of the component. -/
theorem Step.follow? {component : Bytes} {next : Standpoint} (hne : component ≠ [])
    (h : tree.Step start component next) : start.follow? component = some next := by
  have hdots : ¬ (Path.above = [] ∨ Path.above = Path.here) := by decide
  cases h with
  | stay => rw [Standpoint.follow?, if_pos (Or.inr rfl)]
  | leave => rw [Standpoint.follow?, if_neg hdots, if_pos rfl]
  | here => rw [Standpoint.follow?, Location.follow, if_pos (Or.inr rfl)]
  | above => rw [Standpoint.follow?, Location.follow, if_neg hdots, if_pos rfl]
  | child _ hhere hup =>
      rw [Standpoint.follow?, Location.follow, if_neg (not_or_intro hne hhere), if_neg hup]

theorem followAll?_of_walk {names : List Bytes} (hnames : ∀ name ∈ names, name ≠ [])
    (hwalk : tree.walk start names = .ok directory) :
    start.followAll? names = some directory := by
  induction names generalizing start with
  | nil =>
      rw [walk] at hwalk
      cases hwalk
      rfl
  | cons component rest ih =>
      rw [List.forall_mem_cons] at hnames
      obtain ⟨next, hstep, hrest⟩ := walk_cons_eq_ok_iff.mp hwalk
      rw [Standpoint.followAll?_cons, hstep.follow? hnames.1, Option.bind_some, ih hnames.2 hrest]

end FileTree

/-- The names of a path that can be followed to a file, and the last of them. -/
structure Path.Names (path : Bytes) (before : List Bytes) (last : Bytes) : Prop where
  clean : 0 ∉ path
  short : path.length ≤ maxPathLength
  names : (Path.components path).filter (fun name => !name.isEmpty) = before ++ [last]
  ne_here : last ≠ Path.here
  ne_above : last ≠ Path.above
  last_short : last.length ≤ maxNameLength
  no_slash : (path.getLast? == some 0x2F) = false

namespace FileSystem

variable {files after : FileSystem} {path content : Bytes} {directory : Standpoint} {name : Bytes}
  {slash : Bool} {location : Location}

/-- The directory that a path starts from. -/
def startOf (files : FileSystem) (path : Bytes) : Standpoint :=
  if Path.isAbsolute path then .present [] else files.workingDirectory

/-- What a path that ends in a name was followed through: its other names, from its start to a
directory. -/
theorem exists_of_place (hplace : files.place path = .ok (.named directory name slash)) :
    0 ∉ path ∧ path.length ≤ maxPathLength ∧ (path.getLast? == some 0x2F) = slash ∧
      name ≠ Path.here ∧ name ≠ Path.above ∧ files.directoryFault? directory = none ∧
      ∃ before, (Path.components path).filter (fun part => !part.isEmpty) = before ++ [name] ∧
        files.tree.walk (files.startOf path) before = .ok directory := by
  rw [place] at hplace
  split at hplace
  · cases hplace
  rename_i hclean
  split at hplace
  · cases hplace
  rename_i hshort
  dsimp only at hplace
  split at hplace
  · split at hplace <;> cases hplace
  rename_i last hlast
  split at hplace
  · cases hplace
  rename_i found hwalk
  rw [placeIn] at hplace
  split at hplace
  · cases hplace
  rename_i hfault
  split at hplace
  · cases hplace
  rename_i hhere
  split at hplace
  · cases hplace
  rename_i hup
  cases hplace
  obtain ⟨before, hbefore⟩ := List.getLast?_eq_some_iff.mp hlast
  rw [hbefore, List.dropLast_concat] at hwalk
  exact ⟨by simpa using hclean, by omega, rfl, hhere, hup, hfault, before, hbefore, hwalk⟩

/-- A path that ends in a name reaches this name in the directory that it goes through last. -/
theorem reach?_of_place (hplace : files.place path = .ok (.named directory name slash)) :
    Location.IsName name ∧ files.workingDirectory.reach? path =
      (directory.follow? name).bind Standpoint.location? := by
  obtain ⟨-, -, -, hhere, hup, -, before, hbefore, hwalk⟩ := exists_of_place hplace
  have hnames : ∀ part ∈ before ++ [name], part ≠ [] ∧ (0x2F : UInt8) ∉ part := by
    rw [← hbefore]
    intro part hmem
    rw [List.mem_filter] at hmem
    exact ⟨by simpa using hmem.2, Path.notMem_of_mem_components hmem.1⟩
  have hdirectory := FileTree.followAll?_of_walk
    (fun part hmem => (hnames part (List.mem_append_left _ hmem)).1) hwalk
  have hname := hnames name (List.mem_append_right _ List.mem_cons_self)
  refine ⟨⟨hname.1, hhere, hup, hname.2⟩, ?_⟩
  rw [startOf] at hdirectory
  rw [Standpoint.reach?, ← Standpoint.followAll?_filter, hbefore, Standpoint.followAll?_append,
    hdirectory, Option.bind_some, Standpoint.followAll?_cons]
  cases directory.follow? name <;> rfl

/-- The name that an operation acts on has the location that the path reaches. -/
theorem reach?_of_locate (hplace : files.place path = .ok (.named directory name slash))
    (hlocate : directory.locate name = .ok location) :
    files.workingDirectory.reach? path = some location ∧ location ≠ [] := by
  obtain ⟨hname, hreach⟩ := reach?_of_place hplace
  cases directory with
  | removed above => cases hlocate
  | present outer =>
      rw [Standpoint.locate] at hlocate
      split at hlocate
      · cases hlocate
      cases hlocate
      rw [hreach, Standpoint.follow?, Location.follow_of_isName hname]
      exact ⟨rfl, List.cons_ne_nil _ _⟩

/-- The path leads to a name that a file can have, at the location and in a directory. -/
def LeadsTo (files : FileSystem) (path : Bytes) (location : Location) : Prop :=
  ∃ before last outer, Path.Names path before last ∧
    files.tree.walk (files.startOf path) before = .ok (.present outer) ∧
    files.tree.get? outer = some .directory ∧ location = last :: outer

theorem directoryFault?_present_eq_none_iff :
    files.directoryFault? (.present location) = none ↔
      files.tree.get? location = some .directory := by
  rw [directoryFault?]
  split <;> simp [*]

theorem leadsTo_iff :
    files.LeadsTo path location ↔
      ∃ directory name, files.place path = .ok (.named directory name false) ∧
        directory.locate name = .ok location := by
  constructor
  · rintro ⟨before, last, outer, hnames, hwalk, hdirectory, rfl⟩
    refine ⟨.present outer, last, ?_, ?_⟩
    · have hlast : (before ++ [last]).getLast? = some last := List.getLast?_concat
      rw [startOf] at hwalk
      rw [place, if_neg (by simpa using hnames.clean), if_neg (by simpa using hnames.short)]
      simp only [hnames.names, hlast, List.dropLast_concat, hwalk, hnames.no_slash, placeIn,
        directoryFault?, hdirectory, if_neg hnames.ne_here, if_neg hnames.ne_above]
    · rw [Standpoint.locate, if_neg (by simpa using hnames.last_short)]
  · rintro ⟨directory, name, hplace, hlocate⟩
    obtain ⟨hclean, hshort, hslash, hhere, hup, hfault, before, hbefore, hwalk⟩ :=
      exists_of_place hplace
    cases directory with
    | removed above => cases hlocate
    | present outer =>
        rw [Standpoint.locate] at hlocate
        split at hlocate
        · cases hlocate
        rename_i hlong
        cases hlocate
        have hnames : Path.Names path before name :=
          ⟨hclean, hshort, hbefore, hhere, hup, by omega, hslash⟩
        exact ⟨before, name, outer, hnames, hwalk, directoryFault?_present_eq_none_iff.mp hfault,
          rfl⟩

theorem LeadsTo.reach? (h : files.LeadsTo path location) :
    files.workingDirectory.reach? path = some location ∧ location ≠ [] := by
  obtain ⟨directory, name, hplace, hlocate⟩ := leadsTo_iff.mp h
  exact reach?_of_locate hplace hlocate

/-! ### Single operations -/

/-- Reading gives the content of the file that the path leads to. -/
theorem read_eq_ok_iff :
    files.read path = .ok content ↔
      ∃ location, files.LeadsTo path location ∧
        files.tree.get? location = some (.file content) := by
  simp only [leadsTo_iff]
  constructor
  · intro hread
    rw [read] at hread
    split at hread
    · cases hread
    · rename_i directory name slash hplace
      split at hread
      · cases hread
      rename_i location hlocate
      split at hread
      · cases hread
      · rename_i found hentry
        split at hread
        · cases hread
        rename_i hslash
        cases hread
        rw [Bool.not_eq_true] at hslash
        subst hslash
        exact ⟨location, ⟨directory, name, hplace, hlocate⟩, hentry⟩
      · cases hread
    · cases hread
  · rintro ⟨location, ⟨directory, name, hplace, hlocate⟩, hentry⟩
    simp only [read, hplace, hlocate, hentry, Bool.false_eq_true, if_false]

theorem write_eq_ok_iff :
    files.write path content = .ok after ↔
      ∃ location, files.LeadsTo path location ∧ files.tree.get? location ≠ some .directory ∧
        after = { files with tree := files.tree.put location (.file content) } := by
  simp only [leadsTo_iff]
  constructor
  · intro hwrite
    rw [write] at hwrite
    split at hwrite
    · cases hwrite
    · rename_i directory name hplace
      split at hwrite
      · cases hwrite
      rename_i location hlocate
      split at hwrite
      · cases hwrite
      rename_i hentry
      cases hwrite
      exact ⟨location, ⟨directory, name, hplace, hlocate⟩, hentry, rfl⟩
    · cases hwrite
  · rintro ⟨location, ⟨directory, name, hplace, hlocate⟩, hentry, rfl⟩
    simp only [write, hplace, hlocate, if_neg hentry]

/-- Writing puts a file where the path leads, unless a directory is there. -/
theorem exists_of_write (hwrite : files.write path content = .ok after) :
    ∃ location, files.workingDirectory.reach? path = some location ∧ location ≠ [] ∧
      files.tree.get? location ≠ some .directory ∧
      after = { files with tree := files.tree.put location (.file content) } := by
  obtain ⟨location, hleads, hentry, hafter⟩ := write_eq_ok_iff.mp hwrite
  exact ⟨location, hleads.reach?.1, hleads.reach?.2, hentry, hafter⟩

/-- Removing takes away a file, or a directory that nothing is in. -/
theorem remove_eq_ok_iff :
    files.remove path = .ok after ↔
      ∃ directory name slash location, files.place path = .ok (.named directory name slash) ∧
        directory.locate name = .ok location ∧
        ((∃ content, files.tree.get? location = some (.file content)) ∧ slash = false ∧
            after = { files with tree := files.tree.erase location } ∨
          files.tree.get? location = some .directory ∧ files.tree.hasChildren location = false ∧
            after = ⟨files.tree.erase location, files.workingDirectory.without location⟩) := by
  constructor
  · intro hremove
    rw [remove] at hremove
    dsimp only at hremove
    split at hremove
    · cases hremove
    · cases hremove
    · cases hremove
    · cases hremove
    rename_i directory name slash hplace
    split at hremove
    · cases hremove
    rename_i location hlocate
    refine ⟨directory, name, slash, location, hplace, hlocate, ?_⟩
    split at hremove
    · cases hremove
    · rename_i content hentry
      split at hremove
      · cases hremove
      rename_i hslash
      cases hremove
      exact Or.inl ⟨⟨content, hentry⟩, Bool.eq_false_iff.mpr hslash, rfl⟩
    · rename_i hentry
      split at hremove
      · cases hremove
      rename_i hchildren
      cases hremove
      exact Or.inr ⟨hentry, Bool.eq_false_iff.mpr hchildren, rfl⟩
  · rintro ⟨directory, name, slash, location, hplace, hlocate,
      ⟨⟨content, hentry⟩, rfl, rfl⟩ | ⟨hentry, hchildren, rfl⟩⟩
    · simp only [remove, hplace, hlocate, hentry, Bool.false_eq_true, if_false]
    · simp only [remove, hplace, hlocate, hentry, hchildren, Bool.false_eq_true, if_false]

/-- Removing clears the location that the path reaches. -/
theorem exists_of_remove (hremove : files.remove path = .ok after) :
    ∃ location, files.workingDirectory.reach? path = some location ∧ location ≠ [] ∧
      ((∃ content, files.tree.get? location = some (.file content)) ∧
          after = { files with tree := files.tree.erase location } ∨
        files.tree.get? location = some .directory ∧ files.tree.hasChildren location = false ∧
          after = ⟨files.tree.erase location, files.workingDirectory.without location⟩) := by
  obtain ⟨directory, name, slash, location, hplace, hlocate, hcase⟩ := remove_eq_ok_iff.mp hremove
  obtain ⟨hreach, hne⟩ := reach?_of_locate hplace hlocate
  exact ⟨location, hreach, hne, hcase.imp_left fun ⟨hentry, _, hafter⟩ => ⟨hentry, hafter⟩⟩

end FileSystem

/-! ### Removed directories -/

/-- What is left of a directory once it, or some of the directories above it, have been removed. -/
inductive Standpoint.Remnant : Standpoint → Standpoint → Prop
  | whole (standpoint : Standpoint) : Remnant standpoint standpoint
  | gone {above : Standpoint} {location : Location}
      (higher : Remnant above (.present location.tail)) :
      Remnant (.removed above) (.present location)
  | deeper {later earlier : Standpoint} (higher : Remnant later earlier) :
      Remnant (.removed later) (.removed earlier)

namespace Standpoint

theorem Remnant.without (location : Location) (standpoint : Standpoint) :
    Remnant (standpoint.without location) standpoint := by
  induction standpoint with
  | present here =>
      rw [Standpoint.without]
      split
      · exact .gone (.whole _)
      · exact .whole _
  | removed above ih => exact .deeper ih

theorem Remnant.follow? {later earlier next : Standpoint} (h : Remnant later earlier)
    {component : Bytes} (hstep : later.follow? component = some next) :
    ∃ target, earlier.follow? component = some target ∧ Remnant next target := by
  cases h with
  | whole => exact ⟨next, hstep, .whole next⟩
  | @gone above location higher =>
      -- Only `.` and `..` lead on from a removed directory, and they lead where they did before.
      refine ⟨_, rfl, ?_⟩
      rw [Standpoint.follow?] at hstep
      rw [Location.follow]
      split at hstep
      · rename_i hstay
        cases hstep
        rw [if_pos hstay]
        exact .gone higher
      rename_i hmove
      rw [if_neg hmove]
      split at hstep
      · rename_i hup
        cases hstep
        rwa [if_pos hup]
      · cases hstep
  | deeper higher =>
      rw [Standpoint.follow?] at hstep ⊢
      split at hstep
      · rename_i hstay
        cases hstep
        exact ⟨_, if_pos hstay, .deeper higher⟩
      rename_i hmove
      rw [if_neg hmove]
      split at hstep
      · rename_i hup
        cases hstep
        exact ⟨_, if_pos hup, higher⟩
      · cases hstep

theorem Remnant.followAll? {later earlier next : Standpoint} (h : Remnant later earlier)
    {components : List Bytes} (hsteps : later.followAll? components = some next) :
    ∃ target, earlier.followAll? components = some target ∧ Remnant next target := by
  induction components generalizing later earlier with
  | nil =>
      cases hsteps
      exact ⟨earlier, rfl, h⟩
  | cons component rest ih =>
      rw [followAll?_cons, Option.bind_eq_some_iff] at hsteps
      obtain ⟨middle, hstep, hrest⟩ := hsteps
      obtain ⟨image, himage, hremnant⟩ := h.follow? hstep
      rw [followAll?_cons, himage]
      exact ih hremnant hrest

/-- What is reached from the remnant of a directory was reached from the directory. -/
theorem Remnant.reach? {later earlier : Standpoint} (h : Remnant later earlier) {path : Bytes}
    {location : Location} (hreach : later.reach? path = some location) :
    earlier.reach? path = some location := by
  by_cases habsolute : Path.isAbsolute path = true
  · rw [← hreach, reach?_of_isAbsolute _ habsolute [], reach?_of_isAbsolute _ habsolute []]
  rw [Standpoint.reach?, if_neg habsolute, Option.bind_eq_some_iff] at hreach ⊢
  obtain ⟨next, hsteps, hlocation⟩ := hreach
  obtain ⟨target, htarget, hremnant⟩ := h.followAll? hsteps
  refine ⟨target, htarget, ?_⟩
  cases hremnant with
  | whole => exact hlocation
  | gone => cases hlocation
  | deeper => cases hlocation

end Standpoint

/-! ### Changes at given paths only -/

/-- The second state differs from the first at most where the paths lead. -/
structure FileSystem.ChangesOnly (paths : List Bytes) (before after : FileSystem) : Prop where
  outside : ∀ location, (∀ path ∈ paths, before.workingDirectory.reach? path ≠ some location) →
    after.tree.get? location = before.tree.get? location
  reach : ∀ path location, after.workingDirectory.reach? path = some location →
    before.workingDirectory.reach? path = some location

namespace FileSystem

variable {paths : List Bytes} {first second third : FileSystem}

theorem ChangesOnly.refl (paths : List Bytes) (files : FileSystem) :
    ChangesOnly paths files files :=
  ⟨fun _ _ => rfl, fun _ _ hreach => hreach⟩

theorem ChangesOnly.trans (hleft : ChangesOnly paths first second)
    (hright : ChangesOnly paths second third) : ChangesOnly paths first third where
  outside location hlocation := by
    rw [hright.outside location fun path hmem hreach =>
      hlocation path hmem (hleft.reach path location hreach)]
    exact hleft.outside location hlocation
  reach path location hreach := hleft.reach path location (hright.reach path location hreach)

theorem ChangesOnly.mono {more : List Bytes} (h : ChangesOnly paths first second)
    (hsubset : ∀ path ∈ paths, path ∈ more) : ChangesOnly more first second :=
  ⟨fun location hlocation =>
    h.outside location fun path hmem => hlocation path (hsubset path hmem), h.reach⟩

theorem changesOnly_write {files after : FileSystem} {path content : Bytes}
    (hwrite : files.write path content = .ok after) : ChangesOnly [path] files after := by
  obtain ⟨location, hreach, hne, -, rfl⟩ := exists_of_write hwrite
  refine ⟨?_, fun _ _ h => h⟩
  intro other hother
  have hdifferent : other ≠ location := by
    rintro rfl
    exact hother path List.mem_cons_self hreach
  rw [FileTree.get?_put _ hne, if_neg hdifferent]

/-- Removing clears the location that the path reaches, and can take the working directory away. -/
theorem exists_erase_of_remove {files after : FileSystem} {path : Bytes}
    (hremove : files.remove path = .ok after) :
    ∃ location, files.workingDirectory.reach? path = some location ∧ location ≠ [] ∧
      after.tree = files.tree.erase location ∧
      after.workingDirectory.Remnant files.workingDirectory := by
  obtain ⟨location, hreach, hne, ⟨-, rfl⟩ | ⟨-, -, rfl⟩⟩ := exists_of_remove hremove
  · exact ⟨location, hreach, hne, rfl, .whole _⟩
  · exact ⟨location, hreach, hne, rfl, .without location _⟩

theorem changesOnly_remove {files after : FileSystem} {path : Bytes}
    (hremove : files.remove path = .ok after) : ChangesOnly [path] files after := by
  obtain ⟨location, hreach, hne, htree, hremnant⟩ := exists_erase_of_remove hremove
  refine ⟨?_, fun _ _ h => hremnant.reach? h⟩
  intro other hother
  have hdifferent : other ≠ location := by
    rintro rfl
    exact hother path List.mem_cons_self hreach
  rw [htree, FileTree.get?_erase _ hne, if_neg hdifferent]

end FileSystem

end ExitLang
