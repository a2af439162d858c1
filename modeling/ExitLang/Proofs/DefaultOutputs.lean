import ExitLang.Proofs.Outputs

/-!
# Where the output files stand by default

Without a name that was asked for, the output files are to stand beside the source. They do whenever
the executable gets a name of its own. But the source's name without its extension can be empty, `.`
or `..`, as for `.exit` or `..exit`. Joined to the directory, such a remainder is cleaned away: the
executable's path becomes that of the source's directory or of the one above, and the assembly and
the object file stand beside that directory. Only in the root directory this can end well, where one
of these files may fall on the source and the executable's name grows by `.out`.
-/

namespace ExitLang

/-- The first path is that of a directory on the way to the second, by their locations. -/
def Path.OnTheWay (directory file : Bytes) : Prop :=
  ∃ names, names ≠ [] ∧ Location.ofPath [] file = names ++ Location.ofPath [] directory

/-- The files of a build stand in the directory of the source, and the executable is none of the
directories that lead to it. -/
structure OutputPaths.BesideSource (paths : OutputPaths) (source : Bytes) : Prop where
  parent : ∀ output ∈ [paths.assembly, paths.object, paths.executable],
    Path.parent output = Path.parent source
  notOnTheWay : ¬ Path.OnTheWay paths.executable source

namespace Location

variable {location : Location} {suffix : Bytes}

/-- A suffix of a path goes to its last name; after the root it is the name. -/
theorem path_append (location : Location) (suffix : Bytes) :
    location.path ++ suffix = path ((location.headD [] ++ suffix) :: location.tail) := by
  cases location with
  | nil => simp [path, Path.joinComponents, Bytes.joinWith]
  | cons name outer =>
      rw [path, path, List.append_assoc, List.reverse_cons, ← Path.joinComponents_concat_append,
        List.headD_cons, List.tail_cons, List.reverse_cons]

theorem proper_append (h : Proper location) (hsuffix : IsSuffix suffix) :
    Proper ((location.headD [] ++ suffix) :: location.tail) := by
  refine proper_cons.mpr ⟨hsuffix.isName_append ?_, h.tail⟩
  cases location with
  | nil => exact List.not_mem_nil
  | cons name outer => exact (proper_cons.mp h).1.noSlash

theorem ofPath_path_append (h : Proper location) (hsuffix : IsSuffix suffix)
    (workingDirectory : Location) :
    ofPath workingDirectory (location.path ++ suffix) =
      (location.headD [] ++ suffix) :: location.tail := by
  rw [path_append, ofPath_path (proper_append h hsuffix)]

theorem parent_path_append (h : Proper location) (hsuffix : IsSuffix suffix) :
    Path.parent (location.path ++ suffix) = path location.tail := by
  rw [path_append, parent_path (proper_append h hsuffix), List.tail_cons]

theorem onTheWay_path_iff {directory file : Location} (hdirectory : Proper directory)
    (hfile : Proper file) :
    Path.OnTheWay directory.path file.path ↔ ∃ names, names ≠ [] ∧ file = names ++ directory := by
  rw [Path.OnTheWay, ofPath_path hdirectory, ofPath_path hfile]

theorem Proper.of_suffix {directory : Location} (h : Proper location)
    (hdirectory : directory <:+ location) : Proper directory :=
  fun part hmem => h part (hdirectory.subset hmem)

theorem onTheWay_of_suffix {name : Bytes} {directory : Location} (h : Proper (name :: location))
    (hdirectory : directory <:+ location) :
    Path.OnTheWay directory.path (path (name :: location)) := by
  have hproper := (proper_cons.mp h).2.of_suffix hdirectory
  obtain ⟨front, rfl⟩ := hdirectory
  exact (onTheWay_path_iff hproper h).mpr ⟨name :: front, List.cons_ne_nil name front, rfl⟩

/-- A component that is no name stays in the directory or goes up. -/
theorem follow_suffix {component : Bytes} (hslash : (0x2F : UInt8) ∉ component)
    (hname : ¬ IsName component) (location : Location) :
    location.follow component <:+ location := by
  rcases follow_cases location hslash with ⟨hyes, -⟩ | heq | heq
  · exact absurd hyes hname
  · exact heq.symm ▸ List.suffix_refl location
  · exact heq.symm ▸ List.tail_suffix location

theorem isName_iff_notMem {component : Bytes} (h : (0x2F : UInt8) ∉ component) :
    IsName component ↔ component ∉ [[], Path.here, Path.above] := by
  simp only [List.mem_cons, List.not_mem_nil, or_false, not_or]
  exact ⟨fun hname => ⟨hname.ne_nil, hname.ne_here, hname.ne_above⟩,
    fun hne => ⟨hne.1, hne.2.1, hne.2.2, h⟩⟩

end Location

namespace OutputPaths

open Location

variable {name : Bytes} {outer : Location}

/-- An executable with a name of its own in the source's directory. -/
theorem besideSource_of_isName {own : Bytes} (hown : IsName own) (h : Proper (name :: outer))
    (target : Target) :
    (beside (path (own :: outer)) target.extension).BesideSource (path (name :: outer)) := by
  have hproper : Proper (own :: outer) := proper_cons.mpr ⟨hown, (proper_cons.mp h).2⟩
  constructor
  · simp only [beside, List.forall_mem_cons, parent_path h,
      parent_path_append hproper target.isSuffix_extension,
      parent_path_append hproper isSuffix_object, parent_path hproper, List.tail_cons, true_and]
    exact fun _ hmem => absurd hmem List.not_mem_nil
  · rw [beside, onTheWay_path_iff hproper h]
    rintro ⟨names, hne, heq⟩
    have hpos := List.length_pos_iff.mpr hne
    have hlength := congrArg List.length heq
    rw [List.length_append, List.length_cons, List.length_cons] at hlength
    omega

/-- If the executable's path is that of a directory on the way to the source, only a source in the
root directory can be overwritten. -/
theorem overwrites_directory_iff {directory : Location} (h : Proper (name :: outer))
    (hdirectory : directory <:+ outer) (workingPath : Option Bytes) (target : Target) :
    (beside directory.path target.extension).overwrites workingPath (path (name :: outer)) = true ↔
      outer = [] ∧ name ∈ [target.extension, utf8 ".o"] := by
  have hproper := (proper_cons.mp h).2.of_suffix hdirectory
  have hlength := hdirectory.length_le
  rw [overwrites_beside_path_iff proper_nil h, places, beside]
  simp only [List.map_cons, List.map_nil, List.mem_cons, List.not_mem_nil, or_false,
    ofPath_path_append hproper target.isSuffix_extension,
    ofPath_path_append hproper isSuffix_object, ofPath_path hproper, List.cons.injEq]
  -- A file beside the directory is less deep than the source, unless both are in the root.
  have hroot : outer = directory.tail → directory = [] := by
    intro houter
    cases directory with
    | nil => rfl
    | cons part rest =>
        rw [houter, List.tail_cons, List.length_cons] at hlength
        omega
  constructor
  · rintro (⟨hname, houter⟩ | ⟨hname, houter⟩ | heq)
    · obtain rfl := hroot houter
      exact ⟨houter, Or.inl hname⟩
    · obtain rfl := hroot houter
      exact ⟨houter, Or.inr hname⟩
    · rw [← heq, List.length_cons] at hlength
      omega
  · rintro ⟨rfl, hname⟩
    rw [List.suffix_nil.mp hdirectory]
    exact hname.imp (fun heq => ⟨heq, rfl⟩) (fun heq => Or.inl ⟨heq, rfl⟩)

/-- The default files stand beside the source if its name leaves one for the executable, and in the
root directory also if the executable's name has to grow. -/
theorem besideSource_default_iff (h : Proper (name :: outer)) (workingPath : Option Bytes)
    (target : Target) :
    let executable := defaultExecutable (path outer) (path (name :: outer))
    (if (beside executable target.extension).overwrites workingPath (path (name :: outer))
      then beside (executable ++ utf8 ".out") target.extension
      else beside executable target.extension).BesideSource (path (name :: outer)) ↔
      IsName (executableName name) ∨ outer = [] ∧ name ∈ [target.extension, utf8 ".o"] := by
  have hname := (proper_cons.mp h).1
  intro executable
  have hexecutable : executable = (outer.follow (executableName name)).path :=
    defaultExecutable_path h
  rw [hexecutable]
  by_cases hown : IsName (executableName name)
  · have hgrown := isSuffix_out.isName_append hown.noSlash
    rw [follow_of_isName hown, path_append]
    refine iff_of_true ?_ (Or.inl hown)
    split
    · exact besideSource_of_isName hgrown h target
    · exact besideSource_of_isName hown h target
  · have hdirectory := follow_suffix (noSlash_executableName hname) hown outer
    generalize outer.follow (executableName name) = directory at hdirectory ⊢
    rw [or_iff_right hown, ← overwrites_directory_iff h hdirectory workingPath target]
    split
    · rename_i hoverwrites
      refine iff_of_true ?_ hoverwrites
      obtain ⟨rfl, -⟩ := (overwrites_directory_iff h hdirectory workingPath target).mp hoverwrites
      rw [List.suffix_nil.mp hdirectory, path_append]
      exact besideSource_of_isName (isSuffix_out.isName_append List.not_mem_nil) h target
    · rename_i hapart
      exact iff_of_false (fun hbeside => hbeside.notOnTheWay (onTheWay_of_suffix h hdirectory))
        hapart

end OutputPaths

open OutputPaths in
/-- **By default the output files stand beside the source if the executable has a name.** For every
source that is not the root itself, the default files are in the source's directory and the
executable is no directory on the way to the source, exactly if one of two things holds: the name of
the source without its extension, or with `.out` if it has none, is neither empty nor `.` nor `..`;
or the source is in the root directory and its whole name is the extension of an assembly or object
file. -/
theorem chooseOutputs_beside_source_iff {workingDirectory source path : Bytes}
    {settings : Settings} (hworking : Path.isAbsolute workingDirectory = true)
    (hsource : Path.absolute (some workingDirectory) source = some path)
    (hfile : path ≠ utf8 "/") (hdefault : settings.output = []) (target : Target) :
    ∃ paths, chooseOutputs (some workingDirectory) settings target (Path.parent path) path
        = .ok paths ∧
      (paths.BesideSource path ↔
        executableName (Path.base path) ∉ [[], Path.here, Path.above] ∨
          Path.parent path = utf8 "/" ∧ Path.base path ∈ [target.extension, utf8 ".o"]) := by
  refine ⟨_, chooseOutputs_default _ target _ _ hdefault, ?_⟩
  rw [Path.absolute_eq_path_lexical hworking] at hsource
  obtain rfl := Option.some.inj hsource
  have hproper := Location.proper_lexical workingDirectory source
  generalize Location.lexical workingDirectory source = location at hfile hproper ⊢
  cases location with
  | nil => exact absurd rfl hfile
  | cons name outer =>
      obtain ⟨hname, houter⟩ := Location.proper_cons.mp hproper
      have hroot : Location.path outer = utf8 "/" ↔ outer = [] :=
        Location.path_inj houter Location.proper_nil
      rw [Location.parent_path hproper, List.tail_cons, Location.base_path_cons hproper, hroot,
        ← Location.isName_iff_notMem (noSlash_executableName hname)]
      exact besideSource_default_iff hproper _ target

/-- A dot file with an extension keeps its dot part as the name. -/
theorem chooseOutputs_beside_dot_file :
    ∃ paths, chooseOutputs (some (utf8 "/home")) .default .linuxAmd64
        (Path.parent (utf8 "/home/.prog.exit")) (utf8 "/home/.prog.exit") = .ok paths ∧
      paths.BesideSource (utf8 "/home/.prog.exit") := by
  obtain ⟨paths, hchoice, hbeside⟩ := @chooseOutputs_beside_source_iff (utf8 "/home")
    (utf8 ".prog.exit") (utf8 "/home/.prog.exit") .default (by decide) (by decide) (by decide) rfl
    .linuxAmd64
  exact ⟨paths, hchoice, hbeside.mpr (Or.inl (by decide))⟩

/-- A source that is named by an extension only: its directory is taken for the executable, and the
other files stand outside. -/
theorem chooseOutputs_leaves_directory_of_bare_extension :
    Path.absolute (some (utf8 "/home/user")) (utf8 ".exit") = some (utf8 "/home/user/.exit") ∧
      ∃ paths, chooseOutputs (some (utf8 "/home/user")) .default .linuxAmd64
          (Path.parent (utf8 "/home/user/.exit")) (utf8 "/home/user/.exit") = .ok paths ∧
        paths.executable = Path.parent (utf8 "/home/user/.exit") ∧
        (∀ output ∈ [paths.assembly, paths.object, paths.executable],
          Path.parent output ≠ Path.parent (utf8 "/home/user/.exit")) ∧
        Path.OnTheWay paths.executable (utf8 "/home/user/.exit") := by
  refine ⟨by decide, ⟨utf8 "/home/user.asm", utf8 "/home/user.o", utf8 "/home/user"⟩, ?_⟩
  refine ⟨by decide, by decide, by decide, [utf8 ".exit"], by decide, by decide⟩

end ExitLang
