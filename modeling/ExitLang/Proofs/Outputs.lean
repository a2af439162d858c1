import ExitLang.CommandLine.Run
import ExitLang.Proofs.Locations
import Mathlib.Data.List.Nodup

/-!
# Output files never fall on the source

The three files of a build lie beside each other: they share all names but the last, and the last
names differ by their suffixes. Whether one of them is the source is decided by locations. By
default the executable is named for the source and never falls on it; if one of the other two files
does, the executable's name grows by `.out`, and that is always enough.
-/

namespace ExitLang

theorem Target.extension_cases (target : Target) :
    target.extension = utf8 ".asm" ∨ target.extension = utf8 ".s" := by
  rw [extension]
  split
  · exact Or.inl rfl
  · exact Or.inr rfl

theorem Target.isSuffix_extension (target : Target) : Location.IsSuffix target.extension := by
  rcases target.extension_cases with h | h <;> rw [h] <;> constructor <;> decide

theorem Target.extension_ne_object (target : Target) : target.extension ≠ utf8 ".o" := by
  rcases target.extension_cases with h | h <;> rw [h] <;> decide

namespace OutputPaths

open Location

theorem isSuffix_object : IsSuffix (utf8 ".o") := by constructor <;> decide

theorem isSuffix_out : IsSuffix (utf8 ".out") := by constructor <;> decide

/-- The locations of the output files, read from a working directory. -/
def places (workingDirectory : Location) (paths : OutputPaths) : List Location :=
  [paths.assembly, paths.object, paths.executable].map (ofPath workingDirectory)

theorem proper_of_mem_places {workingDirectory : Location} (h : Proper workingDirectory)
    {paths : OutputPaths} {place : Location} (hmem : place ∈ paths.places workingDirectory) :
    Proper place := by
  obtain ⟨path, -, rfl⟩ := List.mem_map.mp hmem
  exact h.ofPath path

/-- Where the files of a build stand: the assembly and the object file under longer names beside the
place that the executable's last component leads to. -/
theorem exists_places_beside (workingDirectory : Location) (executable : Bytes) (target : Target) :
    ∃ (outer : Location) (last : Bytes),
      places workingDirectory (beside executable target.extension) =
        [(last ++ target.extension) :: outer, (last ++ utf8 ".o") :: outer, outer.follow last] ∧
      places workingDirectory (beside (executable ++ utf8 ".out") target.extension) =
        [(last ++ (utf8 ".out" ++ target.extension)) :: outer,
         (last ++ (utf8 ".out" ++ utf8 ".o")) :: outer, (last ++ utf8 ".out") :: outer] := by
  obtain ⟨outer, last, hexecutable, happend⟩ := exists_ofPath_append workingDirectory executable
  refine ⟨outer, last, ?_, ?_⟩
  · simp only [places, beside, List.map_cons, List.map_nil, hexecutable,
      happend _ target.isSuffix_extension, happend _ isSuffix_object]
  · simp only [places, beside, List.map_cons, List.map_nil, List.append_assoc,
      happend _ isSuffix_out, happend _ (isSuffix_out.append target.isSuffix_extension),
      happend _ (isSuffix_out.append isSuffix_object)]

/-- The files of a build are three. -/
theorem nodup_places_beside (workingDirectory : Location) (executable : Bytes) (target : Target) :
    (places workingDirectory (beside executable target.extension)).Nodup := by
  obtain ⟨outer, last, hplaces, -⟩ := exists_places_beside workingDirectory executable target
  have hassembly := follow_ne_append_cons outer last target.isSuffix_extension.ne_nil
  have hobject := follow_ne_append_cons outer last isSuffix_object.ne_nil
  rw [hplaces]
  simp [target.extension_ne_object, hassembly.symm, hobject.symm]

/-- If a file of a build other than the executable falls on a location, then none does once the
executable's name has grown by `.out`. -/
theorem notMem_places_out {workingDirectory place : Location} {executable : Bytes}
    {target : Target} (hexecutable : ofPath workingDirectory executable ≠ place)
    (hmem : place ∈ places workingDirectory (beside executable target.extension)) :
    place ∉ places workingDirectory (beside (executable ++ utf8 ".out") target.extension) := by
  obtain ⟨outer, last, hplaces, hout⟩ := exists_places_beside workingDirectory executable target
  have hlast : ofPath workingDirectory executable = outer.follow last := by
    simpa [places, beside] using congrArg List.getLast? hplaces
  rw [hlast] at hexecutable
  rw [hplaces] at hmem
  rw [hout]
  -- Either way the location has the executable's name with a suffix other than the new ones.
  simp only [List.mem_cons, List.not_mem_nil, or_false, hexecutable.symm] at hmem
  rcases target.extension_cases with hextension | hextension <;> rw [hextension] at hmem ⊢ <;>
    rcases hmem with rfl | rfl <;>
    simp only [List.mem_cons, List.not_mem_nil, or_false, List.cons.injEq, and_true,
      List.append_cancel_left_eq] <;> decide

end OutputPaths

/-! ### The executable that is named for the source -/

namespace OutputPaths

open Location

theorem exists_stem_append {name : Bytes} (hname : name ≠ [])
    (hextension : Path.extension name ≠ []) :
    ∃ rest, rest ≠ [] ∧ name = Path.stem name ++ rest := by
  have hpos := List.length_pos_iff.mpr hname
  have hshort := List.length_pos_iff.mpr hextension
  refine ⟨name.drop (name.length - (Path.extension name).length), ?_, ?_⟩
  · apply List.ne_nil_of_length_pos
    rw [List.length_drop]
    omega
  · rw [Path.stem, List.take_append_drop]

/-- The name that the executable of a source is to have. -/
def executableName (name : Bytes) : Bytes :=
  if Path.extension name = [] then name ++ utf8 ".out" else Path.stem name

theorem noSlash_executableName {name : Bytes} (h : IsName name) :
    (0x2F : UInt8) ∉ executableName name := by
  rw [executableName]
  split
  · exact (isSuffix_out.isName_append h.noSlash).noSlash
  · rename_i hextension
    obtain ⟨rest, -, hsplit⟩ := exists_stem_append h.ne_nil hextension
    exact fun hmem => h.noSlash (hsplit ▸ List.mem_append_left rest hmem)

/-- What is left of a name can be empty, `.` or `..`, and then the executable's path leads to a
directory. -/
theorem defaultExecutable_path {name : Bytes} {outer : Location} (h : Proper (name :: outer)) :
    defaultExecutable (path outer) (path (name :: outer)) =
      (outer.follow (executableName name)).path := by
  obtain ⟨hname, houter⟩ := proper_cons.mp h
  rw [← join_path houter (noSlash_executableName hname), defaultExecutable, base_path_cons h,
    executableName]
  split <;> rfl

theorem follow_executableName_ne {name : Bytes} (h : IsName name) (outer : Location) :
    outer.follow (executableName name) ≠ name :: outer := by
  rw [executableName]
  split
  · rw [follow_of_isName (isSuffix_out.isName_append h.noSlash), ← follow_of_isName h outer]
    exact (follow_ne_append_cons outer name isSuffix_out.ne_nil).symm
  · rename_i hextension
    obtain ⟨rest, hrest, hsplit⟩ := exists_stem_append h.ne_nil hextension
    intro heq
    exact follow_ne_append_cons outer (Path.stem name) hrest
      (heq.trans (congrArg (· :: outer) hsplit))

/-- By default the executable has a location of its own: it is not where the source is. -/
theorem exists_defaultExecutable {source : Location} (h : Proper source) :
    ∃ executable : Location, Proper executable ∧ executable ≠ source ∧
      defaultExecutable (path source.tail) source.path = executable.path := by
  cases source with
  | nil =>
      have hproper : Proper [utf8 ".out"] :=
        proper_cons.mpr ⟨isSuffix_out.isName_append List.not_mem_nil, proper_nil⟩
      exact ⟨[utf8 ".out"], hproper, by decide, by decide⟩
  | cons name outer =>
      obtain ⟨hname, houter⟩ := proper_cons.mp h
      exact ⟨_, houter.follow (noSlash_executableName hname), follow_executableName_ne hname outer,
        defaultExecutable_path h⟩

/-- The test for overwriting is about locations, for paths whose absolute forms are those of their
locations. -/
theorem overwrites_path_iff {workingPath : Option Bytes} {workingDirectory source : Location}
    {paths : OutputPaths} (hworking : Proper workingDirectory) (hsource : Proper source)
    (hpaths : ∀ path ∈ [paths.assembly, paths.object, paths.executable],
      Path.absolute workingPath path = some (workingDirectory.ofPath path).path) :
    paths.overwrites workingPath source.path = true ↔ source ∈ paths.places workingDirectory := by
  rw [overwrites, Path.absolute_of_isAbsolute (isAbsolute_path source) workingPath [],
    ofPath_path hsource, places, List.mem_map]
  dsimp only
  rw [List.any_eq_true]
  constructor
  · rintro ⟨path, hmem, hsame⟩
    rw [hpaths path hmem, beq_iff_eq, Option.some_inj, path_inj (hworking.ofPath path) hsource]
      at hsame
    exact ⟨path, hmem, hsame⟩
  · rintro ⟨path, hmem, rfl⟩
    exact ⟨path, hmem, by rw [hpaths path hmem, beq_self_eq_true]⟩

/-- What holds of the executable's path with any suffix holds of all files of the build. -/
theorem forall_mem_beside {P : Bytes → Prop} {executable : Bytes}
    (h : ∀ suffix, P (executable ++ suffix)) (extension : Bytes) :
    ∀ path ∈ [(beside executable extension).assembly, (beside executable extension).object,
      (beside executable extension).executable], P path := by
  have hexecutable := h []
  rw [List.append_nil] at hexecutable
  simp only [beside, List.forall_mem_cons]
  exact ⟨h _, h _, hexecutable, fun _ hmem => absurd hmem List.not_mem_nil⟩

theorem overwrites_beside_path_iff {workingDirectory source : Location}
    (hworking : Proper workingDirectory) (hsource : Proper source) (workingPath : Option Bytes)
    (executable : Location) (extension : Bytes) :
    (beside executable.path extension).overwrites workingPath source.path = true ↔
      source ∈ (beside executable.path extension).places workingDirectory :=
  overwrites_path_iff hworking hsource (forall_mem_beside
    (fun suffix => Path.absolute_of_isAbsolute
      (Path.isAbsolute_append (isAbsolute_path executable) suffix) workingPath workingDirectory)
    extension)

end OutputPaths

/-! ### The choice of a run -/

section Choice

open Location OutputPaths

variable {workingPath : Option Bytes} {workingDirectory source : Location} {settings : Settings}
  {target : Target} {paths : OutputPaths}

theorem chooseOutputs_default (workingDirectory : Option Bytes) (target : Target)
    (directory source : Bytes) (h : settings.output = []) :
    chooseOutputs workingDirectory settings target directory source =
      .ok (if (beside (defaultExecutable directory source) target.extension).overwrites
          workingDirectory source
        then beside (defaultExecutable directory source ++ utf8 ".out") target.extension
        else beside (defaultExecutable directory source) target.extension) := by
  rw [chooseOutputs, if_neg (not_not_intro h)]
  dsimp only
  split <;> rfl

/-- The chosen files are the files of one build, and none of them is the source. Unless it was asked
for, the executable's path is absolute. -/
theorem chooseOutputs_apart (hworking : Proper workingDirectory) (hsource : Proper source)
    (houtput : settings.output ≠ [] → ∀ suffix,
      Path.absolute workingPath (settings.output ++ suffix) =
        some (workingDirectory.ofPath (settings.output ++ suffix)).path)
    (hchoice : chooseOutputs workingPath settings target (path source.tail) source.path
      = .ok paths) :
    ∃ executable, paths = .beside executable target.extension ∧
      (settings.output ≠ [] ∧ executable = settings.output ∨ Path.isAbsolute executable = true) ∧
      source ∉ paths.places workingDirectory := by
  by_cases hnone : settings.output = []
  · obtain ⟨executable, hproper, hne, hdefault⟩ := exists_defaultExecutable hsource
    have hiff := overwrites_beside_path_iff hworking hsource workingPath executable target.extension
    rw [chooseOutputs_default workingPath target _ _ hnone, hdefault] at hchoice
    obtain rfl := Except.ok.inj hchoice
    split
    · rename_i hoverwrites
      refine ⟨_, rfl, Or.inr rfl, notMem_places_out ?_ (hiff.mp hoverwrites)⟩
      rwa [ofPath_path hproper]
    · rename_i hapart
      exact ⟨_, rfl, Or.inr rfl, fun hmem => hapart (hiff.mpr hmem)⟩
  · have hiff := overwrites_path_iff hworking hsource
      (forall_mem_beside (houtput hnone) target.extension)
    rw [chooseOutputs, if_pos hnone] at hchoice
    dsimp only at hchoice
    split at hchoice
    · cases hchoice
    · rename_i hapart
      cases hchoice
      exact ⟨_, rfl, Or.inl ⟨hnone, rfl⟩, fun hmem => hapart (hiff.mpr hmem)⟩

theorem exists_chooseOutputs_default (workingDirectory : Option Bytes) (target : Target)
    (directory path : Bytes) (h : settings.output = []) :
    ∃ paths, chooseOutputs workingDirectory settings target directory path = .ok paths :=
  ⟨_, chooseOutputs_default workingDirectory target directory path h⟩

end Choice

/-- **Output paths name neither the source nor each other.** A run finds the absolute form of its
source. Whenever it chooses output paths, the absolute forms of the source and of the three output
files are four different ones, and without a name that was asked for it always chooses some. -/
theorem chooseOutputs_absolute_nodup {workingDirectory : Bytes}
    (hworking : Path.isAbsolute workingDirectory = true) (settings : Settings) (target : Target)
    (source : Bytes) :
    ∃ path, Path.absolute (some workingDirectory) source = some path ∧
      (∀ paths, chooseOutputs (some workingDirectory) settings target (Path.parent path) path
          = .ok paths →
        ∃ forms : List Bytes,
          [path, paths.assembly, paths.object, paths.executable].map
            (Path.absolute (some workingDirectory)) = forms.map some ∧ forms.Nodup) ∧
      (settings.output = [] →
        ∃ paths, chooseOutputs (some workingDirectory) settings target (Path.parent path) path
          = .ok paths) := by
  have hsource := Location.proper_lexical workingDirectory source
  have hplace := Location.proper_nil.ofPath workingDirectory
  have habsolute := Path.absolute_eq_path_lexical hworking
  refine ⟨_, habsolute source, ?_, exists_chooseOutputs_default _ target _ _⟩
  intro paths hchoice
  rw [Location.parent_path hsource] at hchoice
  obtain ⟨executable, rfl, -, hapart⟩ :=
    chooseOutputs_apart hplace hsource (fun _ suffix => habsolute _) hchoice
  refine ⟨(Location.lexical workingDirectory source :: OutputPaths.places
    (.ofPath [] workingDirectory) (.beside executable target.extension)).map Location.path, ?_, ?_⟩
  · have hself : Location.lexical workingDirectory (Location.lexical workingDirectory source).path
        = Location.lexical workingDirectory source := Location.ofPath_path hsource _
    simp only [List.map_cons, List.map_nil, habsolute, hself, OutputPaths.places]
    rfl
  apply List.Nodup.map_on
  · have hplaces : ∀ place ∈ Location.lexical workingDirectory source :: OutputPaths.places
        (.ofPath [] workingDirectory) (.beside executable target.extension), place.Proper :=
      List.forall_mem_cons.mpr
        ⟨hsource, fun place hmem => OutputPaths.proper_of_mem_places hplace hmem⟩
    intro left hleft right hright heq
    exact (Location.path_inj (hplaces left hleft) (hplaces right hright)).mp heq
  · exact List.nodup_cons.mpr ⟨hapart, OutputPaths.nodup_places_beside _ executable target⟩

/-- A dot file with an extension: cutting the extension off leaves the directory above. -/
theorem chooseOutputs_absolute_nodup_dots :
    ∃ path, Path.absolute (some (utf8 "/home")) (utf8 "./...asm") = some path ∧
      ∃ paths, chooseOutputs (some (utf8 "/home")) .default .linuxAmd64 (Path.parent path) path
          = .ok paths ∧
        ∃ forms : List Bytes,
          [path, paths.assembly, paths.object, paths.executable].map
            (Path.absolute (some (utf8 "/home"))) = forms.map some ∧ forms.Nodup := by
  have hworking : Path.isAbsolute (utf8 "/home") = true := by decide
  obtain ⟨path, hpath, hapart, hdefault⟩ :=
    chooseOutputs_absolute_nodup hworking .default .linuxAmd64 (utf8 "./...asm")
  obtain ⟨paths, hchoice⟩ := hdefault rfl
  exact ⟨path, hpath, paths, hchoice, hapart paths hchoice⟩

end ExitLang
