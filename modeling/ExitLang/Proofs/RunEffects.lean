import ExitLang.CommandLine.Run
import ExitLang.Proofs.FileEffects
import ExitLang.Proofs.Outputs

/-!
# What a run changes

A run writes its assembly, lets the tools write the object file and the executable, and removes the
first two again. Each of these steps changes nothing but what its path leads to, so a run changes
nothing but its three output files, and a run that is refused changes nothing at all.

That the source is none of the output files is tested on absolute paths. A path has one whenever the
working directory is there; where it was removed, an output path that goes up from it has none, the
test finds nothing, and the source can be overwritten.
-/

namespace ExitLang

open FileSystem

/-! ### Tools -/

/-- Files were made or overwritten at some of the places, and no directory was replaced. -/
def FileTree.FilesWritten (places : Location → Prop) (before after : FileTree) : Prop :=
  ∀ location, after.get? location = before.get? location ∨
    places location ∧ before.get? location ≠ some .directory ∧
      ∃ content, after.get? location = some (.file content)

/-- The runner does nothing but write files where the paths lead. -/
def Runner.WritesOnly (runner : Runner) (paths : List Bytes) (standpoint : Standpoint) : Prop :=
  ∀ calls command tree, FileTree.FilesWritten
    (fun location => ∃ path ∈ paths, standpoint.reach? path = some location) tree
    (runner calls command ⟨tree, standpoint⟩).2

theorem FileTree.FilesWritten.trans {places : Location → Prop} {first second third : FileTree}
    (hleft : FilesWritten places first second) (hright : FilesWritten places second third) :
    FilesWritten places first third := by
  intro location
  rcases hleft location with hsame | ⟨hplace, hentry, content, hwritten⟩
  · have hnext := hright location
    rwa [hsame] at hnext
  · right
    refine ⟨hplace, hentry, ?_⟩
    rcases hright location with hsame | ⟨-, -, hlater⟩
    · exact ⟨content, hsame.trans hwritten⟩
    · exact hlater

theorem filesWritten_write {files after : FileSystem} {path content : Bytes}
    (hwrite : files.write path content = .ok after) :
    files.tree.FilesWritten (fun location => files.workingDirectory.reach? path = some location)
      after.tree := by
  obtain ⟨place, hreach, hne, hentry, rfl⟩ := exists_of_write hwrite
  intro location
  rw [FileTree.get?_put _ hne]
  by_cases hplace : location = place
  · subst hplace
    exact Or.inr ⟨hreach, hentry, content, if_pos rfl⟩
  · exact Or.inl (if_neg hplace)

/-- A scripted runner whose answers make nothing but such files is one of these. -/
theorem Runner.scripted_writesOnly {script : List ScriptedReply} {paths : List Bytes}
    (hscript : ∀ step ∈ script, ∀ name ∈ step.creates, name ∈ paths) (standpoint : Standpoint) :
    (Runner.scripted script).WritesOnly paths standpoint := by
  intro calls command tree
  rw [Runner.scripted]
  split
  · exact fun location => Or.inl rfl
  rename_i step hstep
  have hnames := hscript step (List.mem_of_getElem? hstep)
  dsimp only
  -- The files are made one after another, each in the tree that the ones before it left.
  generalize step.creates = names at hnames
  induction names generalizing tree with
  | nil => exact fun location => Or.inl rfl
  | cons name rest ih =>
      rw [List.forall_mem_cons] at hnames
      rw [List.foldl_cons]
      split
      · rename_i after hwrite
        have hfirst : tree.FilesWritten
            (fun location => ∃ path ∈ paths, standpoint.reach? path = some location)
            after.tree := by
          intro location
          refine (filesWritten_write hwrite location).imp_right ?_
          exact fun ⟨hreach, hwritten⟩ => ⟨⟨name, hnames.1, hreach⟩, hwritten⟩
        have hafter : after = ⟨after.tree, standpoint⟩ := by
          obtain ⟨place, -, -, -, rfl⟩ := exists_of_write hwrite
          rfl
        rw [hafter]
        exact hfirst.trans (ih after.tree hnames.2)
      · exact ih tree hnames.2

theorem changesOnly_runCommands {runner : Runner} {paths : List Bytes} {files : FileSystem}
    (hrunner : runner.WritesOnly paths files.workingDirectory) (deadline : Deadline)
    (calls commands : List Command) :
    ChangesOnly paths files (runCommands runner deadline calls commands files).files := by
  induction commands generalizing calls files with
  | nil => exact .refl paths files
  | cons command rest ih =>
      have hstep : ChangesOnly paths files
          { files with tree := (runner calls command files).2 } := by
        refine ⟨?_, fun _ _ h => h⟩
        intro location hlocation
        rcases hrunner calls command files.tree location with hsame | ⟨⟨path, hmem, hreach⟩, -⟩
        · exact hsame
        · exact absurd hreach (hlocation path hmem)
      rw [runCommands]
      dsimp only
      split
      · apply hstep.trans
        apply ih
        exact hrunner
      · exact hstep

theorem changesOnly_writeAssembly {files after : FileSystem} {paths : OutputPaths} {text : Bytes}
    (hwrite : writeAssembly files paths text = .ok after) :
    ChangesOnly [paths.assembly] files after ∧
      after.workingDirectory = files.workingDirectory := by
  rw [writeAssembly] at hwrite
  split at hwrite
  · cases hwrite
  rename_i found hfound
  cases hwrite
  refine ⟨changesOnly_write hfound, ?_⟩
  obtain ⟨location, -, -, -, rfl⟩ := exists_of_write hfound
  rfl

theorem changesOnly_discard (files : FileSystem) (path : Bytes) :
    ChangesOnly [path] files (discard files path).1 := by
  rw [discard]
  split
  · rename_i after hremove
    exact changesOnly_remove hremove
  · exact .refl _ files

theorem changesOnly_cleanUp (files : FileSystem) (paths : OutputPaths) :
    ChangesOnly [paths.assembly, paths.object] files (cleanUp files paths).1 := by
  apply ChangesOnly.trans
  · exact (changesOnly_discard files paths.assembly).mono (by simp)
  · exact (changesOnly_discard (discard files paths.assembly).1 paths.object).mono (by simp)

variable {runner : Runner} {files : FileSystem} {paths : OutputPaths}

theorem changesOnly_build
    (hrunner : runner.WritesOnly [paths.object, paths.executable] files.workingDirectory)
    (target : Target) (deadline : Deadline) (text : Bytes) :
    ChangesOnly [paths.assembly, paths.object, paths.executable] files
      (build target runner deadline files paths text).files := by
  rw [build]
  split
  · exact .refl _ files
  · rename_i after hwrite
    obtain ⟨hassembly, hdirectory⟩ := changesOnly_writeAssembly hwrite
    rw [← hdirectory] at hrunner
    have hcommands := changesOnly_runCommands hrunner deadline [] (target.commands paths)
    exact (hassembly.mono (by simp)).trans (hcommands.mono (by simp))

theorem Plan.changesOnly_build {plan : Plan}
    (hrunner : runner.WritesOnly [plan.paths.object, plan.paths.executable]
      files.workingDirectory) (deadline : Deadline) (keep : Bool) :
    ChangesOnly [plan.paths.assembly, plan.paths.object, plan.paths.executable] files
      (plan.build runner deadline keep files).files := by
  have hbuild := ExitLang.changesOnly_build hrunner plan.target deadline plan.assembly
  have hcleaned : ChangesOnly [plan.paths.assembly, plan.paths.object, plan.paths.executable] files
      (cleanUp (ExitLang.build plan.target runner deadline files plan.paths plan.assembly).files
        plan.paths).1 :=
    hbuild.trans ((changesOnly_cleanUp _ plan.paths).mono (by simp))
  rw [Plan.build]
  cases keep <;> split
  · exact hcleaned
  · exact hcleaned
  · exact hbuild
  · exact hbuild

theorem Plan.changesOnly_emit (plan : Plan) (files : FileSystem) :
    ChangesOnly [plan.paths.assembly] files (plan.emit files).files := by
  rw [Plan.emit]
  split
  · exact .refl _ files
  · rename_i after hwrite
    exact (changesOnly_writeAssembly hwrite).1

/-! ### Preparation -/

/-- The failures that come before anything is written. -/
def Failure.precedesWriting : Failure → Bool
  | .write _ => false
  | .build _ => false
  | _ => true

/-- What a plan was made from: a source that was read and compiled, and the outputs chosen for
it. -/
theorem exists_of_prepare {settings : Settings} {source : Bytes} {notes : Notes} {plan : Plan}
    (h : prepare settings files source = (notes, .ok plan)) :
    ∃ path content made, Path.absolute files.workingPath source = some path ∧
      files.read path = .ok content ∧ Target.lookup? settings.target = some plan.target ∧
      compile content plan.target = .ok made ∧ plan.assembly = made.assembly ∧
      chooseOutputs files.workingPath settings plan.target (Path.parent path) path
        = .ok plan.paths := by
  rw [prepare] at h
  split at h
  · cases h
  rename_i target htarget
  split at h
  · cases h
  rename_i path hpath
  split at h
  · cases h
  rename_i content hread
  dsimp only at h
  split at h
  · cases h
  rename_i made hcompile
  split at h
  · cases h
  split at h
  · cases h
  rename_i paths hchoice
  cases h
  exact ⟨path, content, made, hpath, hread, htarget, hcompile, rfl, hchoice⟩

/-! ### Runs -/

section Run

variable {settings : Settings} {source : Bytes}

theorem run_of_prepare_error {notes : Notes} {failure : Failure}
    (h : prepare settings files source = (notes, .error failure)) (runner : Runner) :
    run settings runner files source = ⟨some failure, notes, files, []⟩ := by
  rw [run, h]

/-- What a run makes of its plan. -/
def Plan.carryOut (plan : Plan) (settings : Settings) (runner : Runner) (files : FileSystem) :
    Outcome :=
  if settings.emitAssembly then plan.emit files
  else plan.build runner settings.deadline settings.keep files

theorem run_of_prepare_ok {notes : Notes} {plan : Plan}
    (h : prepare settings files source = (notes, .ok plan)) (runner : Runner) :
    (run settings runner files source).files = (plan.carryOut settings runner files).files ∧
      (run settings runner files source).calls = (plan.carryOut settings runner files).calls ∧
      (run settings runner files source).failure =
        (plan.carryOut settings runner files).failure := by
  rw [run, h]
  exact ⟨rfl, rfl, rfl⟩

theorem Plan.not_precedesWriting_of_carryOut {plan : Plan} {failure : Failure}
    (h : (plan.carryOut settings runner files).failure = some failure) :
    failure.precedesWriting = false := by
  rw [Plan.carryOut] at h
  split at h
  · rw [Plan.emit] at h
    split at h
    · cases h
      rfl
    · cases h
  · rw [Plan.build] at h
    split at h
    · cases h
      rfl
    · cases h

/-- The locations that a run may change: where the outputs of its plan lead. -/
def OutputPlace (settings : Settings) (files : FileSystem) (source : Bytes)
    (location : Location) : Prop :=
  ∃ notes plan, prepare settings files source = (notes, .ok plan) ∧
    ∃ path ∈ [plan.paths.assembly, plan.paths.object, plan.paths.executable],
      files.workingDirectory.reach? path = some location

/-- The locations that paths reach are those of their absolute forms, for all paths while the working
directory is there and for absolute ones in any case. -/
theorem exists_resolution
    (hproper : ∀ location, files.workingDirectory = .present location → location.Proper) :
    ∃ directory : Location, directory.Proper ∧
      ∀ path, files.workingDirectory.location?.isSome = true ∨ Path.isAbsolute path = true →
        Path.absolute files.workingPath path = some (directory.ofPath path).path ∧
        files.workingDirectory.reach? path = some (directory.ofPath path) := by
  cases hstandpoint : files.workingDirectory with
  | present directory =>
      have hdirectory := hproper directory hstandpoint
      refine ⟨directory, hdirectory, ?_⟩
      intro path _
      have hpath : files.workingPath = some directory.path := by
        rw [workingPath, hstandpoint]
        rfl
      rw [hpath, Path.absolute_eq_path_lexical (Location.isAbsolute_path directory),
        Location.lexical, Location.ofPath_path hdirectory]
      exact ⟨rfl, Standpoint.reach?_present directory path⟩
  | removed above =>
      refine ⟨[], Location.proper_nil, ?_⟩
      intro path hpath
      have habsolute : Path.isAbsolute path = true := by simpa [Standpoint.location?] using hpath
      exact ⟨Path.absolute_of_isAbsolute habsolute _ _,
        Standpoint.reach?_of_isAbsolute _ habsolute _⟩

theorem isSome_or_isAbsolute_of_absolute {path form : Bytes}
    (h : Path.absolute files.workingPath path = some form) :
    files.workingDirectory.location?.isSome = true ∨ Path.isAbsolute path = true := by
  rw [Path.absolute, workingPath] at h
  by_cases habsolute : Path.isAbsolute path = true
  · exact Or.inr habsolute
  · rw [if_neg habsolute] at h
    cases hlocation : files.workingDirectory.location? with
    | none => rw [hlocation] at h; cases h
    | some location => exact Or.inl rfl

/-- The source is none of the files that a run may change, unless the working directory was removed
and the output was asked for by a relative path. -/
theorem not_outputPlace_source {place : Location}
    (hproper : ∀ location, files.workingDirectory = .present location → location.Proper)
    (houtput : files.workingDirectory.location?.isSome = true ∨ settings.output = [] ∨
      Path.isAbsolute settings.output = true)
    (hsource : files.workingDirectory.reach? source = some place) :
    ¬ OutputPlace settings files source place := by
  rintro ⟨notes, plan, hprepare, path, hmem, hreach⟩
  obtain ⟨form, content, made, hform, -, -, -, -, hchoice⟩ := exists_of_prepare hprepare
  -- The test compares absolute forms and operations go to locations: one directory gives both.
  obtain ⟨directory, hdirectory, hresolve⟩ := exists_resolution hproper
  obtain ⟨hsame, hplace⟩ := hresolve source (isSome_or_isAbsolute_of_absolute hform)
  obtain rfl : place = directory.ofPath source := Option.some_inj.mp (hsource.symm.trans hplace)
  obtain rfl : form = (directory.ofPath source).path := Option.some_inj.mp (hform.symm.trans hsame)
  have hordinary := hdirectory.ofPath source
  have hasked : settings.output ≠ [] → ∀ suffix,
      files.workingDirectory.location?.isSome = true ∨
        Path.isAbsolute (settings.output ++ suffix) = true := by
    intro hne suffix
    rcases houtput with hpresent | hnone | habsolute
    · exact Or.inl hpresent
    · exact absurd hnone hne
    · exact Or.inr (Path.isAbsolute_append habsolute suffix)
  rw [Location.parent_path hordinary] at hchoice
  obtain ⟨executable, hbeside, hexecutable, hapart⟩ := chooseOutputs_apart hdirectory hordinary
    (fun hne suffix => (hresolve _ (hasked hne suffix)).1) hchoice
  have hreaches : ∀ suffix, files.workingDirectory.reach? (executable ++ suffix) =
      some (directory.ofPath (executable ++ suffix)) := by
    intro suffix
    rcases hexecutable with ⟨hne, rfl⟩ | habsolute
    · exact (hresolve _ (hasked hne suffix)).2
    · exact (hresolve _ (Or.inr (Path.isAbsolute_append habsolute suffix))).2
  rw [hbeside] at hmem hapart
  have hplaced := OutputPaths.forall_mem_beside
    (P := fun output => files.workingDirectory.reach? output = some (directory.ofPath output))
    hreaches plan.target.extension path hmem
  apply hapart
  rw [OutputPaths.places, List.mem_map]
  exact ⟨path, hmem, Option.some_inj.mp (hplaced.symm.trans hreach)⟩

/-- A run that has a plan changes nothing outside its output files. -/
theorem changesOnly_run {notes : Notes} {plan : Plan}
    (hprepare : prepare settings files source = (notes, .ok plan))
    (hrunner : runner.WritesOnly [plan.paths.object, plan.paths.executable]
      files.workingDirectory) :
    ChangesOnly [plan.paths.assembly, plan.paths.object, plan.paths.executable] files
      (run settings runner files source).files := by
  rw [(run_of_prepare_ok hprepare runner).1, Plan.carryOut]
  split
  · exact (plan.changesOnly_emit files).mono (by simp)
  · exact Plan.changesOnly_build hrunner settings.deadline settings.keep

/-- A run that stops after the assembly makes no calls and changes nothing but the assembly file. -/
theorem changesOnly_run_emitAssembly (hemit : settings.emitAssembly = true) {notes : Notes}
    {plan : Plan} (hprepare : prepare settings files source = (notes, .ok plan))
    (runner : Runner) :
    (run settings runner files source).calls = [] ∧
      ChangesOnly [plan.paths.assembly] files (run settings runner files source).files := by
  obtain ⟨hfiles, hcalls, -⟩ := run_of_prepare_ok hprepare runner
  rw [hfiles, hcalls, Plan.carryOut, if_pos hemit]
  refine ⟨?_, plan.changesOnly_emit files⟩
  rw [Plan.emit]
  split <;> rfl

end Run

/-- **A run touches nothing but its outputs.** Every entry of the tree stays as it is except where
the paths of the assembly, the object file and the executable lead. A source that is there keeps its
content, unless the working directory was removed and the output was asked for by a relative path.
A run that fails before writing leaves the files as they are and calls no tool, and a run that stops
after the assembly calls none and changes at most the assembly file. -/
theorem run_changes_only_outputs (settings : Settings) {runner : Runner} {files : FileSystem}
    {source : Bytes} {outcome : Outcome} (houtcome : run settings runner files source = outcome)
    (hrunner : ∀ notes plan, prepare settings files source = (notes, .ok plan) →
      runner.WritesOnly [plan.paths.object, plan.paths.executable] files.workingDirectory) :
    (∀ location, ¬ OutputPlace settings files source location →
      outcome.files.tree.get? location = files.tree.get? location) ∧
    ((∀ location, files.workingDirectory = .present location → location.Proper) →
      files.workingDirectory.location?.isSome = true ∨ settings.output = [] ∨
        Path.isAbsolute settings.output = true →
      ∀ place content, files.workingDirectory.reach? source = some place →
        files.tree.get? place = some (.file content) →
        outcome.files.tree.get? place = some (.file content)) ∧
    (∀ failure, outcome.failure = some failure → failure.precedesWriting = true →
      outcome.files = files ∧ outcome.calls = []) ∧
    (settings.emitAssembly = true →
      outcome.calls = [] ∧
      ∀ location, (∀ notes plan, prepare settings files source = (notes, .ok plan) →
          files.workingDirectory.reach? plan.paths.assembly ≠ some location) →
        outcome.files.tree.get? location = files.tree.get? location) := by
  subst houtcome
  have hframe : ∀ location, ¬ OutputPlace settings files source location →
      (run settings runner files source).files.tree.get? location
        = files.tree.get? location := by
    intro location hlocation
    rcases hprepare : prepare settings files source with ⟨notes, failure | plan⟩
    · rw [run_of_prepare_error hprepare]
    · apply (changesOnly_run hprepare (hrunner notes plan hprepare)).outside location
      exact fun path hmem hreach => hlocation ⟨notes, plan, hprepare, path, hmem, hreach⟩
  refine ⟨hframe, ?_, ?_, ?_⟩
  · intro hproper houtput place content hplace hcontent
    rw [hframe place (not_outputPlace_source hproper houtput hplace), hcontent]
  · intro failure hfailure hearly
    rcases hprepare : prepare settings files source with ⟨notes, early | plan⟩
    · rw [run_of_prepare_error hprepare]
      exact ⟨rfl, rfl⟩
    · rw [(run_of_prepare_ok hprepare runner).2.2] at hfailure
      rw [Plan.not_precedesWriting_of_carryOut hfailure] at hearly
      cases hearly
  · intro hemit
    rcases hprepare : prepare settings files source with ⟨notes, failure | plan⟩
    · rw [run_of_prepare_error hprepare]
      exact ⟨rfl, fun _ _ => rfl⟩
    · obtain ⟨hcalls, hchanges⟩ := changesOnly_run_emitAssembly hemit hprepare runner
      refine ⟨hcalls, fun location hlocation => hchanges.outside location ?_⟩
      intro path hmem
      rw [List.mem_singleton.mp hmem]
      exact hlocation notes plan rfl

/-- A build next to its source, with tools that make their files, leaves the source as it was. -/
theorem run_keeps_source_beside_outputs :
    (run .default
      (.scripted [⟨[utf8 "/w/prog.o"], ⟨[], none⟩⟩, ⟨[utf8 "/w/prog"], ⟨[], none⟩⟩])
      ⟨FileTree.empty.addFile [utf8 "prog.exit", utf8 "w"] (utf8 "exit 5;"), .present [utf8 "w"]⟩
      (utf8 "prog.exit")).files.tree.get? [utf8 "prog.exit", utf8 "w"] =
        some (.file (utf8 "exit 5;")) := by
  have hproper : ∀ location, Standpoint.present [utf8 "w"] = .present location →
      location.Proper := by
    rintro _ ⟨⟩
    exact Location.proper_cons.mpr ⟨by constructor <;> decide, Location.proper_nil⟩
  refine (run_changes_only_outputs .default rfl ?_).2.1 hproper (Or.inl rfl) _ _ (by decide)
    (by decide)
  intro notes plan hprepare
  have hpaths : plan.paths = ⟨utf8 "/w/prog.asm", utf8 "/w/prog.o", utf8 "/w/prog"⟩ := by
    have hplan := congrArg (fun result => result.2.toOption.map Plan.paths) hprepare
    exact Option.some_inj.mp (hplan.symm.trans (by decide))
  rw [hpaths]
  exact Runner.scripted_writesOnly (by decide) _

/-- From a removed working directory the test for overwriting does not see a relative output, which
can then be the source. -/
theorem run_overwrites_source_from_removed_directory :
    ∃ (settings : Settings) (runner : Runner) (files : FileSystem) (source : Bytes)
      (place : Location) (content : Bytes),
      (∀ notes plan, prepare settings files source = (notes, .ok plan) →
        runner.WritesOnly [plan.paths.object, plan.paths.executable] files.workingDirectory) ∧
      files.workingDirectory.reach? source = some place ∧
      files.tree.get? place = some (.file content) ∧
      (run settings runner files source).failure = none ∧
      (run settings runner files source).files.tree.get? place ≠ some (.file content) := by
  refine ⟨{ Settings.default with output := utf8 "../w/prog", emitAssembly := true },
    .scripted [],
    ⟨FileTree.empty.addFile [utf8 "prog.asm", utf8 "w"] (utf8 "exit 5;"), .removed (.present [])⟩,
    utf8 "/w/prog.asm", [utf8 "prog.asm", utf8 "w"], utf8 "exit 5;", ?_, ?_, ?_, ?_, ?_⟩
  · exact fun notes plan _ => Runner.scripted_writesOnly (by simp) _
  · decide
  · decide
  · decide
  · decide

end ExitLang
