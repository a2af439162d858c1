import ExitLang.Proofs.CleaningUp

/-!
# Directories that a run removes

The files that are cleaned up after a build are removed by their paths, whatever stands there. A
directory that something is in is refused, but an empty one is taken for an intermediate file and
goes, also after a build that failed because the directory was in its way. Nothing else in a run
removes a directory, as long as the tools do not: what is written never replaces one.
-/

namespace ExitLang

open FileSystem Location

/-- The tools leave every directory a directory, and something wherever something was. -/
def Runner.RemovesNothing (runner : Runner) : Prop :=
  ∀ (calls : List Command) (command : Command) (files : FileSystem),
    files.tree.Within (runner calls command files).2

theorem Runner.removesNothing_scripted (script : List ScriptedReply) :
    (Runner.scripted script).RemovesNothing := by
  have hscript : ∀ step ∈ script, ∀ name ∈ step.creates,
      name ∈ script.flatMap ScriptedReply.creates :=
    fun step hstep name hname => List.mem_flatMap.mpr ⟨step, hstep, hname⟩
  intro calls command files
  exact (scripted_writesOnly hscript files.workingDirectory calls command files.tree).within

structure FileSystem.LeadsToEmpty (files : FileSystem) (path : Bytes) (location : Location) :
    Prop where
  leads : files.LeadsTo path location
  empty : files.tree.hasChildren location = false

/-- Cleaning up clears the location: the path of the assembly leads there, or that of the object
file once the assembly is removed, and nothing is in it. -/
def FileSystem.Clears (files : FileSystem) (paths : OutputPaths) (location : Location) : Prop :=
  files.tree.hasChildren location = false ∧
    (files.LeadsTo paths.assembly location ∨
      (discard files paths.assembly).1.LeadsTo paths.object location)

/-- At the location a directory is left, unless the condition holds and nothing is. -/
structure FileTree.KeepsUnless (tree : FileTree) (location : Location) (condition : Prop) :
    Prop where
  gone : condition → tree.get? location = none
  kept : ¬ condition → tree.get? location = some .directory

/-! ### Trees that grow -/

namespace FileTree

theorem Within.refl (tree : FileTree) : tree.Within tree :=
  ⟨fun _ h => h, fun _ h => h⟩

theorem Within.trans {first second third : FileTree} (hleft : first.Within second)
    (hright : second.Within third) : first.Within third where
  directory location h := hright.directory location (hleft.directory location h)
  entry location h := hright.entry location (hleft.entry location h)

theorem hasChildren_iff {tree : FileTree} {location : Location} :
    tree.hasChildren location = true ↔ ∃ name, tree.get? (name :: location) ≠ none := by
  simp only [get?, List.cons_ne_nil, if_false, ne_eq, List.lookup_eq_none_iff, hasChildren,
    List.any_eq_true]
  constructor
  · rintro ⟨⟨place, entry⟩, hmem, hplace⟩
    cases place with
    | nil => cases hplace
    | cons name outer =>
        obtain rfl := eq_of_beq hplace
        exact ⟨name, fun hnone => by simpa using hnone _ hmem⟩
  · rintro ⟨name, hsome⟩
    simp only [not_forall, bne_iff_ne, ne_eq, not_not] at hsome
    obtain ⟨item, hmem, hplace⟩ := hsome
    exact ⟨item, hmem, by simp [← hplace]⟩

theorem Within.hasChildren {smaller larger : FileTree} (h : smaller.Within larger)
    {location : Location} (hchildren : smaller.hasChildren location = true) :
    larger.hasChildren location = true := by
  obtain ⟨name, hentry⟩ := hasChildren_iff.mp hchildren
  exact hasChildren_iff.mpr ⟨name, h.entry _ hentry⟩

end FileTree

theorem within_runCommands {runner : Runner} (hrunner : runner.RemovesNothing)
    (deadline : Deadline) (calls commands : List Command) (files : FileSystem) :
    files.tree.Within (runCommands runner deadline calls commands files).files.tree := by
  induction commands generalizing calls files with
  | nil => exact .refl files.tree
  | cons command rest ih =>
      have hstep := hrunner calls command files
      rw [runCommands]
      dsimp only
      split
      · exact hstep.trans (ih _ { files with tree := (runner calls command files).2 })
      · exact hstep

theorem within_writeAssembly {files after : FileSystem} {paths : OutputPaths} {text : Bytes}
    (hwrite : writeAssembly files paths text = .ok after) : files.tree.Within after.tree := by
  rw [writeAssembly] at hwrite
  split at hwrite
  · cases hwrite
  · rename_i found hfound
    cases hwrite
    exact (filesWritten_write hfound).within

theorem within_build {runner : Runner} (hrunner : runner.RemovesNothing) (target : Target)
    (deadline : Deadline) (files : FileSystem) (paths : OutputPaths) (text : Bytes) :
    files.tree.Within (build target runner deadline files paths text).files.tree := by
  rw [build]
  split
  · exact .refl files.tree
  · rename_i after hwrite
    exact (within_writeAssembly hwrite).trans (within_runCommands hrunner deadline [] _ after)

theorem workingDirectory_runCommands (runner : Runner) (deadline : Deadline)
    (calls commands : List Command) (files : FileSystem) :
    (runCommands runner deadline calls commands files).files.workingDirectory =
      files.workingDirectory := by
  induction commands generalizing calls files with
  | nil => rfl
  | cons command rest ih =>
      rw [runCommands]
      dsimp only
      split
      · exact ih _ _
      · rfl

theorem workingDirectory_build (target : Target) (runner : Runner) (deadline : Deadline)
    (files : FileSystem) (paths : OutputPaths) (text : Bytes) :
    (build target runner deadline files paths text).files.workingDirectory =
      files.workingDirectory := by
  rw [build]
  split
  · rfl
  · rename_i after hwrite
    rw [workingDirectory_runCommands, (changesOnly_writeAssembly hwrite).2]

theorem Plan.within_emit (plan : Plan) (files : FileSystem) :
    files.tree.Within (plan.emit files).files.tree := by
  rw [Plan.emit]
  split
  · exact .refl files.tree
  · rename_i after hwrite
    exact within_writeAssembly hwrite

/-! ### Cleaning up -/

section CleanUp

variable {files : FileSystem} {executable : Bytes} {location : Location}

theorem keepsUnless_discard (executable : Bytes) {suffix : Bytes} (hsuffix : IsSuffix suffix)
    (h : files.tree.get? location = some .directory) :
    (discard files (executable ++ suffix)).1.tree.KeepsUnless location
      (files.LeadsToEmpty (executable ++ suffix) location) := by
  cases hremove : files.remove (executable ++ suffix) with
  | ok after =>
      rw [discard_of_remove_eq_ok hremove]
      obtain ⟨gone, hgone, hcase⟩ := (remove_append_eq_ok_iff hsuffix).mp hremove
      have htree : after.tree = files.tree.erase gone := by
        rcases hcase with ⟨-, rfl⟩ | ⟨-, -, rfl⟩ <;> rfl
      obtain ⟨hreach, hne⟩ := hgone.reach?
      constructor
      · intro hempty
        have hsame := Option.some_inj.mp (hempty.leads.reach?.1.symm.trans hreach)
        rw [htree, FileTree.get?_erase _ hne, if_pos hsame]
      · intro hkept
        rw [htree, FileTree.get?_erase _ hne, if_neg, h]
        rintro rfl
        rcases hcase with ⟨⟨content, hfile⟩, -⟩ | ⟨-, hempty, -⟩
        · cases h.symm.trans hfile
        · exact hkept ⟨hgone, hempty⟩
  | error e =>
      rw [discard_of_remove_eq_error hremove]
      refine ⟨?_, fun _ => h⟩
      intro hempty
      have hok := (remove_append_eq_ok_iff hsuffix).mpr
        ⟨location, hempty.leads, .inr ⟨h, hempty.empty, rfl⟩⟩
      cases hremove.symm.trans hok

theorem get?_discard_of_none (path : Bytes) (h : files.tree.get? location = none) :
    (discard files path).1.tree.get? location = none := by
  cases hremove : files.remove path with
  | ok after =>
      obtain ⟨gone, -, hne, htree, -⟩ := exists_erase_of_remove hremove
      rw [discard_of_remove_eq_ok hremove, htree, FileTree.get?_erase _ hne, h, ite_self]
  | error e => rw [discard_of_remove_eq_error hremove, h]

theorem hasChildren_discard_beside {left right : Bytes} (hleft : IsSuffix left)
    (hright : IsSuffix right)
    (h : (discard files (executable ++ left)).1.LeadsTo (executable ++ right) location) :
    (discard files (executable ++ left)).1.tree.hasChildren location =
      files.tree.hasChildren location := by
  cases hremove : files.remove (executable ++ left) with
  | ok after =>
      rw [discard_of_remove_eq_ok hremove] at h ⊢
      obtain ⟨gone, hgone, htree, -⟩ := exists_of_remove_append hleft hremove
      obtain ⟨last, outer, rfl, rfl⟩ := (h.of_remove hremove).exists_beside hright hleft hgone
      rw [htree, FileTree.hasChildren_erase_beside]
  | error e => rw [discard_of_remove_eq_error hremove]

theorem keepsUnless_cleanUp {paths : OutputPaths} {target : Target}
    (hpaths : paths = .beside executable target.extension)
    (h : files.tree.get? location = some .directory) :
    (cleanUp files paths).1.tree.KeepsUnless location (files.Clears paths location) := by
  subst hpaths
  have hextension := target.isSuffix_extension
  have hobject := OutputPaths.isSuffix_object
  have hfirst := keepsUnless_discard executable hextension h
  by_cases hassembly : files.LeadsToEmpty (executable ++ target.extension) location
  · have hgone := get?_discard_of_none (executable ++ utf8 ".o") (hfirst.gone hassembly)
    exact ⟨fun _ => hgone, fun hkept => absurd ⟨hassembly.empty, .inl hassembly.leads⟩ hkept⟩
  · -- The directory is still there for the second removal, with as much in it as before.
    have hsecond := keepsUnless_discard executable hobject (hfirst.kept hassembly)
    constructor
    · rintro ⟨hempty, hleads | hleads⟩
      · exact absurd ⟨hleads, hempty⟩ hassembly
      · exact hsecond.gone ⟨hleads,
          (hasChildren_discard_beside hextension hobject hleads).trans hempty⟩
    · intro hkept
      apply hsecond.kept
      rintro ⟨hleads, hempty⟩
      rw [hasChildren_discard_beside hextension hobject hleads] at hempty
      exact hkept ⟨hempty, .inr hleads⟩

end CleanUp

/-! ### Runs -/

theorem exists_beside_of_chooseOutputs {workingDirectory : Option Bytes} {settings : Settings}
    {target : Target} {directory source : Bytes} {paths : OutputPaths}
    (h : chooseOutputs workingDirectory settings target directory source = .ok paths) :
    ∃ executable, paths = .beside executable target.extension := by
  by_cases hnone : settings.output = []
  · rw [chooseOutputs_default _ _ _ _ hnone] at h
    cases h
    split
    · exact ⟨_, rfl⟩
    · exact ⟨_, rfl⟩
  · rw [chooseOutputs, if_pos hnone] at h
    dsimp only at h
    split at h
    · cases h
    · cases h
      exact ⟨_, rfl⟩

variable {settings : Settings} {files : FileSystem} {source : Bytes} {location : Location}

/-- The run builds and cleans up, and the location is cleared then. -/
def CleansAway (settings : Settings) (runner : Runner) (files : FileSystem) (source : Bytes)
    (location : Location) : Prop :=
  ∃ notes plan, prepare settings files source = (notes, .ok plan) ∧
    settings.emitAssembly = false ∧ settings.keep = false ∧
    (build plan.target runner settings.deadline files plan.paths plan.assembly).files.Clears
      plan.paths location

theorem cleansAway_iff {runner : Runner} {notes : Notes} {plan : Plan}
    (hprepare : prepare settings files source = (notes, .ok plan)) :
    CleansAway settings runner files source location ↔
      settings.emitAssembly = false ∧ settings.keep = false ∧
        (build plan.target runner settings.deadline files plan.paths plan.assembly).files.Clears
          plan.paths location := by
  constructor
  · rintro ⟨notes', plan', hprepare', hclears⟩
    cases hprepare.symm.trans hprepare'
    exact hclears
  · exact fun hclears => ⟨notes, plan, hprepare, hclears⟩

theorem keepsUnless_run {runner : Runner} (hrunner : runner.RemovesNothing)
    (h : files.tree.get? location = some .directory) :
    (run settings runner files source).files.tree.KeepsUnless location
      (CleansAway settings runner files source location) := by
  rcases hprepare : prepare settings files source with ⟨notes, failure | plan⟩
  · rw [run_of_prepare_error hprepare]
    refine ⟨?_, fun _ => h⟩
    rintro ⟨notes', plan', hprepare', -⟩
    cases hprepare.symm.trans hprepare'
  obtain ⟨_, _, _, -, -, -, -, -, hchoice⟩ := exists_of_prepare hprepare
  obtain ⟨executable, hpaths⟩ := exists_beside_of_chooseOutputs hchoice
  have hbuilt := (within_build hrunner plan.target settings.deadline files plan.paths
    plan.assembly).directory location h
  rw [(run_of_prepare_ok hprepare runner).1, Plan.carryOut, cleansAway_iff hprepare]
  cases hemit : settings.emitAssembly with
  | true => exact ⟨by simp, fun _ => (plan.within_emit files).directory location h⟩
  | false =>
      rw [if_neg Bool.false_ne_true, Plan.files_build]
      cases hkeep : settings.keep with
      | true => exact ⟨by simp, fun _ => hbuilt⟩
      | false =>
          have hcleaned := keepsUnless_cleanUp hpaths hbuilt
          exact ⟨fun hclears => hcleaned.gone hclears.2.2,
            fun hkept => hcleaned.kept fun hclears => hkept ⟨rfl, rfl, hclears⟩⟩

theorem FileSystem.Clears.exists_reach? {paths : OutputPaths} (h : files.Clears paths location) :
    ∃ path ∈ [paths.assembly, paths.object],
      files.workingDirectory.reach? path = some location := by
  rcases h.2 with hleads | hleads
  · exact ⟨_, by simp, hleads.reach?.1⟩
  · have hreach := (changesOnly_discard files paths.assembly).reach _ _ hleads.reach?.1
    exact ⟨_, by simp, hreach⟩

/-- **What a run removes of directories.** With tools that remove nothing, a directory is still
there after a run, or nothing is. It is gone exactly if the run has built and cleaned up, and the
path of the assembly or that of the object file led to it then and nothing was in it. So nothing was
in it before the run either, and it stood in the place of one of these two files. -/
theorem run_removes_only_empty_directories_at_intermediates {runner : Runner}
    (hrunner : runner.RemovesNothing) (settings : Settings) (files : FileSystem) (source : Bytes)
    {location : Location} (hdirectory : files.tree.get? location = some .directory) :
    let after := (run settings runner files source).files
    (after.tree.get? location = some .directory ∨ after.tree.get? location = none) ∧
    (after.tree.get? location = none ↔ CleansAway settings runner files source location) ∧
    (after.tree.get? location = none → files.tree.hasChildren location = false ∧
      ∃ notes plan, prepare settings files source = (notes, .ok plan) ∧
        ∃ path ∈ [plan.paths.assembly, plan.paths.object],
          files.workingDirectory.reach? path = some location) := by
  intro after
  obtain ⟨hgone, hkept⟩ : after.tree.KeepsUnless location _ := keepsUnless_run hrunner hdirectory
  have hiff : after.tree.get? location = none ↔
      CleansAway settings runner files source location := by
    refine ⟨?_, hgone⟩
    intro hnone
    by_contra hnot
    cases hnone.symm.trans (hkept hnot)
  refine ⟨?_, hiff, ?_⟩
  · by_cases hclears : CleansAway settings runner files source location
    · exact Or.inr (hgone hclears)
    · exact Or.inl (hkept hclears)
  · intro hnone
    obtain ⟨notes, plan, hprepare, -, -, hclears⟩ := hiff.mp hnone
    have hwithin := within_build hrunner plan.target settings.deadline files plan.paths
      plan.assembly
    refine ⟨?_, notes, plan, hprepare, ?_⟩
    · rw [Bool.eq_false_iff]
      intro hchildren
      cases hclears.1.symm.trans (hwithin.hasChildren hchildren)
    · rw [← workingDirectory_build plan.target runner settings.deadline files plan.paths
        plan.assembly]
      exact hclears.exists_reach?

/-- An empty directory in the place of the object file is cleared after the build, and one in the
place of the assembly that something is in stays. -/
theorem run_removes_empty_directory_beside_full_one :
    ∃ (runner : Runner) (files : FileSystem), runner.RemovesNothing ∧
      files.tree.get? [utf8 "prog.o", utf8 "w"] = some .directory ∧
      CleansAway .default runner files (utf8 "prog.exit") [utf8 "prog.o", utf8 "w"] ∧
      (run .default runner files (utf8 "prog.exit")).files.tree.get? [utf8 "prog.o", utf8 "w"] =
        none ∧
      files.tree.get? [utf8 "prog.asm", utf8 "w"] = some .directory ∧
      (run .default runner files (utf8 "prog.exit")).files.tree.get? [utf8 "prog.asm", utf8 "w"] =
        some .directory := by
  obtain ⟨tree, htree⟩ : ∃ tree, tree = ((FileTree.empty.addFile [utf8 "prog.exit", utf8 "w"]
      (utf8 "exit 5;")).addDirectory [utf8 "prog.o", utf8 "w"]).addFile
        [utf8 "x", utf8 "prog.asm", utf8 "w"] [] := ⟨_, rfl⟩
  have hrunner := Runner.removesNothing_scripted []
  have hobject : tree.get? [utf8 "prog.o", utf8 "w"] = some .directory := by
    rw [htree]
    decide
  have hassembly : tree.get? [utf8 "prog.asm", utf8 "w"] = some .directory := by
    rw [htree]
    decide
  have hchildren : tree.hasChildren [utf8 "prog.asm", utf8 "w"] = true := by
    rw [htree]
    decide
  have hgone : (run .default (.scripted []) ⟨tree, .present [utf8 "w"]⟩
      (utf8 "prog.exit")).files.tree.get? [utf8 "prog.o", utf8 "w"] = none := by
    rw [htree]
    decide
  have hempty := run_removes_only_empty_directories_at_intermediates hrunner .default
    ⟨tree, .present [utf8 "w"]⟩ (utf8 "prog.exit") hobject
  have hfull := run_removes_only_empty_directories_at_intermediates hrunner .default
    ⟨tree, .present [utf8 "w"]⟩ (utf8 "prog.exit") hassembly
  refine ⟨_, ⟨tree, .present [utf8 "w"]⟩, hrunner, hobject, hempty.2.1.mp hgone, hgone, hassembly,
    hfull.1.resolve_right ?_⟩
  intro hnone
  cases hchildren.symm.trans (hfull.2.2 hnone).1

/-- A directory that keeps the assembly from being written is gone after the failed run. -/
theorem run_removes_directory_in_the_way :
    ∃ (runner : Runner) (files : FileSystem), runner.RemovesNothing ∧
      files.tree.get? [utf8 "prog.asm", utf8 "w"] = some .directory ∧
      (run .default runner files (utf8 "prog.exit")).failure.isSome = true ∧
      (run .default runner files (utf8 "prog.exit")).files.tree.get? [utf8 "prog.asm", utf8 "w"] =
        none := by
  have hrunner := Runner.removesNothing_scripted []
  exact ⟨_, ⟨(FileTree.empty.addFile [utf8 "prog.exit", utf8 "w"] (utf8 "exit 5;")).addDirectory
    [utf8 "prog.asm", utf8 "w"], .present [utf8 "w"]⟩, hrunner, by decide, by decide, by decide⟩

end ExitLang
