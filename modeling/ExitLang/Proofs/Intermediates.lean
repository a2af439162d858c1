import ExitLang.Proofs.FileAccess
import ExitLang.Proofs.FirstFailure

/-!
# Intermediate files

After a build the assembly and the object file are removed, whatever the tools did and whatever came
of the build. Where they are to be kept, or where the run stops after the assembly, the assembly
file holds what was compiled as long as no tool interferes.
-/

namespace ExitLang

open FileSystem

/-- Reading the path gives the content of a file. -/
def FileSystem.NamesFile (files : FileSystem) (path : Bytes) : Prop :=
  ∃ content, files.read path = .ok content

/-! ### Cleaning up -/

theorem not_namesFile_discard (files : FileSystem) (path : Bytes) :
    ¬ (discard files path).1.NamesFile path := by
  rintro ⟨content, hread⟩
  rw [discard] at hread
  split at hread
  · rename_i after hremove
    exact not_read_of_remove hremove hread
  · rename_i e hrefused
    obtain ⟨after, hremove⟩ := exists_remove_of_read hread
    cases hrefused.symm.trans hremove

theorem namesFile_of_discard {files : FileSystem} {path other : Bytes}
    (h : (discard files other).1.NamesFile path) : files.NamesFile path := by
  obtain ⟨content, hread⟩ := h
  rw [discard] at hread
  split at hread
  · rename_i after hremove
    exact ⟨content, read_of_read_remove hremove hread⟩
  · exact ⟨content, hread⟩

theorem not_namesFile_cleanUp (files : FileSystem) (paths : OutputPaths) :
    ¬ (cleanUp files paths).1.NamesFile paths.assembly ∧
      ¬ (cleanUp files paths).1.NamesFile paths.object := by
  constructor
  · -- The object file is removed after the assembly, which does not bring the assembly back.
    intro hassembly
    exact not_namesFile_discard files paths.assembly (namesFile_of_discard hassembly)
  · exact not_namesFile_discard (discard files paths.assembly).1 paths.object

theorem Plan.files_build (plan : Plan) (runner : Runner) (deadline : Deadline) (keep : Bool)
    (files : FileSystem) :
    (plan.build runner deadline keep files).files =
      if keep then
        (ExitLang.build plan.target runner deadline files plan.paths plan.assembly).files
      else
        (cleanUp (ExitLang.build plan.target runner deadline files plan.paths
          plan.assembly).files plan.paths).1 := by
  rw [Plan.build]
  cases keep <;> split <;> rfl

/-! ### Keeping the assembly -/

theorem FileTree.FilesWritten.within {places : Location → Prop} {before after : FileTree}
    (h : before.FilesWritten places after) : before.Within after := by
  refine ⟨?_, ?_⟩
  · intro location hdirectory
    rcases h location with hsame | ⟨-, hentry, -⟩
    · rw [hsame, hdirectory]
    · exact absurd hdirectory hentry
  · intro location hentry
    rcases h location with hsame | ⟨-, -, content, hwritten⟩
    · rwa [hsame]
    · simp [hwritten]

/-- What was written is read back. -/
theorem read_of_write {files after : FileSystem} {path content : Bytes}
    (hwrite : files.write path content = .ok after) : after.read path = .ok content := by
  have hwithin := (filesWritten_write hwrite).within
  obtain ⟨location, hleads, -, rfl⟩ := write_eq_ok_iff.mp hwrite
  refine read_eq_ok_iff.mpr ⟨location, hleads.mono hwithin, ?_⟩
  rw [FileTree.get?_put _ hleads.reach?.2, if_pos rfl]

/-- The calls leave a file with its content, in whatever tree they find it. -/
def Runner.Spares (runner : Runner) (commands : List Command) (standpoint : Standpoint)
    (path content : Bytes) : Prop :=
  ∀ calls, ∀ command ∈ commands, ∀ tree, FileSystem.read ⟨tree, standpoint⟩ path = .ok content →
    FileSystem.read ⟨(runner calls command ⟨tree, standpoint⟩).2, standpoint⟩ path = .ok content

/-- Tools that only write files spare those that they do not write. -/
theorem Runner.WritesOnly.spares {runner : Runner} {paths : List Bytes} {standpoint : Standpoint}
    (h : runner.WritesOnly paths standpoint) {path : Bytes}
    (hapart : ∀ other ∈ paths, standpoint.reach? other ≠ standpoint.reach? path)
    (commands : List Command) (content : Bytes) :
    runner.Spares commands standpoint path content := by
  intro calls command _ tree hread
  have hwritten := h calls command tree
  obtain ⟨location, hleads, hentry⟩ := read_eq_ok_iff.mp hread
  refine read_eq_ok_iff.mpr ⟨location, hleads.mono hwritten.within, ?_⟩
  rcases hwritten location with hsame | ⟨⟨other, hmem, hreach⟩, -⟩
  · exact hsame.trans hentry
  · exact absurd (hreach.trans hleads.reach?.1.symm) (hapart other hmem)

theorem read_runCommands {runner : Runner} {path content : Bytes} {commands : List Command}
    {files : FileSystem}
    (hrunner : runner.Spares commands files.workingDirectory path content)
    (hread : files.read path = .ok content) (deadline : Deadline) (calls : List Command) :
    (runCommands runner deadline calls commands files).files.read path = .ok content := by
  induction commands generalizing calls files with
  | nil => exact hread
  | cons command rest ih =>
      -- Whether the call fails and ends the build or not, the file is as it was.
      have hstep := hrunner calls command List.mem_cons_self files.tree hread
      rw [runCommands]
      dsimp only
      split
      · apply ih
        · intro earlier later hmem
          exact hrunner earlier later (List.mem_cons_of_mem _ hmem)
        · exact hstep
      · exact hstep

theorem read_build {runner : Runner} {files after : FileSystem} {paths : OutputPaths}
    {text : Bytes} {target : Target}
    (hwrite : files.write paths.assembly text = .ok after)
    (hrunner : runner.Spares (target.commands paths) files.workingDirectory paths.assembly text)
    (deadline : Deadline) :
    (build target runner deadline files paths text).files.read paths.assembly = .ok text := by
  have hread := read_of_write hwrite
  have hdirectory : after.workingDirectory = files.workingDirectory := by
    obtain ⟨location, -, -, rfl⟩ := write_eq_ok_iff.mp hwrite
    rfl
  rw [← hdirectory] at hrunner
  rw [build, writeAssembly, hwrite]
  exact read_runCommands hrunner hread deadline []

theorem Plan.read_emit {plan : Plan} {files after : FileSystem}
    (hwrite : files.write plan.paths.assembly plan.assembly = .ok after) :
    (plan.emit files).files.read plan.paths.assembly = .ok plan.assembly := by
  rw [Plan.emit, writeAssembly, hwrite]
  exact read_of_write hwrite

/-- **Intermediate files do not survive a build unless they are kept.** Whatever the tools do, and
whether the build succeeds or fails, afterwards neither the path of the assembly nor that of the
object file names a file, and the run ends as the build did before anything was removed. Where the
intermediate files are kept, or the run stops after the assembly, assembly that could be written and
that no tool touches is read back as it was compiled. -/
theorem run_removes_intermediates_unless_kept (runner : Runner) {settings : Settings}
    {files : FileSystem} {source : Bytes} {notes : Notes} {plan : Plan}
    (hprepare : prepare settings files source = (notes, .ok plan)) {outcome : Outcome}
    (houtcome : run settings runner files source = outcome) :
    (settings.emitAssembly = false →
      outcome.failure = (build plan.target runner settings.deadline files plan.paths
        plan.assembly).failure.map Failure.build ∧
      (settings.keep = false → ¬ outcome.files.NamesFile plan.paths.assembly ∧
        ¬ outcome.files.NamesFile plan.paths.object)) ∧
    (settings.emitAssembly = true ∨ settings.keep = true →
      ∀ path content made written, Path.absolute files.workingPath source = some path →
        files.read path = .ok content → compile content plan.target = .ok made →
        files.write plan.paths.assembly made.assembly = .ok written →
        (settings.emitAssembly = false →
          runner.Spares (plan.target.commands plan.paths) files.workingDirectory
            plan.paths.assembly made.assembly) →
        outcome.files.read plan.paths.assembly = .ok made.assembly) := by
  subst houtcome
  obtain ⟨hfiles, -, hfailure⟩ := run_of_prepare_ok hprepare runner
  rw [hfiles, hfailure, Plan.carryOut]
  refine ⟨?_, ?_⟩
  · intro hbuild
    rw [if_neg (by simp [hbuild])]
    refine ⟨(plan.failure_and_calls_build runner settings.deadline settings.keep files).1, ?_⟩
    intro hkeep
    rw [Plan.files_build, hkeep]
    exact not_namesFile_cleanUp _ plan.paths
  · intro hkept path content made written hpath hread hcompile hwrite hrunner
    obtain ⟨path', content', made', hpath', hread', -, hcompile', hassembly, -⟩ :=
      exists_of_prepare hprepare
    obtain rfl : path = path' := Option.some_inj.mp (hpath.symm.trans hpath')
    obtain rfl : content = content' := Except.ok.inj (hread.symm.trans hread')
    obtain rfl : made = made' := Except.ok.inj (hcompile.symm.trans hcompile')
    rw [← hassembly] at hwrite hrunner ⊢
    cases hemit : settings.emitAssembly with
    | true => exact Plan.read_emit hwrite
    | false =>
        have hkeep : settings.keep = true := by simpa [hemit] using hkept
        rw [if_neg Bool.false_ne_true, Plan.files_build, hkeep]
        exact read_build hwrite (hrunner hemit) settings.deadline

theorem exists_prepare_of_snd {settings : Settings} {files : FileSystem} {source : Bytes}
    {target : Target} {paths : OutputPaths}
    (h : (prepare settings files source).2.toOption.map (fun plan => (plan.target, plan.paths)) =
      some (target, paths)) :
    ∃ notes plan, prepare settings files source = (notes, .ok plan) ∧ plan.target = target ∧
      plan.paths = paths := by
  rcases hprepare : prepare settings files source with ⟨notes, failure | plan⟩
  · rw [hprepare] at h
    cases h
  · rw [hprepare] at h
    cases h
    exact ⟨notes, plan, rfl, rfl, rfl⟩

/-- A linker that fails after the assembler has made its file leaves nothing intermediate, and the
assembly where it is kept. -/
theorem run_removes_intermediates_after_failed_link :
    ∃ (runner : Runner) (files : FileSystem) (made : Compilation),
      compile (utf8 "exit 5;") .linuxAmd64 = .ok made ∧
      (run .default runner files (utf8 "prog.exit")).failure.isSome = true ∧
      (¬ (run .default runner files (utf8 "prog.exit")).files.NamesFile (utf8 "/w/prog.asm") ∧
        ¬ (run .default runner files (utf8 "prog.exit")).files.NamesFile (utf8 "/w/prog.o")) ∧
      (run { Settings.default with keep := true } runner files (utf8 "prog.exit")).files.read
        (utf8 "/w/prog.asm") = .ok made.assembly := by
  have hplan : ∀ keep, ∃ notes plan, prepare { Settings.default with keep := keep }
        ⟨FileTree.empty.addFile [utf8 "prog.exit", utf8 "w"] (utf8 "exit 5;"), .present [utf8 "w"]⟩
        (utf8 "prog.exit") = (notes, .ok plan) ∧
      plan.target = .linuxAmd64 ∧
      plan.paths = ⟨utf8 "/w/prog.asm", utf8 "/w/prog.o", utf8 "/w/prog"⟩ := by
    intro keep
    apply exists_prepare_of_snd
    cases keep <;> decide
  obtain ⟨made, hcompile⟩ : ∃ made, compile (utf8 "exit 5;") .linuxAmd64 = .ok made := by
    rcases hcompile : compile (utf8 "exit 5;") .linuxAmd64 with e | made
    · have hok : (compile (utf8 "exit 5;") .linuxAmd64).toOption.isSome = true := by decide
      simp [hcompile, Except.toOption] at hok
    · exact ⟨made, rfl⟩
  have hwrites : (Runner.scripted [⟨[utf8 "/w/prog.o"], ⟨[], none⟩⟩,
      ⟨[], ⟨[], some (utf8 "exit status 1")⟩⟩]).WritesOnly [utf8 "/w/prog.o"]
        (.present [utf8 "w"]) := Runner.scripted_writesOnly (by decide) _
  refine ⟨.scripted [⟨[utf8 "/w/prog.o"], ⟨[], none⟩⟩, ⟨[], ⟨[], some (utf8 "exit status 1")⟩⟩],
    ⟨FileTree.empty.addFile [utf8 "prog.exit", utf8 "w"] (utf8 "exit 5;"), .present [utf8 "w"]⟩,
    made, hcompile, by decide, ?_, ?_⟩
  · obtain ⟨notes, plan, hprepare, -, hpaths⟩ := hplan false
    have hgone := fun runner =>
      ((run_removes_intermediates_unless_kept runner hprepare rfl).1 rfl).2 rfl
    rw [hpaths] at hgone
    exact hgone _
  · obtain ⟨notes, plan, hprepare, htarget, hpaths⟩ := hplan true
    have hkept := fun runner =>
      (run_removes_intermediates_unless_kept runner hprepare rfl).2 (.inr rfl)
    rw [htarget, hpaths] at hkept
    apply hkept _ (utf8 "/w/prog.exit") (utf8 "exit 5;") made
    · decide
    · decide
    · exact hcompile
    · refine write_eq_ok_iff.mpr ⟨[utf8 "prog.asm", utf8 "w"], ?_, by decide, rfl⟩
      exact leadsTo_iff.mpr ⟨.present [utf8 "w"], utf8 "prog.asm", by decide, by decide⟩
    · exact fun _ => hwrites.spares (by decide) _ _

end ExitLang
