import ExitLang.Proofs.Intermediates

/-!
# The calls of a build

A build hands its tools to the runner one after the other, each with the tree that the one before
has left, and ends with the first that fails. So a run of calls that all succeed can be taken off
the front, and what remains is decided by the next reply alone.
-/

namespace ExitLang

/-- The tree that the runner leaves, under the same standpoint. -/
def Runner.filesAfter (runner : Runner) (before : List Command) (command : Command)
    (files : FileSystem) : FileSystem :=
  { files with tree := (runner before command files).2 }

/-- The calls succeed one after the other, each made after those before it and with the files that
they have left. -/
inductive Runner.Completes (runner : Runner) :
    List Command → List Command → FileSystem → FileSystem → Prop where
  | nil (before : List Command) (files : FileSystem) : Completes runner before [] files files
  | cons {before rest : List Command} {command : Command} {files after : FileSystem}
      (succeeds : (runner before command files).1.error = none)
      (completes : Completes runner (before ++ [command]) rest
        (runner.filesAfter before command files) after) :
      Completes runner before (command :: rest) files after

/-- What a tool reads: its last argument. -/
def Command.input? (command : Command) : Option Bytes :=
  command.arguments.getLast?

/-- What a tool makes: the argument behind the first `-o`. -/
def Command.output? (command : Command) : Option Bytes :=
  (command.arguments.dropWhile (· ≠ utf8 "-o")).tail.head?

/-! ### One call -/

theorem runCommands_cons_of_succeeds {runner : Runner} {before : List Command} {command : Command}
    {files : FileSystem} (h : (runner before command files).1.error = none) (deadline : Deadline)
    (rest : List Command) :
    runCommands runner deadline before (command :: rest) files =
      runCommands runner deadline (before ++ [command]) rest
        (runner.filesAfter before command files) := by
  rw [runCommands]
  simp only [h]
  rfl

theorem runCommands_cons_of_fails {runner : Runner} {before : List Command} {command : Command}
    {files : FileSystem} {error : Bytes} (h : (runner before command files).1.error = some error)
    (deadline : Deadline) (rest : List Command) :
    runCommands runner deadline before (command :: rest) files =
      ⟨some (.tool ⟨command.tool, command.arguments, (runner before command files).1.output,
          some (deadline.error?.getD error)⟩),
        runner.filesAfter before command files, before ++ [command]⟩ := by
  rw [runCommands]
  simp only [h]
  rfl

/-! ### All calls -/

/-- Calls that succeed are made, and the build goes on with the others. -/
theorem Runner.Completes.runCommands_append {runner : Runner} {before passed : List Command}
    {files between : FileSystem} (h : runner.Completes before passed files between)
    (deadline : Deadline) (rest : List Command) :
    runCommands runner deadline before (passed ++ rest) files =
      runCommands runner deadline (before ++ passed) rest between := by
  induction h with
  | nil before files => rw [List.nil_append, List.append_nil]
  | cons succeeds completes ih =>
      rw [List.cons_append, runCommands_cons_of_succeeds succeeds, ih, ← List.append_cons]

/-- Either all calls succeed, or there is a first one that fails. -/
theorem Runner.completes_or_fails (runner : Runner) (before commands : List Command)
    (files : FileSystem) :
    (∃ after, runner.Completes before commands files after) ∨
      ∃ passed failing rest between error, commands = passed ++ failing :: rest ∧
        runner.Completes before passed files between ∧
        (runner (before ++ passed) failing between).1.error = some error := by
  induction commands generalizing before files with
  | nil => exact .inl ⟨files, .nil before files⟩
  | cons command rest ih =>
      cases hreply : (runner before command files).1.error with
      | some error =>
          refine .inr ⟨[], command, rest, files, error, rfl, .nil before files, ?_⟩
          rw [List.append_nil, hreply]
      | none =>
          rcases ih (before ++ [command]) (runner.filesAfter before command files) with
            ⟨after, hcompletes⟩ | ⟨passed, failing, later, between, error, rfl, hpassed, hfails⟩
          · exact .inl ⟨after, .cons hreply hcompletes⟩
          · refine .inr ⟨command :: passed, failing, later, between, error, rfl,
              .cons hreply hpassed, ?_⟩
            rwa [List.append_cons]

theorem Runner.Completes.runCommands_eq {runner : Runner} {before commands : List Command}
    {files after : FileSystem} (h : runner.Completes before commands files after)
    (deadline : Deadline) :
    runCommands runner deadline before commands files = ⟨none, after, before ++ commands⟩ := by
  have hall := h.runCommands_append deadline []
  rwa [List.append_nil, runCommands] at hall

theorem Runner.Completes.runCommands_eq_of_fails {runner : Runner}
    {before passed rest : List Command} {failing : Command} {files between : FileSystem}
    {error : Bytes} (h : runner.Completes before passed files between)
    (hfails : (runner (before ++ passed) failing between).1.error = some error)
    (deadline : Deadline) :
    runCommands runner deadline before (passed ++ failing :: rest) files =
      ⟨some (.tool ⟨failing.tool, failing.arguments,
          (runner (before ++ passed) failing between).1.output,
          some (deadline.error?.getD error)⟩),
        runner.filesAfter (before ++ passed) failing between, before ++ passed ++ [failing]⟩ := by
  rw [h.runCommands_append, runCommands_cons_of_fails hfails]

/-- No failure is reported exactly if all calls succeed. -/
theorem runCommands_failure_eq_none_iff (runner : Runner) (deadline : Deadline)
    (before commands : List Command) (files : FileSystem) :
    (runCommands runner deadline before commands files).failure = none ↔
      ∃ after, runner.Completes before commands files after := by
  constructor
  · intro hnone
    rcases runner.completes_or_fails before commands files with
      hcompletes | ⟨passed, failing, rest, between, error, rfl, hpassed, hfails⟩
    · exact hcompletes
    · rw [hpassed.runCommands_eq_of_fails hfails] at hnone
      cases hnone
  · rintro ⟨after, hcompletes⟩
    rw [hcompletes.runCommands_eq]

/-! ### Builds -/

/-- Each tool of a build reads what the step before it has made. -/
theorem Target.exists_commands_eq (target : Target) (paths : OutputPaths) :
    ∃ assemble link, target.commands paths = [assemble, link] ∧
      assemble.input? = some paths.assembly ∧ assemble.output? = some paths.object ∧
      link.input? = assemble.output? ∧ link.output? = some paths.executable := by
  have hformat : utf8 "-f" ≠ utf8 "-o" := by decide
  have helf : utf8 "elf64" ≠ utf8 "-o" := by decide
  refine ⟨_, _, rfl, ?_⟩
  split <;> simp [Command.input?, Command.output?, hformat, helf]

theorem build_of_write_eq_error {files : FileSystem} {paths : OutputPaths} {text : Bytes}
    {e : FileError} (h : files.write paths.assembly text = .error e) (target : Target)
    (runner : Runner) (deadline : Deadline) :
    build target runner deadline files paths text =
      ⟨some (.write ⟨paths.assembly, e⟩), files, []⟩ := by
  rw [build, writeAssembly, h]

theorem build_of_write_eq_ok {files written : FileSystem} {paths : OutputPaths} {text : Bytes}
    (h : files.write paths.assembly text = .ok written) (target : Target) (runner : Runner)
    (deadline : Deadline) :
    build target runner deadline files paths text =
      runCommands runner deadline [] (target.commands paths) written := by
  rw [build, writeAssembly, h]

/-- The cause of a failed call is the tool's own error as long as the limit lies ahead, and the end
of the limit afterwards. -/
theorem Deadline.cause_cases (deadline : Deadline) (error : Bytes) :
    deadline = .ahead ∧ deadline.error?.getD error = error ∨
      deadline = .cancelled ∧ deadline.error?.getD error = utf8 "context canceled" ∨
      deadline = .expired ∧ deadline.error?.getD error = utf8 "context deadline exceeded" := by
  cases deadline with
  | ahead => exact .inl ⟨rfl, rfl⟩
  | cancelled => exact .inr (.inl ⟨rfl, rfl⟩)
  | expired => exact .inr (.inr ⟨rfl, rfl⟩)

/-- A build makes no call if the assembly cannot be written, and otherwise the calls up to the first
that fails. It reports that failure, and none exactly if all calls succeed. The cause that it
reports is the error of the tool, or that of the limit if the build was cancelled or ran out of
time. -/
theorem build_stops_at_first_failure (target : Target) (runner : Runner) (deadline : Deadline)
    (files : FileSystem) (paths : OutputPaths) (text : Bytes) :
    let commands := target.commands paths
    let result := build target runner deadline files paths text
    (∀ e, files.write paths.assembly text = .error e →
      result = ⟨some (.write ⟨paths.assembly, e⟩), files, []⟩) ∧
    (∀ written, files.write paths.assembly text = .ok written →
      written.read paths.assembly = .ok text ∧
      (result.failure = none ↔ ∃ after, runner.Completes [] commands written after) ∧
      ((∃ after, runner.Completes [] commands written after ∧ result = ⟨none, after, commands⟩) ∨
        ∃ passed failing rest between error cause, commands = passed ++ failing :: rest ∧
          runner.Completes [] passed written between ∧
          (runner passed failing between).1.error = some error ∧
          (deadline = .ahead ∧ cause = error ∨
            deadline = .cancelled ∧ cause = utf8 "context canceled" ∨
            deadline = .expired ∧ cause = utf8 "context deadline exceeded") ∧
          result = ⟨some (.tool ⟨failing.tool, failing.arguments,
              (runner passed failing between).1.output, some cause⟩),
            runner.filesAfter passed failing between, passed ++ [failing]⟩)) ∧
    (∃ assemble link, commands = [assemble, link] ∧
      assemble.input? = some paths.assembly ∧ assemble.output? = some paths.object ∧
      link.input? = assemble.output? ∧ link.output? = some paths.executable) := by
  intro commands result
  refine ⟨?_, ?_, target.exists_commands_eq paths⟩
  · intro e herror
    exact build_of_write_eq_error herror target runner deadline
  · intro written hwrite
    have hresult : result = runCommands runner deadline [] commands written :=
      build_of_write_eq_ok hwrite target runner deadline
    rw [hresult]
    refine ⟨read_of_write hwrite, runCommands_failure_eq_none_iff .., ?_⟩
    rcases runner.completes_or_fails [] commands written with
      ⟨after, hcompletes⟩ | ⟨passed, failing, rest, between, error, hsplit, hpassed, hfails⟩
    · exact .inl ⟨after, hcompletes, hcompletes.runCommands_eq deadline⟩
    · refine .inr ⟨passed, failing, rest, between, error, _, hsplit, hpassed, hfails,
        deadline.cause_cases error, ?_⟩
      rw [hsplit]
      exact hpassed.runCommands_eq_of_fails hfails deadline

end ExitLang
