import ExitLang.CommandLine.Execute
import ExitLang.Proofs.Meaning
import ExitLang.Proofs.RunEffects

/-!
# Which failure a run ends with

A run goes through its stages in a fixed order. `StageFails` says for each stage what it takes to
fail, from the settings, the files, the source and the tools and without the run, and the failure of
a run is that of the first stage that fails. Two stages of the program have no place in the order:
code generation and the check of the generated assembly, which no source makes fail.

An output that was asked for is refused where it would fall on the source. `StageFails` says this
with the locations that the paths reach; the program compares absolute forms, and a relative output
has none once the working directory was removed. Such an output is let through, on whatever it
falls: `run_lets_output_fall_on_source`.
-/

namespace ExitLang

/-! ### Stages that never fail -/

theorem Target.mem_supported_of_lookup? {name : Bytes} {target : Target}
    (h : Target.lookup? name = some target) : target ∈ Target.supported :=
  List.mem_of_find?_eq_some h

/-- Tokens that make a program also make assembly, for any target. -/
theorem exists_compile_of_ofTokens {source : Bytes} {tokens : List Token} {program : Program}
    (htokens : tokenize source = .ok tokens) (hprogram : Program.ofTokens tokens = .ok program)
    (target : Target) : ∃ made, compile source target = .ok made := by
  have hreads := tokenize_eq_ok_iff.mp htokens
  have hsource : SpellsExit program.status source :=
    .of_spells (Scanner.exists_reads_iff.mp ⟨tokens, hreads, spelling_of_ofTokens hreads hprogram⟩)
  obtain ⟨made, hcompile, -⟩ := exists_compile_iff.mpr hsource
  exact ⟨made, hcompile⟩

theorem exists_check_of_compile {source : Bytes} {target : Target} {made : Compilation}
    (htarget : target ∈ Target.supported) (hcompile : compile source target = .ok made) :
    ∃ listing, Assembly.check target made.assembly = .ok listing := by
  have hwell := Target.wellFormed_of_mem_supported htarget
  obtain ⟨assembly, hgenerate, hcheck⟩ :=
    hwell.check_generate (spellsExit_status hcompile).isDigitRun
  obtain ⟨-, -, hassembly⟩ := compile_eq_ok_iff.mp hcompile
  obtain rfl : assembly = made.assembly := Except.ok.inj (hgenerate.symm.trans hassembly)
  exact ⟨_, hcheck⟩

/-- A source has a lexical error, has a syntax error, or gives assembly that passes the check. -/
theorem compile_cases (source : Bytes) {target : Target} (htarget : target ∈ Target.supported) :
    (∃ e, tokenize source = .error e ∧ compile source target = .error (.lexical e)) ∨
      (∃ tokens e, tokenize source = .ok tokens ∧ Program.ofTokens tokens = .error e ∧
        compile source target = .error (.syntactic tokens e)) ∨
      ∃ made listing, compile source target = .ok made ∧
        Assembly.check target made.assembly = .ok listing := by
  cases htokens : tokenize source with
  | error e => exact .inl ⟨e, rfl, by rw [compile, htokens]⟩
  | ok tokens =>
      cases hprogram : Program.ofTokens tokens with
      | error e =>
          have hcompile : compile source target = .error (.syntactic tokens e) := by
            simp only [compile, htokens, hprogram]
          exact .inr (.inl ⟨tokens, e, rfl, hprogram, hcompile⟩)
      | ok program =>
          obtain ⟨made, hcompile⟩ := exists_compile_of_ofTokens htokens hprogram target
          obtain ⟨listing, hcheck⟩ := exists_check_of_compile htarget hcompile
          exact .inr (.inr ⟨made, listing, hcompile, hcheck⟩)

/-! ### Stages that fail -/

/-- The stages of a run that can fail. -/
inductive RunStage where
  | target
  | read
  | lex
  | parse
  | output
  | write
  | build
  deriving DecidableEq

namespace RunStage

/-- The stages in their order. -/
def all : List RunStage := [target, read, lex, parse, output, write, build]

/-- The stages that come before a stage. -/
def before (stage : RunStage) : List RunStage := all.takeWhile fun earlier => earlier ≠ stage

/-- The name under which a stage is reported. The two that find a fault in the use of the command
have none. -/
def name? : RunStage → Option Bytes
  | target => none
  | read => some (utf8 "read")
  | lex => some (utf8 "lex")
  | parse => some (utf8 "parse")
  | output => none
  | write => some (utf8 "write")
  | build => some (utf8 "build")

theorem before_trichotomy :
    ∀ left right : RunStage, left = right ∨ left ∈ right.before ∨ right ∈ left.before := by
  intro left right
  cases left <;> cases right <;> decide

theorem eq_of_name?_eq :
    ∀ left right : RunStage, left.name?.isSome = true → left.name? = right.name? →
      left = right := by
  intro left right
  cases left <;> cases right <;> decide

end RunStage

/-- The source is a file with this content. -/
def SourceHolds (files : FileSystem) (source content : Bytes) : Prop :=
  ∃ path, Path.absolute files.workingPath source = some path ∧ files.read path = .ok content

/-- An output was asked for, and one of the files that it gives is at the location of the source. -/
def OutputOnSource (settings : Settings) (files : FileSystem) (target : Target)
    (source : Bytes) : Prop :=
  settings.output ≠ [] ∧
    ∃ output ∈ [settings.output ++ target.extension, settings.output ++ utf8 ".o", settings.output],
      files.workingDirectory.reach? output = files.workingDirectory.reach? source

/-- The output can be compared with the source: the working directory is there, or the output does
not need it. -/
def OutputComparable (settings : Settings) (files : FileSystem) : Prop :=
  files.workingDirectory.location?.isSome = true ∨ Path.isAbsolute settings.output = true

/-- An output was asked for, and one of the files that it gives has the absolute form of the
source. This is the comparison that the program makes. -/
def OutputCollides (settings : Settings) (files : FileSystem) (target : Target)
    (path : Bytes) : Prop :=
  settings.output ≠ [] ∧
    ∃ output ∈ [settings.output ++ target.extension, settings.output ++ utf8 ".o", settings.output],
      Path.absolute files.workingPath output = some path

/-- The plan is what the source, read and compiled, calls for. -/
def Plan.IsDue (settings : Settings) (files : FileSystem) (source : Bytes) (plan : Plan) : Prop :=
  Target.lookup? settings.target = some plan.target ∧
    ∃ path content made, Path.absolute files.workingPath source = some path ∧
      files.read path = .ok content ∧ compile content plan.target = .ok made ∧
      plan.assembly = made.assembly ∧
      chooseOutputs files.workingPath settings plan.target (Path.parent path) path
        = .ok plan.paths

/-- What it takes for a stage to fail, and the failure that it then reports. The last two stages
need what the others have made. -/
inductive StageFails (settings : Settings) (runner : Runner) (files : FileSystem)
    (source : Bytes) : RunStage → Failure → Prop
  | target (unknown : Target.lookup? settings.target = none) :
      StageFails settings runner files source .target (.usage (.unknownTarget settings.target))
  | nowhere (lost : Path.absolute files.workingPath source = none) :
      StageFails settings runner files source .read .noWorkingDirectory
  | read {path : Bytes} {e : FileError} (found : Path.absolute files.workingPath source = some path)
      (refused : files.read path = .error e) :
      StageFails settings runner files source .read (.read e)
  | lex {content : Bytes} {e : LexicalError} (holds : SourceHolds files source content)
      (fails : tokenize content = .error e) :
      StageFails settings runner files source .lex (.compile (.lexical e))
  | parse {content : Bytes} {tokens : List Token} {e : SyntaxError}
      (holds : SourceHolds files source content) (scans : tokenize content = .ok tokens)
      (fails : Program.ofTokens tokens = .error e) :
      StageFails settings runner files source .parse (.compile (.syntactic tokens e))
  | output {target : Target} {path : Bytes} (known : Target.lookup? settings.target = some target)
      (found : Path.absolute files.workingPath source = some path)
      (falls : OutputOnSource settings files target source)
      (comparable : OutputComparable settings files) :
      StageFails settings runner files source .output
        (.usage (.overwritesSource settings.output path))
  | write {plan : Plan} {e : WriteError} (emits : settings.emitAssembly = true)
      (due : plan.IsDue settings files source)
      (refused : writeAssembly files plan.paths plan.assembly = .error e) :
      StageFails settings runner files source .write (.write e)
  | build {plan : Plan} {e : BuildError} (builds : settings.emitAssembly = false)
      (due : plan.IsDue settings files source)
      (failed : (build plan.target runner settings.deadline files plan.paths
        plan.assembly).failure = some e) :
      StageFails settings runner files source .build (.build e)

/-- None of the stages fails. -/
def ComesThrough (settings : Settings) (runner : Runner) (files : FileSystem) (source : Bytes)
    (stages : List RunStage) : Prop :=
  ∀ stage ∈ stages, ∀ failure, ¬ StageFails settings runner files source stage failure

/-- The stage fails and none before it does. -/
structure FirstFailure (settings : Settings) (runner : Runner) (files : FileSystem)
    (source : Bytes) (stage : RunStage) (failure : Failure) : Prop where
  fails : StageFails settings runner files source stage failure
  first : ComesThrough settings runner files source stage.before

section Stages

variable {settings : Settings} {runner : Runner} {files : FileSystem} {source : Bytes}
  {stage : RunStage} {failure : Failure}

theorem SourceHolds.unique {content content' : Bytes} (h : SourceHolds files source content)
    (h' : SourceHolds files source content') : content = content' := by
  obtain ⟨path, hpath, hread⟩ := h
  obtain ⟨path', hpath', hread'⟩ := h'
  obtain rfl : path = path' := Option.some_inj.mp (hpath.symm.trans hpath')
  exact Except.ok.inj (hread.symm.trans hread')

theorem Plan.IsDue.unique {plan plan' : Plan} (h : plan.IsDue settings files source)
    (h' : plan'.IsDue settings files source) : plan = plan' := by
  obtain ⟨target, assembly, paths⟩ := plan
  obtain ⟨target', assembly', paths'⟩ := plan'
  obtain ⟨htarget, path, content, made, hpath, hread, hcompile, rfl, hpaths⟩ := h
  obtain ⟨htarget', path', content', made', hpath', hread', hcompile', rfl, hpaths'⟩ := h'
  dsimp only at *
  obtain rfl : target = target' := Option.some_inj.mp (htarget.symm.trans htarget')
  obtain rfl : path = path' := Option.some_inj.mp (hpath.symm.trans hpath')
  obtain rfl : content = content' := Except.ok.inj (hread.symm.trans hread')
  obtain rfl : made = made' := Except.ok.inj (hcompile.symm.trans hcompile')
  obtain rfl : paths = paths' := Except.ok.inj (hpaths.symm.trans hpaths')
  rfl

theorem StageFails.unique {other : Failure}
    (h : StageFails settings runner files source stage failure)
    (h' : StageFails settings runner files source stage other) : failure = other := by
  cases h with
  | target => cases h'; rfl
  | nowhere lost =>
      cases h' with
      | nowhere => rfl
      | read found => simp [lost] at found
  | read found refused =>
      cases h' with
      | nowhere lost => simp [lost] at found
      | read found' refused' =>
          rw [found] at found'
          cases found'
          rw [refused] at refused'
          cases refused'
          rfl
  | lex holds fails =>
      cases h' with
      | lex holds' fails' =>
          rw [← holds.unique holds', fails] at fails'
          cases fails'
          rfl
  | parse holds scans fails =>
      cases h' with
      | parse holds' scans' fails' =>
          rw [← holds.unique holds', scans] at scans'
          cases scans'
          rw [fails] at fails'
          cases fails'
          rfl
  | output _ found =>
      cases h' with
      | output _ found' =>
          rw [found] at found'
          cases found'
          rfl
  | write _ due refused =>
      cases h' with
      | write _ due' refused' =>
          rw [← due.unique due', refused] at refused'
          cases refused'
          rfl
  | build _ due failed =>
      cases h' with
      | build _ due' failed' =>
          rw [← due.unique due', failed] at failed'
          cases failed'
          rfl

theorem FirstFailure.unique {stage' : RunStage} {failure' : Failure}
    (h : FirstFailure settings runner files source stage failure)
    (h' : FirstFailure settings runner files source stage' failure') :
    stage = stage' ∧ failure = failure' := by
  rcases stage.before_trichotomy stage' with rfl | hbefore | hbefore
  · exact ⟨rfl, h.fails.unique h'.fails⟩
  · exact absurd h.fails (h'.first stage hbefore failure)
  · exact absurd h'.fails (h.first stage' hbefore failure')

theorem StageFails.stage?_eq (h : StageFails settings runner files source stage failure) :
    failure.stage? = stage.name? := by
  cases h <;> rfl

/-! ### Stages that do not fail -/

theorem comesThrough_nil : ComesThrough settings runner files source [] := List.forall_mem_nil _

theorem ComesThrough.concat {stages : List RunStage}
    (h : ComesThrough settings runner files source stages)
    (hstage : ∀ failure, ¬ StageFails settings runner files source stage failure) :
    ComesThrough settings runner files source (stages ++ [stage]) :=
  List.forall_mem_append.mpr ⟨h, List.forall_mem_singleton.mpr hstage⟩

theorem not_stageFails_target {target : Target} (h : Target.lookup? settings.target = some target)
    (other : Failure) : ¬ StageFails settings runner files source .target other := by
  intro hfails
  cases hfails with
  | target unknown => simp [h] at unknown

theorem SourceHolds.not_stageFails_read {content : Bytes} (h : SourceHolds files source content)
    (other : Failure) : ¬ StageFails settings runner files source .read other := by
  obtain ⟨path, hpath, hread⟩ := h
  intro hfails
  cases hfails with
  | nowhere lost => simp [hpath] at lost
  | read found refused =>
      rw [hpath] at found
      cases found
      simp [hread] at refused

theorem SourceHolds.not_stageFails_lex {content : Bytes} {tokens : List Token}
    (h : SourceHolds files source content) (hscans : tokenize content = .ok tokens)
    (other : Failure) : ¬ StageFails settings runner files source .lex other := by
  intro hfails
  cases hfails with
  | lex holds fails => simp [← h.unique holds, hscans] at fails

theorem SourceHolds.not_stageFails_parse {content : Bytes} {tokens : List Token} {program : Program}
    (h : SourceHolds files source content) (hscans : tokenize content = .ok tokens)
    (hparses : Program.ofTokens tokens = .ok program) (other : Failure) :
    ¬ StageFails settings runner files source .parse other := by
  intro hfails
  cases hfails with
  | parse holds scans fails =>
      rw [← h.unique holds, hscans] at scans
      cases scans
      simp [hparses] at fails

theorem not_stageFails_output {target : Target}
    (hknown : Target.lookup? settings.target = some target)
    (hapart : ¬ (OutputOnSource settings files target source ∧ OutputComparable settings files))
    (other : Failure) : ¬ StageFails settings runner files source .output other := by
  intro hfails
  cases hfails with
  | output known _ falls comparable =>
      rw [hknown] at known
      cases known
      exact hapart ⟨falls, comparable⟩

/-- With a known target and a source that scans and parses, nothing fails before the outputs are
chosen. -/
theorem SourceHolds.comesThrough_output {target : Target} {content : Bytes} {tokens : List Token}
    {program : Program} (h : SourceHolds files source content)
    (hknown : Target.lookup? settings.target = some target)
    (hscans : tokenize content = .ok tokens) (hparses : Program.ofTokens tokens = .ok program) :
    ComesThrough settings runner files source RunStage.output.before := by
  have htoLex : ComesThrough settings runner files source RunStage.lex.before :=
    (comesThrough_nil.concat (not_stageFails_target hknown)).concat h.not_stageFails_read
  exact (htoLex.concat (h.not_stageFails_lex hscans)).concat (h.not_stageFails_parse hscans hparses)

/-! ### Choosing outputs -/

theorem exists_path_of_absolute {form : Bytes}
    (h : Path.absolute files.workingPath source = some form) :
    ∃ location : Location, location.Proper ∧ form = location.path := by
  by_cases habsolute : Path.isAbsolute source = true
  · rw [Path.absolute_of_isAbsolute habsolute _ []] at h
    cases h
    exact ⟨_, Location.proper_nil.ofPath source, rfl⟩
  rw [FileSystem.workingPath] at h
  cases hdirectory : files.workingDirectory.location? with
  | none => simp [Path.absolute, habsolute, hdirectory] at h
  | some directory =>
      rw [hdirectory, Option.map_some,
        Path.absolute_eq_path_lexical (Location.isAbsolute_path directory)] at h
      cases h
      exact ⟨_, Location.proper_lexical _ source, rfl⟩

theorem absolute_of_absolute {form : Bytes}
    (h : Path.absolute files.workingPath source = some form) :
    Path.absolute files.workingPath form = some form := by
  obtain ⟨location, hproper, rfl⟩ := exists_path_of_absolute h
  rw [Path.absolute_of_isAbsolute (Location.isAbsolute_path location) _ [],
    Location.ofPath_path hproper]

/-- The only outputs that are refused are those that were asked for and fall on the source. -/
theorem chooseOutputs_eq_error_iff {target : Target} {path : Bytes} (directory : Bytes)
    {e : UsageError} (hpath : Path.absolute files.workingPath source = some path) :
    chooseOutputs files.workingPath settings target directory path = .error e ↔
      OutputCollides settings files target path ∧ e = .overwritesSource settings.output path := by
  rw [chooseOutputs, OutputCollides]
  by_cases hasked : settings.output = []
  · simp only [hasked, ne_eq, not_true_eq_false, if_false, false_and, iff_false]
    split <;> simp
  · have hoverwrites : (OutputPaths.beside settings.output target.extension).overwrites
          files.workingPath path = true ↔
        ∃ output ∈ [settings.output ++ target.extension, settings.output ++ utf8 ".o",
          settings.output], Path.absolute files.workingPath output = some path := by
      rw [OutputPaths.overwrites, absolute_of_absolute hpath]
      simp only [OutputPaths.beside, List.any_eq_true, beq_iff_eq]
    rw [if_pos hasked, ← hoverwrites]
    simp only [hasked, ne_eq, not_false_eq_true, true_and]
    split
    · rename_i hcollides
      simp [hcollides, eq_comm]
    · rename_i hapart
      simp [hapart]

theorem isAbsolute_of_mem_outputs {extension output : Bytes} (hasked : settings.output ≠ [])
    (hmem : output ∈ [settings.output ++ extension, settings.output ++ utf8 ".o",
      settings.output]) :
    Path.isAbsolute output = Path.isAbsolute settings.output := by
  have hall := OutputPaths.forall_mem_beside
    (P := fun output => Path.isAbsolute output = Path.isAbsolute settings.output)
    (Path.isAbsolute_append_of_ne_nil hasked) extension
  exact hall output hmem

/-! ### Carrying out a plan -/

theorem Plan.failure_emit (plan : Plan) (files : FileSystem) :
    (plan.emit files).failure =
      match writeAssembly files plan.paths plan.assembly with
      | .error e => some (.write e)
      | .ok _ => none := by
  rw [Plan.emit]
  cases writeAssembly files plan.paths plan.assembly <;> rfl

/-- Whether the intermediate files are kept matters neither to the result of a build nor to the
calls. -/
theorem Plan.failure_and_calls_build (plan : Plan) (runner : Runner) (deadline : Deadline)
    (keep : Bool) (files : FileSystem) :
    (plan.build runner deadline keep files).failure =
        (ExitLang.build plan.target runner deadline files plan.paths plan.assembly).failure.map
          Failure.build ∧
      (plan.build runner deadline keep files).calls =
        (ExitLang.build plan.target runner deadline files plan.paths plan.assembly).calls := by
  rw [Plan.build]
  split <;> simp [*]

theorem Plan.IsDue.not_stageFails_write {plan : Plan} (h : plan.IsDue settings files source)
    (hwritten : settings.emitAssembly = true →
      ∃ after, writeAssembly files plan.paths plan.assembly = .ok after) (other : Failure) :
    ¬ StageFails settings runner files source .write other := by
  intro hfails
  cases hfails with
  | write emits due refused =>
      obtain ⟨after, hafter⟩ := hwritten emits
      rw [← h.unique due, hafter] at refused
      cases refused

theorem Plan.IsDue.not_stageFails_build {plan : Plan} (h : plan.IsDue settings files source)
    (hbuilt : settings.emitAssembly = false → (ExitLang.build plan.target runner settings.deadline
      files plan.paths plan.assembly).failure = none) (other : Failure) :
    ¬ StageFails settings runner files source .build other := by
  intro hfails
  cases hfails with
  | build builds due failed =>
      rw [← h.unique due, hbuilt builds] at failed
      cases failed

theorem Plan.IsDue.carryOut_cases {plan : Plan} (h : plan.IsDue settings files source)
    (hbefore : ComesThrough settings runner files source RunStage.write.before) :
    ((plan.carryOut settings runner files).failure = none ∧
        ComesThrough settings runner files source RunStage.all) ∨
      ∃ stage failure, (plan.carryOut settings runner files).failure = some failure ∧
        FirstFailure settings runner files source stage failure := by
  rw [Plan.carryOut]
  cases hemit : settings.emitAssembly with
  | true =>
      rw [if_pos rfl, Plan.failure_emit]
      rcases hwrite : writeAssembly files plan.paths plan.assembly with e | after
      · exact .inr ⟨.write, _, rfl, .write hemit h hwrite, hbefore⟩
      · refine .inl ⟨rfl, (hbefore.concat ?_).concat ?_⟩
        · exact h.not_stageFails_write fun _ => ⟨after, hwrite⟩
        · exact h.not_stageFails_build (by simp [hemit])
  | false =>
      have htoBuild : ComesThrough settings runner files source RunStage.build.before :=
        hbefore.concat (h.not_stageFails_write (by simp [hemit]))
      rw [if_neg Bool.false_ne_true, (Plan.failure_and_calls_build ..).1]
      rcases hbuild : (ExitLang.build plan.target runner settings.deadline files plan.paths
        plan.assembly).failure with _ | e
      · exact .inl ⟨rfl, htoBuild.concat (h.not_stageFails_build fun _ => hbuild)⟩
      · exact .inr ⟨.build, _, rfl, .build hemit h hbuild, htoBuild⟩

/-! ### Runs -/

variable (hproper : ∀ location, files.workingDirectory = .present location → location.Proper)
include hproper

/-- An output has the absolute form of the source exactly if it has such a form at all and both
paths reach one location. -/
theorem outputCollides_iff {path : Bytes} (target : Target)
    (hpath : Path.absolute files.workingPath source = some path) :
    OutputCollides settings files target path ↔
      OutputOnSource settings files target source ∧ OutputComparable settings files := by
  obtain ⟨directory, hdirectory, hresolve⟩ := exists_resolution hproper
  obtain ⟨hform, hplace⟩ := hresolve source (isSome_or_isAbsolute_of_absolute hpath)
  obtain rfl : path = (directory.ofPath source).path := Option.some_inj.mp (hpath.symm.trans hform)
  have hsame : ∀ output,
      files.workingDirectory.location?.isSome = true ∨ Path.isAbsolute output = true →
      (Path.absolute files.workingPath output = some (directory.ofPath source).path ↔
        files.workingDirectory.reach? output = files.workingDirectory.reach? source) := by
    intro output hcomparable
    obtain ⟨habsolute, hreach⟩ := hresolve output hcomparable
    rw [habsolute, hreach, hplace, Option.some_inj, Option.some_inj,
      Location.path_inj (hdirectory.ofPath _) (hdirectory.ofPath _)]
  constructor
  · rintro ⟨hasked, output, hmem, habsolute⟩
    have hcomparable := isSome_or_isAbsolute_of_absolute habsolute
    have hreach := (hsame output hcomparable).mp habsolute
    rw [isAbsolute_of_mem_outputs hasked hmem] at hcomparable
    exact ⟨⟨hasked, output, hmem, hreach⟩, hcomparable⟩
  · rintro ⟨⟨hasked, output, hmem, hreach⟩, hcomparable⟩
    rw [OutputComparable, ← isAbsolute_of_mem_outputs hasked hmem] at hcomparable
    exact ⟨hasked, output, hmem, (hsame output hcomparable).mpr hreach⟩

/-- What a run prepares: the failure of the first stage that fails before anything is written, or
the plan that is due. -/
theorem prepare_cases (settings : Settings) (runner : Runner) (source : Bytes) :
    (∃ stage failure, (prepare settings files source).2 = .error failure ∧
        FirstFailure settings runner files source stage failure) ∨
      ∃ plan, (prepare settings files source).2 = .ok plan ∧ plan.IsDue settings files source ∧
        ComesThrough settings runner files source RunStage.write.before := by
  -- Stage by stage: either it is the first to fail, or it joins those that came through.
  rcases hknown : Target.lookup? settings.target with _ | target
  · refine .inl ⟨.target, _, ?_, .target hknown, comesThrough_nil⟩
    simp only [prepare, hknown]
  have htoRead : ComesThrough settings runner files source RunStage.read.before :=
    comesThrough_nil.concat (not_stageFails_target hknown)
  rcases hpath : Path.absolute files.workingPath source with _ | path
  · refine .inl ⟨.read, _, ?_, .nowhere hpath, htoRead⟩
    simp only [prepare, hknown, hpath]
  rcases hread : files.read path with e | content
  · refine .inl ⟨.read, _, ?_, .read hpath hread, htoRead⟩
    simp only [prepare, hknown, hpath, hread]
  have hholds : SourceHolds files source content := ⟨path, hpath, hread⟩
  have htoLex : ComesThrough settings runner files source RunStage.lex.before :=
    htoRead.concat hholds.not_stageFails_read
  rcases compile_cases content (Target.mem_supported_of_lookup? hknown) with
    ⟨e, hlexical, hcompile⟩ | ⟨tokens, e, hscans, hsyntax, hcompile⟩ |
      ⟨made, listing, hcompile, hcheck⟩
  · refine .inl ⟨.lex, _, ?_, .lex hholds hlexical, htoLex⟩
    simp only [prepare, hknown, hpath, hread, hcompile]
  · refine .inl ⟨.parse, _, ?_, .parse hholds hscans hsyntax,
      htoLex.concat (hholds.not_stageFails_lex hscans)⟩
    simp only [prepare, hknown, hpath, hread, hcompile]
  obtain ⟨hscans, hparses, -⟩ := compile_eq_ok_iff.mp hcompile
  have htoOutput : ComesThrough settings runner files source RunStage.output.before :=
    hholds.comesThrough_output hknown hscans hparses
  rcases hchoice : chooseOutputs files.workingPath settings target (Path.parent path) path
    with e | paths
  · obtain ⟨hcollides, rfl⟩ := (chooseOutputs_eq_error_iff _ hpath).mp hchoice
    obtain ⟨hfalls, hcomparable⟩ := (outputCollides_iff hproper target hpath).mp hcollides
    refine .inl ⟨.output, _, ?_, .output hknown hpath hfalls hcomparable, htoOutput⟩
    simp only [prepare, hknown, hpath, hread, hcompile, hcheck, hchoice]
  · have hapart : ¬ (OutputOnSource settings files target source ∧
        OutputComparable settings files) := by
      rw [← outputCollides_iff hproper target hpath]
      intro hcollides
      rw [(chooseOutputs_eq_error_iff _ hpath).mpr ⟨hcollides, rfl⟩] at hchoice
      cases hchoice
    refine .inr ⟨⟨target, made.assembly, paths⟩, ?_,
      ⟨hknown, path, content, made, hpath, hread, hcompile, rfl, hchoice⟩,
      htoOutput.concat (not_stageFails_output hknown hapart)⟩
    simp only [prepare, hknown, hpath, hread, hcompile, hcheck, hchoice]

theorem run_cases (settings : Settings) (runner : Runner) (source : Bytes) :
    ((run settings runner files source).failure = none ∧
        ComesThrough settings runner files source RunStage.all) ∨
      ∃ stage failure, (run settings runner files source).failure = some failure ∧
        FirstFailure settings runner files source stage failure := by
  rcases prepare_cases hproper settings runner source with
    ⟨stage, failure, hprepare, hfirst⟩ | ⟨plan, hprepare, hdue, hbefore⟩
  · rw [run_of_prepare_error (Prod.ext rfl hprepare)]
    exact .inr ⟨stage, failure, rfl, hfirst⟩
  · rw [(run_of_prepare_ok (Prod.ext rfl hprepare) runner).2.2]
    exact hdue.carryOut_cases hbefore

theorem failure_run_iff :
    (run settings runner files source).failure = some failure ↔
      ∃ stage, FirstFailure settings runner files source stage failure := by
  rcases run_cases hproper settings runner source with
    ⟨hnone, hthrough⟩ | ⟨stage, found, hfound, hfirst⟩
  · rw [hnone]
    refine iff_of_false (by simp) ?_
    rintro ⟨stage, hfirst⟩
    exact hthrough stage (by cases stage <;> decide) failure hfirst.fails
  · rw [hfound, Option.some_inj]
    constructor
    · rintro rfl
      exact ⟨stage, hfirst⟩
    · rintro ⟨stage', hfirst'⟩
      exact (hfirst.unique hfirst').2

theorem failure_run_eq_none_iff :
    (run settings runner files source).failure = none ↔
      ComesThrough settings runner files source RunStage.all := by
  rcases run_cases hproper settings runner source with
    ⟨hnone, hthrough⟩ | ⟨stage, found, hfound, hfirst⟩
  · exact iff_of_true hnone hthrough
  · refine iff_of_false (by simp [hfound]) ?_
    intro hthrough
    exact hthrough stage (by cases stage <;> decide) found hfirst.fails

end Stages

/-- The exit code of a run. -/
def Outcome.exitCode (outcome : Outcome) : Nat :=
  match outcome.failure with
  | none => 0
  | some failure => failure.exitCode

/-- The stage that a run reports as failed. -/
def Outcome.stage? (outcome : Outcome) : Option Bytes := outcome.failure.bind Failure.stage?

section ExitCode

variable {settings : Settings} {runner : Runner} {files : FileSystem} {source : Bytes}

/-- Once the target is known and nothing has failed before, the outputs are chosen for a source that
was read and compiles. -/
theorem exists_compile_of_comesThrough {target : Target} {path : Bytes}
    (hknown : Target.lookup? settings.target = some target)
    (hpath : Path.absolute files.workingPath source = some path)
    (hbefore : ComesThrough settings runner files source RunStage.output.before) :
    ∃ content made, files.read path = .ok content ∧ compile content target = .ok made := by
  rcases hread : files.read path with e | content
  · exact absurd (.read hpath hread) (hbefore .read (by decide) _)
  have hholds : SourceHolds files source content := ⟨path, hpath, hread⟩
  rcases compile_cases content (Target.mem_supported_of_lookup? hknown) with
    ⟨e, hlexical, -⟩ | ⟨tokens, e, hscans, hsyntax, -⟩ | ⟨made, -, hcompile, -⟩
  · exact absurd (.lex hholds hlexical) (hbefore .lex (by decide) _)
  · exact absurd (.parse hholds hscans hsyntax) (hbefore .parse (by decide) _)
  · exact ⟨content, made, rfl, hcompile⟩

section

variable (hproper : ∀ location, files.workingDirectory = .present location → location.Proper)
include hproper

theorem FirstFailure.exitCode_and_stage? {stage : RunStage} {failure : Failure}
    (h : FirstFailure settings runner files source stage failure) :
    (run settings runner files source).exitCode = (if stage.name?.isSome then 1 else 2) ∧
      (run settings runner files source).stage? = stage.name? := by
  have hfailure := (failure_run_iff hproper).mpr ⟨stage, h⟩
  rw [Outcome.exitCode, Outcome.stage?, hfailure, ← h.fails.stage?_eq]
  exact ⟨rfl, rfl⟩

theorem exitCode_eq_zero_iff :
    (run settings runner files source).exitCode = 0 ↔
      ComesThrough settings runner files source RunStage.all := by
  rw [← failure_run_eq_none_iff hproper, Outcome.exitCode]
  cases (run settings runner files source).failure with
  | none => simp
  | some failure =>
      have hcode : failure.exitCode ≠ 0 := by
        unfold Failure.exitCode
        split <;> decide
      simp [hcode]

theorem stage?_run_eq_some_iff {stage : RunStage} {name : Bytes} (hname : stage.name? = some name) :
    (run settings runner files source).exitCode = 1 ∧
        (run settings runner files source).stage? = some name ↔
      ∃ failure, FirstFailure settings runner files source stage failure := by
  constructor
  · rintro ⟨-, hreported⟩
    obtain ⟨failure, hfailure, hstage⟩ := Option.bind_eq_some_iff.mp hreported
    obtain ⟨first, hfirst⟩ := (failure_run_iff hproper).mp hfailure
    rw [hfirst.fails.stage?_eq] at hstage
    obtain rfl := RunStage.eq_of_name?_eq stage first (by simp [hname]) (hname.trans hstage.symm)
    exact ⟨failure, hfirst⟩
  · rintro ⟨failure, hfirst⟩
    have hreported := hfirst.exitCode_and_stage? hproper
    rw [hname] at hreported
    exact hreported

/-- Bad usage is an unknown target, or an output that falls on a source that compiles and can be
compared with it. -/
theorem exitCode_eq_two_iff :
    (run settings runner files source).exitCode = 2 ↔
      Target.lookup? settings.target = none ∨
        ∃ target path content made, Target.lookup? settings.target = some target ∧
          Path.absolute files.workingPath source = some path ∧ files.read path = .ok content ∧
          compile content target = .ok made ∧ OutputOnSource settings files target source ∧
          OutputComparable settings files := by
  constructor
  · intro hcode
    rcases run_cases hproper settings runner source with
      ⟨hnone, -⟩ | ⟨stage, failure, hfailure, hfirst⟩
    · rw [Outcome.exitCode, hnone] at hcode
      cases hcode
    -- Only two stages have no name, the target and the choice of outputs.
    have hunnamed : stage.name? = none := by
      rw [(hfirst.exitCode_and_stage? hproper).1] at hcode
      cases hname : stage.name? with
      | none => rfl
      | some name => simp [hname] at hcode
    obtain ⟨hfails, hbefore⟩ := hfirst
    cases hfails with
    | target unknown => exact .inl unknown
    | @output target path known found falls comparable =>
        obtain ⟨content, made, hread, hcompile⟩ :=
          exists_compile_of_comesThrough known found hbefore
        exact .inr ⟨target, path, content, made, known, found, hread, hcompile, falls, comparable⟩
    | _ => cases hunnamed
  · rintro (hunknown |
      ⟨target, path, content, made, hknown, hpath, hread, hcompile, hfalls, hcomparable⟩)
    · have hfirst : FirstFailure settings runner files source .target _ :=
        ⟨.target hunknown, comesThrough_nil⟩
      exact (hfirst.exitCode_and_stage? hproper).1
    · have hholds : SourceHolds files source content := ⟨path, hpath, hread⟩
      obtain ⟨hscans, hparses, -⟩ := compile_eq_ok_iff.mp hcompile
      have hfirst : FirstFailure settings runner files source .output _ :=
        ⟨.output hknown hpath hfalls hcomparable,
          hholds.comesThrough_output hknown hscans hparses⟩
      exact (hfirst.exitCode_and_stage? hproper).1

end

/-! ### Settings that decide nothing -/

/-- Settings with other choices of what is shown and what is kept. -/
def Settings.showing (settings : Settings) (dump verbose keep : Bool) : Settings :=
  { settings with dump := dump, verbose := verbose, keep := keep }

theorem prepare_snd_showing (settings : Settings) (dump verbose keep : Bool) (files : FileSystem)
    (source : Bytes) :
    (prepare (settings.showing dump verbose keep) files source).2 =
      (prepare settings files source).2 := by
  have htarget : (settings.showing dump verbose keep).target = settings.target := rfl
  have hchoice : ∀ target directory path,
      chooseOutputs files.workingPath (settings.showing dump verbose keep) target directory path =
        chooseOutputs files.workingPath settings target directory path := fun _ _ _ => rfl
  simp only [prepare, htarget, hchoice]
  rcases Target.lookup? settings.target with _ | target
  · rfl
  rcases Path.absolute files.workingPath source with _ | path
  · rfl
  dsimp only
  rcases files.read path with e | content
  · rfl
  dsimp only
  rcases compile content target with e | made
  · rfl
  dsimp only
  rcases Assembly.check target made.assembly with e | listing
  · rfl
  dsimp only
  rcases chooseOutputs files.workingPath settings target (Path.parent path) path with e | paths
  · rfl
  · rfl

theorem Plan.failure_and_calls_carryOut_showing (plan : Plan) (settings : Settings)
    (dump verbose keep : Bool) (runner : Runner) (files : FileSystem) :
    (plan.carryOut (settings.showing dump verbose keep) runner files).failure =
        (plan.carryOut settings runner files).failure ∧
      (plan.carryOut (settings.showing dump verbose keep) runner files).calls =
        (plan.carryOut settings runner files).calls := by
  have hemit : (settings.showing dump verbose keep).emitAssembly = settings.emitAssembly := rfl
  rw [Plan.carryOut, Plan.carryOut, hemit]
  cases settings.emitAssembly with
  | true => exact ⟨rfl, rfl⟩
  | false =>
      obtain ⟨hfailure, hcalls⟩ :=
        plan.failure_and_calls_build runner settings.deadline settings.keep files
      obtain ⟨hfailure', hcalls'⟩ :=
        plan.failure_and_calls_build runner settings.deadline keep files
      exact ⟨hfailure'.trans hfailure.symm, hcalls'.trans hcalls.symm⟩

theorem failure_and_calls_run_showing (settings : Settings) (dump verbose keep : Bool)
    (runner : Runner) (files : FileSystem) (source : Bytes) :
    (run (settings.showing dump verbose keep) runner files source).failure =
        (run settings runner files source).failure ∧
      (run (settings.showing dump verbose keep) runner files source).calls =
        (run settings runner files source).calls := by
  have hsame := prepare_snd_showing settings dump verbose keep files source
  rcases hprepare : prepare settings files source with ⟨notes, failure | plan⟩
  · rw [hprepare] at hsame
    rw [run_of_prepare_error hprepare, run_of_prepare_error (Prod.ext rfl hsame)]
    exact ⟨rfl, rfl⟩
  · rw [hprepare] at hsame
    obtain ⟨-, hcalls, hfailure⟩ := run_of_prepare_ok hprepare runner
    obtain ⟨-, hcalls', hfailure'⟩ := run_of_prepare_ok (Prod.ext rfl hsame) runner
    rw [hcalls, hfailure, hcalls', hfailure']
    exact plan.failure_and_calls_carryOut_showing settings dump verbose keep runner files

theorem execute_of_compile {arguments : List Bytes}
    (h : Request.ofArguments arguments = .ok (.compile settings source)) :
    (execute arguments runner files).exitCode = (run settings runner files source).exitCode ∧
      (execute arguments runner files).failure = (run settings runner files source).failure ∧
      (execute arguments runner files).calls = (run settings runner files source).calls := by
  rw [execute, h]
  exact ⟨rfl, rfl, rfl⟩

end ExitCode

/-- **The first stage that fails decides a run.** Its failure is that of the run. The exit code is
two when the target is unknown, or when an output that was asked for falls on a source that compiles
and the working directory is there or the output absolute; it is one with the name of the stage when
another stage is the first to fail, and zero when none fails. The program finds out by comparing
absolute forms whether an output falls on the source; for this the names on the way to the working
directory have to be ordinary ones, as those of a directory that is there are. No source fails in
code generation or in the check of the assembly: it has a lexical error, or a syntax error, or gives
assembly that passes. What is shown and what is kept change neither the failure, and with it the
exit code, nor the calls, and the command reports what the run does. -/
theorem run_decided_by_first_failure (settings : Settings) (runner : Runner) {files : FileSystem}
    (hproper : ∀ location, files.workingDirectory = .present location → location.Proper)
    (source : Bytes) {outcome : Outcome} (houtcome : run settings runner files source = outcome) :
    (∀ failure, outcome.failure = some failure ↔
      ∃ stage, FirstFailure settings runner files source stage failure) ∧
    (outcome.exitCode = 2 ↔
      Target.lookup? settings.target = none ∨
        ∃ target path content made, Target.lookup? settings.target = some target ∧
          Path.absolute files.workingPath source = some path ∧ files.read path = .ok content ∧
          compile content target = .ok made ∧ OutputOnSource settings files target source ∧
          OutputComparable settings files) ∧
    (∀ target path, Path.absolute files.workingPath source = some path →
      (OutputCollides settings files target path ↔
        OutputOnSource settings files target source ∧ OutputComparable settings files)) ∧
    (∀ stage name, RunStage.name? stage = some name →
      (outcome.exitCode = 1 ∧ outcome.stage? = some name ↔
        ∃ failure, FirstFailure settings runner files source stage failure)) ∧
    (outcome.exitCode = 0 ↔ ComesThrough settings runner files source RunStage.all) ∧
    (outcome.stage? ≠ some (utf8 "check") ∧ outcome.stage? ≠ some (utf8 "codegen")) ∧
    (∀ content, ∀ target ∈ Target.supported,
      (∃ e, tokenize content = .error e ∧ compile content target = .error (.lexical e)) ∨
      (∃ tokens e, tokenize content = .ok tokens ∧ Program.ofTokens tokens = .error e ∧
        compile content target = .error (.syntactic tokens e)) ∨
      ∃ made listing, compile content target = .ok made ∧
        Assembly.check target made.assembly = .ok listing) ∧
    (∀ dump verbose keep other,
      run { settings with dump := dump, verbose := verbose, keep := keep } runner files source
        = other →
      other.failure = outcome.failure ∧ other.exitCode = outcome.exitCode ∧
        other.calls = outcome.calls) ∧
    (∀ arguments, Request.ofArguments arguments = .ok (.compile settings source) →
      (execute arguments runner files).exitCode = outcome.exitCode ∧
      (execute arguments runner files).failure = outcome.failure ∧
      (execute arguments runner files).calls = outcome.calls) := by
  subst houtcome
  refine ⟨fun _ => failure_run_iff hproper, exitCode_eq_two_iff hproper,
    fun target _ => outputCollides_iff hproper target,
    fun _ _ => stage?_run_eq_some_iff hproper, exitCode_eq_zero_iff hproper, ?_,
    fun content _ htarget => compile_cases content htarget, ?_, fun _ => execute_of_compile⟩
  · rw [Outcome.stage?]
    rcases run_cases hproper settings runner source with
      ⟨hnone, -⟩ | ⟨stage, failure, hfailure, hfirst⟩
    · rw [hnone]
      exact ⟨by decide, by decide⟩
    · rw [hfailure, Option.bind_some, hfirst.fails.stage?_eq]
      cases stage <;> decide
  · rintro dump verbose keep other rfl
    obtain ⟨hfailure, hcalls⟩ :=
      failure_and_calls_run_showing settings dump verbose keep runner files source
    rw [Settings.showing] at hfailure hcalls
    refine ⟨hfailure, ?_, hcalls⟩
    rw [Outcome.exitCode, hfailure, Outcome.exitCode]

/-- A word that the language does not know is reported before an output that falls on the source. -/
theorem run_reports_unknown_word_before_collision :
    ∃ outcome, run { Settings.default with output := utf8 "prog" } (.scripted [])
        ⟨FileTree.empty.addFile [utf8 "prog", utf8 "w"] (utf8 "exit 4stop"), .present [utf8 "w"]⟩
        (utf8 "prog") = outcome ∧
      outcome.exitCode = 1 ∧ outcome.stage? = some (utf8 "lex") := by
  refine ⟨_, rfl, ?_⟩
  have hholds : SourceHolds
      ⟨FileTree.empty.addFile [utf8 "prog", utf8 "w"] (utf8 "exit 4stop"), .present [utf8 "w"]⟩
      (utf8 "prog") (utf8 "exit 4stop") := ⟨utf8 "/w/prog", by decide, by decide⟩
  have hfails : tokenize (utf8 "exit 4stop") =
      .error ⟨.unknownIdentifier, utf8 "stop", 1, 7⟩ := by decide
  have hknown : Target.lookup? { Settings.default with output := utf8 "prog" }.target =
      some .linuxAmd64 := by decide
  have hproper : ∀ location, Standpoint.present [utf8 "w"] = .present location →
      location.Proper := by
    rintro _ ⟨⟩
    exact Location.proper_cons.mpr ⟨by constructor <;> decide, Location.proper_nil⟩
  apply ((run_decided_by_first_failure _ _ hproper _ rfl).2.2.2.1 .lex _ rfl).mpr
  refine ⟨_, .lex hholds hfails, ?_⟩
  exact (comesThrough_nil.concat (not_stageFails_target hknown)).concat hholds.not_stageFails_read

/-- From a removed working directory a relative output is not compared with the source, and the run
succeeds although it falls on a source that compiles. -/
theorem run_lets_output_fall_on_source :
    ∃ (settings : Settings) (runner : Runner) (files : FileSystem) (source : Bytes)
      (target : Target) (path content : Bytes) (made : Compilation),
      Target.lookup? settings.target = some target ∧
      Path.absolute files.workingPath source = some path ∧ files.read path = .ok content ∧
      compile content target = .ok made ∧ OutputOnSource settings files target source ∧
      (run settings runner files source).exitCode = 0 := by
  have hscans : tokenize (utf8 "exit 5;") =
      .ok [⟨.exit, utf8 "exit", 1, 1⟩, ⟨.integer, utf8 "5", 1, 6⟩, ⟨.semicolon, utf8 ";", 1, 7⟩] := by
    decide
  obtain ⟨made, hcompile⟩ := exists_compile_of_ofTokens hscans
    (show Program.ofTokens _ = .ok ⟨utf8 "5"⟩ by decide) .linuxAmd64
  refine ⟨{ Settings.default with output := utf8 "../w/prog", emitAssembly := true }, .scripted [],
    ⟨FileTree.empty.addFile [utf8 "prog.asm", utf8 "w"] (utf8 "exit 5;"), .removed (.present [])⟩,
    utf8 "/w/prog.asm", .linuxAmd64, utf8 "/w/prog.asm", utf8 "exit 5;", made, by decide, by decide,
    by decide, hcompile, ⟨by decide, utf8 "../w/prog.asm", by decide, by decide⟩, by decide⟩

end ExitLang
