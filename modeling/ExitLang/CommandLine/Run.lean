import ExitLang.Assembly.Listing
import ExitLang.CommandLine.Flags
import ExitLang.Compile
import ExitLang.Tool.Build

/-!
# A run of the command

A run first prepares: it finds the target, reads and compiles the source, checks the assembly and
names the output files, and changes nothing. Then it carries the plan out: it writes the assembly,
and unless asked to stop there calls the tools and cleans up. The first failure ends the run and
decides its exit code.
-/

namespace ExitLang

/-- The reasons for which a run fails. -/
inductive Failure where
  | usage (error : UsageError)
  | noWorkingDirectory
  | read (error : FileError)
  | compile (error : CompileError)
  | check (error : Assembly.CheckError)
  | write (error : WriteError)
  | build (error : BuildError)
  deriving DecidableEq

namespace Failure

/-- The stage of the run that failed. A fault in the use of the command line has none. -/
def stage? : Failure → Option Bytes
  | usage _ => none
  | noWorkingDirectory => some (utf8 "read")
  | read _ => some (utf8 "read")
  | compile (.lexical _) => some (utf8 "lex")
  | compile (.syntactic _ _) => some (utf8 "parse")
  | compile (.generation _ _ _ _) => some (utf8 "codegen")
  | check _ => some (utf8 "check")
  | write _ => some (utf8 "write")
  | build _ => some (utf8 "build")

/-- The wording of what went wrong, without the stage. -/
def cause : Failure → Bytes
  | usage error => error.message
  | noWorkingDirectory => utf8 "getwd: no such file or directory"
  | read error => error.message
  | compile error => error.message
  | check error => error.message
  | write error => error.message
  | build error => error.message

/-- The wording of a failure. -/
def message (failure : Failure) : Bytes :=
  match failure.stage? with
  | none => failure.cause
  | some stage => stage ++ utf8 " error: " ++ failure.cause

/-- The exit code of a failure: one for a failed compilation, two for bad usage. -/
def exitCode (failure : Failure) : Nat := if failure.stage?.isSome then 1 else 2

end Failure

/-- What a run reports on its way. -/
inductive LogEntry where
  | compiling (path directory target : Bytes)
  | checked (instructions : Nat) (status : Bytes)
  | calling (command : Command)
  | cleanUpFailed (errors : List FileError)
  | wrote (path : Bytes)
  | built (path : Bytes)
  deriving DecidableEq

/-- The wording of a report. -/
def LogEntry.message : LogEntry → Bytes
  | compiling path directory target =>
    utf8 "compiling " ++ path ++ utf8 " (dir " ++ directory ++ utf8 ") for " ++ target
  | checked instructions status =>
    utf8 "checked " ++ decimalNat instructions ++ utf8 " instructions, exit status " ++ status
  | calling command => utf8 "run " ++ command.render
  | cleanUpFailed errors => utf8 "cleanup: " ++ cleanUpMessage errors
  | wrote path => utf8 "wrote " ++ path
  | built path => utf8 "built " ++ path

/-- A report as a line of the log. A message that ends a line itself is not given another end. -/
def LogEntry.line (entry : LogEntry) : Bytes :=
  let text := utf8 "exitc: " ++ entry.message
  if text.getLast? = some 0x0A then text else text ++ utf8 "\n"

/-- The tokens, the program and the assembly of a compilation, for inspection. -/
def Compilation.dump (compilation : Compilation) : Bytes :=
  utf8 "Tokens (" ++ decimalNat compilation.tokens.length ++ utf8 ")\n" ++
    compilation.tokens.flatMap (fun token => utf8 "  " ++ token.render ++ utf8 "\n") ++
    utf8 "\nAST\n  " ++ compilation.program.render ++ utf8 "\n\nGenerated Assembly\n" ++
    compilation.assembly

/-- The output files of a run. By default they stand next to the source, and where one would fall on
the source the executable's name grows by `.out`. A name that was asked for is refused instead. -/
def chooseOutputs (workingDirectory : Option Bytes) (settings : Settings) (target : Target)
    (directory source : Bytes) : Except UsageError OutputPaths :=
  if settings.output ≠ [] then
    let paths := OutputPaths.beside settings.output target.extension
    if paths.overwrites workingDirectory source then
      .error (.overwritesSource settings.output source)
    else .ok paths
  else
    let executable := OutputPaths.defaultExecutable directory source
    let paths := OutputPaths.beside executable target.extension
    if paths.overwrites workingDirectory source then
      .ok (.beside (executable ++ utf8 ".out") target.extension)
    else .ok paths

/-- What a run has settled before it changes anything. -/
structure Plan where
  target : Target
  assembly : Bytes
  paths : OutputPaths
  deriving DecidableEq

/-- What a run has said: on its standard output, and in its log. -/
structure Notes where
  output : Bytes
  log : List LogEntry
  deriving DecidableEq

/-- Settles all that a run needs from the files, without changing them. -/
def prepare (settings : Settings) (files : FileSystem) (source : Bytes) :
    Notes × Except Failure Plan :=
  match Target.lookup? settings.target with
  | none => (⟨[], []⟩, .error (.usage (.unknownTarget settings.target)))
  | some target =>
    match Path.absolute files.workingPath source with
    | none => (⟨[], []⟩, .error .noWorkingDirectory)
    | some path =>
      match files.read path with
      | .error e => (⟨[], []⟩, .error (.read e))
      | .ok content =>
        let directory := Path.parent path
        let reading := LogEntry.compiling path directory target.name
        match compile content target with
        | .error e => (⟨[], [reading]⟩, .error (.compile e))
        | .ok compilation =>
          let output := if settings.dump then compilation.dump else []
          match Assembly.check target compilation.assembly with
          | .error e => (⟨output, [reading]⟩, .error (.check e))
          | .ok listing =>
            let checked := LogEntry.checked listing.instructions.length listing.exitStatus
            let notes : Notes := ⟨output, [reading, checked]⟩
            match chooseOutputs files.workingPath settings target directory path with
            | .error e => (notes, .error (.usage e))
            | .ok paths => (notes, .ok ⟨target, compilation.assembly, paths⟩)

/-- What a run comes to. -/
structure Outcome where
  failure : Option Failure
  notes : Notes
  files : FileSystem
  calls : List Command
  deriving DecidableEq

/-- Writes the assembly of a plan and stops. -/
def Plan.emit (plan : Plan) (files : FileSystem) : Outcome :=
  match writeAssembly files plan.paths plan.assembly with
  | .error e => ⟨some (.write e), ⟨[], []⟩, files, []⟩
  | .ok files => ⟨none, ⟨[], [.wrote plan.paths.assembly]⟩, files, []⟩

/-- Builds the executable of a plan, and unless the intermediate files are to be kept removes them
whatever came of the build. A failed removal is only reported. -/
def Plan.build (plan : Plan) (runner : Runner) (deadline : Deadline) (keep : Bool)
    (files : FileSystem) : Outcome :=
  let calling := (plan.target.commands plan.paths).map LogEntry.calling
  let result := ExitLang.build plan.target runner deadline files plan.paths plan.assembly
  let cleaned := if keep then (result.files, []) else cleanUp result.files plan.paths
  let cleanLog := if cleaned.2 = [] then [] else [LogEntry.cleanUpFailed cleaned.2]
  match result.failure with
  | some e => ⟨some (.build e), ⟨[], calling ++ cleanLog⟩, cleaned.1, result.calls⟩
  | none =>
    ⟨none, ⟨[], calling ++ cleanLog ++ [.built plan.paths.executable]⟩, cleaned.1, result.calls⟩

/-- The limit that a timeout sets: one of zero or less has passed before the tools are called. -/
def Settings.deadline (settings : Settings) : Deadline :=
  if settings.timeout ≤ 0 then .expired else .ahead

/-- Runs the compiler on a source. -/
def run (settings : Settings) (runner : Runner) (files : FileSystem) (source : Bytes) : Outcome :=
  match prepare settings files source with
  | (notes, .error failure) => ⟨some failure, notes, files, []⟩
  | (notes, .ok plan) =>
    let outcome :=
      if settings.emitAssembly then plan.emit files
      else plan.build runner settings.deadline settings.keep files
    { outcome with
      notes := ⟨notes.output ++ outcome.notes.output, notes.log ++ outcome.notes.log⟩ }

end ExitLang
