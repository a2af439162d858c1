import ExitLang.CommandLine.Run

/-!
# The command

The command reads its arguments and then helps, refuses, or runs. What it leaves is an exit code,
two streams of text, the calls it made and the files.
-/

namespace ExitLang

/-- The lines of the help text. -/
def helpLines : List String :=
  ["Exitc compiles a program written in the exit language, a single",
   "statement of the form",
   "",
   "    exit <decimal-digits>;",
   "",
   "into assembly that terminates the process with that status, then runs the",
   "system assembler and linker to produce an executable.",
   "",
   "Use -S to stop after writing the assembly file.",
   "",
   "Usage:",
   "  exitc [flags] source",
   "",
   "Flags:",
   "      --dump               print tokens, AST and assembly",
   "  -S, --emit-asm           stop after writing the assembly file",
   "  -h, --help               help for exitc",
   "      --keep               keep intermediate assembly and object files",
   "  -o, --output string      executable path (default: source path without extension)",
   "      --target string      target platform as os/arch (default \"linux/amd64\")",
   "      --timeout duration   limit for each assembler/linker run (default 30s)",
   "  -v, --verbose            log each pipeline step"]

/-- The help text. -/
def helpText : Bytes := helpLines.flatMap fun line => utf8 line ++ utf8 "\n"

/-- What a call of the command comes to. -/
structure Result where
  failure : Option Failure
  output : Bytes
  log : Bytes
  files : FileSystem
  calls : List Command
  deriving DecidableEq

namespace Result

/-- The exit code of a call. -/
def exitCode (result : Result) : Nat :=
  match result.failure with
  | none => 0
  | some failure => failure.exitCode

/-- What the process of a call writes to its error stream: the log, and then the failure. -/
def errorStream (result : Result) : Bytes :=
  match result.failure with
  | none => result.log
  | some failure => result.log ++ utf8 "exitc: " ++ failure.message ++ utf8 "\n"

end Result

/-- Executes the command with the given arguments. The log is written only where it is asked for. -/
def execute (arguments : List Bytes) (runner : Runner) (files : FileSystem) : Result :=
  match Request.ofArguments arguments with
  | .error e => ⟨some (.usage e), [], [], files, []⟩
  | .ok .help => ⟨none, helpText, [], files, []⟩
  | .ok (.compile settings source) =>
    let outcome := run settings runner files source
    let log := if settings.verbose then outcome.notes.log.flatMap LogEntry.line else []
    ⟨outcome.failure, outcome.notes.output, log, outcome.files, outcome.calls⟩

end ExitLang
