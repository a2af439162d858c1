import ExitLang.Path
import ExitLang.Process.Script
import ExitLang.Tool.Command
import ExitLang.Text.Quoted

/-!
# Starting programs

Three programs are installed: a shell, and the two that only succeed or fail. A program is asked for
by its name, which is looked up, or by a path, which is taken as it is. No assembler and no linker
is installed, so a build that starts programs here reports its first tool as not found; everything
that is said about builds elsewhere holds for any runner.
-/

namespace ExitLang

/-- An installed program. -/
inductive Installed where
  | shell
  | success
  | refusal
  deriving DecidableEq

namespace Installed

/-- The program of a name. -/
def ofName? (name : Bytes) : Option Installed :=
  if name = utf8 "sh" then some shell
  else if name = utf8 "true" then some success
  else if name = utf8 "false" then some refusal
  else none

/-- The program at a path in one of the two directories for programs. -/
def atPath? (path : Bytes) : Option Installed :=
  let directory := Path.parent path
  if directory = utf8 "/bin" ∨ directory = utf8 "/usr/bin" then ofName? (Path.base path) else none

/-- Runs a program: its text and how it ends. -/
def run (name : Bytes) : Installed → List Bytes → Bytes × Shell.Ending
  | shell, arguments => Shell.execute name arguments
  | success, _ => ([], .status 0)
  | refusal, _ => ([], .status 1)

end Installed

/-- The name of a signal. -/
def signalName (number : Nat) : Bytes :=
  let names : List (Nat × String) :=
    [(1, "hangup"), (2, "interrupt"), (3, "quit"), (4, "illegal instruction"),
     (5, "trace/breakpoint trap"), (6, "aborted"), (7, "bus error"),
     (8, "floating point exception"), (9, "killed"), (10, "user defined signal 1"),
     (11, "segmentation fault"), (12, "user defined signal 2"), (13, "broken pipe"),
     (14, "alarm clock"), (15, "terminated")]
  match names.lookup number with
  | some name => utf8 name
  | none => utf8 "signal " ++ decimalNat number

/-- The error that an ending is reported as, if it is one. -/
def Shell.Ending.error? : Shell.Ending → Option Bytes
  | .status 0 => none
  | .status code => some (utf8 "exit status " ++ decimalNat code)
  | .signal number => some (utf8 "signal: " ++ signalName number)

/-- Starts a program with arguments. A name that cannot be found is reported first; after that, a
call that was cancelled before it began starts nothing. -/
def launch (cancelled : Bool) (name : Bytes) (arguments : List Bytes) : Reply :=
  let start (installed : Option Installed) (absent : Bytes) : Reply :=
    if cancelled then ⟨[], some (utf8 "context canceled")⟩
    else
      match installed with
      | none => ⟨[], some absent⟩
      | some program =>
        let (output, ending) := program.run name arguments
        ⟨output, ending.error?⟩
  if name = [] then ⟨[], some (utf8 "exec: no command")⟩
  else if name.contains 0x2F then
    start (Installed.atPath? name) (utf8 "fork/exec " ++ name ++ utf8 ": no such file or directory")
  else
    match Installed.ofName? name with
    | none =>
      ⟨[], some (utf8 "exec: " ++ quoted name ++ utf8 ": executable file not found in $PATH")⟩
    | some program => start (some program) []

/-- The runner that starts installed programs. None of them touches a file. -/
def Runner.installed : Runner := fun _ command files =>
  (launch false command.tool command.arguments, files.tree)

end ExitLang
