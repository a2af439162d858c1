import ExitLang.Text.Quoted
import ExitLang.Tool.Command

/-!
# Building

A build writes the assembly and calls the tools in order until one fails. Cleaning up afterwards
removes the assembly and the object file, and a file that is already gone is no failure.
-/

namespace ExitLang

/-- Assembly that could not be written. -/
structure WriteError where
  path : Bytes
  error : FileError
  deriving DecidableEq

/-- The wording of assembly that could not be written. -/
def WriteError.message (error : WriteError) : Bytes :=
  utf8 "write assembly " ++ quoted error.path ++ utf8 ": " ++ error.error.message

/-- The reasons for which a build fails. -/
inductive BuildError where
  | write (error : WriteError)
  | tool (error : ToolError)
  deriving DecidableEq

/-- The wording of a failed build. -/
def BuildError.message : BuildError → Bytes
  | write error => error.message
  | tool error => error.message

/-- The time limit that a build runs under, as it stands while the tools are called. -/
inductive Deadline where
  | ahead
  | cancelled
  | expired
  deriving DecidableEq

/-- What is reported in place of a tool's own error once the limit has ended the build. -/
def Deadline.error? : Deadline → Option Bytes
  | ahead => none
  | cancelled => some (utf8 "context canceled")
  | expired => some (utf8 "context deadline exceeded")

/-- What a build comes to: its failure if there is one, the files after it and the calls it made. -/
structure BuildResult where
  failure : Option BuildError
  files : FileSystem
  calls : List Command
  deriving DecidableEq

/-- Writes assembly to its path. -/
def writeAssembly (files : FileSystem) (paths : OutputPaths) (text : Bytes) :
    Except WriteError FileSystem :=
  match files.write paths.assembly text with
  | .error e => .error ⟨paths.assembly, e⟩
  | .ok files => .ok files

/-- Calls tools in order, after the calls made before, until one of them fails. -/
def runCommands (runner : Runner) (deadline : Deadline) (before : List Command) :
    List Command → FileSystem → BuildResult
  | [], files => ⟨none, files, before⟩
  | command :: rest, files =>
    let (reply, tree) := runner before command files
    let files := { files with tree := tree }
    match reply.error with
    | none => runCommands runner deadline (before ++ [command]) rest files
    | some error =>
      let cause := deadline.error?.getD error
      ⟨some (.tool ⟨command.tool, command.arguments, reply.output, some cause⟩), files,
        before ++ [command]⟩

/-- Writes assembly and calls the tools of the target on it. -/
def build (target : Target) (runner : Runner) (deadline : Deadline) (files : FileSystem)
    (paths : OutputPaths) (text : Bytes) : BuildResult :=
  match writeAssembly files paths text with
  | .error e => ⟨some (.write e), files, []⟩
  | .ok files => runCommands runner deadline [] (target.commands paths) files

/-- Removes what is at a path, as far as there is something. -/
def discard (files : FileSystem) (path : Bytes) : FileSystem × List FileError :=
  match files.remove path with
  | .ok files => (files, [])
  | .error e => (files, if e.fault = .missing then [] else [e])

/-- Removes the assembly and the object file. Both are tried, and the failures are listed. -/
def cleanUp (files : FileSystem) (paths : OutputPaths) : FileSystem × List FileError :=
  let (files, assemblyErrors) := discard files paths.assembly
  let (files, objectErrors) := discard files paths.object
  (files, assemblyErrors ++ objectErrors)

/-- The wording of failed removals, one to a line. -/
def cleanUpMessage (errors : List FileError) : Bytes :=
  Bytes.joinWith (utf8 "\n") (errors.map FileError.message)

end ExitLang
