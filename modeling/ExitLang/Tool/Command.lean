import ExitLang.Files.System
import ExitLang.Path.Outputs
import ExitLang.Target
import ExitLang.Text.Words

/-!
# External tools

A build calls an assembler and a linker. A runner stands for whatever executes them: given the calls
made before, the call and the files, it replies and leaves the tree as it likes.
-/

namespace ExitLang

/-- A call of an external tool. -/
structure Command where
  tool : Bytes
  arguments : List Bytes
  deriving DecidableEq

/-- A call as the log shows it. -/
def Command.render (command : Command) : Bytes :=
  trim (command.tool ++ utf8 " " ++ Bytes.joinWith (utf8 " ") command.arguments)

/-- What a tool gives back: its output, and an error if it failed. -/
structure Reply where
  output : Bytes
  error : Option Bytes
  deriving DecidableEq

/-- An executor of tool calls: from the calls before, the call and the files to the reply and the
tree after it. -/
abbrev Runner := List Command → Command → FileSystem → Reply × FileTree

/-- One answer of a scripted runner: the files that the call makes, and its reply. -/
structure ScriptedReply where
  creates : List Bytes
  reply : Reply
  deriving DecidableEq

/-- A runner that answers its calls from a list, one after the other, and lets all calls beyond it
succeed. Files that cannot be made are left out. -/
def Runner.scripted (script : List ScriptedReply) : Runner := fun before command files =>
  match script[before.length]? with
  | none => (⟨[], none⟩, files.tree)
  | some step =>
    let create (files : FileSystem) (name : Bytes) : FileSystem :=
      match files.write name (utf8 "made by " ++ command.tool) with
      | .ok files => files
      | .error _ => files
    (step.reply, (step.creates.foldl create files).tree)

/-- A failed call. The cause is absent only in a value that no build has made. -/
structure ToolError where
  tool : Bytes
  arguments : List Bytes
  output : Bytes
  cause : Option Bytes
  deriving DecidableEq

/-- The wording of a failed call: the call, its cause, and its output if there is any. -/
def ToolError.message (error : ToolError) : Bytes :=
  let output := trim error.output
  error.tool ++ utf8 " " ++ Bytes.joinWith (utf8 " ") error.arguments ++ utf8 ": " ++
    error.cause.getD (utf8 "<nil>") ++ (if output = [] then [] else utf8 "\n" ++ output)

/-- The calls of a build, in order: the assembler and then the linker. -/
def Target.commands (target : Target) (paths : OutputPaths) : List Command :=
  let assemble : Command :=
    if target.dialect = .nasm then
      ⟨utf8 "nasm", [utf8 "-f", utf8 "elf64", utf8 "-o", paths.object, paths.assembly]⟩
    else ⟨utf8 "as", [utf8 "-o", paths.object, paths.assembly]⟩
  [assemble, ⟨utf8 "ld", [utf8 "-o", paths.executable, paths.object]⟩]

end ExitLang
