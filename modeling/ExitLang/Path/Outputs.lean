import ExitLang.Path

/-!
# Output paths

One build writes three files. The assembly and the object file stand next to the executable and
share its name; the executable is named for the source.
-/

namespace ExitLang

/-- The files that one build writes. -/
structure OutputPaths where
  assembly : Bytes
  object : Bytes
  executable : Bytes
  deriving DecidableEq

namespace OutputPaths

/-- The files of a build of the given executable, with the assembler's file extension. -/
def beside (executable extension : Bytes) : OutputPaths :=
  ⟨executable ++ extension, executable ++ utf8 ".o", executable⟩

/-- The executable of a source in a directory: the source's name without its extension, or with
`.out` if it has none. -/
def defaultExecutable (directory source : Bytes) : Bytes :=
  let name := Path.base source
  if Path.extension name = [] then Path.join directory (name ++ utf8 ".out")
  else Path.join directory (Path.stem name)

/-- Whether one of the files is the source, by their absolute paths. -/
def overwrites (workingDirectory : Option Bytes) (paths : OutputPaths) (source : Bytes) : Bool :=
  match Path.absolute workingDirectory source with
  | none => false
  | some place =>
    [paths.assembly, paths.object, paths.executable].any fun output =>
      Path.absolute workingDirectory output == some place

end OutputPaths

end ExitLang
