import ExitLang.CommandLine.Run

/-!
# What a call can touch

A call reads its source and works on the files next to one executable. Which executable that is
depends on whether the default name falls on the source, so both candidates count.
-/

namespace ExitLang

/-- The paths that a call can read, write or remove. -/
def Request.footprint (workingDirectory : Option Bytes) : Request → List Bytes
  | .help => []
  | .compile settings source =>
    match Path.absolute workingDirectory source, Target.lookup? settings.target with
    | some path, some target =>
      let default := OutputPaths.defaultExecutable (Path.parent path) path
      let executables :=
        if settings.output ≠ [] then [settings.output] else [default, default ++ utf8 ".out"]
      path :: executables.flatMap fun executable =>
        let paths := OutputPaths.beside executable target.extension
        [paths.assembly, paths.object, paths.executable]
    | _, _ => []

end ExitLang
