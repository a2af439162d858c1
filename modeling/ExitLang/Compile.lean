import ExitLang.Token.Scanner
import ExitLang.Assembly.Generate

/-!
# Compiling a source

Tokens, program, assembly: each stage takes what the one before has made, and the first that fails
decides the result.
-/

namespace ExitLang

/-- What a compilation has made. -/
structure Compilation where
  tokens : List Token
  program : Program
  assembly : Bytes
  deriving DecidableEq

/-- The stage that failed, with what the stages before it had made. -/
inductive CompileError where
  | lexical (error : LexicalError)
  | syntactic (tokens : List Token) (error : SyntaxError)
  | generation (target : Target) (tokens : List Token) (program : Program) (error : GenerateError)
  deriving DecidableEq

/-- The wording of a failed compilation. The two kinds of faults in a source are reported as they
are. -/
def CompileError.message : CompileError → Bytes
  | lexical error => error.message
  | syntactic _ error => error.message
  | generation target _ _ error => utf8 "generate " ++ target.name ++ utf8 ": " ++ error.message

/-- The assembly of a source for a target, with the tokens and the program on the way. -/
def compile (source : Bytes) (target : Target) : Except CompileError Compilation :=
  match tokenize source with
  | .error e => .error (.lexical e)
  | .ok tokens =>
    match Program.ofTokens tokens with
    | .error e => .error (.syntactic tokens e)
    | .ok program =>
      match target.generate program.toStatement with
      | .error e => .error (.generation target tokens program e)
      | .ok assembly => .ok ⟨tokens, program, assembly⟩

end ExitLang
