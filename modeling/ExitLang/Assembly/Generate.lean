import ExitLang.Program
import ExitLang.Target

/-!
# Writing assembly

The assembly of a program exports the entry symbol, selects the code section, and at the entry label
loads the number of the exit system call and the status and enters the system. The status keeps the
decimal value of the literal and is not held to the width of an exit status.
-/

namespace ExitLang

/-- What stands after `exit`. Programs that were parsed always have a literal there. -/
inductive Operand where
  | literal (digits : Bytes)
  | absent
  | unsupported (form : Bytes)
  deriving DecidableEq

/-- What assembly is asked for. Programs that were parsed are always an exit with an operand. -/
inductive Statement where
  | exit (operand : Operand)
  | unfinishedExit
  | unsupported (form : Bytes)
  | absent
  deriving DecidableEq

/-- The statement of a program. -/
def Program.toStatement (program : Program) : Statement := .exit (.literal program.status)

/-- The reasons for which a statement has no assembly. -/
inductive GenerateError where
  | noStatement
  | unfinishedExit
  | missingExpression
  | noDigits
  | unsupportedExpression (form : Bytes)
  | unsupportedStatement (form : Bytes)
  deriving DecidableEq

/-- The wording of a generation error. -/
def GenerateError.message : GenerateError → Bytes
  | noStatement => utf8 "codegen: no statement"
  | unfinishedExit => utf8 "codegen: nil exit statement"
  | missingExpression => utf8 "codegen: missing expression"
  | noDigits => utf8 "codegen: integer literal has no digits"
  | unsupportedExpression form => utf8 "codegen: unsupported expression " ++ form
  | unsupportedStatement form => utf8 "codegen: unsupported statement " ++ form

/-- The digits of an operand. -/
def Operand.digits : Operand → Except GenerateError Bytes
  | literal [] => .error .noDigits
  | literal digits => .ok digits
  | absent => .error .missingExpression
  | unsupported form => .error (.unsupportedExpression form)

/-- The status digits of a statement. -/
def Statement.digits : Statement → Except GenerateError Bytes
  | exit operand => operand.digits
  | unfinishedExit => .error .unfinishedExit
  | unsupported form => .error (.unsupportedStatement form)
  | absent => .error .noStatement

namespace Target

/-- The instruction that loads a number into a register. -/
def loadText (target : Target) (register digits : Bytes) : Bytes :=
  target.move ++ utf8 " " ++ register ++ utf8 ", " ++ target.immediate digits

/-- An indented line. -/
def indented (text : Bytes) : Bytes := utf8 "    " ++ text

/-- An indented line with a comment, which starts after twenty columns of text. -/
def commented (target : Target) (text comment : Bytes) : Bytes :=
  indented (padRight 20 text ++ utf8 " " ++ target.commentLeader ++ utf8 " " ++ comment)

/-- The lines of the program that exits with the given status. -/
def exitLines (target : Target) (digits : Bytes) : List Bytes :=
  [indented (target.exportDirective ++ utf8 " " ++ target.entry),
   indented target.sectionDirective,
   target.entry ++ utf8 ":",
   target.commented (target.loadText target.numberRegister (decimal target.exitNumber))
     (utf8 "exit"),
   indented (target.loadText target.argumentRegister digits),
   indented target.trap]

/-- The assembly of a statement: its lines, each ended by a line feed. -/
def generate (target : Target) (statement : Statement) : Except GenerateError Bytes :=
  statement.digits.map fun digits => (target.exitLines digits).flatMap (· ++ utf8 "\n")

end Target

end ExitLang
