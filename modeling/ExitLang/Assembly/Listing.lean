import ExitLang.Assembly.Line

/-!
# Checking assembly

A text is a complete exit program for a target when each line is a directive of the target, its
system call, or a load of a number into one of its two registers; when the entry symbol is the only
label and is exported; and when the system call stands once, at the end. The check gives a listing
of the lines, or the first reason against the text.
-/

namespace ExitLang.Assembly

/-- The structure of a text that passed. The status is what was last loaded into the register for
the first argument of a system call. -/
structure Listing where
  labels : List Bytes
  directives : List Line
  instructions : List Line
  exitStatus : Bytes
  deriving DecidableEq

/-- The reasons for which a text does not pass. -/
inductive CheckError where
  | unreadable (error : LineError)
  | unknownInstruction (number : Int) (mnemonic : Bytes)
  | operandCount (line : Line)
  | invalidRegister (register : Bytes) (number : Int)
  | invalidImmediate (number : Int) (operand : Bytes)
  | octalImmediate (number : Int) (operand : Bytes)
  | wrongLabels (entry : Bytes) (found : List Bytes)
  | entryNotExported (entry : Bytes)
  | trapCount (trap : Bytes) (found : Nat)
  | trapNotLast (number : Int) (trap : Bytes)
  /-- The last instruction is asked for where there is none. -/
  | noLastInstruction
  deriving DecidableEq

/-- The wording of a line that cannot be read. -/
def LineError.message : LineError → Bytes
  | invalidLabel soFar label =>
    utf8 "invalid label '" ++ label ++ utf8 "' on line " ++ decimal soFar.number
  | noWords number => utf8 "no words on line " ++ decimal number

/-- The wording of a failed check. -/
def CheckError.message : CheckError → Bytes
  | unreadable error => error.message
  | unknownInstruction number mnemonic =>
    utf8 "unknown instruction on line " ++ decimal number ++ utf8 ": " ++ mnemonic
  | operandCount line =>
    line.mnemonic ++ utf8 " expects 2 operands on line " ++ decimal line.number ++ utf8 ", got " ++
      decimalNat line.operands.length
  | invalidRegister register number =>
    utf8 "invalid register '" ++ register ++ utf8 "' on line " ++ decimal number
  | invalidImmediate number operand =>
    utf8 "invalid immediate on line " ++ decimal number ++ utf8 ": " ++ operand
  | octalImmediate number operand =>
    utf8 "octal immediate on line " ++ decimal number ++ utf8 ": " ++ operand
  | wrongLabels entry found =>
    utf8 "expected exactly one label " ++ quoted entry ++ utf8 ", found [" ++
      Bytes.joinWith (utf8 " ") found ++ utf8 "]"
  | entryNotExported entry => utf8 "entry symbol " ++ quoted entry ++ utf8 " is not exported"
  | trapCount trap found =>
    utf8 "expected exactly one " ++ lowerCase trap ++ utf8 ", found " ++ decimalNat found
  | trapNotLast number trap =>
    utf8 "line " ++ decimal number ++ utf8 ": " ++ lowerCase trap ++
      utf8 " must be the last instruction"
  | noLastInstruction => utf8 "no last instruction"

/-- The digits of an immediate operand: the target's mark and then ASCII digits only. The GNU
assembler would read several digits after a zero as octal, so those are refused for it. -/
def readImmediate (target : Target) (operand : Bytes) (number : Int) : Except CheckError Bytes :=
  match Bytes.dropMark? target.immediateMark operand with
  | none => .error (.invalidImmediate number operand)
  | some digits =>
    if digits = [] ∨ !digits.all Bytes.isDigit then .error (.invalidImmediate number operand)
    else if target.dialect = .gas ∧ digits.length > 1 ∧ digits.head? = some 0x30 then
      .error (.octalImmediate number operand)
    else .ok digits

/-- The classes of lines that a target knows. A mnemonic that is in several of them is in the
first. -/
inductive LineClass where
  | directive
  | trap
  | load
  | unknown
  deriving DecidableEq

/-- The class of a mnemonic. -/
def classify (target : Target) (mnemonic : Bytes) : LineClass :=
  if mnemonic = mnemonicOf target.exportDirective ∨
      mnemonic = mnemonicOf target.sectionDirective then
    .directive
  else if mnemonic = mnemonicOf target.trap then .trap
  else if mnemonic = mnemonicOf target.move then .load
  else .unknown

/-- A register and the digits that are loaded into it. -/
structure Load where
  register : Bytes
  digits : Bytes
  deriving DecidableEq

/-- The load of an instruction line. The register is named in upper case. -/
def readLoad (target : Target) (line : Line) : Except CheckError Load :=
  match line.operands with
  | [register, operand] =>
    let name := upperCase register
    if name = upperCase target.numberRegister ∨ name = upperCase target.argumentRegister then
      (readImmediate target operand line.number).map fun digits => ⟨name, digits⟩
    else .error (.invalidRegister register line.number)
  | _ => .error (.operandCount line)

/-- What the lines so far have given, the loads from the last to the first. -/
structure Draft where
  labels : List Bytes
  directives : List Line
  instructions : List Line
  loads : List Load
  deriving DecidableEq

namespace Draft

/-- Before the first line. -/
def empty : Draft := ⟨[], [], [], []⟩

/-- Takes in a line that was read. -/
def add (target : Target) (draft : Draft) (line : Line) : Except CheckError Draft :=
  let draft := { draft with labels := draft.labels ++ line.labels }
  if line.mnemonic = [] then .ok draft
  else
    match classify target line.mnemonic with
    | .directive => .ok { draft with directives := draft.directives ++ [line] }
    | .trap => .ok { draft with instructions := draft.instructions ++ [line] }
    | .load =>
      match readLoad target line with
      | .error e => .error e
      | .ok load =>
        .ok { draft with
          instructions := draft.instructions ++ [line]
          loads := load :: draft.loads }
    | .unknown => .error (.unknownInstruction line.number line.mnemonic)

/-- Takes in lines, the first of which has the given number. -/
def addLines (target : Target) : Int → Draft → List Bytes → Except CheckError Draft
  | _, draft, [] => .ok draft
  | number, draft, text :: rest =>
    match readLine target text number with
    | .error e => .error (.unreadable e)
    | .ok line =>
      match draft.add target line with
      | .error e => .error e
      | .ok draft => addLines target (number + 1) draft rest

/-- Whether a line exports the entry symbol and nothing else. -/
def exportsEntry (target : Target) (line : Line) : Bool :=
  line.mnemonic == mnemonicOf target.exportDirective && line.operands == [target.entry]

/-- Holds the lines together against the shape of an exit program. -/
def checkShape (target : Target) (draft : Draft) : Except CheckError Unit :=
  let trap := mnemonicOf target.trap
  let traps := draft.instructions.countP fun line => line.mnemonic == trap
  if draft.labels ≠ [target.entry] then .error (.wrongLabels target.entry draft.labels)
  else if !draft.directives.any (exportsEntry target) then .error (.entryNotExported target.entry)
  else if traps ≠ 1 then .error (.trapCount trap traps)
  else
    match draft.instructions.getLast? with
    | none => .error .noLastInstruction
    | some last => if last.mnemonic = trap then .ok () else .error (.trapNotLast last.number trap)

/-- The digits that a register holds after the lines; none if nothing was loaded into it. -/
def valueOf (draft : Draft) (register : Bytes) : Bytes :=
  match draft.loads.find? fun load => load.register == upperCase register with
  | some load => load.digits
  | none => []

end Draft

/-- The listing of a text for a target, or the first reason against it. -/
def check (target : Target) (text : Bytes) : Except CheckError Listing :=
  match Draft.addLines target 1 .empty (Bytes.splitOn 0x0A text) with
  | .error e => .error e
  | .ok draft =>
    match draft.checkShape target with
    | .error e => .error e
    | .ok () =>
      .ok ⟨draft.labels, draft.directives, draft.instructions,
        draft.valueOf target.argumentRegister⟩

end ExitLang.Assembly
