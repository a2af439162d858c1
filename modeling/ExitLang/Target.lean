import ExitLang.Text.Case
import ExitLang.Text.Quoted

/-!
# Targets

A target describes one operating system and architecture: the dialect its assembler reads and the
words that an exit system call is written with. Everything that generates, checks or names assembly
takes these words from the target and none from elsewhere.
-/

namespace ExitLang

/-- The assembler dialect of a target. A target that is none of the supported ones may carry any
other number. -/
inductive Dialect where
  | nasm
  | gas
  | other (number : Int)
  deriving DecidableEq

namespace Dialect

/-- The dialect with a given number. -/
def ofNumber (n : Int) : Dialect := if n = 0 then nasm else if n = 1 then gas else other n

/-- The printed name of a dialect. -/
def name : Dialect → Bytes
  | nasm => utf8 "nasm"
  | gas => utf8 "gas"
  | other n => utf8 "Syntax(" ++ decimal n ++ utf8 ")"

end Dialect

/-- The conventions of one operating system and architecture. -/
structure Target where
  os : Bytes
  arch : Bytes
  dialect : Dialect
  /-- The symbol where the program starts. -/
  entry : Bytes
  /-- The directive that exports the entry symbol. -/
  exportDirective : Bytes
  /-- The directive that selects the code section. -/
  sectionDirective : Bytes
  /-- What a comment starts with. -/
  commentLeader : Bytes
  /-- The number of the exit system call. -/
  exitNumber : Int
  /-- The register for the number of a system call. -/
  numberRegister : Bytes
  /-- The register for the first argument of a system call. -/
  argumentRegister : Bytes
  /-- What an immediate operand starts with. -/
  immediateMark : Bytes
  /-- The mnemonic that loads a register. -/
  move : Bytes
  /-- The instruction that enters the system call. -/
  trap : Bytes
  deriving DecidableEq

namespace Target

/-- Linux on 64-bit x86, in the dialect of nasm. -/
def linuxAmd64 : Target where
  os := utf8 "linux"
  arch := utf8 "amd64"
  dialect := .nasm
  entry := utf8 "_start"
  exportDirective := utf8 "global"
  sectionDirective := utf8 "section .text"
  commentLeader := utf8 ";"
  exitNumber := 60
  numberRegister := utf8 "rax"
  argumentRegister := utf8 "rdi"
  immediateMark := []
  move := utf8 "mov"
  trap := utf8 "syscall"

/-- Linux on 64-bit ARM, in the dialect of the GNU assembler. -/
def linuxArm64 : Target where
  os := utf8 "linux"
  arch := utf8 "arm64"
  dialect := .gas
  entry := utf8 "_start"
  exportDirective := utf8 ".global"
  sectionDirective := utf8 ".text"
  commentLeader := utf8 "//"
  exitNumber := 93
  numberRegister := utf8 "x8"
  argumentRegister := utf8 "x0"
  immediateMark := utf8 "#"
  move := utf8 "mov"
  trap := utf8 "svc #0"

/-- The targets that can be asked for by name. -/
def supported : List Target := [linuxAmd64, linuxArm64]

/-- The name of a target: its operating system and its architecture. -/
def name (target : Target) : Bytes := target.os ++ utf8 "/" ++ target.arch

/-- The file extension that the target's assembler expects. -/
def extension (target : Target) : Bytes :=
  if target.dialect = .nasm then utf8 ".asm" else utf8 ".s"

/-- A digit run without its leading zeros; of zeros alone, one is left. -/
def stripZeros (digits : Bytes) : Bytes :=
  match digits.dropWhile (· == 0x30) with
  | [] => utf8 "0"
  | stripped => stripped

/-- A digit run as an immediate operand. The GNU assembler reads a leading zero as octal, so it gets
none; other assemblers get the digits as they are. -/
def immediate (target : Target) (digits : Bytes) : Bytes :=
  target.immediateMark ++ if target.dialect = .gas then stripZeros digits else digits

/-- The supported target of the given name, in any case. -/
def lookup? (name : Bytes) : Option Target :=
  supported.find? fun target => sameUpToCase name target.name

/-- The wording for a name that no supported target has. -/
def unknownMessage (name : Bytes) : Bytes :=
  utf8 "unknown target " ++ quoted name ++ utf8 " (supported: " ++
    Bytes.joinWith (utf8 ", ") (supported.map Target.name) ++ utf8 ")"

end Target

end ExitLang
