import ExitLang.Target
import ExitLang.Text.Words
import ExitLang.Unicode.Digit
import ExitLang.Unicode.Letter

/-!
# Lines of assembly

A line holds labels, each ended by a colon, and then a mnemonic and its operands. Commas between
operands count as blanks, and what follows the comment leader does not count at all.
-/

namespace ExitLang.Assembly

/-- A line that was read. The mnemonic is in upper case, and empty if the line has none. -/
structure Line where
  number : Int
  labels : List Bytes
  mnemonic : Bytes
  operands : List Bytes
  deriving DecidableEq

/-- The reasons for which a line cannot be read. -/
inductive LineError where
  /-- A colon ends something that is no label; the line holds what was read before. -/
  | invalidLabel (soFar : Line) (label : Bytes)
  /-- What follows the labels is not empty but has no words: there are only commas and blanks. -/
  | noWords (number : Int)
  deriving DecidableEq

/-- A line up to its comment. -/
def withoutComment (leader line : Bytes) : Bytes := Bytes.before leader line

/-- A line with its commas turned into spaces. -/
def withoutCommas (line : Bytes) : Bytes := line.map fun b => if b = 0x2C then 0x20 else b

/-- The mnemonic of an instruction or a directive: its first word, in upper case. -/
def mnemonicOf (text : Bytes) : Bytes :=
  match words text with
  | [] => []
  | word :: _ => upperCase word

/-- A character that a label may start with. -/
def isLabelStart (c : Char) : Bool := Unicode.isLetter c || c == '_' || c == '.'

/-- A character that a label may go on with. -/
def isLabelPart (c : Char) : Bool := Unicode.isLetter c || Unicode.isDecimalDigit c || c == '_'

/-- Whether a text can be a label. -/
def isLabel (text : Bytes) : Bool :=
  match codePoints text with
  | [] => false
  | c :: rest => isLabelStart c && rest.all isLabelPart

/-- The mnemonic and the operands of a text that is not empty, added to the labels before it. -/
def readInstruction (line : Line) (text : Bytes) : Except LineError Line :=
  match words (withoutCommas text) with
  | [] => .error (.noWords line.number)
  | mnemonic :: operands =>
    .ok { line with mnemonic := upperCase mnemonic, operands := operands }

/-- Reads a line cut at its colons. As long as a colon follows a text without spaces and tabs, that
text has to be a label; the first that has some, or is blank, starts the instruction, which may hold
colons of its own. -/
def readPieces (line : Line) : List Bytes → Except LineError Line
  | [] => .ok line
  | [last] => if trim last = [] then .ok line else readInstruction line (trim last)
  | piece :: next :: more =>
    let label := trim piece
    if label = [] ∨ label.any (fun b => b == 0x20 || b == 0x09) then
      readInstruction line (trim (Bytes.joinWith (utf8 ":") (piece :: next :: more)))
    else if isLabel label then
      readPieces { line with labels := line.labels ++ [label] } (next :: more)
    else .error (.invalidLabel line label)

/-- The line that a text holds. -/
def readLine (target : Target) (text : Bytes) (number : Int) : Except LineError Line :=
  readPieces ⟨number, [], [], []⟩ (Bytes.splitOn 0x3A (withoutComment target.commentLeader text))

end ExitLang.Assembly
