import ExitLang.Bytes

/-!
# Scripts

Among the programs that can be started is a shell, and what it is given is a list of simple
commands. A command is made of words, the first of which names one of a few built-in commands.
Quotes keep text together, parameters stand for arguments, and a command can depend on whether the
one before it succeeded. Both streams of a script lead to the same place, so a redirection of one to
the other changes nothing.

This is as much of a shell as it takes to see how a started program ends. Patterns, pipelines,
compound commands, substitutions of commands and redirections to files are left out.
-/

namespace ExitLang.Shell

/-- How a program ends. -/
inductive Ending where
  | status (code : Nat)
  | signal (number : Nat)
  deriving DecidableEq

/-- A part of a word: text that stands for itself, or a parameter by its name. -/
inductive Piece where
  | text (content : Bytes)
  | parameter (name : Bytes) (isQuoted : Bool)
  deriving DecidableEq

/-- What a command depends on. -/
inductive Condition where
  | always
  | afterSuccess
  | afterFailure
  deriving DecidableEq

/-- What a script is read as. -/
inductive Lexeme where
  | word (pieces : List Piece)
  | divider (condition : Condition)
  deriving DecidableEq

/-- What the reader is inside of. -/
inductive Mode where
  | plain
  | singleQuotes
  | doubleQuotes
  | comment
  deriving DecidableEq

/-- A byte that a name can start with. -/
def isNameStart (b : UInt8) : Bool :=
  (0x41 ≤ b && b ≤ 0x5A) || (0x61 ≤ b && b ≤ 0x7A) || b == 0x5F

/-- The name of a parameter at the front of a text: a digit, one of `@ * # ? $`, or a name. -/
def parameterName (text : Bytes) : Bytes :=
  if text.head?.any fun b => Bytes.isDigit b || (utf8 "@*#?$").contains b then text.take 1
  else if text.head?.any isNameStart then
    text.takeWhile fun b => isNameStart b || Bytes.isDigit b
  else []

/-- The word that has been read, if one has. -/
def wordOf (pieces : Option (List Piece)) : List Lexeme :=
  pieces.toList.map fun pieces => .word pieces.reverse

/-- The lexemes of a script after `skip` more bytes. The word that is being read is given by its
pieces, the last one first. -/
def lexemes : (skip : Nat) → Mode → (pieces : Option (List Piece)) → Bytes → List Lexeme
  | _, _, pieces, [] => wordOf pieces
  | skip + 1, mode, pieces, _ :: rest => lexemes skip mode pieces rest
  | 0, mode, pieces, b :: rest =>
    let add (piece : Piece) : Option (List Piece) := some (piece :: pieces.getD [])
    let name := if b = 0x24 then parameterName rest else []
    match mode with
    | .comment =>
      if b = 0x0A then .divider .always :: lexemes 0 .plain none rest
      else lexemes 0 .comment pieces rest
    | .singleQuotes =>
      if b = 0x27 then lexemes 0 .plain pieces rest
      else lexemes 0 mode (add (.text [b])) rest
    | .doubleQuotes =>
      let isEscape := b = 0x5C ∧ rest.head?.any (utf8 "$`\"\\").contains
      if b = 0x22 then lexemes 0 .plain pieces rest
      else if isEscape then lexemes 1 mode (add (.text (rest.take 1))) rest
      else if name ≠ [] then lexemes name.length mode (add (.parameter name true)) rest
      else lexemes 0 mode (add (.text [b])) rest
    | .plain =>
      if b = 0x5C then
        let isContinued := rest.head? = some 0x0A
        lexemes 1 mode (if isContinued then pieces else add (.text (rest.take 1))) rest
      else if b = 0x27 then lexemes 0 .singleQuotes (add (.text [])) rest
      else if b = 0x22 then
        -- Quotes around nothing are a word of their own, quotes around no arguments are none.
        let opened := if rest.head? = some b then add (.text []) else some (pieces.getD [])
        lexemes 0 .doubleQuotes opened rest
      else if b = 0x23 ∧ pieces = none then lexemes 0 .comment none rest
      else if b = 0x20 ∨ b = 0x09 then wordOf pieces ++ lexemes 0 mode none rest
      else if b = 0x0A ∨ b = 0x3B then
        wordOf pieces ++ .divider .always :: lexemes 0 mode none rest
      else if b = 0x26 ∨ b = 0x7C then
        let condition := if b = 0x26 then Condition.afterSuccess else .afterFailure
        wordOf pieces ++
          if rest.head? = some b then .divider condition :: lexemes 1 mode none rest
          else .divider .always :: lexemes 0 mode none rest
      else if b = 0x3E then
        -- The number of a stream stands right before the sign, and another one behind it.
        let isStream := pieces = some [.text [0x31]] ∨ pieces = some [.text [0x32]]
        let target := rest.takeWhile fun b => b == 0x26 || Bytes.isDigit b
        (if isStream then [] else wordOf pieces) ++ lexemes target.length mode none rest
      else if name ≠ [] then lexemes name.length mode (add (.parameter name false)) rest
      else lexemes 0 mode (add (.text [b])) rest

/-- A command and what it depends on. -/
structure Step where
  condition : Condition
  words : List (List Piece)
  deriving DecidableEq

/-- The commands of a script, from the words of the first one that have been read. A line that is
empty divides nothing. -/
def steps (condition : Condition) (words : List (List Piece)) : List Lexeme → List Step
  | [] => if words = [] then [] else [⟨condition, words⟩]
  | .word pieces :: rest => steps condition (words ++ [pieces]) rest
  | .divider next :: rest =>
    if words ≠ [] then ⟨condition, words⟩ :: steps next [] rest
    else steps (if next = .always then condition else next) [] rest

/-- The state of a running script. -/
structure Session where
  name : Bytes
  arguments : List Bytes
  bindings : List (Bytes × Bytes)
  status : Nat
  output : Bytes
  deriving DecidableEq

/-- The number that digits spell. -/
def number? (text : Bytes) : Option Nat :=
  if text ≠ [] ∧ text.all Bytes.isDigit then
    some (text.foldl (fun value digit => value * 10 + (digit.toNat - 0x30)) 0)
  else none

/-- The text that stands for the shell's own process. -/
def ownProcess : Bytes := utf8 "1"

/-- The values of a parameter. -/
def Session.values (session : Session) (parameter : Bytes) : List Bytes :=
  if parameter = utf8 "@" ∨ parameter = utf8 "*" then session.arguments
  else if parameter = utf8 "#" then [decimalNat session.arguments.length]
  else if parameter = utf8 "?" then [decimalNat session.status]
  else if parameter = utf8 "$" then [ownProcess]
  else if parameter = utf8 "0" then [session.name]
  else
    match number? parameter with
    | some number => (session.arguments[number - 1]?).toList
    | none => (session.bindings.lookup parameter).toList

/-- The texts that a piece adds to a word. The first of them is joined to what stands before it, and
what stands behind it to the last. -/
def Session.parts (session : Session) : Piece → List Bytes
  | .text content => [content]
  | .parameter name isQuoted =>
    let values := session.values name
    let isBlank (b : UInt8) : Bool := b == 0x20 || b == 0x09 || b == 0x0A
    if !isQuoted then values.flatMap fun value =>
      (splitWhere isBlank value).filter fun field => !field.isEmpty
    else if name = utf8 "@" then values
    else [Bytes.joinWith (utf8 " ") values]

/-- The fields of a word, of which the last one is still open. -/
def Session.fieldsFrom (session : Session) : (last : Option Bytes) → List Piece → List Bytes
  | last, [] => last.toList
  | last, piece :: rest =>
    match session.parts piece with
    | [] => session.fieldsFrom last rest
    | first :: more =>
      let joined := last.getD [] ++ first
      (joined :: more).dropLast ++ session.fieldsFrom (more.getLast?.getD joined) rest

/-- The bytes that have a letter as their escape. -/
def escapes : List (UInt8 × UInt8) :=
  [(0x61, 0x07), (0x62, 0x08), (0x66, 0x0C), (0x6E, 0x0A), (0x72, 0x0D), (0x74, 0x09), (0x76, 0x0B),
   (0x5C, 0x5C)]

/-- What an escape prints, given what follows its backslash, and how many bytes of that it takes. -/
def escape (text : Bytes) : Bytes × Nat :=
  let octal := (text.take 3).takeWhile fun b => 0x30 ≤ b && b ≤ 0x37
  match text.head?.bind fun b => escapes.lookup b with
  | some value => ([value], 1)
  | none =>
    if octal = [] then ([0x5C], 0)
    else ([octal.foldl (fun value digit => value * 8 + (digit - 0x30)) 0], octal.length)

/-- A text with its escapes resolved, after `skip` more bytes. -/
def resolve : (skip : Nat) → Bytes → Bytes
  | _, [] => []
  | skip + 1, _ :: rest => resolve skip rest
  | 0, b :: rest =>
    let (text, count) := if b = 0x5C then escape rest else ([b], 0)
    text ++ resolve count rest

/-- Fills arguments into a format once: the text, and the arguments that are left. -/
def fill : (skip : Nat) → Bytes → List Bytes → Bytes × List Bytes
  | _, [], arguments => ([], arguments)
  | skip + 1, _ :: rest, arguments => fill skip rest arguments
  | 0, b :: rest, arguments =>
    let next := if b = 0x25 then rest.head? else none
    let (text, count) :=
      if b = 0x5C then escape rest
      else if next = some 0x73 then (arguments.headD [], 1)
      else if next = some 0x64 then (arguments.headD (utf8 "0"), 1)
      else ([b], if next = some 0x25 then 1 else 0)
    let isDirective := next = some 0x73 ∨ next = some 0x64
    let (more, left) := fill count rest (if isDirective then arguments.tail else arguments)
    (text ++ more, left)

/-- Fills arguments into a format as often as it takes some, at most `rounds` times. -/
def fillAll (format : Bytes) : (rounds : Nat) → List Bytes → Bytes
  | 0, _ => []
  | rounds + 1, arguments =>
    let (text, left) := fill 0 format arguments
    if left = [] ∨ left = arguments then text else text ++ fillAll format rounds left

/-- The signals that can be sent by name. -/
def signals : List (Bytes × Nat) :=
  ([("HUP", 1), ("INT", 2), ("QUIT", 3), ("ABRT", 6), ("KILL", 9), ("USR1", 10), ("SEGV", 11),
    ("USR2", 12), ("PIPE", 13), ("ALRM", 14), ("TERM", 15)] : List (String × Nat)).map
    fun (name, number) => (utf8 name, number)

/-- The signal and the process that the words of a `kill` ask for. -/
def killed? : List Bytes → Option (Nat × Bytes)
  | [process] => some (15, process)
  | [option, process] => do
    let name ← Bytes.dropMark? (utf8 "-") option
    let signal ← (number? name).or (signals.lookup name)
    return (signal, process)
  | [option, name, process] => do
    let signal ← (number? name).or (signals.lookup name)
    if option = utf8 "-s" then some (signal, process) else none
  | _ => none

/-- Runs a command: the text it prints, and the status that the script goes on with or the way it
ends. -/
def Session.perform (session : Session) (command : Bytes) (operands : List Bytes) :
    Bytes × Except Ending Nat :=
  if command = utf8 "echo" then
    let isOpen := operands.head? = some (utf8 "-n")
    let text := Bytes.joinWith (utf8 " ") (if isOpen then operands.tail else operands)
    (resolve 0 text ++ (if isOpen then [] else utf8 "\n"), .ok 0)
  else if command = utf8 "printf" then
    (fillAll (operands.headD []) operands.length operands.tail, .ok 0)
  else if command = utf8 "exit" then
    ([], .error (.status ((operands.head?.bind number?).getD session.status % 256)))
  else if command = utf8 "kill" then
    match killed? operands with
    | none => ([], .ok 2)
    | some (signal, process) =>
      if process ≠ ownProcess then ([], .ok 1)
      else if signal = 0 then ([], .ok 0)
      else ([], .error (.signal signal))
  -- There is nothing to read, so reading fails.
  else if command = utf8 "false" ∨ command = utf8 "read" then ([], .ok 1)
  else if [utf8 "true", utf8 ":", utf8 "cat", utf8 "sleep"].contains command then ([], .ok 0)
  else (session.name ++ utf8 ": 1: " ++ command ++ utf8 ": not found\n", .ok 127)

/-- The name and the value of a word that is an assignment. -/
def assignment? (word : Bytes) : Option (Bytes × Bytes) :=
  let name := parameterName word
  match word.drop name.length with
  | 0x3D :: value => if name.head?.any isNameStart then some (name, value) else none
  | _ => none

/-- Runs commands one after the other: the text they print, and how the script ends. -/
def Session.run (session : Session) : List Step → Bytes × Ending
  | [] => (session.output, .status session.status)
  | step :: rest =>
    let isDue := match step.condition with
      | .always => true
      | .afterSuccess => session.status = 0
      | .afterFailure => session.status ≠ 0
    match step.words.flatMap (session.fieldsFrom none) with
    | [] => session.run rest
    | command :: operands =>
      if !isDue then session.run rest
      else
        match assignment? command with
        | some binding =>
          { session with status := 0, bindings := binding :: session.bindings }.run rest
        | none =>
          let (text, result) := session.perform command operands
          match result with
          | .error ending => (session.output ++ text, ending)
          | .ok status =>
            { session with status := status, output := session.output ++ text }.run rest

/-- Runs the shell under a name with arguments: its text and how it ends. Without a script it reads
an input that is empty. -/
def execute (name : Bytes) : List Bytes → Bytes × Ending
  | [] => ([], .status 0)
  | option :: operands =>
    if option = utf8 "-c" then
      match operands with
      | [] => (name ++ utf8 ": 0: -c requires an argument\n", .status 2)
      | script :: operands =>
        Session.run ⟨operands.headD name, operands.tail, [], 0, []⟩
          (steps .always [] (lexemes 0 .plain none script))
    else (name ++ utf8 ": 0: cannot open " ++ option ++ utf8 ": No such file\n", .status 2)

end ExitLang.Shell
