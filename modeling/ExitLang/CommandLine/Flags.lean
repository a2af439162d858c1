import ExitLang.CommandLine.Duration
import ExitLang.Target

/-!
# Options

The arguments are read from left to right. An option is written with its name after two dashes, or
with its letter after one; letters can be run together. A switch needs no value, every other option
takes one. What is no option is a positional argument. The first fault ends the reading.
-/

namespace ExitLang

/-- What the options decide. -/
structure Settings where
  output : Bytes
  emitAssembly : Bool
  target : Bytes
  dump : Bool
  keep : Bool
  timeout : Int
  verbose : Bool
  deriving DecidableEq

/-- The settings without any option. -/
def Settings.default : Settings where
  output := []
  emitAssembly := false
  target := Target.linuxAmd64.name
  dump := false
  keep := false
  timeout := 30 * Duration.second
  verbose := false

/-- The options. -/
inductive Flag where
  | dump
  | emitAssembly
  | help
  | keep
  | output
  | target
  | timeout
  | verbose
  deriving DecidableEq

namespace Flag

/-- All options. -/
def all : List Flag := [dump, emitAssembly, help, keep, output, target, timeout, verbose]

/-- The name of an option, without its dashes. -/
def name : Flag → Bytes
  | dump => utf8 "dump"
  | emitAssembly => utf8 "emit-asm"
  | help => utf8 "help"
  | keep => utf8 "keep"
  | output => utf8 "output"
  | target => utf8 "target"
  | timeout => utf8 "timeout"
  | verbose => utf8 "verbose"

/-- The letter of an option that has one. -/
def letter? : Flag → Option UInt8
  | emitAssembly => some 0x53
  | help => some 0x68
  | output => some 0x6F
  | verbose => some 0x76
  | _ => none

/-- Whether an option is on by being named. -/
def isSwitch : Flag → Bool
  | output | target | timeout => false
  | _ => true

/-- The option of a name. -/
def ofName? (name : Bytes) : Option Flag := all.find? fun flag => flag.name == name

/-- The option of a letter. -/
def ofLetter? (letter : UInt8) : Option Flag := all.find? fun flag => flag.letter? == some letter

/-- An option as messages name it, with its letter first. -/
def describe (flag : Flag) : Bytes :=
  match flag.letter? with
  | some letter => utf8 "-" ++ [letter] ++ utf8 ", --" ++ flag.name
  | none => utf8 "--" ++ flag.name

end Flag

/-- The reasons for which an option refuses a value. -/
inductive ValueError where
  | notBoolean (value : Bytes)
  | notDuration (error : DurationError)
  deriving DecidableEq

/-- The wording of a refused value. -/
def ValueError.message : ValueError → Bytes
  | notBoolean value =>
    utf8 "strconv.ParseBool: parsing " ++ quoted value ++ utf8 ": invalid syntax"
  | notDuration error => error.message

/-- The faults in the use of the command line. -/
inductive UsageError where
  | malformedFlag (argument : Bytes)
  | unknownFlag (name : Bytes)
  | unknownLetter (letter : UInt8) (run : Bytes)
  | missingValue (argument : Bytes)
  | missingLetterValue (letter : UInt8) (run : Bytes)
  | invalidValue (value : Bytes) (flag : Flag) (error : ValueError)
  | argumentCount (received : Nat)
  | unknownTarget (name : Bytes)
  | overwritesSource (output source : Bytes)
  deriving DecidableEq

/-- A letter as messages quote it: its byte taken as a code point. -/
def quotedLetter (letter : UInt8) : Bytes := quotedChar (Char.ofNat letter.toNat)

/-- The wording of a fault in the use of the command line. -/
def UsageError.message : UsageError → Bytes
  | malformedFlag argument => utf8 "bad flag syntax: " ++ argument
  | unknownFlag name => utf8 "unknown flag: --" ++ name
  | unknownLetter letter run =>
    utf8 "unknown shorthand flag: " ++ quotedLetter letter ++ utf8 " in -" ++ run
  | missingValue argument => utf8 "flag needs an argument: " ++ argument
  | missingLetterValue letter run =>
    utf8 "flag needs an argument: " ++ quotedLetter letter ++ utf8 " in -" ++ run
  | invalidValue value flag error =>
    utf8 "invalid argument " ++ quoted value ++ utf8 " for " ++ quoted flag.describe ++
      utf8 " flag: " ++ error.message
  | argumentCount received => utf8 "accepts 1 arg(s), received " ++ decimalNat received
  | unknownTarget name => Target.unknownMessage name
  | overwritesSource output source =>
    utf8 "output " ++ quoted output ++ utf8 " would overwrite source " ++ source

/-- The state of reading arguments. -/
structure Reading where
  settings : Settings
  help : Bool
  positional : List Bytes
  /-- An option whose value is the next argument, with the fault if there is none. -/
  awaiting : Option (Flag × UsageError)
  /-- Whether all further arguments are positional. -/
  closed : Bool
  deriving DecidableEq

namespace Reading

/-- Before the first argument. -/
def start : Reading := ⟨.default, false, [], none, false⟩

/-- The truth value that a text spells. -/
def boolean? (text : Bytes) : Option Bool :=
  let yes := ["1", "t", "T", "TRUE", "true", "True"]
  let no := ["0", "f", "F", "FALSE", "false", "False"]
  if yes.any fun word => utf8 word == text then some true
  else if no.any fun word => utf8 word == text then some false
  else none

/-- Sets a switch. -/
def setSwitch (reading : Reading) (flag : Flag) (on : Bool) : Reading :=
  let settings := reading.settings
  match flag with
  | .dump => { reading with settings := { settings with dump := on } }
  | .emitAssembly => { reading with settings := { settings with emitAssembly := on } }
  | .help => { reading with help := on }
  | .keep => { reading with settings := { settings with keep := on } }
  | .verbose => { reading with settings := { settings with verbose := on } }
  | .output | .target | .timeout => reading

/-- Gives an option a value. -/
def assign (reading : Reading) (flag : Flag) (value : Bytes) : Except UsageError Reading :=
  let settings := reading.settings
  match flag with
  | .output => .ok { reading with settings := { settings with output := value } }
  | .target => .ok { reading with settings := { settings with target := value } }
  | .timeout =>
    match Duration.parse value with
    | .ok timeout => .ok { reading with settings := { settings with timeout := timeout } }
    | .error e => .error (.invalidValue value flag (.notDuration e))
  | switch =>
    match boolean? value with
    | some on => .ok (reading.setSwitch switch on)
    | none => .error (.invalidValue value flag (.notBoolean value))

/-- Reads an option by its name, where `text` follows the two dashes. -/
def readName (reading : Reading) (argument text : Bytes) : Except UsageError Reading :=
  let name := text.takeWhile (· != 0x3D)
  let attached := text.dropWhile (· != 0x3D)
  if name = [] ∨ name.head? = some 0x2D then .error (.malformedFlag argument)
  else
    match Flag.ofName? name with
    | none => .error (.unknownFlag name)
    | some flag =>
      match attached with
      | _ :: value => reading.assign flag value
      | [] =>
        if flag.isSwitch then .ok (reading.setSwitch flag true)
        else .ok { reading with awaiting := some (flag, .missingValue argument) }

/-- Reads a run of letters. A run that has come to `test.` belongs to a test driver and is passed
over. -/
def readLetters (reading : Reading) : Bytes → Except UsageError Reading
  | [] => .ok reading
  | letter :: rest =>
    let run := letter :: rest
    if (utf8 "test.").isPrefixOf run then .ok reading
    else
      match Flag.ofLetter? letter with
      | none => .error (.unknownLetter letter run)
      | some flag =>
        match rest with
        | 0x3D :: first :: value => reading.assign flag (first :: value)
        | _ =>
          if flag.isSwitch then readLetters (reading.setSwitch flag true) rest
          else if rest = [] then
            .ok { reading with awaiting := some (flag, .missingLetterValue letter run) }
          else reading.assign flag rest

/-- Reads one argument. -/
def readArgument (reading : Reading) (argument : Bytes) : Except UsageError Reading :=
  if reading.closed then .ok { reading with positional := reading.positional ++ [argument] }
  else
    match reading.awaiting with
    | some (flag, _) => { reading with awaiting := none }.assign flag argument
    | none =>
      match argument with
      | [0x2D, 0x2D] => .ok { reading with closed := true }
      | 0x2D :: 0x2D :: text => reading.readName argument text
      | 0x2D :: letter :: rest => reading.readLetters (letter :: rest)
      | _ => .ok { reading with positional := reading.positional ++ [argument] }

/-- Reads arguments in order. -/
def readArguments (reading : Reading) : List Bytes → Except UsageError Reading
  | [] =>
    match reading.awaiting with
    | some (_, e) => .error e
    | none => .ok reading
  | argument :: rest =>
    match reading.readArgument argument with
    | .error e => .error e
    | .ok reading => reading.readArguments rest

end Reading

/-- What the arguments ask for. -/
inductive Request where
  | help
  | compile (settings : Settings) (source : Bytes)
  deriving DecidableEq

/-- Reads the arguments of a call. Help is given before positional arguments are counted. -/
def Request.ofArguments (arguments : List Bytes) : Except UsageError Request :=
  match Reading.start.readArguments arguments with
  | .error e => .error e
  | .ok reading =>
    if reading.help then .ok .help
    else
      match reading.positional with
      | [source] => .ok (.compile reading.settings source)
      | others => .error (.argumentCount others.length)

end ExitLang
