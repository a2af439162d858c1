import ExitLang.Text.Quoted

/-!
# Durations

A duration is written as amounts with units, such as `1h30m` or `1.5s`, with a sign in front if need
be; a bare `0` needs no unit. Its value is in nanoseconds and fits a signed 64-bit word.
-/

namespace ExitLang

/-- The reasons for which a text is no duration. -/
inductive DurationError where
  | invalid (text : Bytes)
  | missingUnit (text : Bytes)
  | unknownUnit (unit text : Bytes)
  deriving DecidableEq

/-- The wording of a text that is no duration. -/
def DurationError.message : DurationError → Bytes
  | invalid text => utf8 "time: invalid duration " ++ quotedBytewise text
  | missingUnit text => utf8 "time: missing unit in duration " ++ quotedBytewise text
  | unknownUnit unit text =>
    utf8 "time: unknown unit " ++ quotedBytewise unit ++ utf8 " in duration " ++ quotedBytewise text

namespace Duration

/-- A second, in nanoseconds. -/
def second : Nat := 1000000000

/-- The units and their lengths in nanoseconds. The micro sign and the Greek letter mu both
serve. -/
def units : List (Bytes × Nat) :=
  [(utf8 "ns", 1), (utf8 "us", 1000), (utf8 "µs", 1000), (utf8 "μs", 1000), (utf8 "ms", 1000000),
   (utf8 "s", second), (utf8 "m", 60 * second), (utf8 "h", 3600 * second)]

/-- The bound on every amount and on every sum of amounts: half the range of a 64-bit word. -/
def limit : Nat := 9223372036854775808

/-- A byte of an amount, as opposed to one of a unit. -/
def isAmountByte (b : UInt8) : Bool := b == 0x2E || Bytes.isDigit b

/-- Cuts a text into amounts, each with the unit that follows it. Only the first amount can be
empty, and only the last unit. -/
def segments : Bytes → List (Bytes × Bytes)
  | [] => []
  | b :: rest =>
    match segments rest with
    | [] => if isAmountByte b then [([b], [])] else [([], [b])]
    | (amount, unit) :: more =>
      if isAmountByte b then (b :: amount, unit) :: more
      else if amount = [] then ([], b :: unit) :: more
      else ([], [b]) :: (amount, unit) :: more

/-- The number that a digit run spells. -/
def numberOf (digits : Bytes) : Nat := digits.foldl (fun n b => n * 10 + (b.toNat - 0x30)) 0

/-- The digits of a fraction that a 64-bit word has room for, as a number and the count of them. -/
def fractionOf (digits : Bytes) : Nat × Nat :=
  let step (state : Nat × Nat × Bool) (b : UInt8) : Nat × Nat × Bool :=
    let (number, count, full) := state
    let longer := number * 10 + (b.toNat - 0x30)
    if full || number > (limit - 1) / 10 || longer > limit then (number, count, true)
    else (longer, count + 1, false)
  let (number, count, _) := digits.foldl step (0, 0, false)
  (number, count)

/-- A power of ten in double precision, multiplied out one factor at a time. -/
def powerOfTen : Nat → Float
  | 0 => 1
  | count + 1 => powerOfTen count * 10

/-- A fraction of a unit in whole nanoseconds, computed in double precision. -/
def fractionLength (unit number count : Nat) : Nat :=
  let scale := powerOfTen count
  ((UInt64.ofNat number).toFloat * ((UInt64.ofNat unit).toFloat / scale)).toUInt64.toNat

/-- The length of one amount in nanoseconds. -/
def amountLength (text amount unitName : Bytes) : Except DurationError Nat :=
  let whole := amount.takeWhile Bytes.isDigit
  let afterWhole := amount.dropWhile Bytes.isDigit
  let fraction := (afterWhole.drop 1).takeWhile Bytes.isDigit
  let excess := (afterWhole.drop 1).dropWhile Bytes.isDigit
  if numberOf whole > limit ∨ (whole = [] ∧ fraction = []) then .error (.invalid text)
  else if excess ≠ [] ∨ unitName = [] then .error (.missingUnit text)
  else
    match units.lookup unitName with
    | none => .error (.unknownUnit unitName text)
    | some unit =>
      let (number, count) := fractionOf fraction
      let length :=
        numberOf whole * unit + if number = 0 then 0 else fractionLength unit number count
      if numberOf whole > limit / unit ∨ length > limit then .error (.invalid text) else .ok length

/-- The sum of amounts, kept in a 64-bit word. -/
def sumFrom (text : Bytes) : UInt64 → List (Bytes × Bytes) → Except DurationError UInt64
  | sum, [] => .ok sum
  | sum, (amount, unit) :: rest =>
    match amountLength text amount unit with
    | .error e => .error e
    | .ok length =>
      let sum := sum + UInt64.ofNat length
      if sum.toNat > limit then .error (.invalid text) else sumFrom text sum rest

/-- A text without its sign, and whether that is a minus. -/
def splitSign : Bytes → Bool × Bytes
  | 0x2D :: rest => (true, rest)
  | 0x2B :: rest => (false, rest)
  | text => (false, text)

/-- The duration that a text spells, in nanoseconds. -/
def parse (text : Bytes) : Except DurationError Int :=
  let (negative, unsigned) := splitSign text
  if unsigned = utf8 "0" then .ok 0
  else if unsigned = [] then .error (.invalid text)
  else
    match sumFrom text 0 (segments unsigned) with
    | .error e => .error e
    | .ok sum =>
      if negative then .ok (-(sum.toNat : Int))
      else if sum.toNat ≥ limit then .error (.invalid text)
      else .ok sum.toNat

end Duration

end ExitLang
