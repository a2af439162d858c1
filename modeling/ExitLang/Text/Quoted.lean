import ExitLang.Text.Symbol
import ExitLang.Unicode.Printable

/-!
# Quoted text

Messages show text in double quotes and single characters in single quotes. Printable characters
stand for themselves; the quote and the backslash get a backslash; the rest is written as an escape
of fixed width, so quoted text is printable throughout.
-/

namespace ExitLang

/-- The lower-case hexadecimal digit of a number below sixteen. -/
def hexDigit (n : Nat) : Char := Char.ofNat (if n < 10 then 0x30 + n else 0x57 + n)

/-- The last `width` hexadecimal digits of a number. -/
def hexDigits : (width : Nat) → Nat → List Char
  | 0, _ => []
  | width + 1, n => hexDigits width (n / 16) ++ [hexDigit (n % 16)]

/-- The escape of one byte. -/
def escapeByte (b : UInt8) : List Char := ['\\', 'x'] ++ hexDigits 2 b.toNat

/-- The escape of a character that is not printable: a letter for the seven that have one, else its
number in two, four or eight hexadecimal digits. -/
def escapeNumber (n : Nat) : List Char :=
  if n = 0x07 then ['\\', 'a']
  else if n = 0x08 then ['\\', 'b']
  else if n = 0x09 then ['\\', 't']
  else if n = 0x0A then ['\\', 'n']
  else if n = 0x0B then ['\\', 'v']
  else if n = 0x0C then ['\\', 'f']
  else if n = 0x0D then ['\\', 'r']
  else if n < 0x20 ∨ n = 0x7F then ['\\', 'x'] ++ hexDigits 2 n
  else if n < 0x10000 then ['\\', 'u'] ++ hexDigits 4 n
  else ['\\', 'U'] ++ hexDigits 8 n

/-- A character as it is written between two quotes of the given kind. -/
def escapeChar (quote c : Char) : List Char :=
  if c = quote ∨ c = '\\' then ['\\', c]
  else if Unicode.isPrintable c then [c]
  else escapeNumber c.toNat

/-- A symbol as it is written between double quotes. -/
def escapeSymbol : Symbol → List Char
  | .scalar c => escapeChar '"' c
  | .stray b => escapeByte b

/-- A text in double quotes. -/
def quoted (text : Bytes) : Bytes :=
  encodeChars (['"'] ++ (decode text).flatMap escapeSymbol ++ ['"'])

/-- A character in single quotes. -/
def quotedChar (c : Char) : Bytes := encodeChars (['\''] ++ escapeChar '\'' c ++ ['\''])

/-- A text in double quotes where every byte outside printable ASCII is escaped by itself; DEL alone
is left as it is. -/
def quotedBytewise (text : Bytes) : Bytes :=
  encodeChars ['"'] ++ text.flatMap escape ++ encodeChars ['"']
where
  /-- One byte between the quotes. -/
  escape (b : UInt8) : Bytes :=
    if b ≥ 0x80 ∨ b < 0x20 then encodeChars (escapeByte b)
    else if b = 0x22 ∨ b = 0x5C then [0x5C, b]
    else [b]

/-- A text filled up with spaces on the right until it is `width` symbols wide. -/
def padRight (width : Nat) (text : Bytes) : Bytes :=
  text ++ List.replicate (width - (decode text).length) 0x20

end ExitLang
