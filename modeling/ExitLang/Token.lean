import ExitLang.Text.Quoted

/-!
# Tokens

A token is a piece of the source with its kind and its place. Its text is kept byte for byte: an
integer is the digit run as it was written, never a number.
-/

namespace ExitLang

/-- The category of a token. The language has three; a token that was not read from a source may
carry any other number. -/
inductive TokenKind where
  | exit
  | integer
  | semicolon
  | other (number : Int)
  deriving DecidableEq

namespace TokenKind

/-- The kind with a given number. -/
def ofNumber (n : Int) : TokenKind :=
  if n = 0 then exit else if n = 1 then integer else if n = 2 then semicolon else other n

/-- The printed name of a kind. -/
def name : TokenKind → Bytes
  | exit => utf8 "EXIT"
  | integer => utf8 "INTEGER"
  | semicolon => utf8 "SEMICOLON"
  | other n => utf8 "TokenType(" ++ decimal n ++ utf8 ")"

end TokenKind

/-- A piece of the source. The line and the column are those of its first code point, both counted
from one. -/
structure Token where
  kind : TokenKind
  lexeme : Bytes
  line : Int
  col : Int
  deriving DecidableEq

namespace Token

/-- The token that stands in where there is none. -/
def blank : Token := ⟨.exit, [], 0, 0⟩

/-- The digits of an integer token. -/
def literal? (token : Token) : Option Bytes :=
  if token.kind = .integer then some token.lexeme else none

/-- The token as messages name it. -/
def describe (token : Token) : Bytes :=
  if token.kind = .integer then utf8 "integer " ++ token.lexeme else quoted token.lexeme

/-- The token as a line of the token dump. -/
def render (token : Token) : Bytes :=
  padRight 10 token.kind.name ++ utf8 " " ++ padRight 14 (quoted token.lexeme) ++ utf8 "  line " ++
    decimal token.line ++ utf8 ":" ++ decimal token.col

end Token

/-- A place in the source as messages begin with it. -/
def placeText (line col : Int) : Bytes :=
  utf8 "line " ++ decimal line ++ utf8 ":" ++ decimal col ++ utf8 ": "

end ExitLang
