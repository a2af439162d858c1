import ExitLang.Token

/-!
# Programs

A program is one statement, `exit` with a number and a semicolon. A cursor walks over a token list
and recognises it; what it cannot continue with is blamed, and a list that stops too early is told
from one that goes wrong.
-/

namespace ExitLang

/-- A program: the process ends with the status that the digits spell. -/
structure Program where
  status : Bytes
  deriving DecidableEq

/-- The program as the tree dump shows it. -/
def Program.render (program : Program) : Bytes := utf8 "Exit(" ++ program.status ++ utf8 ")"

/-- The general errors that detailed ones are wrapped around, so that a caller can ask for them
without reading the details. -/
inductive GeneralError where
  | unexpectedEnd
  deriving DecidableEq

/-- A token list that is no program: what was wanted, what was there, and where. -/
structure SyntaxError where
  expected : Bytes
  found : Bytes
  line : Int
  col : Int
  deriving DecidableEq

namespace SyntaxError

/-- What is found where the tokens have run out. -/
def endOfInput : Bytes := utf8 "end of input"

/-- A token that cannot stand where it does. -/
def unexpected (expected : Bytes) (token : Token) : SyntaxError :=
  ⟨expected, token.describe, token.line, token.col⟩

/-- A token that is missing at the end. -/
def prematureEnd (expected : Bytes) : SyntaxError := ⟨expected, endOfInput, 0, 0⟩

/-- Whether the tokens ran out too early. -/
def atEnd (error : SyntaxError) : Bool := error.found == endOfInput

/-- The general error that a syntax error wraps; only running out of tokens has one. -/
def wrapped? (error : SyntaxError) : Option GeneralError :=
  if error.atEnd then some .unexpectedEnd else none

/-- The wording of a syntax error; running out of tokens has no place. -/
def message (error : SyntaxError) : Bytes :=
  (if error.atEnd then [] else placeText error.line error.col) ++ utf8 "expected " ++
    error.expected ++ utf8 ", got " ++ error.found

end SyntaxError

/-- A position in a token list. -/
structure Cursor where
  tokens : List Token
  pos : Nat
  deriving DecidableEq

namespace Cursor

/-- A cursor at the front of a token list. -/
def start (tokens : List Token) : Cursor := ⟨tokens, 0⟩

/-- The token `offset` places ahead. The place is computed in 64-bit words, so an offset too large
to add lands before the front of the list, where there is no token. -/
def peek (cursor : Cursor) (offset : Int64) : Option Token :=
  let place := (Int64.ofNat cursor.pos + offset).toInt
  if place < 0 then none else cursor.tokens[place.toNat]?

/-- The token at the cursor, and the cursor after it; at the end of the list it stays. -/
def next (cursor : Cursor) : Option Token × Cursor :=
  match cursor.peek 0 with
  | none => (none, cursor)
  | some token => (some token, { cursor with pos := cursor.pos + 1 })

/-- The digits of the integer at the cursor. The cursor moves only if there is one. -/
def expression (cursor : Cursor) : Except SyntaxError Bytes × Cursor :=
  match cursor.peek 0 with
  | none => (.error (.prematureEnd (utf8 "expression")), cursor)
  | some token =>
    match token.literal? with
    | none => (.error (.unexpected (utf8 "expression") token), cursor)
    | some digits => (.ok digits, cursor.next.2)

/-- The token at the cursor, which has to be of the given kind. The cursor moves over whatever token
is there. -/
def expect (cursor : Cursor) (kind : TokenKind) (expected : Bytes) :
    Except SyntaxError Token × Cursor :=
  match cursor.next with
  | (none, after) => (.error (.prematureEnd expected), after)
  | (some token, after) =>
    if token.kind = kind then (.ok token, after) else (.error (.unexpected expected token), after)

/-- The statement at the cursor. -/
def statement (cursor : Cursor) : Except SyntaxError Program × Cursor :=
  match cursor.expect .exit (utf8 "exit statement") with
  | (.error e, after) => (.error e, after)
  | (.ok _, after) =>
    match after.expression with
    | (.error e, after) => (.error e, after)
    | (.ok digits, after) =>
      match after.expect .semicolon (utf8 "semicolon") with
      | (.error e, after) => (.error e, after)
      | (.ok _, after) => (.ok ⟨digits⟩, after)

end Cursor

/-- The program that a token list spells: one statement and nothing after it. -/
def Program.ofTokens (tokens : List Token) : Except SyntaxError Program :=
  match (Cursor.start tokens).statement with
  | (.error e, _) => .error e
  | (.ok program, after) =>
    match after.peek 0 with
    | some extra => .error (.unexpected SyntaxError.endOfInput extra)
    | none => .ok program

end ExitLang
