import ExitLang.Token
import ExitLang.Unicode.Letter

/-!
# Scanning a source

A scanner walks over the code points of a source and keeps the place of the next one. Its operations
match maximal runs, so each of them is a number of single steps: `advanceWhile` moves over the
longest run of code points with a property, and `nextToken` first moves over white space.
-/

namespace ExitLang

/-- The ways in which a source can hold no token. A failure that was not met while scanning may
carry any other number, and reads like an unexpected character. -/
inductive LexicalFault where
  | unexpectedCharacter
  | unknownIdentifier
  | other (number : Int)
  deriving DecidableEq

/-- The fault with a given number. -/
def LexicalFault.ofNumber (n : Int) : LexicalFault :=
  if n = 0 then unexpectedCharacter else if n = 1 then unknownIdentifier else other n

/-- The number of a fault. -/
def LexicalFault.number : LexicalFault → Int
  | unexpectedCharacter => 0
  | unknownIdentifier => 1
  | other n => n

/-- A source text that is no token, with its place. -/
structure LexicalError where
  fault : LexicalFault
  text : Bytes
  line : Int
  col : Int
  deriving DecidableEq

/-- The wording of a lexical error. -/
def LexicalError.message (error : LexicalError) : Bytes :=
  placeText error.line error.col ++
    utf8 (match error.fault with
      | .unknownIdentifier => "unknown identifier "
      | _ => "unexpected character ") ++
    quoted error.text

/-- The four code points that separate tokens. -/
def isWhitespace (c : Char) : Bool := c == ' ' || c == '\n' || c == '\t' || c == '\r'

/-- An ASCII digit. Digits of other scripts are no part of a number. -/
def isAsciiDigit (c : Char) : Bool := '0' ≤ c && c ≤ '9'

/-- A walk over a source: the code points still ahead, how many are behind, and the place of the
next one. -/
structure Scanner where
  ahead : List Char
  pos : Nat
  line : Nat
  col : Nat
  deriving DecidableEq

namespace Scanner

/-- A scanner at the start of a source. -/
def start (source : Bytes) : Scanner := ⟨codePoints source, 0, 1, 1⟩

/-- The next code point, or NUL at the end. -/
def peek (s : Scanner) : Char := s.ahead.headD (Char.ofNat 0)

/-- The scanner one code point further; at the end it stays. A line feed starts a line, and nothing
else does. -/
def advance (s : Scanner) : Scanner :=
  match s.ahead with
  | [] => s
  | c :: rest =>
    if c = '\n' then ⟨rest, s.pos + 1, s.line + 1, 1⟩ else ⟨rest, s.pos + 1, s.line, s.col + 1⟩

/-- The scanner a number of code points further. -/
def advanceBy : Nat → Scanner → Scanner
  | 0, s => s
  | n + 1, s => advanceBy n s.advance

/-- The longest run of code points ahead that all have the property. -/
def run (p : Char → Bool) (s : Scanner) : List Char := s.ahead.takeWhile p

/-- The scanner after the longest run of code points with the property. -/
def advanceWhile (p : Char → Bool) (s : Scanner) : Scanner := advanceBy (s.run p).length s

theorem ahead_advance (s : Scanner) : s.advance.ahead = s.ahead.drop 1 := by
  unfold advance
  split
  · rename_i hahead
    simp [hahead]
  · rename_i c rest hahead
    split <;> simp [hahead]

theorem ahead_advanceBy (n : Nat) (s : Scanner) : (advanceBy n s).ahead = s.ahead.drop n := by
  induction n generalizing s with
  | zero => simp [advanceBy]
  | succ n ih => rw [advanceBy, ih, ahead_advance, List.drop_drop, Nat.add_comm]

theorem ahead_advanceWhile (p : Char → Bool) (s : Scanner) :
    (s.advanceWhile p).ahead = s.ahead.dropWhile p := by
  rw [advanceWhile, ahead_advanceBy, run]
  have hdrop : (s.ahead.takeWhile p ++ s.ahead.dropWhile p).drop (s.ahead.takeWhile p).length =
      s.ahead.dropWhile p := List.drop_left
  rwa [List.takeWhile_append_dropWhile] at hdrop

/-- The scanner after the white space ahead. -/
def skipWhitespace (s : Scanner) : Scanner := s.advanceWhile isWhitespace

/-- A token of the given kind and text at the scanner's place. -/
def tokenHere (s : Scanner) (kind : TokenKind) (lexeme : Bytes) : Token :=
  ⟨kind, lexeme, s.line, s.col⟩

/-- A lexical error about the given text at the scanner's place. -/
def errorHere (s : Scanner) (fault : LexicalFault) (text : Bytes) : LexicalError :=
  ⟨fault, text, s.line, s.col⟩

/-- The word ahead: the longest run of letters, which has to be the keyword. -/
def word (s : Scanner) : Except LexicalError Token × Scanner :=
  let lexeme := encodeChars (s.run Unicode.isLetter)
  let result :=
    if lexeme = utf8 "exit" then .ok (s.tokenHere .exit lexeme)
    else .error (s.errorHere .unknownIdentifier lexeme)
  (result, s.advanceWhile Unicode.isLetter)

/-- The number ahead: the longest run of ASCII digits. -/
def integer (s : Scanner) : Token × Scanner :=
  (s.tokenHere .integer (encodeChars (s.run isAsciiDigit)), s.advanceWhile isAsciiDigit)

/-- The token that starts at the next code point, which is no white space. -/
def tokenAt (s : Scanner) (c : Char) : Except LexicalError Token × Scanner :=
  if Unicode.isLetter c then s.word
  else if isAsciiDigit c then (.ok s.integer.1, s.integer.2)
  else if c = ';' then (.ok (s.tokenHere .semicolon (utf8 ";")), s.advance)
  else (.error (s.errorHere .unexpectedCharacter (encodeChars [c])), s.advance)

/-- The next token after white space; `none` when nothing but white space is left. -/
def nextToken (s : Scanner) : Except LexicalError (Option Token) × Scanner :=
  let s := s.skipWhitespace
  match s.ahead with
  | [] => (.ok none, s)
  | c :: _ => ((s.tokenAt c).1.map some, (s.tokenAt c).2)

theorem ahead_advance_length_lt {s : Scanner} (h : s.ahead ≠ []) :
    s.advance.ahead.length < s.ahead.length := by
  have := List.length_pos_iff.mpr h
  rw [ahead_advance, List.length_drop]
  omega

theorem ahead_advanceWhile_length_lt {p : Char → Bool} {s : Scanner} {c : Char} {rest : List Char}
    (h : s.ahead = c :: rest) (hc : p c = true) :
    (s.advanceWhile p).ahead.length < s.ahead.length := by
  rw [ahead_advanceWhile, h, List.dropWhile_cons_of_pos hc, List.length_cons]
  have := (List.dropWhile_sublist p (l := rest)).length_le
  omega

/-- A token takes at least one code point, and so does a text that is none. -/
theorem tokenAt_ahead_length_lt {s : Scanner} {c : Char} {rest : List Char}
    (h : s.ahead = c :: rest) :
    (s.tokenAt c).2.ahead.length < s.ahead.length := by
  unfold tokenAt
  split
  · rename_i hletter
    exact ahead_advanceWhile_length_lt h hletter
  · split
    · rename_i hdigit
      exact ahead_advanceWhile_length_lt h hdigit
    · split <;> exact ahead_advance_length_lt (by simp [h])

/-- Every call that does not find the end moves on. -/
theorem nextToken_ahead_length_lt {s : Scanner} (h : s.nextToken.1 ≠ .ok none) :
    s.nextToken.2.ahead.length < s.ahead.length := by
  have hskip : s.skipWhitespace.ahead.length ≤ s.ahead.length := by
    rw [skipWhitespace, ahead_advanceWhile]
    exact (List.dropWhile_sublist _).length_le
  unfold nextToken at h ⊢
  dsimp only at h ⊢
  split at h
  · exact absurd rfl h
  · rename_i c rest hahead
    exact Nat.lt_of_lt_of_le (tokenAt_ahead_length_lt hahead) hskip

/-- The tokens ahead, found with a limited number of calls of `nextToken`. -/
def tokensWithin : (calls : Nat) → Scanner → Except LexicalError (List Token)
  | 0, _ => .ok []
  | calls + 1, s =>
    match s.nextToken with
    | (.error e, _) => .error e
    | (.ok none, _) => .ok []
    | (.ok (some token), next) => (tokensWithin calls next).map (token :: ·)

/-- Beyond one call for each code point and one more, further calls find nothing new. -/
theorem tokensWithin_eq_of_lt {m n : Nat} {s : Scanner} (hm : s.ahead.length < m)
    (hn : s.ahead.length < n) : tokensWithin m s = tokensWithin n s := by
  induction m generalizing n s with
  | zero => omega
  | succ m ih =>
    cases n with
    | zero => omega
    | succ n =>
      rw [tokensWithin, tokensWithin]
      rcases hnext : s.nextToken with ⟨result, next⟩
      match result with
      | .error e => rfl
      | .ok none => rfl
      | .ok (some token) =>
        have hlt : next.ahead.length < s.ahead.length := by
          simpa [hnext] using nextToken_ahead_length_lt (s := s) (by simp [hnext])
        simp only [ih (n := n) (s := next) (by omega) (by omega)]

end Scanner

/-- The tokens of a source, or the first text in it that is no token. Every call but the last moves
over at least one code point, so one call more than there are code points suffices, by
`Scanner.tokensWithin_eq_of_lt`. -/
def tokenize (source : Bytes) : Except LexicalError (List Token) :=
  let s := Scanner.start source
  s.tokensWithin (s.ahead.length + 1)

end ExitLang
