import ExitLang.Proofs.Blame
import Mathlib.Tactic.SplitIfs

/-!
# Calls on a cursor

The operations of a cursor can be called in any order, also after a failure and at the end. Each of
them leaves the tokens alone and moves over some that are there, so the cursor stays in its list and
never goes back.

Looking ahead adds an offset to the position in 64-bit words. A position is not negative, so the sum
can only be too large for a word, and it is then negative. There is no token before the front of a
list and none that far behind it, so the sum finds what the integers would have found.
-/

namespace ExitLang

namespace Cursor

/-! ### Looking ahead -/

section Peek

variable {cursor : Cursor} {offset : Int64} {token : Token}

/-- A sum of a position and an offset is right, or a turn too small. -/
theorem toInt_ofNat_add {pos : Nat} (hpos : pos ≤ 0x8000000000000000) (offset : Int64) :
    (Int64.ofNat pos + offset).toInt =
      if pos + offset.toInt < 0x8000000000000000 then pos + offset.toInt
      else pos + offset.toInt - 0x10000000000000000 := by
  have hsum : (Int64.ofNat pos + offset).toInt = (pos + offset.toInt).bmod Int64.size := by
    rw [Int64.toInt_add, Int64.toInt_ofNat']
    exact Int.bmod_add_bmod
  have hlow := offset.le_toInt
  have hhigh := offset.toInt_lt
  rw [hsum, show Int64.size = 0x10000000000000000 from rfl, Int.bmod_def]
  omega

/-- The token ahead is the one at the sum of the integers, as far as words reach. -/
theorem peek_eq_some_iff (hpos : cursor.pos ≤ 0x8000000000000000) :
    cursor.peek offset = some token ↔
      ∃ i : Nat, (i : Int) = cursor.pos + offset.toInt ∧ i < 0x8000000000000000 ∧
        cursor.tokens[i]? = some token := by
  have hhigh := offset.toInt_lt
  rw [peek, toInt_ofNat_add hpos]
  -- Either the sum fits, and is before the front or not, or it has wrapped around.
  split_ifs with hfits hnegative hnegative
  · constructor
    · intro hnone
      cases hnone
    · rintro ⟨i, hi, -⟩
      omega
  · constructor
    · intro htoken
      exact ⟨_, by omega, by omega, htoken⟩
    · rintro ⟨i, hi, -, htoken⟩
      rwa [show (cursor.pos + offset.toInt).toNat = i by omega]
  · constructor
    · intro hnone
      cases hnone
    · rintro ⟨i, hi, hword, -⟩
      omega
  · omega

end Peek

/-! ### Moving over tokens -/

/-- The cursor is in its list, and no further than the first position that no word holds: there it
would see no token and stay. -/
structure InRange (cursor : Cursor) : Prop where
  pos_le : cursor.pos ≤ cursor.tokens.length
  fits : cursor.pos ≤ 0x8000000000000000

/-- The cursor has moved over a number of tokens of its list. -/
structure Passes (cursor : Cursor) (n : Nat) (after : Cursor) : Prop where
  after_eq : after = ⟨cursor.tokens, cursor.pos + n⟩
  inRange : after.InRange

section Passes

variable {cursor after : Cursor}

theorem InRange.getElem?_of_peek {offset : Int64} {token : Token} (h : cursor.InRange)
    (htoken : cursor.peek offset = some token) :
    cursor.tokens[(cursor.pos + offset.toInt).toNat]? = some token := by
  obtain ⟨i, hi, -, hfound⟩ := (peek_eq_some_iff h.fits).mp htoken
  rwa [← hi, Int.toNat_natCast]

/-- In a list whose length is a word, wrapping around hides no token. -/
theorem InRange.isSome_peek_iff (h : cursor.InRange)
    (hlength : cursor.tokens.length < 0x8000000000000000) (offset : Int64) :
    (cursor.peek offset).isSome = true ↔
      0 ≤ cursor.pos + offset.toInt ∧ cursor.pos + offset.toInt < cursor.tokens.length := by
  rw [Option.isSome_iff_exists]
  constructor
  · rintro ⟨token, htoken⟩
    obtain ⟨i, hi, -, hfound⟩ := (peek_eq_some_iff h.fits).mp htoken
    obtain ⟨hlt, -⟩ := List.getElem?_eq_some_iff.mp hfound
    omega
  · rintro ⟨hfront, hback⟩
    obtain ⟨i, hi⟩ := Int.eq_ofNat_of_zero_le hfront
    have hlt : i < cursor.tokens.length := by omega
    exact ⟨_, (peek_eq_some_iff h.fits).mpr
      ⟨i, hi.symm, by omega, List.getElem?_eq_getElem hlt⟩⟩

theorem InRange.passes_zero (h : cursor.InRange) : cursor.Passes 0 cursor := ⟨rfl, h⟩

theorem Passes.trans {middle : Cursor} {m n : Nat} (hfirst : cursor.Passes m middle)
    (hsecond : middle.Passes n after) : cursor.Passes (m + n) after := by
  refine ⟨?_, hsecond.inRange⟩
  rw [hsecond.after_eq, hfirst.after_eq, Nat.add_assoc]

/-- A token at the cursor is passed, and without one the cursor stays. -/
theorem InRange.next_cases (h : cursor.InRange) :
    cursor.next = (none, cursor) ∨
      ∃ token after, cursor.next = (some token, after) ∧ cursor.Passes 1 after := by
  rw [next]
  rcases hpeek : cursor.peek 0 with _ | token
  · exact Or.inl rfl
  · obtain ⟨i, hi, hword, htoken⟩ := (peek_eq_some_iff h.fits).mp hpeek
    obtain rfl : i = cursor.pos := by
      rw [Int64.toInt_zero] at hi
      omega
    obtain ⟨hlt, -⟩ := List.getElem?_eq_some_iff.mp htoken
    exact Or.inr ⟨token, _, rfl, rfl, ⟨hlt, hword⟩⟩

/-- A reading that succeeds has taken a number of tokens, and one that fails some number. -/
def Takes {α : Type} (cursor : Cursor) (n : Nat) : Except SyntaxError α × Cursor → Prop
  | (.ok _, after) => cursor.Passes n after
  | (.error _, after) => ∃ m, cursor.Passes m after

theorem Passes.takes {α : Type} {m n : Nat} {outcome : Except SyntaxError α × Cursor}
    (hfirst : cursor.Passes m after) (hsecond : after.Takes n outcome) :
    cursor.Takes (m + n) outcome := by
  rcases outcome with ⟨_ | value, last⟩
  · obtain ⟨k, hpasses⟩ := hsecond
    exact ⟨m + k, hfirst.trans hpasses⟩
  · exact hfirst.trans hsecond

theorem Takes.exists_passes {α : Type} {n : Nat} {outcome : Except SyntaxError α × Cursor}
    (h : cursor.Takes n outcome) : ∃ m, cursor.Passes m outcome.2 := by
  rcases outcome with ⟨_ | value, last⟩
  · exact h
  · exact ⟨n, h⟩

theorem InRange.takes_expect (h : cursor.InRange) (kind : TokenKind) (expected : Bytes) :
    cursor.Takes 1 (cursor.expect kind expected) := by
  rw [expect]
  rcases h.next_cases with hnone | ⟨token, after, hnext, hpasses⟩
  · rw [hnone]
    exact ⟨0, h.passes_zero⟩
  · rw [hnext]
    dsimp only
    split
    · exact hpasses
    · exact ⟨1, hpasses⟩

/-- An expression takes one token, and where there is none the cursor stays. -/
theorem InRange.expression_cases (h : cursor.InRange) :
    (∃ error, cursor.expression = (.error error, cursor)) ∨
      ∃ digits after, cursor.expression = (.ok digits, after) ∧ cursor.Passes 1 after := by
  rw [expression_eq_expect]
  have htakes := h.takes_expect .integer (utf8 "expression")
  generalize cursor.expect .integer (utf8 "expression") = outcome at htakes ⊢
  rcases outcome with ⟨error | token, after⟩
  · exact Or.inl ⟨error, rfl⟩
  · exact Or.inr ⟨token.lexeme, after, rfl, htakes⟩

theorem InRange.takes_expression (h : cursor.InRange) : cursor.Takes 1 cursor.expression := by
  rcases h.expression_cases with ⟨error, hread⟩ | ⟨digits, after, hread, hpasses⟩
  · rw [hread]
    exact ⟨0, h.passes_zero⟩
  · rw [hread]
    exact hpasses

/-- A statement takes three tokens, of which each reading takes one. -/
theorem InRange.takes_statement (h : cursor.InRange) : cursor.Takes 3 cursor.statement := by
  have hkeyword := h.takes_expect .exit (utf8 "exit statement")
  rw [statement]
  generalize cursor.expect .exit (utf8 "exit statement") = outcome at hkeyword ⊢
  rcases outcome with ⟨_ | keyword, second⟩
  · exact hkeyword
  have hnumber := hkeyword.takes hkeyword.inRange.takes_expression
  dsimp only
  generalize second.expression = outcome at hnumber ⊢
  rcases outcome with ⟨_ | digits, third⟩
  · exact hnumber
  have hsemicolon := hnumber.takes (hnumber.inRange.takes_expect .semicolon (utf8 "semicolon"))
  dsimp only
  generalize third.expect .semicolon (utf8 "semicolon") = outcome at hsemicolon ⊢
  rcases outcome with ⟨_ | semicolon, last⟩
  · exact hsemicolon
  · exact hsemicolon

end Passes

/-! ### Sequences of calls -/

inductive Call where
  | peek (offset : Int64)
  | next
  | expression
  | statement
  deriving DecidableEq

inductive Reply where
  | token (found : Option Token)
  | expression (result : Except SyntaxError Bytes)
  | statement (result : Except SyntaxError Program)

/-- A call on a cursor: what it gives back, and the cursor after it. -/
def perform (cursor : Cursor) : Call → Reply × Cursor
  | .peek offset => (.token (cursor.peek offset), cursor)
  | .next => (.token cursor.next.1, cursor.next.2)
  | .expression => (.expression cursor.expression.1, cursor.expression.2)
  | .statement => (.statement cursor.statement.1, cursor.statement.2)

def after (cursor : Cursor) (calls : List Call) : Cursor :=
  calls.foldl (fun cursor call => (cursor.perform call).2) cursor

section Runs

variable {cursor : Cursor}

theorem inRange_start (tokens : List Token) : (start tokens).InRange :=
  ⟨Nat.zero_le _, Nat.zero_le _⟩

theorem InRange.exists_passes_perform (h : cursor.InRange) (call : Call) :
    ∃ n, cursor.Passes n (cursor.perform call).2 := by
  cases call with
  | peek offset => exact ⟨0, h.passes_zero⟩
  | next =>
      rw [perform]
      rcases h.next_cases with hnone | ⟨token, after, hnext, hpasses⟩
      · rw [hnone]
        exact ⟨0, h.passes_zero⟩
      · rw [hnext]
        exact ⟨1, hpasses⟩
  | expression => exact h.takes_expression.exists_passes
  | statement => exact h.takes_statement.exists_passes

theorem InRange.exists_passes_after (h : cursor.InRange) (calls : List Call) :
    ∃ n, cursor.Passes n (cursor.after calls) := by
  induction calls generalizing cursor with
  | nil => exact ⟨0, h.passes_zero⟩
  | cons call calls ih =>
      obtain ⟨m, hfirst⟩ := h.exists_passes_perform call
      obtain ⟨n, hlater⟩ := ih hfirst.inRange
      exact ⟨m + n, hfirst.trans hlater⟩

/-- **Every sequence of calls keeps the cursor in its list.** After any calls in any order the
tokens are the same, the position is in the list, and further calls never take it back. Looking
ahead by any offset changes nothing and finds a token exactly if the sum of position and offset,
taken as integers, is a place of the list, and the token is the one there; for this the length of
the list has to be a word, as it is for every list in memory. An expression takes one token, or none
if it fails, and a statement takes three. -/
theorem calls_keep_cursor_in_list (tokens : List Token) (calls : List Call) :
    let cursor := (start tokens).after calls
    cursor.tokens = tokens ∧ cursor.pos ≤ tokens.length ∧
    (∀ more, cursor.pos ≤ (cursor.after more).pos) ∧
    (∀ offset, (cursor.perform (.peek offset)).2 = cursor) ∧
    (tokens.length < 0x8000000000000000 → ∀ offset : Int64,
      let place : Int := cursor.pos + offset.toInt
      ((cursor.peek offset).isSome = true ↔ 0 ≤ place ∧ place < tokens.length) ∧
        ∀ token, cursor.peek offset = some token → tokens[place.toNat]? = some token) ∧
    (∀ error after, cursor.expression = (.error error, after) → after.pos = cursor.pos) ∧
    (∀ digits after, cursor.expression = (.ok digits, after) → after.pos = cursor.pos + 1) ∧
    ∀ program after, cursor.statement = (.ok program, after) → after.pos = cursor.pos + 3 := by
  intro cursor
  obtain ⟨n, hpasses⟩ := (inRange_start tokens).exists_passes_after calls
  have hrange : cursor.InRange := hpasses.inRange
  have htokens : cursor.tokens = tokens := congrArg Cursor.tokens hpasses.after_eq
  refine ⟨htokens, htokens ▸ hrange.pos_le, ?_, fun _ => rfl, ?_, ?_, ?_, ?_⟩
  · intro more
    obtain ⟨m, hmore⟩ := hrange.exists_passes_after more
    rw [hmore.after_eq]
    exact Nat.le_add_right _ _
  · rw [← htokens]
    intro hlength offset place
    exact ⟨hrange.isSome_peek_iff hlength offset, fun token => hrange.getElem?_of_peek⟩
  · intro error after hread
    rcases hrange.expression_cases with ⟨other, hother⟩ | ⟨digits, last, hother, -⟩
    · rw [hother] at hread
      cases hread
      rfl
    · rw [hother] at hread
      cases hread
  · intro digits after hread
    have htakes := hrange.takes_expression
    rw [hread] at htakes
    exact congrArg Cursor.pos htakes.after_eq
  · intro program after hread
    have htakes := hrange.takes_statement
    rw [hread] at htakes
    exact congrArg Cursor.pos htakes.after_eq

/-- Behind a statement its first token is three places back. The largest offset takes the sum beyond
all words and finds nothing, and neither does the smallest. -/
theorem peek_around_statement :
    let tokens : List Token :=
      [⟨.exit, utf8 "exit", 1, 1⟩, ⟨.integer, utf8 "1", 1, 6⟩, ⟨.semicolon, utf8 ";", 1, 7⟩]
    let cursor := (start tokens).after [.statement]
    tokens.length < 0x8000000000000000 ∧ cursor.pos = 3 ∧ (cursor.peek (-3)).isSome = true ∧
      (cursor.peek Int64.maxValue).isSome = false ∧
      (cursor.peek Int64.minValue).isSome = false := by
  intro tokens cursor
  have hlength : tokens.length < 0x8000000000000000 := by decide
  have hpeek := (calls_keep_cursor_in_list tokens [.statement]).2.2.2.2.1 hlength
  refine ⟨hlength, by decide, (hpeek (-3)).1.mpr (by decide), ?_, ?_⟩
  · rw [Bool.eq_false_iff, Ne, (hpeek Int64.maxValue).1]
    decide
  · rw [Bool.eq_false_iff, Ne, (hpeek Int64.minValue).1]
    decide

end Runs

end Cursor

end ExitLang
