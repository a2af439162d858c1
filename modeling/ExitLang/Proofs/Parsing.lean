import ExitLang.Program

/-!
# Reading a program from tokens

A cursor sees the tokens from its position on, as long as the position fits into a word. Each step
that succeeds names the token it has read, so a token list is a program exactly when it consists of
a keyword, a number and a semicolon.
-/

namespace ExitLang

namespace Cursor

theorem peek_zero {cursor : Cursor} (hpos : cursor.pos < 0x8000000000000000) :
    cursor.peek 0 = cursor.tokens[cursor.pos]? := by
  have hplace : (Int64.ofNat cursor.pos + 0).toInt = cursor.pos := by
    rw [Int64.add_zero, Int64.toInt_ofNat_of_lt (by omega)]
  rw [peek, hplace, if_neg (by omega), Int.toNat_natCast]

theorem expect_eq_ok_iff {cursor after : Cursor} {kind : TokenKind} {expected : Bytes}
    {token : Token} (hpos : cursor.pos < 0x8000000000000000) :
    cursor.expect kind expected = (.ok token, after) ↔
      cursor.tokens[cursor.pos]? = some token ∧ token.kind = kind ∧
        after = ⟨cursor.tokens, cursor.pos + 1⟩ := by
  rw [expect, next, peek_zero hpos]
  cases cursor.tokens[cursor.pos]? with
  | none => simp
  | some found => grind

theorem expression_eq_ok_iff {cursor after : Cursor} {digits : Bytes}
    (hpos : cursor.pos < 0x8000000000000000) :
    cursor.expression = (.ok digits, after) ↔
      ∃ token, cursor.tokens[cursor.pos]? = some token ∧ token.kind = .integer ∧
        token.lexeme = digits ∧ after = ⟨cursor.tokens, cursor.pos + 1⟩ := by
  rw [expression, next, peek_zero hpos]
  cases cursor.tokens[cursor.pos]? with
  | none => simp
  | some found => grind [Token.literal?]

/-- A statement takes three tokens, and its status is the text of the middle one. -/
theorem statement_eq_ok_iff {cursor after : Cursor} {program : Program}
    (hpos : cursor.pos + 2 < 0x8000000000000000) :
    cursor.statement = (.ok program, after) ↔
      ∃ keyword number semicolon, cursor.tokens[cursor.pos]? = some keyword ∧
        cursor.tokens[cursor.pos + 1]? = some number ∧
        cursor.tokens[cursor.pos + 2]? = some semicolon ∧
        keyword.kind = .exit ∧ number.kind = .integer ∧ semicolon.kind = .semicolon ∧
        program = ⟨number.lexeme⟩ ∧ after = ⟨cursor.tokens, cursor.pos + 3⟩ := by
  have hsecond : (Cursor.mk cursor.tokens (cursor.pos + 1)).pos < 0x8000000000000000 := by
    dsimp only
    omega
  have hthird : (Cursor.mk cursor.tokens (cursor.pos + 2)).pos < 0x8000000000000000 := hpos
  constructor
  · intro hread
    rw [statement] at hread
    split at hread
    · cases hread
    rename_i keyword afterKeyword hkeyword
    obtain ⟨hfirst, hexit, rfl⟩ := (expect_eq_ok_iff (by omega)).mp hkeyword
    split at hread
    · cases hread
    rename_i digits afterNumber hnumber
    obtain ⟨number, hmiddle, hinteger, rfl, rfl⟩ := (expression_eq_ok_iff hsecond).mp hnumber
    split at hread
    · cases hread
    rename_i semicolon afterSemicolon hsemicolon
    obtain ⟨hlast, hend, rfl⟩ := (expect_eq_ok_iff hthird).mp hsemicolon
    cases hread
    exact ⟨keyword, number, semicolon, hfirst, hmiddle, hlast, hexit, hinteger, hend, rfl, rfl⟩
  · rintro ⟨keyword, number, semicolon, hfirst, hmiddle, hlast, hexit, hinteger, hend, rfl, rfl⟩
    rw [statement, (expect_eq_ok_iff (by omega)).mpr ⟨hfirst, hexit, rfl⟩]
    dsimp only
    rw [(expression_eq_ok_iff hsecond).mpr ⟨number, hmiddle, hinteger, rfl, rfl⟩]
    dsimp only
    rw [(expect_eq_ok_iff hthird).mpr ⟨hlast, hend, rfl⟩]

end Cursor

/-- The token lists that are programs. -/
theorem Program.ofTokens_eq_ok_iff {tokens : List Token} {program : Program} :
    Program.ofTokens tokens = .ok program ↔
      ∃ keyword number semicolon, tokens = [keyword, number, semicolon] ∧ keyword.kind = .exit ∧
        number.kind = .integer ∧ semicolon.kind = .semicolon ∧ program = ⟨number.lexeme⟩ := by
  have hstart : (Cursor.start tokens).pos + 2 < 0x8000000000000000 :=
    show 2 < 0x8000000000000000 by decide
  have hextra : (Cursor.mk tokens 3).peek 0 = tokens[3]? :=
    Cursor.peek_zero (show 3 < 0x8000000000000000 by decide)
  constructor
  · intro hread
    rw [ofTokens] at hread
    split at hread
    · cases hread
    rename_i found after hstatement
    obtain ⟨keyword, number, semicolon, hfirst, hmiddle, hlast, hexit, hinteger, hend, rfl, rfl⟩ :=
      (Cursor.statement_eq_ok_iff hstart).mp hstatement
    split at hread
    · cases hread
    rename_i hnone
    cases hread
    have hrest : tokens[3]? = none := hextra.symm.trans hnone
    refine ⟨keyword, number, semicolon, ?_, hexit, hinteger, hend, rfl⟩
    rcases tokens with _ | ⟨a, _ | ⟨b, _ | ⟨c, _ | ⟨d, rest⟩⟩⟩⟩ <;> simp_all [Cursor.start]
  · rintro ⟨keyword, number, semicolon, rfl, hexit, hinteger, hend, rfl⟩
    have hstatement := (Cursor.statement_eq_ok_iff hstart).mpr
      ⟨keyword, number, semicolon, rfl, rfl, rfl, hexit, hinteger, hend, rfl, rfl⟩
    rw [ofTokens, hstatement]
    rfl

end ExitLang
