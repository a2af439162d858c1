import ExitLang.Proofs.Parsing
import Mathlib.Data.List.Basic

/-!
# Which token is blamed

The kinds of a program's tokens are a fixed list. A token list agrees with it up to some place, and
this place decides everything: whether the list is a program, which token is blamed, and what was
wanted there instead. A list that ends at this place is a program or the front of one.

The cursor is taken to a recogniser that goes through a list of wanted kinds. Each function of the
cursor recognises one part of that list, and the recogniser is understood by induction on it.

The error for a list that ends too early is told from all others by its text alone. No token is ever
described by that text, whatever bytes it holds: the description of an integer starts with another
letter, and every other description starts with a quote.
-/

namespace ExitLang

/-! ### The place where two lists part -/

section CommonPrefix

variable {α : Type} [DecidableEq α]

/-- The length of the longest common prefix of two lists. -/
def commonPrefixLength : List α → List α → Nat
  | a :: left, b :: right => if a = b then commonPrefixLength left right + 1 else 0
  | [], _ => 0
  | _ :: _, [] => 0

theorem commonPrefixLength_nil (left : List α) : commonPrefixLength left [] = 0 := by
  cases left <;> rfl

theorem le_commonPrefixLength_iff {n : Nat} {left right : List α} :
    n ≤ commonPrefixLength left right ↔
      n ≤ left.length ∧ n ≤ right.length ∧ left.take n = right.take n := by
  induction left generalizing n right with
  | nil =>
      rw [commonPrefixLength, Nat.le_zero_eq]
      constructor
      · rintro rfl
        simp
      · exact fun h => Nat.le_zero.mp h.1
  | cons a left ih =>
      cases right with
      | nil =>
          rw [commonPrefixLength, Nat.le_zero_eq]
          constructor
          · rintro rfl
            simp
          · exact fun h => Nat.le_zero.mp h.2.1
      | cons b right =>
          rw [commonPrefixLength]
          cases n with
          | zero => simp
          | succ n =>
              by_cases heq : a = b
              · rw [if_pos heq, Nat.add_le_add_iff_right, ih]
                simp [heq]
              · simp [heq]

/-- A list is a prefix of another exactly when the two part no earlier than it ends. -/
theorem length_eq_commonPrefixLength_iff {left right : List α} :
    left.length = commonPrefixLength left right ↔ left <+: right := by
  have hshort := (le_commonPrefixLength_iff.mp (Nat.le_refl (commonPrefixLength left right))).1
  rw [List.prefix_iff_eq_take]
  constructor
  · intro hlength
    have htake := (le_commonPrefixLength_iff.mp (Nat.le_of_eq hlength)).2.2
    rwa [List.take_length] at htake
  · intro htake
    apply Nat.le_antisymm _ hshort
    have hle : left.length ≤ right.length := by
      rw [htake]
      exact List.length_take_le' _ _
    exact le_commonPrefixLength_iff.mpr ⟨Nat.le_refl _, hle, by rwa [List.take_length]⟩

end CommonPrefix

/-! ### Wanted kinds, one after the other -/

namespace Program

/-- The kinds of the tokens that a program consists of. -/
def kinds : List TokenKind := [.exit, .integer, .semicolon]

/-- What is wanted at each place of a program, and after its last token. -/
def expectations : List Bytes :=
  [utf8 "exit statement", utf8 "expression", utf8 "semicolon", utf8 "end of input"]

/-- Each kind with what is said where a token of it is missing. -/
def shape : List (TokenKind × Bytes) := kinds.zip expectations

end Program

/-- Holds tokens against the kinds that are wanted, and gives the error for the first difference. -/
def recognise : List (TokenKind × Bytes) → List Token → Except SyntaxError Unit
  | [], [] => .ok ()
  | [], extra :: _ => .error (.unexpected SyntaxError.endOfInput extra)
  | (_, expected) :: _, [] => .error (.prematureEnd expected)
  | (kind, expected) :: shape, token :: rest =>
    if token.kind = kind then recognise shape rest else .error (.unexpected expected token)

theorem recognise_eq_error_iff {shape : List (TokenKind × Bytes)} {tokens : List Token}
    {error : SyntaxError} {k : Nat}
    (hk : commonPrefixLength (tokens.map Token.kind) (shape.map Prod.fst) = k) :
    recognise shape tokens = .error error ↔
      ∃ expected, (shape.map Prod.snd ++ [SyntaxError.endOfInput])[k]? = some expected ∧
        (tokens.length = k ∧ k < shape.length ∧ error = .prematureEnd expected ∨
          ∃ token, tokens[k]? = some token ∧ error = .unexpected expected token) := by
  induction shape generalizing tokens k with
  | nil =>
      obtain rfl : 0 = k := by simpa [commonPrefixLength_nil] using hk
      cases tokens with
      | nil => simp [recognise]
      | cons extra rest => simp [recognise, eq_comm]
  | cons item shape ih =>
      obtain ⟨kind, expected⟩ := item
      cases tokens with
      | nil =>
          obtain rfl : 0 = k := hk
          simp [recognise, eq_comm]
      | cons token rest =>
          rw [List.map_cons, List.map_cons, commonPrefixLength] at hk
          rw [recognise]
          by_cases hkind : token.kind = kind
          -- The lists agree here, so both they and the expectations part one place later.
          · rw [if_pos hkind] at hk ⊢
            subst hk
            simp [ih rfl]
          · rw [if_neg hkind] at hk ⊢
            subst hk
            simp [eq_comm]

/-! ### The cursor recognises a program -/

namespace Cursor

/-- The tokens that a cursor has not passed. -/
def ahead (cursor : Cursor) : List Token := cursor.tokens.drop cursor.pos

/-- From the cursor on, a reading that came out so has recognised a shape: its error is the one of
the recogniser, and where it has none the recogniser goes on after it. -/
def Recognises {α : Type} (cursor : Cursor) (shape : List (TokenKind × Bytes))
    (outcome : Except SyntaxError α × Cursor) : Prop :=
  ∀ more, recognise (shape ++ more) cursor.ahead =
    outcome.1.bind fun _ => recognise more outcome.2.ahead

theorem peek_zero_eq_head? {cursor : Cursor} (hpos : cursor.pos < 0x8000000000000000) :
    cursor.peek 0 = cursor.ahead.head? := by
  rw [peek_zero hpos, ahead, List.head?_drop]

theorem ahead_of_cons {cursor : Cursor} {token : Token} {rest : List Token}
    (h : cursor.ahead = token :: rest) :
    (Cursor.mk cursor.tokens (cursor.pos + 1)).ahead = rest := by
  have htail := congrArg List.tail h
  rwa [ahead, List.tail_drop] at htail

theorem recognises_expect {cursor : Cursor} (hpos : cursor.pos < 0x8000000000000000)
    (kind : TokenKind) (expected : Bytes) :
    cursor.Recognises [(kind, expected)] (cursor.expect kind expected) := by
  intro more
  rw [expect, next, peek_zero_eq_head? hpos]
  cases hahead : cursor.ahead with
  | nil => rfl
  | cons token rest =>
      have hnext := ahead_of_cons hahead
      rw [List.singleton_append, recognise, List.head?_cons]
      dsimp only
      by_cases hkind : token.kind = kind
      · rw [if_pos hkind, if_pos hkind, ← hnext]
        rfl
      · rw [if_neg hkind, if_neg hkind]
        rfl

/-- An expression is an expected integer, but the cursor stays where there is none. -/
theorem expression_eq_expect (cursor : Cursor) :
    cursor.expression =
      match cursor.expect .integer (utf8 "expression") with
      | (.error e, _) => (.error e, cursor)
      | (.ok token, after) => (.ok token.lexeme, after) := by
  rw [expression, expect, next]
  cases cursor.peek 0 with
  | none => rfl
  | some token =>
      dsimp only
      rw [Token.literal?]
      by_cases hkind : token.kind = .integer
      · rw [if_pos hkind, if_pos hkind]
      · rw [if_neg hkind, if_neg hkind]

theorem recognises_expression {cursor : Cursor} (hpos : cursor.pos < 0x8000000000000000) :
    cursor.Recognises [(.integer, utf8 "expression")] cursor.expression := by
  intro more
  rw [expression_eq_expect, recognises_expect hpos]
  rcases cursor.expect .integer (utf8 "expression") with ⟨_ | token, after⟩ <;> rfl

theorem recognises_statement {cursor : Cursor} (hpos : cursor.pos + 2 < 0x8000000000000000) :
    cursor.Recognises Program.shape cursor.statement := by
  have hfirst : cursor.pos < 0x8000000000000000 := by omega
  have hsecond : (Cursor.mk cursor.tokens (cursor.pos + 1)).pos < 0x8000000000000000 := by
    dsimp only
    omega
  intro more
  change recognise ([(.exit, utf8 "exit statement")] ++ ([(.integer, utf8 "expression")] ++
    ([(.semicolon, utf8 "semicolon")] ++ more))) cursor.ahead = _
  rw [recognises_expect hfirst, statement]
  rcases hkeyword : cursor.expect .exit (utf8 "exit statement") with ⟨_ | keyword, after⟩
  · rfl
  obtain ⟨-, -, rfl⟩ := (expect_eq_ok_iff hfirst).mp hkeyword
  dsimp only [Except.bind]
  rw [recognises_expression hsecond]
  rcases hnumber : (Cursor.mk cursor.tokens (cursor.pos + 1)).expression with ⟨_ | digits, after⟩
  · rfl
  obtain ⟨-, -, -, -, rfl⟩ := (expression_eq_ok_iff hsecond).mp hnumber
  dsimp only [Except.bind]
  rw [recognises_expect hpos]
  rcases (Cursor.mk cursor.tokens (cursor.pos + 1 + 1)).expect .semicolon (utf8 "semicolon")
    with ⟨_ | semicolon, after⟩ <;> rfl

end Cursor

namespace Program

theorem map_ofTokens_eq_recognise (tokens : List Token) :
    (ofTokens tokens).map (fun _ => ()) = recognise shape tokens := by
  have hstart : (Cursor.start tokens).pos + 2 < 0x8000000000000000 :=
    show 2 < 0x8000000000000000 by decide
  have hrecognise := Cursor.recognises_statement hstart []
  change recognise shape tokens = _ at hrecognise
  rw [hrecognise, ofTokens]
  rcases hread : (Cursor.start tokens).statement with ⟨_ | program, after⟩
  · rfl
  obtain ⟨-, -, -, -, -, -, -, -, -, -, rfl⟩ := (Cursor.statement_eq_ok_iff hstart).mp hread
  dsimp only [Except.bind]
  rw [Cursor.peek_zero_eq_head? (show 3 < 0x8000000000000000 by decide)]
  generalize Cursor.ahead _ = rest
  cases rest <;> rfl

theorem ofTokens_eq_error_iff {tokens : List Token} {error : SyntaxError} :
    ofTokens tokens = .error error ↔ recognise shape tokens = .error error := by
  rw [← map_ofTokens_eq_recognise]
  cases ofTokens tokens <;> simp [Except.map]

end Program

/-! ### Errors for missing tokens -/

theorem Token.describe_ne_endOfInput (token : Token) : token.describe ≠ SyntaxError.endOfInput := by
  intro heq
  have hhead := congrArg List.head? heq
  rw [describe] at hhead
  split at hhead
  · change some (0x69 : UInt8) = some 0x65 at hhead
    exact absurd hhead (by decide)
  · change some (0x22 : UInt8) = some 0x65 at hhead
    exact absurd hhead (by decide)

namespace SyntaxError

theorem atEnd_prematureEnd (expected : Bytes) : (prematureEnd expected).atEnd = true :=
  beq_self_eq_true endOfInput

theorem atEnd_unexpected (expected : Bytes) (token : Token) :
    (unexpected expected token).atEnd = false :=
  beq_eq_false_iff_ne.mpr token.describe_ne_endOfInput

theorem wrapped?_eq_some_iff {error : SyntaxError} :
    error.wrapped? = some .unexpectedEnd ↔ error.atEnd = true := by
  rw [wrapped?]
  cases error.atEnd <;> simp

end SyntaxError

namespace Program

/-- A token list lacks some tokens of a program and no more than that. -/
theorem exists_missing_iff {tokens : List Token} :
    (∃ missing, missing ≠ [] ∧ (tokens ++ missing).map Token.kind = kinds) ↔
      tokens.length = commonPrefixLength (tokens.map Token.kind) kinds ∧
        tokens.length < kinds.length := by
  rw [← List.length_map Token.kind, length_eq_commonPrefixLength_iff]
  constructor
  · rintro ⟨missing, hmissing, hsentence⟩
    rw [List.map_append] at hsentence
    have hpos := List.length_pos_iff.mpr hmissing
    refine ⟨⟨_, hsentence⟩, ?_⟩
    rw [← hsentence, List.length_append, List.length_map, List.length_map]
    omega
  · rintro ⟨⟨rest, hrest⟩, hshort⟩
    refine ⟨rest.map fun kind => { Token.blank with kind }, ?_, ?_⟩
    · intro hnil
      rw [List.map_eq_nil_iff.mp hnil, List.append_nil] at hrest
      rw [hrest] at hshort
      exact absurd hshort (Nat.lt_irrefl _)
    · rw [List.map_append, List.map_map, ← hrest]
      exact congrArg _ (List.map_id' rest)

/-- The tokens ran out exactly where more tokens would have made a program. -/
theorem exists_atEnd_iff {tokens : List Token} :
    (∃ error, ofTokens tokens = .error error ∧ error.atEnd = true) ↔
      ∃ missing, missing ≠ [] ∧ (tokens ++ missing).map Token.kind = kinds := by
  rw [exists_missing_iff]
  constructor
  · rintro ⟨error, hread, hend⟩
    rw [ofTokens_eq_error_iff, recognise_eq_error_iff rfl] at hread
    obtain ⟨expected, -, ⟨hlength, hshort, rfl⟩ | ⟨token, -, rfl⟩⟩ := hread
    · exact ⟨hlength, hlength ▸ hshort⟩
    · rw [SyntaxError.atEnd_unexpected] at hend
      cases hend
  · rintro ⟨hlength, hshort⟩
    obtain ⟨expected, hexpected⟩ : ∃ expected, expectations[tokens.length]? = some expected :=
      ⟨_, List.getElem?_eq_getElem (Nat.lt_succ_of_lt hshort)⟩
    refine ⟨.prematureEnd expected, ?_, SyntaxError.atEnd_prematureEnd expected⟩
    rw [ofTokens_eq_error_iff, recognise_eq_error_iff hlength.symm]
    exact ⟨expected, hexpected, Or.inl ⟨rfl, hshort, rfl⟩⟩

theorem ofTokens_eq_ok_iff_commonPrefixLength {tokens : List Token} {program : Program} :
    ofTokens tokens = .ok program ↔
      commonPrefixLength (tokens.map Token.kind) kinds = 3 ∧ tokens.length = 3 ∧
        tokens[1]?.map Token.lexeme = some program.status := by
  rw [ofTokens_eq_ok_iff]
  constructor
  · rintro ⟨keyword, number, semicolon, rfl, hexit, hinteger, hend, rfl⟩
    simp [commonPrefixLength, kinds, hexit, hinteger, hend]
  · rintro ⟨hall, hlength, hstatus⟩
    obtain ⟨keyword, number, semicolon, rfl⟩ := List.length_eq_three.mp hlength
    have hkinds := (le_commonPrefixLength_iff.mp (Nat.le_of_eq hall.symm)).2.2
    simp only [kinds, List.map_cons, List.map_nil, List.take_succ_cons, List.take_zero,
      List.cons.injEq, and_true] at hkinds
    obtain ⟨hexit, hinteger, hend⟩ := hkinds
    have hprogram : program = ⟨number.lexeme⟩ := congrArg Program.mk (Option.some.inj hstatus).symm
    exact ⟨keyword, number, semicolon, rfl, hexit, hinteger, hend, hprogram⟩

/-- **The first token that cannot continue a program is blamed.** The front of a token list agrees
with the kinds of a program up to some place. The list is a program if that is all of both, and its
status is then the text of the middle token. If the list ends there too early, the error says what
was wanted and has no place in the source; else it describes the token there and has its place.
The error counts as the end of the input exactly for the lists that are the front of a program and
lack at least one token, whatever the texts of the tokens are. -/
theorem ofTokens_blames_first_mismatch (tokens : List Token) :
    let k := commonPrefixLength (tokens.map Token.kind) kinds
    (∀ program, ofTokens tokens = .ok program ↔
      k = 3 ∧ tokens.length = 3 ∧ tokens[1]?.map Token.lexeme = some program.status) ∧
    (∀ error, ofTokens tokens = .error error ↔
      expectations[k]? = some error.expected ∧
        (tokens.length = k ∧ k < 3 ∧
            error.found = utf8 "end of input" ∧ error.line = 0 ∧ error.col = 0 ∨
          ∃ token, tokens[k]? = some token ∧
            error.found = token.describe ∧ error.line = token.line ∧ error.col = token.col)) ∧
    ((∃ error, ofTokens tokens = .error error ∧ error.atEnd = true) ↔
      ∃ missing, missing ≠ [] ∧ (tokens ++ missing).map Token.kind = kinds) ∧
    ((∃ error, ofTokens tokens = .error error ∧ error.wrapped? = some .unexpectedEnd) ↔
      ∃ missing, missing ≠ [] ∧ (tokens ++ missing).map Token.kind = kinds) := by
  intro k
  refine ⟨fun program => ofTokens_eq_ok_iff_commonPrefixLength, fun error => ?_,
    exists_atEnd_iff, ?_⟩
  · rw [ofTokens_eq_error_iff, recognise_eq_error_iff rfl]
    constructor
    · rintro ⟨expected, hexpected, ⟨hlength, hshort, rfl⟩ | ⟨token, htoken, rfl⟩⟩
      · exact ⟨hexpected, Or.inl ⟨hlength, hshort, rfl, rfl, rfl⟩⟩
      · exact ⟨hexpected, Or.inr ⟨token, htoken, rfl, rfl, rfl⟩⟩
    · obtain ⟨expected, found, line, col⟩ := error
      rintro ⟨hexpected, ⟨hlength, hshort, rfl, rfl, rfl⟩ | ⟨token, htoken, rfl, rfl, rfl⟩⟩
      · exact ⟨expected, hexpected, Or.inl ⟨hlength, hshort, rfl⟩⟩
      · exact ⟨expected, hexpected, Or.inr ⟨token, htoken, rfl⟩⟩
  · simp only [SyntaxError.wrapped?_eq_some_iff]
    exact exists_atEnd_iff

end Program

end ExitLang
