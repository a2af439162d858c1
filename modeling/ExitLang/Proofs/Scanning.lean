import ExitLang.Token.Scanner
import ExitLang.Proofs.Decoding

/-!
# What a scanner reads

A scanner takes maximal runs, so a token is a stretch of code points of its kind together with a
condition on what follows. `Lexeme` states both, `Reads` lists tokens one after another with white
space around them, and the scanner finds tokens exactly where `Reads` says there are some. Places
are part of the statement: a token carries the place that the scanner has after the blanks.
-/

namespace ExitLang

/-! ### Character classes -/

theorem Unicode.isLetter_eq_false_of_lt {c : Char} (h : c.toNat < 0x41) :
    Unicode.isLetter c = false :=
  if_pos h

theorem isAsciiDigit_iff {c : Char} :
    isAsciiDigit c = true ↔ 0x30 ≤ c.toNat ∧ c.toNat ≤ 0x39 := by
  rw [isAsciiDigit, Bool.and_eq_true, decide_eq_true_iff, decide_eq_true_iff]
  rfl

theorem isWhitespace_iff {c : Char} :
    isWhitespace c = true ↔
      c.toNat = 0x20 ∨ c.toNat = 0x0A ∨ c.toNat = 0x09 ∨ c.toNat = 0x0D := by
  have hinj : ∀ d : Char, c = d ↔ c.toNat = d.toNat :=
    fun d => ⟨fun heq => heq ▸ rfl, fun heq => Char.ext (UInt32.toNat_inj.mp heq)⟩
  simp only [isWhitespace, Bool.or_eq_true, beq_iff_eq, hinj, or_assoc]
  rfl

theorem isLetter_eq_false_of_isAsciiDigit {c : Char} (h : isAsciiDigit c = true) :
    Unicode.isLetter c = false := by
  rw [isAsciiDigit_iff] at h
  exact Unicode.isLetter_eq_false_of_lt (by omega)

theorem isLetter_eq_false_of_isWhitespace {c : Char} (h : isWhitespace c = true) :
    Unicode.isLetter c = false := by
  rw [isWhitespace_iff] at h
  exact Unicode.isLetter_eq_false_of_lt (by omega)

theorem isAsciiDigit_eq_false_of_isWhitespace {c : Char} (h : isWhitespace c = true) :
    isAsciiDigit c = false := by
  rw [isWhitespace_iff] at h
  rw [Bool.eq_false_iff, Ne, isAsciiDigit_iff]
  omega

/-! ### Maximal runs -/

/-- A maximal run of code points with a property: all of them have it, and what follows does not
go on with it. -/
structure IsRun (p : Char → Bool) (body rest : List Char) : Prop where
  all : ∀ c ∈ body, p c = true
  stops : ∀ c, rest.head? = some c → p c = false

theorem isRun_takeWhile_dropWhile (p : Char → Bool) (chars : List Char) :
    IsRun p (chars.takeWhile p) (chars.dropWhile p) where
  all := List.all_eq_true.mp List.all_takeWhile
  stops := by
    intro c hhead
    have hnot := List.head?_dropWhile_not p chars
    rw [hhead] at hnot
    simpa using hnot

theorem IsRun.takeWhile_append {p : Char → Bool} {body rest : List Char} (h : IsRun p body rest) :
    (body ++ rest).takeWhile p = body := by
  rw [List.takeWhile_append_of_pos h.all]
  cases rest with
  | nil => simp
  | cons c rest => simp [h.stops c rfl]

namespace Scanner

/-- A run ahead of a scanner is the one that it takes. -/
theorem run_eq_of_isRun {p : Char → Bool} {s : Scanner} {body rest : List Char}
    (hahead : s.ahead = body ++ rest) (h : IsRun p body rest) : s.run p = body := by
  rw [run, hahead, h.takeWhile_append]

theorem ahead_eq_run_append (p : Char → Bool) (s : Scanner) :
    s.ahead = s.run p ++ (s.advanceWhile p).ahead := by
  rw [ahead_advanceWhile, run, List.takeWhile_append_dropWhile]

theorem isRun_run (p : Char → Bool) (s : Scanner) : IsRun p (s.run p) (s.advanceWhile p).ahead := by
  rw [ahead_advanceWhile]
  exact isRun_takeWhile_dropWhile p s.ahead

theorem advanceBy_add (m n : Nat) (s : Scanner) :
    advanceBy (m + n) s = advanceBy n (advanceBy m s) := by
  induction m generalizing s with
  | zero => rw [Nat.zero_add, advanceBy]
  | succ m ih => rw [Nat.succ_add, advanceBy, ih, advanceBy]

end Scanner

/-! ### Tokens -/

/-- The code points of a token of a kind, given those that follow it. -/
inductive Lexeme : TokenKind → List Char → List Char → Prop
  | exit {rest : List Char} (maximal : IsRun Unicode.isLetter "exit".toList rest) :
      Lexeme .exit "exit".toList rest
  | integer {digits rest : List Char} (nonempty : digits ≠ [])
      (maximal : IsRun isAsciiDigit digits rest) : Lexeme .integer digits rest
  | semicolon {rest : List Char} : Lexeme .semicolon [';'] rest

theorem Lexeme.exists_cons {kind : TokenKind} {lexeme rest : List Char}
    (h : Lexeme kind lexeme rest) :
    ∃ c tail, lexeme = c :: tail ∧ isWhitespace c = false := by
  cases h with
  | exit => exact ⟨'e', "xit".toList, rfl, rfl⟩
  | integer nonempty maximal =>
      obtain ⟨c, tail, rfl⟩ := List.exists_cons_of_ne_nil nonempty
      refine ⟨c, tail, rfl, ?_⟩
      by_contra hblank
      rw [Bool.not_eq_false] at hblank
      have hdigit := maximal.all c List.mem_cons_self
      rw [isAsciiDigit_eq_false_of_isWhitespace hblank] at hdigit
      cases hdigit
  | semicolon => exact ⟨';', [], rfl, rfl⟩

namespace Scanner

theorem encodeChars_eq_exit_iff {chars : List Char} :
    encodeChars chars = utf8 "exit" ↔ chars = "exit".toList := by
  have hexit : encodeChars "exit".toList = utf8 "exit" := by decide
  rw [← hexit]
  exact encodeChars_injective.eq_iff

/-- The word ahead is a token exactly when it is the keyword and no letter follows it. -/
theorem word_eq_ok_iff {s next : Scanner} {token : Token} :
    s.word = (.ok token, next) ↔
      ∃ rest, s.ahead = "exit".toList ++ rest ∧ Lexeme .exit "exit".toList rest ∧
        token = s.tokenHere .exit (encodeChars "exit".toList) ∧
        next = advanceBy "exit".toList.length s := by
  constructor
  · intro hread
    rw [word] at hread
    split at hread
    · rename_i hexit
      rw [encodeChars_eq_exit_iff] at hexit
      cases hread
      have hahead := ahead_eq_run_append Unicode.isLetter s
      have hrun := isRun_run Unicode.isLetter s
      rw [hexit] at hahead hrun
      refine ⟨_, hahead, .exit hrun, ?_, ?_⟩
      · rw [hexit]
      · rw [advanceWhile, hexit]
    · cases hread
  · rintro ⟨rest, hahead, ⟨maximal⟩, rfl, rfl⟩
    have hrun := run_eq_of_isRun hahead maximal
    rw [word, hrun, if_pos (encodeChars_eq_exit_iff.mpr rfl), advanceWhile, hrun]

/-- A token starts at a code point exactly when a lexeme does. -/
theorem tokenAt_eq_ok_iff {s next : Scanner} {c : Char} {tail : List Char} {token : Token}
    (hahead : s.ahead = c :: tail) :
    s.tokenAt c = (.ok token, next) ↔
      ∃ lexeme rest, s.ahead = lexeme ++ rest ∧ Lexeme token.kind lexeme rest ∧
        token = s.tokenHere token.kind (encodeChars lexeme) ∧
        next = advanceBy lexeme.length s := by
  constructor
  · intro hread
    rw [tokenAt] at hread
    split at hread
    · obtain ⟨rest, hsplit, hlexeme, rfl, rfl⟩ := word_eq_ok_iff.mp hread
      exact ⟨_, rest, hsplit, hlexeme, rfl, rfl⟩
    split at hread
    · rename_i hdigit
      cases hread
      refine ⟨_, _, ahead_eq_run_append isAsciiDigit s, .integer ?_ (isRun_run isAsciiDigit s),
        rfl, rfl⟩
      rw [run, hahead, List.takeWhile_cons_of_pos hdigit]
      exact List.cons_ne_nil _ _
    split at hread
    · rename_i hsemicolon
      cases hread
      exact ⟨[';'], tail, by rw [hahead, hsemicolon]; rfl, .semicolon, rfl, rfl⟩
    · cases hread
  · rintro ⟨lexeme, rest, hsplit, hlexeme, htoken, rfl⟩
    have hhead : lexeme.head?.or rest.head? = some c := by
      rw [← List.head?_append, ← hsplit, hahead]
      rfl
    rw [htoken]
    generalize token.kind = kind at hlexeme ⊢
    -- The first code point of a lexeme decides the branch.
    cases hlexeme with
    | exit maximal =>
        obtain rfl : 'e' = c := by simpa using hhead
        rw [tokenAt, if_pos (by rfl)]
        exact word_eq_ok_iff.mpr ⟨rest, hsplit, .exit maximal, rfl, rfl⟩
    | integer nonempty maximal =>
        obtain ⟨d, more, rfl⟩ := List.exists_cons_of_ne_nil nonempty
        obtain rfl : d = c := by simpa using hhead
        have hdigit := maximal.all d List.mem_cons_self
        rw [tokenAt, isLetter_eq_false_of_isAsciiDigit hdigit, if_neg Bool.false_ne_true,
          if_pos hdigit, integer, advanceWhile, run_eq_of_isRun hsplit maximal]
    | semicolon =>
        obtain rfl : ';' = c := by simpa using hhead
        rfl

theorem skipWhitespace_eq_advanceBy {s : Scanner} {blanks rest : List Char}
    (hahead : s.ahead = blanks ++ rest) (h : IsRun isWhitespace blanks rest) :
    s.skipWhitespace = advanceBy blanks.length s := by
  rw [skipWhitespace, advanceWhile, run_eq_of_isRun hahead h]

theorem nextToken_of_nil {s : Scanner} (hahead : s.skipWhitespace.ahead = []) :
    s.nextToken = (.ok none, s.skipWhitespace) := by
  simp only [nextToken, hahead]

theorem nextToken_of_cons {s : Scanner} {c : Char} {tail : List Char}
    (hahead : s.skipWhitespace.ahead = c :: tail) :
    s.nextToken = ((s.skipWhitespace.tokenAt c).1.map some, (s.skipWhitespace.tokenAt c).2) := by
  simp only [nextToken, hahead]

/-- Reading a token is passing over blanks and then over a lexeme. -/
theorem nextToken_eq_token_iff {s next : Scanner} {token : Token} :
    s.nextToken = (.ok (some token), next) ↔
      ∃ blanks lexeme rest, s.ahead = blanks ++ lexeme ++ rest ∧
        (∀ c ∈ blanks, isWhitespace c = true) ∧ Lexeme token.kind lexeme rest ∧
        token = (advanceBy blanks.length s).tokenHere token.kind (encodeChars lexeme) ∧
        next = advanceBy (blanks.length + lexeme.length) s := by
  constructor
  · intro hread
    have hsplit : s.ahead = s.run isWhitespace ++ s.skipWhitespace.ahead :=
      ahead_eq_run_append isWhitespace s
    cases hahead : s.skipWhitespace.ahead with
    | nil =>
        rw [nextToken_of_nil hahead] at hread
        cases hread
    | cons c tail =>
        rw [nextToken_of_cons hahead] at hread
        rcases hat : s.skipWhitespace.tokenAt c with ⟨result, after⟩
        rw [hat] at hread
        cases result with
        | error e => cases hread
        | ok found =>
            cases hread
            obtain ⟨lexeme, rest, hrest, hlexeme, htoken, rfl⟩ :=
              (tokenAt_eq_ok_iff hahead).mp hat
            refine ⟨s.run isWhitespace, lexeme, rest, ?_, (isRun_run isWhitespace s).all, hlexeme,
              htoken, ?_⟩
            · rw [List.append_assoc, ← hrest]
              exact hsplit
            · rw [advanceBy_add]
              rfl
  · rintro ⟨blanks, lexeme, rest, hahead, hblanks, hlexeme, htoken, rfl⟩
    -- A lexeme starts with no white space, so exactly the blanks before it are skipped.
    obtain ⟨c, tail, rfl, hc⟩ := hlexeme.exists_cons
    rw [List.append_assoc] at hahead
    have hskip := skipWhitespace_eq_advanceBy hahead ⟨hblanks, by rintro _ ⟨⟩; exact hc⟩
    have hrest : s.skipWhitespace.ahead = c :: (tail ++ rest) := by
      rw [hskip, ahead_advanceBy, hahead, List.drop_left, List.cons_append]
    have hat : s.skipWhitespace.tokenAt c =
        (.ok token, advanceBy (blanks.length + (c :: tail).length) s) := by
      refine (tokenAt_eq_ok_iff hrest).mpr ⟨c :: tail, rest, hrest, hlexeme, ?_, ?_⟩
      · rw [hskip]
        exact htoken
      · rw [hskip, advanceBy_add]
    rw [nextToken_of_cons hrest, hat]
    rfl

/-- Nothing is read exactly where nothing but white space is left. -/
theorem nextToken_eq_none_iff {s : Scanner} :
    s.nextToken.1 = .ok none ↔ ∀ c ∈ s.ahead, isWhitespace c = true := by
  constructor
  · intro hread
    cases hahead : s.skipWhitespace.ahead with
    | nil =>
        have hsplit := ahead_eq_run_append isWhitespace s
        rw [show (s.advanceWhile isWhitespace).ahead = [] from hahead, List.append_nil] at hsplit
        rw [hsplit]
        exact (isRun_run isWhitespace s).all
    | cons c tail =>
        rw [nextToken_of_cons hahead] at hread
        cases hat : (s.skipWhitespace.tokenAt c).1 <;> simp [hat, Except.map] at hread
  · intro hblank
    have hskip := skipWhitespace_eq_advanceBy (List.append_nil s.ahead).symm ⟨hblank, by simp⟩
    have hahead : s.skipWhitespace.ahead = [] := by
      rw [hskip, ahead_advanceBy, List.drop_length]
    rw [nextToken_of_nil hahead]

/-- The tokens are what stands ahead of the scanner, with white space around them. -/
inductive Reads : Scanner → List Token → Prop
  | nil {s : Scanner} (blank : ∀ c ∈ s.ahead, isWhitespace c = true) : Reads s []
  | cons {s : Scanner} {kind : TokenKind} {blanks lexeme rest : List Char} {tokens : List Token}
      (ahead : s.ahead = blanks ++ lexeme ++ rest) (blank : ∀ c ∈ blanks, isWhitespace c = true)
      (here : Lexeme kind lexeme rest)
      (more : Reads (advanceBy (blanks.length + lexeme.length) s) tokens) :
      Reads s ((advanceBy blanks.length s).tokenHere kind (encodeChars lexeme) :: tokens)

theorem reads_nil_iff {s : Scanner} : Reads s [] ↔ s.nextToken.1 = .ok none := by
  rw [nextToken_eq_none_iff]
  exact ⟨fun hreads => by cases hreads; assumption, .nil⟩

/-- One token more is read by one call more. -/
theorem reads_cons_iff {s : Scanner} {token : Token} {tokens : List Token} :
    Reads s (token :: tokens) ↔
      ∃ next, s.nextToken = (.ok (some token), next) ∧ Reads next tokens := by
  constructor
  · intro hreads
    cases hreads with
    | cons ahead blank here more =>
        exact ⟨_, nextToken_eq_token_iff.mpr ⟨_, _, _, ahead, blank, here, rfl, rfl⟩, more⟩
  · rintro ⟨next, hnext, hmore⟩
    obtain ⟨blanks, lexeme, rest, hahead, hblank, hlexeme, htoken, rfl⟩ :=
      nextToken_eq_token_iff.mp hnext
    rw [htoken]
    exact .cons hahead hblank hlexeme hmore

theorem Reads.exists_lexeme {s : Scanner} {tokens : List Token} (h : Reads s tokens)
    {token : Token} (hmem : token ∈ tokens) :
    ∃ lexeme rest, Lexeme token.kind lexeme rest ∧ token.lexeme = encodeChars lexeme := by
  induction h with
  | nil => cases hmem
  | cons _ _ here _ ih =>
      rcases List.mem_cons.mp hmem with rfl | hlater
      · exact ⟨_, _, here, rfl⟩
      · exact ih hlater

/-- With enough calls the scanner finds the tokens that are there. -/
theorem tokensWithin_eq_ok_iff {calls : Nat} {s : Scanner} {tokens : List Token}
    (hcalls : s.ahead.length < calls) :
    tokensWithin calls s = .ok tokens ↔ Reads s tokens := by
  induction calls generalizing s tokens with
  | zero => omega
  | succ calls ih =>
      rcases hnext : s.nextToken with ⟨result, next⟩
      rw [tokensWithin, hnext]
      cases result with
      | error e => cases tokens <;> simp [reads_nil_iff, reads_cons_iff, hnext]
      | ok found =>
          cases found with
          | none => cases tokens <;> simp [reads_nil_iff, reads_cons_iff, hnext]
          | some token =>
              have hlt : next.ahead.length < s.ahead.length := by
                simpa [hnext] using nextToken_ahead_length_lt (s := s) (by simp [hnext])
              have hmore : ∀ {tokens}, tokensWithin calls next = .ok tokens ↔ Reads next tokens :=
                ih (by omega)
              dsimp only
              cases tokens with
              | nil => cases tokensWithin calls next <;> simp [reads_nil_iff, hnext, Except.map]
              | cons found tokens =>
                  rw [reads_cons_iff]
                  cases hrest : tokensWithin calls next <;>
                    simp [hnext, Except.map, ← hmore, hrest]

end Scanner

/-! ### Tokens without their places -/

/-- What a token says, without its place. -/
def Token.spelling (token : Token) : TokenKind × Bytes := (token.kind, token.lexeme)

/-- The code points say tokens, with white space around them. -/
inductive Spells : List Char → List (TokenKind × Bytes) → Prop
  | nil {chars : List Char} (blank : ∀ c ∈ chars, isWhitespace c = true) : Spells chars []
  | cons {kind : TokenKind} {blanks lexeme rest : List Char} {more : List (TokenKind × Bytes)}
      (blank : ∀ c ∈ blanks, isWhitespace c = true) (here : Lexeme kind lexeme rest)
      (there : Spells rest more) :
      Spells (blanks ++ lexeme ++ rest) ((kind, encodeChars lexeme) :: more)

namespace Scanner

theorem ahead_advanceBy_append {s : Scanner} {blanks lexeme rest : List Char}
    (hahead : s.ahead = blanks ++ lexeme ++ rest) :
    (advanceBy (blanks.length + lexeme.length) s).ahead = rest := by
  rw [ahead_advanceBy, hahead, ← List.length_append, List.drop_left]

/-- A scanner reads tokens that say what its code points say. -/
theorem exists_reads_iff {s : Scanner} {texts : List (TokenKind × Bytes)} :
    (∃ tokens, Reads s tokens ∧ tokens.map Token.spelling = texts) ↔ Spells s.ahead texts := by
  constructor
  · rintro ⟨tokens, hreads, rfl⟩
    induction hreads with
    | nil blank => exact .nil blank
    | cons ahead blank here _ ih =>
        rw [ahead_advanceBy_append ahead] at ih
        rw [ahead]
        exact .cons blank here ih
  · intro hspells
    generalize hahead : s.ahead = chars at hspells
    induction hspells generalizing s with
    | nil blank => exact ⟨[], .nil (hahead ▸ blank), rfl⟩
    | cons blank here _ ih =>
        obtain ⟨tokens, hmore, rfl⟩ := ih (ahead_advanceBy_append hahead)
        exact ⟨_, .cons hahead blank here hmore, rfl⟩

end Scanner

/-- A source has the tokens that are read from its start. -/
theorem tokenize_eq_ok_iff {source : Bytes} {tokens : List Token} :
    tokenize source = .ok tokens ↔ Scanner.Reads (Scanner.start source) tokens :=
  Scanner.tokensWithin_eq_ok_iff (Nat.lt_succ_self _)

end ExitLang
