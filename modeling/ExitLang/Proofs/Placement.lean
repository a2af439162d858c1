import ExitLang.Proofs.Language
import Mathlib.Data.List.Chain
import Mathlib.Data.List.DropRight

/-!
# Where tokens and errors stand

A place is a fact about the code points before it: the line counts the line feeds among them, and
the column counts what follows the last one. A scanner keeps the place of what it has passed, so
tokens and errors carry the places of their texts.

With places given by the text, a scan can be stated without a scanner. It succeeds exactly on the
sources that are `LaidOut`: tokens with white space around them, where only equal kinds of words
need some between them. It fails exactly where a prefix that scans well is followed by a text that
`Offends`.
-/

namespace ExitLang

/-- The line of what comes after the code points. -/
def lineAfter (chars : List Char) : Nat := 1 + chars.count '\n'

/-- The column of what comes after the code points: those since the last line feed are before it. -/
def columnAfter (chars : List Char) : Nat := 1 + (chars.rtakeWhile (· != '\n')).length

theorem lineAfter_concat (chars : List Char) (c : Char) :
    lineAfter (chars ++ [c]) = if c = '\n' then lineAfter chars + 1 else lineAfter chars := by
  unfold lineAfter
  split
  · rename_i hfeed
    simp [hfeed]
    omega
  · rename_i hother
    simp [hother]

theorem columnAfter_concat (chars : List Char) (c : Char) :
    columnAfter (chars ++ [c]) = if c = '\n' then 1 else columnAfter chars + 1 := by
  unfold columnAfter
  by_cases hfeed : c = '\n'
  · rw [if_pos hfeed, List.rtakeWhile_concat_neg _ _ _ (by simp [hfeed])]
    simp
  · rw [if_neg hfeed, List.rtakeWhile_concat_pos _ _ _ (by simp [hfeed])]
    simp
    omega

namespace Scanner

/-- The scanner has passed these code points and no others, and is at the place after them. -/
structure Passed (s : Scanner) (chars : List Char) : Prop where
  pos : s.pos = chars.length
  line : s.line = lineAfter chars
  col : s.col = columnAfter chars

variable {s : Scanner} {behind : List Char}

theorem passed_start (source : Bytes) : (start source).Passed [] := ⟨rfl, rfl, rfl⟩

theorem Passed.advance {c : Char} {rest : List Char} (h : s.Passed behind)
    (hahead : s.ahead = c :: rest) : s.advance.Passed (behind ++ [c]) := by
  rw [Scanner.advance, hahead]
  dsimp only
  by_cases hfeed : c = '\n'
  · rw [if_pos hfeed]
    constructor
    · simp [h.pos]
    · simp [h.line, lineAfter_concat, hfeed]
    · simp [columnAfter_concat, hfeed]
  · rw [if_neg hfeed]
    constructor
    · simp [h.pos]
    · simp [h.line, lineAfter_concat, hfeed]
    · simp [h.col, columnAfter_concat, hfeed]

theorem Passed.advanceBy {body rest : List Char} (h : s.Passed behind)
    (hahead : s.ahead = body ++ rest) :
    (advanceBy body.length s).Passed (behind ++ body) := by
  induction body generalizing s behind with
  | nil => simpa [Scanner.advanceBy] using h
  | cons c body ih =>
      have hnext : s.advance.ahead = body ++ rest := by
        rw [ahead_advance, hahead]
        rfl
      rw [List.length_cons, Scanner.advanceBy, List.append_cons]
      exact ih (h.advance hahead) hnext

end Scanner

/-! ### Texts of tokens -/

namespace TokenKind

/-- The texts that tokens of a kind have. -/
def HasText : TokenKind → Bytes → Prop
  | exit, text => text = utf8 "exit"
  | integer, text => IsDigitRun text
  | semicolon, text => text = utf8 ";"
  | other _, _ => False

/-- The code points that would still belong to a token of a kind if they followed it. -/
def goesOnWith : TokenKind → Char → Bool
  | exit => Unicode.isLetter
  | integer => isAsciiDigit
  | semicolon => fun _ => false
  | other _ => fun _ => false

theorem goesOnWith_of_isWhitespace (kind : TokenKind) {c : Char} (h : isWhitespace c = true) :
    kind.goesOnWith c = false := by
  cases kind with
  | exit => exact isLetter_eq_false_of_isWhitespace h
  | integer => exact isAsciiDigit_eq_false_of_isWhitespace h
  | semicolon => rfl
  | other n => rfl

theorem HasText.isAscii {kind : TokenKind} {text : Bytes} (h : kind.HasText text) :
    IsAscii text := by
  cases kind with
  | exit =>
      rw [h]
      decide
  | integer => exact IsDigitRun.isAscii h
  | semicolon =>
      rw [h]
      decide
  | other n => exact h.elim

theorem HasText.encodeChars_codePoints {kind : TokenKind} {text : Bytes} (h : kind.HasText text) :
    encodeChars (codePoints text) = text := by
  rw [codePoints_of_isAscii h.isAscii, encodeChars_map_asciiChar h.isAscii]

/-- A text starts with a code point that only words of its own kind go on with. -/
theorem HasText.exists_cons {kind : TokenKind} {text : Bytes} (h : kind.HasText text) :
    ∃ c tail, codePoints text = c :: tail ∧
      ∀ other : TokenKind, other.goesOnWith c = true ↔ other ∈ [exit, integer] ∧ kind = other := by
  cases kind with
  | exit =>
      have hchars : codePoints text = 'e' :: ['x', 'i', 't'] := by
        rw [h]
        decide
      refine ⟨_, _, hchars, ?_⟩
      have hletter : Unicode.isLetter 'e' = true := by decide
      have hdigit : isAsciiDigit 'e' = false := by decide
      intro other
      cases other <;> simp [goesOnWith, hletter, hdigit]
  | integer =>
      have hne : codePoints text ≠ [] := by
        rw [codePoints_of_isAscii h.isAscii]
        simpa using h.1
      obtain ⟨c, tail, hchars⟩ := List.exists_cons_of_ne_nil hne
      refine ⟨c, tail, hchars, ?_⟩
      have hmem : c ∈ text.map asciiChar := by
        rw [← codePoints_of_isAscii h.isAscii, hchars]
        exact List.mem_cons_self
      have hdigit := IsDigitRun.isAsciiDigit_of_mem_map h c hmem
      have hletter := isLetter_eq_false_of_isAsciiDigit hdigit
      intro other
      cases other <;> simp [goesOnWith, hletter, hdigit]
  | semicolon =>
      have hchars : codePoints text = ';' :: [] := by
        rw [h]
        decide
      refine ⟨_, _, hchars, ?_⟩
      have hletter : Unicode.isLetter ';' = false := by decide
      have hdigit : isAsciiDigit ';' = false := by decide
      intro other
      cases other <;> simp [goesOnWith, hletter, hdigit]
  | other n => exact h.elim

end TokenKind

/-- A lexeme is a text of its kind that ends where the kind does not go on. -/
theorem lexeme_iff {kind : TokenKind} {lexeme rest : List Char} :
    Lexeme kind lexeme rest ↔
      kind.HasText (encodeChars lexeme) ∧
        ∀ c, rest.head? = some c → kind.goesOnWith c = false := by
  constructor
  · intro hlexeme
    cases hlexeme with
    | exit maximal => exact ⟨Scanner.encodeChars_eq_exit_iff.mpr rfl, maximal.stops⟩
    | integer nonempty maximal =>
        exact ⟨isDigitRun_encodeChars nonempty maximal.all, maximal.stops⟩
    | semicolon => exact ⟨show encodeChars [';'] = utf8 ";" by decide, fun _ _ => rfl⟩
  · rintro ⟨htext, hstops⟩
    have hchars : lexeme = codePoints (encodeChars lexeme) := (codePoints_encodeChars lexeme).symm
    cases kind with
    | exit =>
        obtain rfl : lexeme = "exit".toList := Scanner.encodeChars_eq_exit_iff.mp htext
        exact .exit ⟨by decide, hstops⟩
    | integer =>
        have hdigits := IsDigitRun.isAsciiDigit_of_mem_map htext
        rw [← codePoints_of_isAscii htext.isAscii, ← hchars] at hdigits
        refine .integer ?_ ⟨hdigits, hstops⟩
        rintro rfl
        exact htext.1 rfl
    | semicolon =>
        have hsemicolon : lexeme = [';'] := by
          rw [hchars, htext]
          decide
        rw [hsemicolon]
        exact .semicolon
    | other n => exact htext.elim

/-! ### Sources laid out as tokens -/

/-- A token with the code points between it and the token before. -/
structure Piece where
  gap : List Char
  token : Token
  deriving DecidableEq

namespace Piece

/-- The code points of a piece. -/
def chars (piece : Piece) : List Char := piece.gap ++ codePoints piece.token.lexeme

/-- Two keywords or two numbers in a row have a gap between them. -/
def Apart (first second : Piece) : Prop :=
  ∀ kind ∈ [TokenKind.exit, .integer], first.token.kind = kind → second.token.kind = kind →
    second.gap ≠ []

end Piece

/-- After the code points behind, those ahead are the pieces and a last gap. All gaps are white
space, the tokens have texts of their kinds, and each token carries the place of its text. -/
structure LaidOut (behind ahead : List Char) (pieces : List Piece) (last : List Char) : Prop where
  covers : ahead = pieces.flatMap Piece.chars ++ last
  blank : ∀ piece ∈ pieces, ∀ c ∈ piece.gap, isWhitespace c = true
  blankEnd : ∀ c ∈ last, isWhitespace c = true
  spelled : ∀ piece ∈ pieces, piece.token.kind.HasText piece.token.lexeme
  apart : pieces.IsChain Piece.Apart
  placed : ∀ (before : List Piece) (piece : Piece) (after : List Piece),
    pieces = before ++ piece :: after →
    piece.token.line = lineAfter (behind ++ before.flatMap Piece.chars ++ piece.gap) ∧
      piece.token.col = columnAfter (behind ++ before.flatMap Piece.chars ++ piece.gap)

section LaidOut

variable {behind ahead last : List Char} {piece : Piece} {pieces : List Piece}

theorem laidOut_nil_iff :
    LaidOut behind ahead [] last ↔ ahead = last ∧ ∀ c ∈ last, isWhitespace c = true := by
  constructor
  · intro h
    exact ⟨h.covers, h.blankEnd⟩
  · rintro ⟨rfl, hblank⟩
    refine ⟨rfl, by simp, hblank, by simp, .nil, ?_⟩
    intro before piece after hsplit
    simp at hsplit

/-- One piece more at the front, and what is laid out after it. -/
theorem laidOut_cons_iff :
    LaidOut behind ahead (piece :: pieces) last ↔
      ∃ rest, ahead = piece.chars ++ rest ∧ LaidOut (behind ++ piece.chars) rest pieces last ∧
        (∀ c ∈ piece.gap, isWhitespace c = true) ∧
        piece.token.kind.HasText piece.token.lexeme ∧
        piece.token.line = lineAfter (behind ++ piece.gap) ∧
        piece.token.col = columnAfter (behind ++ piece.gap) ∧
        ∀ next ∈ pieces.head?, piece.Apart next := by
  constructor
  · intro h
    obtain ⟨hnext, hapart⟩ := List.isChain_cons.mp h.apart
    obtain ⟨hline, hcol⟩ := h.placed [] piece pieces rfl
    rw [List.flatMap_nil, List.append_nil] at hline hcol
    refine ⟨pieces.flatMap Piece.chars ++ last, ?_, ?_, h.blank piece List.mem_cons_self,
      h.spelled piece List.mem_cons_self, hline, hcol, hnext⟩
    · rw [h.covers, List.flatMap_cons, List.append_assoc]
    refine ⟨rfl, fun other hmem => h.blank other (List.mem_cons_of_mem piece hmem), h.blankEnd,
      fun other hmem => h.spelled other (List.mem_cons_of_mem piece hmem), hapart, ?_⟩
    rintro before other after rfl
    have hplaced := h.placed (piece :: before) other after rfl
    rwa [List.flatMap_cons, ← List.append_assoc behind] at hplaced
  · rintro ⟨rest, rfl, h, hblank, htext, hline, hcol, hnext⟩
    refine ⟨?_, List.forall_mem_cons.mpr ⟨hblank, h.blank⟩, h.blankEnd,
      List.forall_mem_cons.mpr ⟨htext, h.spelled⟩, List.isChain_cons.mpr ⟨hnext, h.apart⟩, ?_⟩
    · rw [h.covers, List.flatMap_cons, List.append_assoc]
    intro before other after hsplit
    cases before with
    | nil =>
        obtain ⟨rfl, rfl⟩ := List.cons.inj hsplit
        rw [List.flatMap_nil, List.append_nil]
        exact ⟨hline, hcol⟩
    | cons first before =>
        obtain ⟨rfl, hrest⟩ := List.cons.inj hsplit
        rw [List.flatMap_cons, ← List.append_assoc behind]
        exact h.placed before other after hrest

/-- What is laid out goes on with a kind only if its first token touches and is of this kind. -/
theorem LaidOut.stops_iff (h : LaidOut behind ahead pieces last) :
    (∀ c, ahead.head? = some c → piece.token.kind.goesOnWith c = false) ↔
      ∀ next ∈ pieces.head?, piece.Apart next := by
  cases pieces with
  | nil =>
      obtain ⟨rfl, hblank⟩ := laidOut_nil_iff.mp h
      refine ⟨fun _ => by simp, fun _ c hhead => ?_⟩
      exact piece.token.kind.goesOnWith_of_isWhitespace (hblank c (List.mem_of_head? hhead))
  | cons next pieces =>
      obtain ⟨rest, rfl, -, hblank, htext, -⟩ := laidOut_cons_iff.mp h
      obtain ⟨first, tail, hchars, hfirst⟩ := htext.exists_cons
      rw [List.head?_cons]
      simp only [Option.mem_def, Option.some.injEq, forall_eq', Piece.Apart, Piece.chars, hchars]
      cases hgap : next.gap with
      | nil =>
          simp only [List.nil_append, List.cons_append, List.head?_cons, Option.some.injEq,
            forall_eq', ne_eq, not_true_eq_false, imp_false]
          rw [← Bool.not_eq_true, hfirst]
          grind
      | cons c gap =>
          have hc : isWhitespace c = true := hblank c (by simp [hgap])
          simp [TokenKind.goesOnWith_of_isWhitespace _ hc]

end LaidOut

namespace Scanner

/-- What a scanner reads is what is laid out after the code points that it has passed. -/
theorem reads_iff_laidOut {s : Scanner} {behind : List Char} {tokens : List Token}
    (hbehind : s.Passed behind) :
    Reads s tokens ↔
      ∃ (pieces : List Piece) (last : List Char), pieces.map Piece.token = tokens ∧
        LaidOut behind s.ahead pieces last := by
  induction tokens generalizing s behind with
  | nil =>
      simp only [List.map_eq_nil_iff, exists_and_left, exists_eq_left, laidOut_nil_iff]
      rw [reads_nil_iff, nextToken_eq_none_iff]
      simp
  | cons token tokens ih =>
      constructor
      · intro hreads
        cases hreads with
        | @cons _ kind blanks lexeme rest _ hahead blank here more =>
            rw [List.append_assoc] at hahead
            have hlexeme : codePoints (encodeChars lexeme) = lexeme := codePoints_encodeChars lexeme
            obtain ⟨htext, hstops⟩ := lexeme_iff.mp here
            -- Blanks and lexeme are behind once the token is read.
            have hplace := hbehind.advanceBy hahead
            have hafter := hbehind.advanceBy ((List.append_assoc _ _ _).trans hahead.symm).symm
            rw [List.length_append] at hafter
            obtain ⟨pieces, last, rfl, hlaid⟩ := (ih hafter).mp more
            rw [ahead_advanceBy_append (hahead.trans (List.append_assoc _ _ _).symm)] at hlaid
            let piece : Piece := ⟨blanks, (advanceBy blanks.length s).tokenHere kind
              (encodeChars lexeme)⟩
            have hchars : piece.chars = blanks ++ lexeme := by
              rw [Piece.chars]
              exact congrArg (blanks ++ ·) hlexeme
            refine ⟨piece :: pieces, last, rfl, laidOut_cons_iff.mpr ⟨rest, ?_, ?_, blank, htext,
              ?_, ?_, ?_⟩⟩
            · rw [hchars, hahead, List.append_assoc]
            · rwa [hchars]
            · exact congrArg Int.ofNat hplace.line
            · exact congrArg Int.ofNat hplace.col
            · exact hlaid.stops_iff.mp hstops
      · rintro ⟨pieces, last, hmap, hlaid⟩
        obtain ⟨piece, pieces, rfl, rfl, rfl⟩ := List.map_eq_cons_iff.mp hmap
        obtain ⟨rest, hahead, hmore, hblank, htext, hline, hcol, hnext⟩ :=
          laidOut_cons_iff.mp hlaid
        rw [Piece.chars] at hahead
        have hlexeme := htext.encodeChars_codePoints
        have hhere : Lexeme piece.token.kind (codePoints piece.token.lexeme) rest :=
          lexeme_iff.mpr ⟨by rwa [hlexeme], hmore.stops_iff.mpr hnext⟩
        have hplace := hbehind.advanceBy (hahead.trans (List.append_assoc _ _ _))
        have hafter := hbehind.advanceBy hahead
        rw [List.length_append] at hafter
        have htoken : piece.token = (advanceBy piece.gap.length s).tokenHere piece.token.kind
            (encodeChars (codePoints piece.token.lexeme)) := by
          rw [hlexeme, tokenHere, hplace.line, hplace.col, ← hline, ← hcol]
        rw [htoken]
        refine .cons hahead hblank hhere ((ih hafter).mpr ⟨pieces, last, rfl, ?_⟩)
        rwa [ahead_advanceBy_append hahead]

end Scanner

/-- **Lexing loses, invents and misplaces nothing.** A source has the given tokens exactly when its
code points are these tokens in their order with white space around them, none of it missing between
two numbers or two keywords, and every token carries the line and the column at which it stands. -/
theorem tokenize_eq_ok_iff_laidOut (source : Bytes) (tokens : List Token) :
    tokenize source = .ok tokens ↔
      ∃ (pieces : List Piece) (last : List Char), pieces.map Piece.token = tokens ∧
        LaidOut [] (codePoints source) pieces last := by
  rw [tokenize_eq_ok_iff]
  exact Scanner.reads_iff_laidOut (Scanner.passed_start source)

/-! ### Texts that are no tokens -/

/-- The text is none that a token could start with, whatever follows it. -/
inductive Offends : LexicalFault → List Char → List Char → Prop
  | word {letters rest : List Char} (nonempty : letters ≠ []) (unknown : letters ≠ "exit".toList)
      (maximal : IsRun Unicode.isLetter letters rest) : Offends .unknownIdentifier letters rest
  | character {c : Char} {rest : List Char} (solid : isWhitespace c = false)
      (noLetter : Unicode.isLetter c = false) (noDigit : isAsciiDigit c = false)
      (noEnd : c ≠ ';') : Offends .unexpectedCharacter [c] rest

theorem Offends.exists_cons {fault : LexicalFault} {text rest : List Char}
    (h : Offends fault text rest) :
    ∃ c tail, text = c :: tail ∧ isWhitespace c = false ∧ isAsciiDigit c = false ∧
      (Unicode.isLetter c = true ↔ fault = .unknownIdentifier) := by
  cases h with
  | word nonempty unknown maximal =>
      obtain ⟨c, tail, rfl⟩ := List.exists_cons_of_ne_nil nonempty
      have hletter := maximal.all c List.mem_cons_self
      refine ⟨c, tail, rfl, ?_, ?_, iff_of_true hletter rfl⟩
      · by_contra hblank
        rw [isLetter_eq_false_of_isWhitespace (by simpa using hblank)] at hletter
        cases hletter
      · by_contra hdigit
        rw [isLetter_eq_false_of_isAsciiDigit (by simpa using hdigit)] at hletter
        cases hletter
  | @character c _ solid noLetter noDigit noEnd =>
      refine ⟨c, [], rfl, solid, noDigit, ?_⟩
      simp [noLetter]

namespace Scanner

variable {s : Scanner} {error : LexicalError}

/-- No token starts at a code point exactly when a text that offends does. -/
theorem tokenAt_eq_error_iff {c : Char} {tail : List Char} (hahead : s.ahead = c :: tail)
    (hsolid : isWhitespace c = false) :
    (s.tokenAt c).1 = .error error ↔
      ∃ text rest, s.ahead = text ++ rest ∧ Offends error.fault text rest ∧
        error = s.errorHere error.fault (encodeChars text) := by
  constructor
  · intro hread
    rw [tokenAt] at hread
    split at hread
    · rename_i hletter
      rw [word] at hread
      dsimp only at hread
      split at hread
      · cases hread
      rename_i hunknown
      cases hread
      rw [encodeChars_eq_exit_iff] at hunknown
      refine ⟨_, _, ahead_eq_run_append Unicode.isLetter s,
        .word ?_ hunknown (isRun_run Unicode.isLetter s), rfl⟩
      rw [run, hahead, List.takeWhile_cons_of_pos hletter]
      exact List.cons_ne_nil _ _
    rename_i hletter
    split at hread
    · cases hread
    rename_i hdigit
    split at hread
    · cases hread
    rename_i hsemicolon
    cases hread
    exact ⟨[c], tail, hahead,
      .character hsolid (by simpa using hletter) (by simpa using hdigit) hsemicolon, rfl⟩
  · rintro ⟨text, rest, hsplit, hoffends, herror⟩
    rw [herror]
    generalize error.fault = fault at hoffends ⊢
    cases hoffends with
    | word nonempty unknown maximal =>
        obtain ⟨d, more, rfl⟩ := List.exists_cons_of_ne_nil nonempty
        obtain rfl : c = d := by simpa [hahead] using congrArg List.head? hsplit
        rw [tokenAt, if_pos (maximal.all c List.mem_cons_self), word,
          run_eq_of_isRun hsplit maximal]
        dsimp only
        rw [if_neg (mt encodeChars_eq_exit_iff.mp unknown)]
    | @character d _ _ noLetter noDigit noEnd =>
        obtain rfl : c = d := by simpa [hahead] using congrArg List.head? hsplit
        simp [tokenAt, noLetter, noDigit, noEnd]

/-- A call fails exactly where a text that offends comes after white space. -/
theorem nextToken_eq_error_iff :
    s.nextToken.1 = .error error ↔
      ∃ blanks text rest, s.ahead = blanks ++ text ++ rest ∧
        (∀ c ∈ blanks, isWhitespace c = true) ∧ Offends error.fault text rest ∧
        error = (advanceBy blanks.length s).errorHere error.fault (encodeChars text) := by
  constructor
  · intro hread
    have hsplit : s.ahead = s.run isWhitespace ++ s.skipWhitespace.ahead :=
      ahead_eq_run_append isWhitespace s
    have hrun : IsRun isWhitespace (s.run isWhitespace) s.skipWhitespace.ahead :=
      isRun_run isWhitespace s
    cases hahead : s.skipWhitespace.ahead with
    | nil =>
        rw [nextToken_of_nil hahead] at hread
        cases hread
    | cons c tail =>
        rw [nextToken_of_cons hahead] at hread
        have hat : (s.skipWhitespace.tokenAt c).1 = .error error := by
          cases hresult : (s.skipWhitespace.tokenAt c).1 with
          | error e =>
              rw [hresult] at hread
              cases hread
              rfl
          | ok token =>
              rw [hresult] at hread
              cases hread
        have hsolid : isWhitespace c = false := hrun.stops c (by rw [hahead]; rfl)
        obtain ⟨text, rest, htext, hoffends, herror⟩ := (tokenAt_eq_error_iff hahead hsolid).mp hat
        refine ⟨s.run isWhitespace, text, rest, ?_, hrun.all, hoffends, herror⟩
        rw [List.append_assoc, ← htext]
        exact hsplit
  · rintro ⟨blanks, text, rest, hahead, hblanks, hoffends, herror⟩
    obtain ⟨c, tail, rfl, hsolid, -⟩ := hoffends.exists_cons
    rw [List.append_assoc] at hahead
    have hskip := skipWhitespace_eq_advanceBy hahead ⟨hblanks, by rintro _ ⟨⟩; exact hsolid⟩
    have hrest : s.skipWhitespace.ahead = c :: (tail ++ rest) := by
      rw [hskip, ahead_advanceBy, hahead, List.drop_left, List.cons_append]
    have hat : (s.skipWhitespace.tokenAt c).1 = .error error :=
      (tokenAt_eq_error_iff hrest hsolid).mpr ⟨c :: tail, rest, hrest, hoffends, by rwa [hskip]⟩
    rw [nextToken_of_cons hrest, hat]
    rfl

/-- The scanner fails with an error, at once or after some tokens. -/
inductive Fails : Scanner → LexicalError → Prop
  | here {s : Scanner} {error : LexicalError} (failed : s.nextToken.1 = .error error) :
      Fails s error
  | later {s next : Scanner} {token : Token} {error : LexicalError}
      (found : s.nextToken = (.ok (some token), next)) (failed : Fails next error) : Fails s error

theorem fails_iff :
    Fails s error ↔ s.nextToken.1 = .error error ∨
      ∃ token next, s.nextToken = (.ok (some token), next) ∧ Fails next error := by
  constructor
  · intro hfails
    cases hfails with
    | here failed => exact .inl failed
    | later found failed => exact .inr ⟨_, _, found, failed⟩
  · rintro (failed | ⟨token, next, found, failed⟩)
    · exact .here failed
    · exact .later found failed

theorem tokensWithin_eq_error_iff {calls : Nat} (hcalls : s.ahead.length < calls) :
    tokensWithin calls s = .error error ↔ Fails s error := by
  induction calls generalizing s with
  | zero => omega
  | succ calls ih =>
      rcases hnext : s.nextToken with ⟨result, next⟩
      rw [tokensWithin, fails_iff, hnext]
      cases result with
      | error e => simp
      | ok found =>
          cases found with
          | none => simp
          | some token =>
              have hlt : next.ahead.length < s.ahead.length := by
                simpa [hnext] using nextToken_ahead_length_lt (s := s) (by simp [hnext])
              have hmore : tokensWithin calls next = .error error ↔ Fails next error :=
                ih (by omega)
              dsimp only
              cases hrest : tokensWithin calls next <;>
                simp [Except.map, ← hmore, hrest]

end Scanner

/-! ### The first offending text -/

/-- After the code points before it the text offends. A word only does if it is whole. -/
structure FirstOffence (fault : LexicalFault) (before text after : List Char) : Prop where
  scans : ∃ texts, Spells before texts
  offends : Offends fault text after
  whole : fault = .unknownIdentifier → ∀ c, before.getLast? = some c → Unicode.isLetter c = false

/-- Of the lexemes only the keyword ends with a letter. -/
theorem Lexeme.isLetter_getLast {kind : TokenKind} {lexeme rest : List Char}
    (h : Lexeme kind lexeme rest) {c : Char} (hlast : lexeme.getLast? = some c) :
    Unicode.isLetter c = true ↔ kind = .exit := by
  cases h with
  | exit =>
      obtain rfl : 't' = c := by simpa using hlast
      simp only [iff_true]
      decide
  | integer nonempty maximal =>
      have hdigit := maximal.all c (List.mem_of_getLast? hlast)
      simp [isLetter_eq_false_of_isAsciiDigit hdigit]
  | semicolon =>
      obtain rfl : ';' = c := by simpa using hlast
      simp only [reduceCtorEq, iff_false]
      decide

section Prefix

variable {kind : TokenKind} {fault : LexicalFault} {blanks lexeme before text after : List Char}

/-- Whether a lexeme ends before a text that offends can be told without the text, except where a
word touches the keyword. -/
theorem lexeme_append_iff (hoffends : Offends fault text after) :
    Lexeme kind lexeme (before ++ text ++ after) ↔
      Lexeme kind lexeme before ∧
        (fault = .unknownIdentifier → before = [] → kind ≠ .exit) := by
  rw [lexeme_iff, lexeme_iff, and_assoc, and_congr_right_iff]
  intro htext
  cases before with
  | nil =>
      obtain ⟨c, tail, rfl, -, hdigit, hletter⟩ := hoffends.exists_cons
      cases kind <;> simp [TokenKind.goesOnWith, hdigit, ← hletter]
  | cons c before => simp

/-- What ends with a lexeme ends with a letter only if that is the keyword. -/
theorem getLast_append_isLetter_iff {rest : List Char} (hlexeme : Lexeme kind lexeme rest) :
    (∀ c, (blanks ++ lexeme ++ before).getLast? = some c → Unicode.isLetter c = false) ↔
      (∀ c, before.getLast? = some c → Unicode.isLetter c = false) ∧
        (before = [] → kind ≠ .exit) := by
  rcases List.eq_nil_or_concat before with rfl | ⟨init, d, rfl⟩
  · obtain ⟨c, tail, rfl, -⟩ := hlexeme.exists_cons
    obtain ⟨last, hlast⟩ : ∃ last, (c :: tail).getLast? = some last :=
      Option.isSome_iff_exists.mp (by simp)
    have hkind := hlexeme.isLetter_getLast hlast
    simp [hlast, ← hkind]
  · simp [← List.append_assoc]

end Prefix

namespace Scanner

/-- A scanner fails exactly where the first offending text is, with its place. -/
theorem fails_iff_firstOffence {s : Scanner} {error : LexicalError} :
    Fails s error ↔
      ∃ before text after, s.ahead = before ++ text ++ after ∧
        FirstOffence error.fault before text after ∧
        error = (advanceBy before.length s).errorHere error.fault (encodeChars text) := by
  constructor
  · intro hfails
    induction hfails with
    | here failed =>
        obtain ⟨blanks, text, after, hahead, hblank, hoffends, herror⟩ :=
          nextToken_eq_error_iff.mp failed
        refine ⟨blanks, text, after, hahead, ⟨⟨[], .nil hblank⟩, hoffends, ?_⟩, herror⟩
        intro _ c hlast
        exact isLetter_eq_false_of_isWhitespace (hblank c (List.mem_of_getLast? hlast))
    | @later s next token error found _ ih =>
        obtain ⟨blanks, lexeme, rest, hahead, hblank, hlexeme, -, rfl⟩ :=
          nextToken_eq_token_iff.mp found
        obtain ⟨before, text, after, hrest, ⟨⟨texts, hspells⟩, hoffends, hwhole⟩, herror⟩ := ih
        rw [ahead_advanceBy_append hahead] at hrest
        subst hrest
        obtain ⟨hshort, htouch⟩ := (lexeme_append_iff hoffends).mp hlexeme
        refine ⟨blanks ++ lexeme ++ before, text, after, ?_,
          ⟨⟨_, .cons hblank hshort hspells⟩, hoffends, ?_⟩, ?_⟩
        · simp only [hahead, List.append_assoc]
        · intro hfault
          exact (getLast_append_isLetter_iff hlexeme).mpr ⟨hwhole hfault, htouch hfault⟩
        · rwa [List.length_append, List.length_append, advanceBy_add]
  · rintro ⟨before, text, after, hahead, ⟨⟨texts, hspells⟩, hoffends, hwhole⟩, herror⟩
    -- By induction on the tokens before the text, each of which is still read with the text there.
    induction hspells generalizing s with
    | nil blank =>
        exact .here (nextToken_eq_error_iff.mpr ⟨_, text, after, hahead, blank, hoffends, herror⟩)
    | @cons kind blanks lexeme rest more blank here there ih =>
        have hlexeme : Lexeme kind lexeme (rest ++ text ++ after) :=
          (lexeme_append_iff hoffends).mpr
            ⟨here, fun hfault => ((getLast_append_isLetter_iff here).mp (hwhole hfault)).2⟩
        have hsplit : s.ahead = blanks ++ lexeme ++ (rest ++ text ++ after) := by
          simp only [hahead, List.append_assoc]
        have hfound : s.nextToken = (.ok (some ((advanceBy blanks.length s).tokenHere kind
            (encodeChars lexeme))), advanceBy (blanks.length + lexeme.length) s) :=
          nextToken_eq_token_iff.mpr ⟨blanks, lexeme, _, hsplit, blank, hlexeme, rfl, rfl⟩
        refine .later hfound (ih (ahead_advanceBy_append hsplit) ?_ ?_)
        · rwa [List.length_append, List.length_append, advanceBy_add] at herror
        · exact fun hfault => ((getLast_append_isLetter_iff here).mp (hwhole hfault)).1

end Scanner

/-- A source scans well as far as its code points do. -/
theorem exists_tokenize_encodeChars_iff {chars : List Char} :
    (∃ tokens, tokenize (encodeChars chars) = .ok tokens) ↔ ∃ texts, Spells chars texts := by
  have hchars : (Scanner.start (encodeChars chars)).ahead = chars := codePoints_encodeChars chars
  constructor
  · rintro ⟨tokens, htokens⟩
    refine ⟨tokens.map Token.spelling, ?_⟩
    rw [← hchars]
    exact Scanner.exists_reads_iff.mp ⟨tokens, tokenize_eq_ok_iff.mp htokens, rfl⟩
  · rintro ⟨texts, hspells⟩
    rw [← hchars] at hspells
    obtain ⟨tokens, hreads, -⟩ := Scanner.exists_reads_iff.mpr hspells
    exact ⟨tokens, tokenize_eq_ok_iff.mpr hreads⟩

/-- **A lexical error names the first offending text and its place.** A source fails with an error
exactly when it is a text that scans well, the text in the error, and some rest, where the error has
the line and the column of its text. The text is a whole run of letters other than the keyword, or
one code point that is neither white space nor a letter, a digit or a semicolon. -/
theorem tokenize_eq_error_iff_first_offence (source : Bytes) (error : LexicalError) :
    tokenize source = .error error ↔
      ∃ before text after, codePoints source = before ++ text ++ after ∧
        (∃ tokens, tokenize (encodeChars before) = .ok tokens) ∧
        error.line = lineAfter before ∧ error.col = columnAfter before ∧
        error.text = encodeChars text ∧
        (error.fault = .unknownIdentifier ∧ text ≠ [] ∧ text ≠ "exit".toList ∧
            (∀ c ∈ text, Unicode.isLetter c = true) ∧
            (∀ c, before.getLast? = some c → Unicode.isLetter c = false) ∧
            (∀ c, after.head? = some c → Unicode.isLetter c = false) ∨
          error.fault = .unexpectedCharacter ∧ ∃ c, text = [c] ∧ isWhitespace c = false ∧
            Unicode.isLetter c = false ∧ isAsciiDigit c = false ∧ c ≠ ';') := by
  have hcalls : tokenize source = .error error ↔ (Scanner.start source).Fails error :=
    Scanner.tokensWithin_eq_error_iff (Nat.lt_succ_self _)
  rw [hcalls, Scanner.fails_iff_firstOffence]
  refine exists_congr fun before => exists_congr fun text => exists_congr fun after => ?_
  refine and_congr_right fun hsplit => ?_
  have hplace := (Scanner.passed_start source).advanceBy
    (hsplit.trans (List.append_assoc before text after))
  rw [List.nil_append] at hplace
  have herror : error = (Scanner.advanceBy before.length (Scanner.start source)).errorHere
        error.fault (encodeChars text) ↔
      error.line = lineAfter before ∧ error.col = columnAfter before ∧
        error.text = encodeChars text := by
    obtain ⟨fault, found, line, col⟩ := error
    simp only [Scanner.errorHere, hplace.line, hplace.col, LexicalError.mk.injEq]
    tauto
  rw [herror, exists_tokenize_encodeChars_iff]
  constructor
  · rintro ⟨⟨hscans, hoffends, hwhole⟩, hline, hcol, htext⟩
    refine ⟨hscans, hline, hcol, htext, ?_⟩
    generalize error.fault = fault at hoffends hwhole ⊢
    cases hoffends with
    | word nonempty unknown maximal =>
        exact .inl ⟨rfl, nonempty, unknown, maximal.all, hwhole rfl, maximal.stops⟩
    | @character c _ solid noLetter noDigit noEnd =>
        exact .inr ⟨rfl, c, rfl, solid, noLetter, noDigit, noEnd⟩
  · rintro ⟨hscans, hline, hcol, htext, hkinds⟩
    refine ⟨?_, hline, hcol, htext⟩
    rcases hkinds with ⟨hfault, hne, hunknown, hall, hwhole, hstops⟩ |
      ⟨hfault, c, rfl, hsolid, hletter, hdigit, hsemicolon⟩
    · rw [hfault]
      exact ⟨hscans, .word hne hunknown ⟨hall, hstops⟩, fun _ => hwhole⟩
    · rw [hfault]
      exact ⟨hscans, .character hsolid hletter hdigit hsemicolon, by simp⟩

end ExitLang
