import ExitLang.Compile
import ExitLang.Proofs.GeneratedListing
import ExitLang.Proofs.Parsing
import ExitLang.Proofs.Scanning

/-!
# The language of the compiler

A source compiles exactly when its bytes are an exit statement: keyword, digits and semicolon, with
spaces, tabs, line feeds and carriage returns anywhere around them. The grammar is stated on bytes,
so it also tells which malformed texts are refused: all of them.
-/

namespace ExitLang

/-- The four bytes that may stand around tokens. -/
def Bytes.isSpacing (b : UInt8) : Bool := b == 0x20 || b == 0x09 || b == 0x0A || b == 0x0D

/-- The bytes of an exit statement with the given digits. -/
inductive SpellsExit : Bytes → Bytes → Prop
  | intro {digits before afterKeyword afterNumber after : Bytes} (number : IsDigitRun digits)
      (spacing : ∀ b ∈ before ++ afterKeyword ++ afterNumber ++ after, Bytes.isSpacing b = true) :
      SpellsExit digits
        (before ++ utf8 "exit" ++ (afterKeyword ++ digits ++ (afterNumber ++ utf8 ";" ++ after)))

/-- What the tokens of an exit statement say. -/
def statementSpelling (digits : Bytes) : List (TokenKind × Bytes) :=
  [(.exit, utf8 "exit"), (.integer, digits), (.semicolon, utf8 ";")]

/-! ### Bytes and code points of the language -/

theorem isSpacing_iff {b : UInt8} :
    Bytes.isSpacing b = true ↔
      b.toNat = 0x20 ∨ b.toNat = 0x0A ∨ b.toNat = 0x09 ∨ b.toNat = 0x0D := by
  simp only [Bytes.isSpacing, Bool.or_eq_true, beq_iff_eq, ← UInt8.toNat_inj, UInt8.reduceToNat]
  omega

theorem lt_of_isWhitespace {c : Char} (h : isWhitespace c = true) : c.toNat < 0x80 := by
  rw [isWhitespace_iff] at h
  omega

theorem lt_of_isAsciiDigit {c : Char} (h : isAsciiDigit c = true) : c.toNat < 0x80 := by
  rw [isAsciiDigit_iff] at h
  omega

theorem isAscii_of_isSpacing {text : Bytes} (h : ∀ b ∈ text, Bytes.isSpacing b = true) :
    IsAscii text := by
  intro b hmem
  have hb := isSpacing_iff.mp (h b hmem)
  exact UInt8.lt_iff_toNat_lt.mpr (show b.toNat < 0x80 by omega)

theorem isSpacing_of_mem_encodeChars {chars : List Char} (h : ∀ c ∈ chars, isWhitespace c = true) :
    ∀ b ∈ encodeChars chars, Bytes.isSpacing b = true := by
  intro b hmem
  obtain ⟨hb, hchar⟩ :=
    asciiChar_mem_of_mem_encodeChars (fun c hc => lt_of_isWhitespace (h c hc)) hmem
  have hblank := isWhitespace_iff.mp (h _ hchar)
  rwa [toNat_asciiChar hb, ← isSpacing_iff] at hblank

theorem isWhitespace_of_mem_map {text : Bytes} (h : ∀ b ∈ text, Bytes.isSpacing b = true) :
    ∀ c ∈ text.map asciiChar, isWhitespace c = true := by
  intro c hmem
  obtain ⟨b, hb, rfl⟩ := List.mem_map.mp hmem
  rw [isWhitespace_iff, toNat_asciiChar (isAscii_of_isSpacing h b hb)]
  exact isSpacing_iff.mp (h b hb)

theorem isDigitRun_encodeChars {chars : List Char} (hne : chars ≠ [])
    (h : ∀ c ∈ chars, isAsciiDigit c = true) : IsDigitRun (encodeChars chars) := by
  refine ⟨encodeChars_ne_nil hne, ?_⟩
  intro b hmem
  obtain ⟨hb, hchar⟩ :=
    asciiChar_mem_of_mem_encodeChars (fun c hc => lt_of_isAsciiDigit (h c hc)) hmem
  have hdigit := isAsciiDigit_iff.mp (h _ hchar)
  rwa [toNat_asciiChar hb, ← isDigit_iff] at hdigit

theorem IsDigitRun.isAsciiDigit_of_mem_map {digits : Bytes} (h : IsDigitRun digits) :
    ∀ c ∈ digits.map asciiChar, isAsciiDigit c = true := by
  intro c hmem
  obtain ⟨b, hb, rfl⟩ := List.mem_map.mp hmem
  rw [isAsciiDigit_iff, toNat_asciiChar (h.isAscii b hb)]
  exact isDigit_iff.mp (h.2 b hb)

/-- A lexeme goes on neither with white space nor with what comes after the white space. -/
theorem IsRun.of_blanks_append {p : Char → Bool} {body blanks rest : List Char}
    (hbody : ∀ c ∈ body, p c = true) (hblanks : ∀ c ∈ blanks, isWhitespace c = true)
    (hdisjoint : ∀ c, isWhitespace c = true → p c = false)
    (hrest : ∀ c, rest.head? = some c → p c = false) : IsRun p body (blanks ++ rest) where
  all := hbody
  stops := by
    intro c hhead
    cases blanks with
    | nil => exact hrest c hhead
    | cons b blanks =>
        cases hhead
        exact hdisjoint c (hblanks c List.mem_cons_self)

theorem SpellsExit.isDigitRun {digits source : Bytes} (h : SpellsExit digits source) :
    IsDigitRun digits := by
  obtain ⟨number, -⟩ := h
  exact number

theorem SpellsExit.byte_range {digits source : Bytes} (h : SpellsExit digits source) :
    ∀ b ∈ source, b ≠ 0x00 ∧ b < 0x80 := by
  have hbyte : ∀ {b : UInt8}, 0 < b.toNat → b.toNat < 0x80 → b ≠ 0x00 ∧ b < 0x80 :=
    fun hpos hlt => ⟨fun hzero => absurd hpos (hzero ▸ by decide), UInt8.lt_iff_toNat_lt.mpr hlt⟩
  have hspacing : ∀ {text : Bytes}, (∀ b ∈ text, Bytes.isSpacing b = true) →
      ∀ b ∈ text, b ≠ 0x00 ∧ b < 0x80 := by
    intro text htext b hmem
    have hb := isSpacing_iff.mp (htext b hmem)
    exact hbyte (by omega) (by omega)
  obtain ⟨number, spacing⟩ := h
  have hdigits : ∀ b ∈ digits, b ≠ 0x00 ∧ b < 0x80 := by
    intro b hmem
    have hb := isDigit_iff.mp (number.2 b hmem)
    exact hbyte (by omega) (by omega)
  simp only [List.forall_mem_append] at spacing ⊢
  obtain ⟨⟨⟨hbefore, hkeyword⟩, hnumber⟩, hafter⟩ := spacing
  exact ⟨⟨hspacing hbefore, by decide⟩, ⟨hspacing hkeyword, hdigits⟩,
    ⟨hspacing hnumber, by decide⟩, hspacing hafter⟩

theorem SpellsExit.isAscii {digits source : Bytes} (h : SpellsExit digits source) :
    IsAscii source :=
  fun b hmem => (h.byte_range b hmem).2

/-- The code points of an exit statement say its three tokens. -/
theorem SpellsExit.spells {digits source : Bytes} (h : SpellsExit digits source) :
    Spells (codePoints source) (statementSpelling digits) := by
  rw [codePoints_of_isAscii h.isAscii]
  obtain ⟨number, spacing⟩ := h
  simp only [List.forall_mem_append] at spacing
  obtain ⟨⟨⟨hbefore, hkeyword⟩, hnumber⟩, hafter⟩ := spacing
  have hdigits := number.isAsciiDigit_of_mem_map
  have hne : digits.map asciiChar ≠ [] := by simpa using number.1
  simp only [List.map_append, statementSpelling]
  refine .cons (isWhitespace_of_mem_map hbefore) (Lexeme.exit ?_) ?_
  -- Neither white space nor a digit is a letter, so the keyword ends before them.
  · rw [List.append_assoc]
    refine .of_blanks_append (by decide) (isWhitespace_of_mem_map hkeyword)
      (fun c hc => isLetter_eq_false_of_isWhitespace hc) ?_
    intro c hhead
    rw [List.head?_append_of_ne_nil _ hne] at hhead
    exact isLetter_eq_false_of_isAsciiDigit (hdigits c (List.mem_of_head? hhead))
  have hencoded := encodeChars_map_asciiChar number.isAscii
  nth_rewrite 2 [← hencoded]
  refine .cons (isWhitespace_of_mem_map hkeyword) (.integer hne ?_) ?_
  · rw [List.append_assoc]
    refine .of_blanks_append hdigits (isWhitespace_of_mem_map hnumber)
      (fun c hc => isAsciiDigit_eq_false_of_isWhitespace hc) ?_
    rintro c ⟨⟩
    rfl
  exact .cons (isWhitespace_of_mem_map hnumber) .semicolon (.nil (isWhitespace_of_mem_map hafter))

theorem Spells.exists_of_cons {chars : List Char} {kind : TokenKind} {text : Bytes}
    {more : List (TokenKind × Bytes)} (h : Spells chars ((kind, text) :: more)) :
    ∃ blanks lexeme rest, chars = blanks ++ lexeme ++ rest ∧
      (∀ c ∈ blanks, isWhitespace c = true) ∧ Lexeme kind lexeme rest ∧
      text = encodeChars lexeme ∧ Spells rest more := by
  cases h with
  | cons blank here there => exact ⟨_, _, _, rfl, blank, here, rfl, there⟩

/-- Nothing but an exit statement has code points that say its three tokens. -/
theorem SpellsExit.of_spells {digits source : Bytes}
    (h : Spells (codePoints source) (statementSpelling digits)) : SpellsExit digits source := by
  obtain ⟨before, keyword, _, hchars, hbefore, hexit, -, htwo⟩ := h.exists_of_cons
  obtain ⟨afterKeyword, number, _, rfl, hkeyword, hinteger, rfl, hone⟩ := htwo.exists_of_cons
  obtain ⟨afterNumber, semicolon, after, rfl, hnumber, hsemicolon, -, hend⟩ := hone.exists_of_cons
  have hafter : ∀ c ∈ after, isWhitespace c = true := by
    cases hend
    assumption
  obtain ⟨hne, hrun⟩ : number ≠ [] ∧ ∀ c ∈ number, isAsciiDigit c = true := by
    cases hinteger with
    | integer nonempty maximal => exact ⟨nonempty, maximal.all⟩
  cases hexit
  cases hsemicolon
  -- All code points are ASCII, so none stands for a malformed byte and they encode to the source.
  have hsmall : ∀ c ∈ codePoints source, c.toNat < 0x80 := by
    rw [hchars]
    simp only [List.forall_mem_append]
    exact ⟨⟨fun c hc => lt_of_isWhitespace (hbefore c hc), by decide⟩,
      ⟨fun c hc => lt_of_isWhitespace (hkeyword c hc),
        fun c hc => lt_of_isAsciiDigit (hrun c hc)⟩,
      ⟨fun c hc => lt_of_isWhitespace (hnumber c hc), by decide⟩,
      fun c hc => lt_of_isWhitespace (hafter c hc)⟩
  have hsource : encodeChars (codePoints source) = source :=
    encodeChars_codePoints fun hmem => absurd (hsmall _ hmem) (by decide)
  rw [← hsource, hchars]
  simp only [encodeChars_append]
  refine .intro (isDigitRun_encodeChars hne hrun) ?_
  simp only [← encodeChars_append]
  apply isSpacing_of_mem_encodeChars
  simp only [List.forall_mem_append]
  exact ⟨⟨⟨hbefore, hkeyword⟩, hnumber⟩, hafter⟩

/-! ### Compilation -/

theorem compile_eq_ok_iff {source : Bytes} {target : Target} {made : Compilation} :
    compile source target = .ok made ↔
      tokenize source = .ok made.tokens ∧ Program.ofTokens made.tokens = .ok made.program ∧
        target.generate made.program.toStatement = .ok made.assembly := by
  rw [compile]
  constructor
  · intro hcompile
    split at hcompile
    · cases hcompile
    rename_i tokens htokens
    split at hcompile
    · cases hcompile
    rename_i program hprogram
    split at hcompile
    · cases hcompile
    rename_i assembly hassembly
    cases hcompile
    exact ⟨htokens, hprogram, hassembly⟩
  · rintro ⟨htokens, hprogram, hassembly⟩
    rw [htokens]
    dsimp only
    rw [hprogram]
    dsimp only
    rw [hassembly]

/-- Tokens that make a program say an exit statement, because a keyword and a semicolon are always
spelled the same. -/
theorem spelling_of_ofTokens {s : Scanner} {tokens : List Token} {program : Program}
    (hreads : s.Reads tokens) (hprogram : Program.ofTokens tokens = .ok program) :
    tokens.map Token.spelling = statementSpelling program.status := by
  obtain ⟨keyword, number, semicolon, rfl, hexit, hinteger, hend, rfl⟩ :=
    Program.ofTokens_eq_ok_iff.mp hprogram
  have hkeyword : keyword.lexeme = utf8 "exit" := by
    have hmem : keyword ∈ [keyword, number, semicolon] := by simp
    obtain ⟨lexeme, rest, hlexeme, htext⟩ := hreads.exists_lexeme hmem
    rw [hexit] at hlexeme
    cases hlexeme
    rw [htext]
    decide
  have hsemicolon : semicolon.lexeme = utf8 ";" := by
    have hmem : semicolon ∈ [keyword, number, semicolon] := by simp
    obtain ⟨lexeme, rest, hlexeme, htext⟩ := hreads.exists_lexeme hmem
    rw [hend] at hlexeme
    cases hlexeme
    rw [htext]
    decide
  simp [Token.spelling, statementSpelling, hexit, hinteger, hend, hkeyword, hsemicolon]

theorem ofTokens_of_spelling {tokens : List Token} {digits : Bytes}
    (h : tokens.map Token.spelling = statementSpelling digits) :
    Program.ofTokens tokens = .ok ⟨digits⟩ := by
  obtain ⟨keyword, _, rfl, hexit, h⟩ := List.map_eq_cons_iff.mp h
  obtain ⟨number, _, rfl, hinteger, h⟩ := List.map_eq_cons_iff.mp h
  obtain ⟨semicolon, _, rfl, hend, h⟩ := List.map_eq_cons_iff.mp h
  obtain rfl := List.map_eq_nil_iff.mp h
  simp only [Token.spelling, Prod.mk.injEq] at hexit hinteger hend
  exact Program.ofTokens_eq_ok_iff.mpr
    ⟨keyword, number, semicolon, rfl, hexit.1, hinteger.1, hend.1, by rw [hinteger.2]⟩

/-- A compilation with a given status exists exactly for the statements with these digits. -/
theorem exists_compile_iff {source digits : Bytes} {target : Target} :
    (∃ made, compile source target = .ok made ∧ made.program.status = digits) ↔
      SpellsExit digits source := by
  constructor
  · rintro ⟨made, hcompile, rfl⟩
    obtain ⟨htokens, hprogram, -⟩ := compile_eq_ok_iff.mp hcompile
    rw [tokenize_eq_ok_iff] at htokens
    exact .of_spells (Scanner.exists_reads_iff.mp
      ⟨made.tokens, htokens, spelling_of_ofTokens htokens hprogram⟩)
  · intro hsource
    obtain ⟨tokens, hreads, hspelling⟩ :=
      (Scanner.exists_reads_iff (s := .start source)).mpr hsource.spells
    exact ⟨⟨tokens, ⟨digits⟩, _⟩, compile_eq_ok_iff.mpr ⟨tokenize_eq_ok_iff.mpr hreads,
      ofTokens_of_spelling hspelling, target.generate_literal hsource.isDigitRun.1⟩, rfl⟩

/-- The status of a compiled program is the digit run of its source. -/
theorem spellsExit_status {source : Bytes} {target : Target} {made : Compilation}
    (h : compile source target = .ok made) : SpellsExit made.program.status source :=
  exists_compile_iff.mp ⟨made, h, rfl⟩

/-- **The language of the compiler.** For every target the sources that compile are the exit
statements. Their digits are the status byte for byte, and their tokens are the keyword, these
digits and the semicolon. A byte outside ASCII, or a NUL, anywhere in a source is refused. -/
theorem compile_ok_iff_spellsExit (source : Bytes) (target : Target) :
    ((∃ made, compile source target = .ok made) ↔ ∃ digits, SpellsExit digits source) ∧
    (∀ made, compile source target = .ok made → ∀ digits, SpellsExit digits source →
      made.program.status = digits ∧
      made.tokens.map Token.spelling =
        [(.exit, utf8 "exit"), (.integer, digits), (.semicolon, utf8 ";")]) ∧
    ∀ b ∈ source, b = 0x00 ∨ 0x80 ≤ b → ∀ made, compile source target ≠ .ok made := by
  refine ⟨⟨?_, ?_⟩, ?_, ?_⟩
  · rintro ⟨made, hcompile⟩
    exact ⟨made.program.status, spellsExit_status hcompile⟩
  · rintro ⟨digits, hsource⟩
    obtain ⟨made, hcompile, -⟩ := exists_compile_iff.mpr hsource
    exact ⟨made, hcompile⟩
  · intro made hcompile digits hsource
    obtain ⟨other, hother, rfl⟩ := exists_compile_iff.mpr hsource
    obtain rfl : other = made := Except.ok.inj (hother.symm.trans hcompile)
    obtain ⟨htokens, hprogram, -⟩ := compile_eq_ok_iff.mp hcompile
    exact ⟨rfl, spelling_of_ofTokens (tokenize_eq_ok_iff.mp htokens) hprogram⟩
  · intro b hmem hb made hcompile
    obtain ⟨hzero, hlt⟩ := (spellsExit_status hcompile).byte_range b hmem
    rcases hb with rfl | hge
    · exact hzero rfl
    · exact absurd hlt (UInt8.not_lt.mpr hge)

/-- The keyword and the digits may touch. -/
theorem compile_ok_touching_digits :
    ∃ made, compile (utf8 "exit007;") .linuxAmd64 = .ok made ∧
      made.program.status = utf8 "007" := by
  have hsource : SpellsExit (utf8 "007") (utf8 "exit007;") :=
    @SpellsExit.intro (utf8 "007") [] [] [] [] ⟨by decide, by decide⟩ (by decide)
  obtain ⟨hiff, hspelling, -⟩ := compile_ok_iff_spellsExit (utf8 "exit007;") .linuxAmd64
  obtain ⟨made, hcompile⟩ := hiff.mpr ⟨_, hsource⟩
  exact ⟨made, hcompile, (hspelling made hcompile _ hsource).1⟩

end ExitLang
