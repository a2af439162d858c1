import ExitLang.Proofs.Language

/-!
# Layout

The layout of a source is its white space. Two sources that differ in layout only have the same
chunks, which are the stretches between white space. Their scanners are hardly ever at the same
place, but before every call they have the same chunks ahead, and that is all the next token depends
on: it lies within the first chunk, and the rest of that chunk is a chunk again. So the two scans
give tokens, or an error, that differ in their places only.

The stages after the scanner carry places along and never look at them. Each of them commutes with
forgetting places.
-/

namespace ExitLang

/-! ### Forgetting places -/

def Token.unplaced (token : Token) : Token := { token with line := 0, col := 0 }

def LexicalError.unplaced (error : LexicalError) : LexicalError :=
  { error with line := 0, col := 0 }

def SyntaxError.unplaced (error : SyntaxError) : SyntaxError := { error with line := 0, col := 0 }

/-- A failed compilation without the places in its error and in its tokens. -/
def CompileError.unplaced : CompileError → CompileError
  | lexical error => .lexical error.unplaced
  | syntactic tokens error => .syntactic (tokens.map Token.unplaced) error.unplaced
  | generation target tokens program error =>
    .generation target (tokens.map Token.unplaced) program error

/-- A result after a change of its error and a change of its value. -/
def mapResult {ε α : Type} (error : ε → ε) (value : α → α) : Except ε α → Except ε α
  | .error e => .error (error e)
  | .ok a => .ok (value a)

section MapResult

variable {ε α β : Type} {error : ε → ε} {value : α → α}

/-- Results that agree after the changes are both errors or both values. -/
theorem mapResult_eq_mapResult_iff {left right : Except ε α} :
    mapResult error value left = mapResult error value right ↔
      (∃ e e', left = .error e ∧ right = .error e' ∧ error e = error e') ∨
        ∃ a a', left = .ok a ∧ right = .ok a' ∧ value a = value a' := by
  cases left <;> cases right <;> simp [mapResult]

theorem mapResult_map (error : ε → ε) {value' : β → β} {f g : α → β}
    (h : ∀ a, value' (f a) = g (value a)) (result : Except ε α) :
    mapResult error value' (result.map f) = (mapResult error value result).map g := by
  cases result with
  | error e => rfl
  | ok a => exact congrArg Except.ok (h a)

end MapResult

/-! ### Chunks -/

/-- The stretches of a source between white space. -/
def chunks (source : Bytes) : List (List Char) := fields isWhitespace (codePoints source)

theorem fields_append_of_stops {α : Type} {p : α → Bool} {chunk rest : List α} (hne : chunk ≠ [])
    (hchunk : ∀ a ∈ chunk, p a = false) (hrest : ∀ a, rest.head? = some a → p a = true) :
    fields p (chunk ++ rest) = chunk :: fields p rest := by
  cases rest with
  | nil => rw [List.append_nil, fields_singleton hne hchunk, fields_nil]
  | cons a rest =>
      have ha := hrest a rfl
      rw [fields_word_cons hne hchunk ha, fields_cons rest ha]

namespace Scanner

def SameChunks (s t : Scanner) : Prop :=
  fields isWhitespace s.ahead = fields isWhitespace t.ahead

/-- The scanner is at a chunk, or somewhere within it. -/
structure AtChunk (s : Scanner) (chunk rest : List Char) : Prop where
  ahead : s.ahead = chunk ++ rest
  solid : ∀ c ∈ chunk, isWhitespace c = false
  stops : ∀ c, rest.head? = some c → isWhitespace c = true

variable {s t : Scanner} {chunk rest rest' : List Char}

theorem AtChunk.fields_ahead (h : s.AtChunk chunk rest) (hne : chunk ≠ []) :
    fields isWhitespace s.ahead = chunk :: fields isWhitespace rest := by
  rw [h.ahead, fields_append_of_stops hne h.solid h.stops]

/-- Scanners within the same chunk are before the same chunks if what follows has the same. -/
theorem AtChunk.sameChunks (hs : s.AtChunk chunk rest) (ht : t.AtChunk chunk rest')
    (h : fields isWhitespace rest = fields isWhitespace rest') : SameChunks s t := by
  by_cases hne : chunk = []
  · subst hne
    rw [SameChunks, hs.ahead, ht.ahead]
    exact h
  · rw [SameChunks, hs.fields_ahead hne, ht.fields_ahead hne, h]

theorem AtChunk.ahead_eq_takeWhile_append (p : Char → Bool) (h : s.AtChunk chunk rest) :
    s.ahead = chunk.takeWhile p ++ (chunk.dropWhile p ++ rest) := by
  rw [← List.append_assoc, List.takeWhile_append_dropWhile, h.ahead]

section Run

variable {p : Char → Bool} (hp : ∀ c, isWhitespace c = true → p c = false)
include hp

/-- A run that no white space belongs to ends with the chunk at the latest. -/
theorem AtChunk.isRun (h : s.AtChunk chunk rest) :
    IsRun p (chunk.takeWhile p) (chunk.dropWhile p ++ rest) where
  all := (isRun_takeWhile_dropWhile p chunk).all
  stops := by
    intro c hhead
    cases hleft : chunk.dropWhile p with
    | nil =>
        rw [hleft, List.nil_append] at hhead
        exact hp c (h.stops c hhead)
    | cons d left =>
        rw [hleft, List.cons_append, List.head?_cons] at hhead
        apply (isRun_takeWhile_dropWhile p chunk).stops
        rw [hleft, List.head?_cons, hhead]

theorem AtChunk.run_eq (h : s.AtChunk chunk rest) : s.run p = chunk.takeWhile p :=
  run_eq_of_isRun (h.ahead_eq_takeWhile_append p) (h.isRun hp)

theorem AtChunk.advanceWhile (h : s.AtChunk chunk rest) :
    (s.advanceWhile p).AtChunk (chunk.dropWhile p) rest where
  ahead := by
    have hsplit := ahead_eq_run_append p s
    rw [h.run_eq hp, h.ahead_eq_takeWhile_append p] at hsplit
    exact (List.append_cancel_left hsplit).symm
  solid := fun c hc => h.solid c ((List.dropWhile_suffix p).subset hc)
  stops := h.stops

end Run

theorem AtChunk.advance {c : Char} (h : s.AtChunk (c :: chunk) rest) :
    s.advance.AtChunk chunk rest where
  ahead := by
    rw [ahead_advance, h.ahead]
    rfl
  solid := fun d hd => h.solid d (List.mem_cons_of_mem c hd)
  stops := h.stops

theorem fields_skipWhitespace (s : Scanner) :
    fields isWhitespace s.skipWhitespace.ahead = fields isWhitespace s.ahead := by
  rw [ahead_eq_run_append isWhitespace s, fields_marks_append (isRun_run isWhitespace s).all]
  rfl

/-- After white space a scanner is at a chunk, unless nothing is left. -/
theorem exists_atChunk_skipWhitespace (h : s.skipWhitespace.ahead ≠ []) :
    ∃ c chunk rest, s.skipWhitespace.AtChunk (c :: chunk) rest := by
  obtain ⟨c, tail, hahead⟩ := List.exists_cons_of_ne_nil h
  have hc : isWhitespace c = false := by
    apply (isRun_run isWhitespace s).stops
    rw [show (s.advanceWhile isWhitespace).ahead = c :: tail from hahead, List.head?_cons]
  have hrun := isRun_takeWhile_dropWhile (fun d => !isWhitespace d) tail
  refine ⟨c, tail.takeWhile fun d => !isWhitespace d, tail.dropWhile fun d => !isWhitespace d,
    ?_, ?_, ?_⟩
  · rw [List.cons_append, List.takeWhile_append_dropWhile, hahead]
  · intro d hd
    rcases List.mem_cons.mp hd with rfl | hd
    · exact hc
    · simpa using hrun.all d hd
  · intro d hd
    simpa using hrun.stops d hd

theorem fields_skipWhitespace_eq_nil_iff :
    fields isWhitespace s.skipWhitespace.ahead = [] ↔ s.skipWhitespace.ahead = [] := by
  constructor
  · intro hfields
    by_contra hne
    obtain ⟨c, chunk, rest, hat⟩ := exists_atChunk_skipWhitespace hne
    rw [hat.fields_ahead (List.cons_ne_nil c chunk)] at hfields
    cases hfields
  · intro hnil
    rw [hnil, fields_nil]

/-- Scanners before the same chunks are at the same chunk after white space, or both at the end. -/
theorem SameChunks.skipWhitespace (h : SameChunks s t) :
    s.skipWhitespace.ahead = [] ∧ t.skipWhitespace.ahead = [] ∨
      ∃ c chunk rest rest', s.skipWhitespace.AtChunk (c :: chunk) rest ∧
        t.skipWhitespace.AtChunk (c :: chunk) rest' ∧
        fields isWhitespace rest = fields isWhitespace rest' := by
  have hfields : fields isWhitespace s.skipWhitespace.ahead =
      fields isWhitespace t.skipWhitespace.ahead := by
    rw [fields_skipWhitespace, fields_skipWhitespace]
    exact h
  have hends : s.skipWhitespace.ahead = [] ↔ t.skipWhitespace.ahead = [] := by
    rw [← fields_skipWhitespace_eq_nil_iff, hfields, fields_skipWhitespace_eq_nil_iff]
  by_cases hs : s.skipWhitespace.ahead = []
  · exact .inl ⟨hs, hends.mp hs⟩
  · obtain ⟨c, chunk, rest, hats⟩ := exists_atChunk_skipWhitespace hs
    obtain ⟨d, chunk', rest', hatt⟩ := exists_atChunk_skipWhitespace (mt hends.mpr hs)
    rw [hats.fields_ahead (List.cons_ne_nil c chunk),
      hatt.fields_ahead (List.cons_ne_nil d chunk')] at hfields
    obtain ⟨hchunk, hrest⟩ := List.cons.inj hfields
    rw [← hchunk] at hatt
    exact .inr ⟨c, chunk, rest, rest', hats, hatt, hrest⟩

/-! ### Two scans -/

/-- At the same chunk the same token is found, and what is left has the same chunks. -/
theorem AtChunk.tokenAt {c : Char} (hs : s.AtChunk (c :: chunk) rest)
    (ht : t.AtChunk (c :: chunk) rest')
    (h : fields isWhitespace rest = fields isWhitespace rest') :
    mapResult LexicalError.unplaced Token.unplaced (s.tokenAt c).1 =
        mapResult LexicalError.unplaced Token.unplaced (t.tokenAt c).1 ∧
      SameChunks (s.tokenAt c).2 (t.tokenAt c).2 := by
  -- No letter and no digit is white space, so both runs end within the chunk.
  have hletter := fun c => isLetter_eq_false_of_isWhitespace (c := c)
  have hdigit := fun c => isAsciiDigit_eq_false_of_isWhitespace (c := c)
  rw [Scanner.tokenAt, Scanner.tokenAt]
  split
  · rw [word, word, hs.run_eq hletter, ht.run_eq hletter]
    refine ⟨?_, (hs.advanceWhile hletter).sameChunks (ht.advanceWhile hletter) h⟩
    dsimp only
    split <;> rfl
  split
  · rw [integer, integer, hs.run_eq hdigit, ht.run_eq hdigit]
    exact ⟨rfl, (hs.advanceWhile hdigit).sameChunks (ht.advanceWhile hdigit) h⟩
  split <;> exact ⟨rfl, hs.advance.sameChunks ht.advance h⟩

/-- One call keeps the chunks ahead the same. -/
theorem SameChunks.nextToken (h : SameChunks s t) :
    mapResult LexicalError.unplaced (Option.map Token.unplaced) s.nextToken.1 =
        mapResult LexicalError.unplaced (Option.map Token.unplaced) t.nextToken.1 ∧
      SameChunks s.nextToken.2 t.nextToken.2 := by
  rcases h.skipWhitespace with ⟨hs, ht⟩ | ⟨c, chunk, rest, rest', hs, ht, hrest⟩
  · rw [nextToken_of_nil hs, nextToken_of_nil ht]
    refine ⟨rfl, ?_⟩
    rw [SameChunks, hs, ht]
  · obtain ⟨hsame, hleft⟩ := hs.tokenAt ht hrest
    rw [nextToken_of_cons hs.ahead, nextToken_of_cons ht.ahead]
    refine ⟨?_, hleft⟩
    have hsome := mapResult_map LexicalError.unplaced
      fun token => Option.map_some (f := Token.unplaced) (a := token)
    rw [hsome, hsome, hsame]

/-- All calls. Both scans take the same number of them, but one may have far more code points to
pass, so each has a limit of its own. -/
theorem SameChunks.tokensWithin {m n : Nat} (h : SameChunks s t) (hm : s.ahead.length < m)
    (hn : t.ahead.length < n) :
    mapResult LexicalError.unplaced (List.map Token.unplaced) (tokensWithin m s) =
      mapResult LexicalError.unplaced (List.map Token.unplaced) (tokensWithin n t) := by
  induction m generalizing n s t with
  | zero => omega
  | succ m ih =>
      obtain ⟨n, rfl⟩ : ∃ k, n = k + 1 := ⟨n - 1, by omega⟩
      obtain ⟨hresult, hnext⟩ := h.nextToken
      have hslt := nextToken_ahead_length_lt (s := s)
      have htlt := nextToken_ahead_length_lt (s := t)
      rw [Scanner.tokensWithin, Scanner.tokensWithin]
      generalize s.nextToken = read at hresult hnext hslt ⊢
      generalize t.nextToken = read' at hresult hnext htlt ⊢
      obtain ⟨result, next⟩ := read
      obtain ⟨result', next'⟩ := read'
      rcases mapResult_eq_mapResult_iff.mp hresult with
        ⟨e, e', rfl, rfl, he⟩ | ⟨found, found', rfl, rfl, hfound⟩
      · exact congrArg Except.error he
      -- An end in one scan only would be told apart by the results.
      rcases found with _ | token <;> rcases found' with _ | token'
      · rfl
      · cases hfound
      · cases hfound
      · have htoken : token.unplaced = token'.unplaced := Option.some.inj hfound
        have hleft : next.ahead.length < m := Nat.lt_of_lt_of_le (hslt (by simp)) (by omega)
        have hright : next'.ahead.length < n := Nat.lt_of_lt_of_le (htlt (by simp)) (by omega)
        have hmore := ih hnext hleft hright
        have hcons := fun token => mapResult_map LexicalError.unplaced
          fun tokens => List.map_cons (f := Token.unplaced) (a := token) (l := tokens)
        dsimp only at hmore ⊢
        rw [hcons, hcons, hmore, htoken]

end Scanner

/-- Sources with the same chunks have the same tokens or the same lexical error, up to places. -/
theorem mapResult_tokenize_eq {left right : Bytes} (h : chunks left = chunks right) :
    mapResult LexicalError.unplaced (List.map Token.unplaced) (tokenize left) =
      mapResult LexicalError.unplaced (List.map Token.unplaced) (tokenize right) :=
  Scanner.SameChunks.tokensWithin h (Nat.lt_succ_self _) (Nat.lt_succ_self _)

/-! ### The stages after the scanner -/

namespace Cursor

def unplaced (cursor : Cursor) : Cursor := ⟨cursor.tokens.map Token.unplaced, cursor.pos⟩

/-- A reading without the places in its result and in the tokens of its cursor. -/
def unplacedReading {α : Type} (value : α → α) (reading : Except SyntaxError α × Cursor) :
    Except SyntaxError α × Cursor :=
  (mapResult SyntaxError.unplaced value reading.1, reading.2.unplaced)

theorem peek_unplaced (cursor : Cursor) (offset : Int64) :
    cursor.unplaced.peek offset = (cursor.peek offset).map Token.unplaced := by
  simp only [peek, unplaced, List.getElem?_map, apply_ite (Option.map Token.unplaced),
    Option.map_none]

theorem next_unplaced (cursor : Cursor) :
    cursor.unplaced.next = (cursor.next.1.map Token.unplaced, cursor.next.2.unplaced) := by
  rw [next, next, peek_unplaced]
  cases cursor.peek 0 <;> rfl

theorem expression_unplaced (cursor : Cursor) :
    cursor.unplaced.expression = unplacedReading id cursor.expression := by
  rw [expression, expression, peek_unplaced, next_unplaced]
  cases cursor.peek 0 with
  | none => rfl
  | some token =>
      have hliteral : token.unplaced.literal? = token.literal? := rfl
      dsimp only [Option.map_some]
      rw [hliteral]
      cases token.literal? <;> rfl

theorem expect_unplaced (cursor : Cursor) (kind : TokenKind) (expected : Bytes) :
    cursor.unplaced.expect kind expected =
      unplacedReading Token.unplaced (cursor.expect kind expected) := by
  rw [expect, expect, next_unplaced]
  rcases cursor.next with ⟨_ | token, after⟩
  · rfl
  · have hkind : token.unplaced.kind = token.kind := rfl
    dsimp only [Option.map_some]
    rw [hkind]
    split <;> rfl

theorem statement_unplaced (cursor : Cursor) :
    cursor.unplaced.statement = unplacedReading id cursor.statement := by
  rw [statement, statement, expect_unplaced]
  rcases cursor.expect .exit (utf8 "exit statement") with ⟨_ | keyword, after⟩
  · rfl
  dsimp only [unplacedReading, mapResult]
  rw [expression_unplaced]
  rcases after.expression with ⟨_ | digits, after⟩
  · rfl
  dsimp only [unplacedReading, mapResult]
  rw [expect_unplaced]
  rcases after.expect .semicolon (utf8 "semicolon") with ⟨_ | semicolon, after⟩ <;> rfl

end Cursor

/-- Tokens without places spell the same program, or fail to for the same reason. -/
theorem Program.ofTokens_unplaced (tokens : List Token) :
    Program.ofTokens (tokens.map Token.unplaced) =
      mapResult SyntaxError.unplaced id (Program.ofTokens tokens) := by
  have hstart : Cursor.start (tokens.map Token.unplaced) = (Cursor.start tokens).unplaced := rfl
  rw [ofTokens, ofTokens, hstart, Cursor.statement_unplaced]
  rcases (Cursor.start tokens).statement with ⟨_ | program, after⟩
  · rfl
  dsimp only [Cursor.unplacedReading, mapResult]
  rw [Cursor.peek_unplaced]
  cases after.peek 0 <;> rfl

theorem map_spelling_unplaced (tokens : List Token) :
    (tokens.map Token.unplaced).map Token.spelling = tokens.map Token.spelling :=
  List.map_map

theorem tokenize_alike_of_chunks_eq {left right : Bytes} (h : chunks left = chunks right) :
    (∃ tokens tokens', tokenize left = .ok tokens ∧ tokenize right = .ok tokens' ∧
        tokens.map Token.unplaced = tokens'.map Token.unplaced) ∨
      ∃ error error', tokenize left = .error error ∧ tokenize right = .error error' ∧
        error.unplaced = error'.unplaced :=
  (mapResult_eq_mapResult_iff.mp (mapResult_tokenize_eq h)).symm

/-- The assembly is made from the program, which has no places. -/
theorem compile_alike_of_chunks_eq {left right : Bytes} (h : chunks left = chunks right)
    (target : Target) :
    (∃ made made', compile left target = .ok made ∧ compile right target = .ok made' ∧
        made.program = made'.program ∧ made.assembly = made'.assembly) ∨
      ∃ error error', compile left target = .error error ∧ compile right target = .error error' ∧
        error.unplaced = error'.unplaced := by
  rcases tokenize_alike_of_chunks_eq h with
    ⟨tokens, tokens', hleft, hright, htokens⟩ | ⟨error, error', hleft, hright, herror⟩
  · have hprogram := Program.ofTokens_unplaced tokens
    rw [htokens, Program.ofTokens_unplaced] at hprogram
    rcases mapResult_eq_mapResult_iff.mp hprogram with
      ⟨e', e, hbad', hbad, he⟩ | ⟨program', program, hgood', hgood, hsame⟩
    · refine .inr ⟨.syntactic tokens e, .syntactic tokens' e', ?_, ?_, ?_⟩
      · simp only [compile, hleft, hbad]
      · simp only [compile, hright, hbad']
      · rw [CompileError.unplaced, CompileError.unplaced, htokens, he]
    · obtain rfl : program' = program := hsame
      cases hgenerate : target.generate program'.toStatement with
      | error e =>
          refine .inr ⟨.generation target tokens program' e,
            .generation target tokens' program' e, ?_, ?_, ?_⟩
          · simp only [compile, hleft, hgood, hgenerate]
          · simp only [compile, hright, hgood', hgenerate]
          · rw [CompileError.unplaced, CompileError.unplaced, htokens]
      | ok assembly =>
          refine .inl ⟨⟨tokens, program', assembly⟩, ⟨tokens', program', assembly⟩, ?_, ?_,
            rfl, rfl⟩
          · simp only [compile, hleft, hgood, hgenerate]
          · simp only [compile, hright, hgood', hgenerate]
  · refine .inr ⟨.lexical error, .lexical error', ?_, ?_, congrArg CompileError.lexical herror⟩
    · rw [compile, hleft]
    · rw [compile, hright]

/-- Layout never reaches the output: sources with the same chunks have tokens that say the same, or
the same lexical error at some place, and compile to the same program and assembly, or fail with
errors that differ in places only. -/
theorem chunks_determine_output {left right : Bytes} (h : chunks left = chunks right)
    (target : Target) :
    ((∃ tokens tokens', tokenize left = .ok tokens ∧ tokenize right = .ok tokens' ∧
          tokens.map Token.spelling = tokens'.map Token.spelling) ∨
        ∃ error error', tokenize left = .error error ∧ tokenize right = .error error' ∧
          error.fault = error'.fault ∧ error.text = error'.text) ∧
      ((∃ made made', compile left target = .ok made ∧ compile right target = .ok made' ∧
          made.program = made'.program ∧ made.assembly = made'.assembly) ∨
        ∃ error error', compile left target = .error error ∧
          compile right target = .error error' ∧ error.unplaced = error'.unplaced) := by
  refine ⟨?_, compile_alike_of_chunks_eq h target⟩
  rcases tokenize_alike_of_chunks_eq h with
    ⟨tokens, tokens', hleft, hright, htokens⟩ | ⟨error, error', hleft, hright, herror⟩
  · refine .inl ⟨tokens, tokens', hleft, hright, ?_⟩
    rw [← map_spelling_unplaced tokens, htokens, map_spelling_unplaced]
  · obtain ⟨hfault, htext, -, -⟩ := LexicalError.mk.inj herror
    exact .inr ⟨error, error', hleft, hright, hfault, htext⟩

/-- A word that is no keyword stands at different places of two layouts. -/
theorem chunks_determine_unknown_word :
    chunks (utf8 "exit 4stop") = chunks (utf8 "\n exit\t\r\n4stop\n") ∧
      ∃ error error', tokenize (utf8 "exit 4stop") = .error error ∧
        tokenize (utf8 "\n exit\t\r\n4stop\n") = .error error' ∧
        error.fault = error'.fault ∧ error.text = error'.text ∧ error.line ≠ error'.line := by
  have hchunks : chunks (utf8 "exit 4stop") = chunks (utf8 "\n exit\t\r\n4stop\n") := by decide
  have hleft : tokenize (utf8 "exit 4stop") =
      .error ⟨.unknownIdentifier, utf8 "stop", 1, 7⟩ := by decide
  have hright : tokenize (utf8 "\n exit\t\r\n4stop\n") =
      .error ⟨.unknownIdentifier, utf8 "stop", 3, 2⟩ := by decide
  refine ⟨hchunks, ?_⟩
  rcases (chunks_determine_output hchunks .linuxAmd64).1 with
    ⟨tokens, _, hok, -⟩ | ⟨error, error', herror, herror', hfault, htext⟩
  · rw [hleft] at hok
    cases hok
  · refine ⟨error, error', herror, herror', hfault, htext, ?_⟩
    rw [hleft] at herror
    rw [hright] at herror'
    cases herror
    cases herror'
    decide

end ExitLang
