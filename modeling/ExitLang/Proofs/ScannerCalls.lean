import ExitLang.Proofs.Placement

/-!
# Calls on a scanner

The operations of a scanner can be called in any order, also where they match nothing, after an
error and at the end. Each of them moves over code points ahead and does nothing else, so what one
call keeps a sequence of calls keeps: the scanner stands in its source, at the line and the column
of its position, and a text that is reported stands where the report says.

The loop that collects tokens has no counter. It ends because a call that does not find the end
moves on: `Loops` is the loop without a limit, and `tokenize` is its outcome.
-/

namespace ExitLang

namespace Scanner

/-! ### Places in a source -/

/-- The scanner is somewhere in a source with these code points, or at its end. Its line and its
column may be anything. -/
structure Within (s : Scanner) (chars : List Char) : Prop where
  pos_le : s.pos ≤ chars.length
  ahead_eq : s.ahead = chars.drop s.pos

/-- The scanner is somewhere in a source with these code points, at the line and the column that
the code points before its position give. -/
structure StandsIn (s : Scanner) (chars : List Char) : Prop extends s.Within chars where
  line_eq : s.line = lineAfter (chars.take s.pos)
  col_eq : s.col = columnAfter (chars.take s.pos)

section Places

variable {s : Scanner} {chars : List Char}

theorem standsIn_iff_passed :
    s.StandsIn chars ↔ ∃ behind, chars = behind ++ s.ahead ∧ s.Passed behind := by
  constructor
  · intro h
    refine ⟨chars.take s.pos, ?_, ?_, h.line_eq, h.col_eq⟩
    · rw [h.ahead_eq, List.take_append_drop]
    · rw [List.length_take, Nat.min_eq_left h.pos_le]
  · rintro ⟨behind, rfl, hpos, hline, hcol⟩
    refine ⟨⟨?_, ?_⟩, ?_, ?_⟩
    · rw [hpos, List.length_append]
      omega
    · rw [hpos, List.drop_left]
    · rw [hpos, List.take_left, hline]
    · rw [hpos, List.take_left, hcol]

theorem standsIn_start (source : Bytes) : (start source).StandsIn (codePoints source) :=
  standsIn_iff_passed.mpr ⟨[], rfl, passed_start source⟩

theorem pos_advance {c : Char} {rest : List Char} (hahead : s.ahead = c :: rest) :
    s.advance.pos = s.pos + 1 := by
  rw [advance, hahead]
  dsimp only
  split <;> rfl

theorem pos_advanceBy {n : Nat} (hn : n ≤ s.ahead.length) : (advanceBy n s).pos = s.pos + n := by
  induction n generalizing s with
  | zero => rfl
  | succ n ih =>
      obtain ⟨c, rest, hahead⟩ := List.exists_cons_of_length_pos (Nat.zero_lt_of_lt hn)
      have hnext : n ≤ s.advance.ahead.length := by
        rw [ahead_advance, List.length_drop]
        omega
      rw [advanceBy, ih hnext, pos_advance hahead]
      omega

theorem StandsIn.advanceBy {n : Nat} (h : s.StandsIn chars) (hn : n ≤ s.ahead.length) :
    (advanceBy n s).StandsIn chars := by
  obtain ⟨behind, rfl, hpassed⟩ := standsIn_iff_passed.mp h
  have hmoved := hpassed.advanceBy (List.take_append_drop n s.ahead).symm
  rw [List.length_take, Nat.min_eq_left hn] at hmoved
  refine standsIn_iff_passed.mpr ⟨_, ?_, hmoved⟩
  rw [ahead_advanceBy, List.append_assoc, List.take_append_drop]

/-- The code points between two positions are those that lie ahead of the first. -/
theorem Within.drop_take {body rest : List Char} (h : s.Within chars)
    (hahead : s.ahead = body ++ rest) : (chars.take (s.pos + body.length)).drop s.pos = body := by
  rw [List.drop_take, Nat.add_sub_cancel_left, ← h.ahead_eq, hahead, List.take_left]

end Places

/-- A text with a place, which is what a token and an error have in common. -/
structure Excerpt where
  text : Bytes
  line : Int
  col : Int
  deriving DecidableEq

/-- The excerpt is the code points from one position up to another, and its place is that of the
first position. -/
structure Excerpt.StandsAt (excerpt : Excerpt) (chars : List Char) (first last : Nat) : Prop where
  first_le : first ≤ last
  line_eq : excerpt.line = lineAfter (chars.take first)
  col_eq : excerpt.col = columnAfter (chars.take first)
  text_eq : excerpt.text = encodeChars ((chars.take last).drop first)

def excerptHere (s : Scanner) (chars : List Char) : Excerpt := ⟨encodeChars chars, s.line, s.col⟩

theorem StandsIn.standsAt_excerptHere {s : Scanner} {chars body rest : List Char}
    (h : s.StandsIn chars) (hahead : s.ahead = body ++ rest) :
    (s.excerptHere body).StandsAt chars s.pos (s.pos + body.length) where
  first_le := Nat.le_add_right _ _
  line_eq := congrArg Int.ofNat h.line_eq
  col_eq := congrArg Int.ofNat h.col_eq
  text_eq := congrArg encodeChars (h.drop_take hahead).symm

/-! ### What a call does -/

inductive Call where
  | peek
  | advance
  | skipWhitespace
  | word
  | integer
  | nextToken
  deriving DecidableEq

inductive Reply where
  | nothing
  | character (c : Char)
  | token (found : Token)
  | failure (failed : LexicalError)
  deriving DecidableEq

def Reply.ofResult : Except LexicalError (Option Token) → Reply
  | .ok none => nothing
  | .ok (some found) => token found
  | .error failed => failure failed

/-- The text that a token or an error is about. -/
def Reply.excerpt? : Reply → Option Excerpt
  | nothing => none
  | character _ => none
  | token found => some ⟨found.lexeme, found.line, found.col⟩
  | failure failed => some ⟨failed.text, failed.line, failed.col⟩

/-- A call on a scanner: what it gives back, and the scanner after it. -/
def perform (s : Scanner) : Call → Reply × Scanner
  | .peek => (.character s.peek, s)
  | .advance => (.character s.peek, s.advance)
  | .skipWhitespace => (.nothing, s.skipWhitespace)
  | .word => (.ofResult (s.word.1.map some), s.word.2)
  | .integer => (.token s.integer.1, s.integer.2)
  | .nextToken => (.ofResult s.nextToken.1, s.nextToken.2)

def after (s : Scanner) (calls : List Call) : Scanner :=
  calls.foldl (fun s call => (s.perform call).2) s

/-- A call passes over blanks, which only looking for a token does, and then takes the code points
of the body. What it reports is the body at its own place. -/
structure Takes (s : Scanner) (call : Call) (blanks body rest : List Char) : Prop where
  ahead : s.ahead = blanks ++ body ++ rest
  blank : ∀ c ∈ blanks, isWhitespace c = true
  next : (s.perform call).2 = advanceBy (blanks.length + body.length) s
  still : call ≠ .nextToken → blanks = []
  reports : ∀ excerpt ∈ (s.perform call).1.excerpt?,
    excerpt = (advanceBy blanks.length s).excerptHere body
  starts : call = .nextToken → (s.perform call).1.excerpt? ≠ none →
    ∃ c ∈ body.head?, isWhitespace c = false

section Takes

variable {s : Scanner}

theorem excerpt?_ofResult_word (s : Scanner) :
    (Reply.ofResult (s.word.1.map some)).excerpt? =
      some (s.excerptHere (s.run Unicode.isLetter)) := by
  rw [word]
  dsimp only
  split <;> rfl

theorem exists_tokenAt {c : Char} {tail : List Char} (hahead : s.ahead = c :: tail) :
    ∃ more rest, s.ahead = c :: more ++ rest ∧
      (s.tokenAt c).2 = advanceBy (c :: more).length s ∧
      (Reply.ofResult ((s.tokenAt c).1.map some)).excerpt? = some (s.excerptHere (c :: more)) := by
  -- The test that picks a branch is the one that its run goes on with, so the run is not empty.
  have hrun : ∀ p : Char → Bool, p c = true → s.run p = c :: tail.takeWhile p := by
    intro p hp
    rw [run, hahead, List.takeWhile_cons_of_pos hp]
  rw [tokenAt]
  split
  · rename_i hletter
    have hsplit := ahead_eq_run_append Unicode.isLetter s
    have hexcerpt := excerpt?_ofResult_word s
    rw [hrun _ hletter] at hsplit hexcerpt
    refine ⟨_, _, hsplit, ?_, hexcerpt⟩
    rw [word, advanceWhile, hrun _ hletter]
  split
  · rename_i hdigit
    have hsplit := ahead_eq_run_append isAsciiDigit s
    rw [hrun _ hdigit] at hsplit
    refine ⟨_, _, hsplit, ?_, ?_⟩
    · rw [integer, advanceWhile, hrun _ hdigit]
    · rw [integer, hrun _ hdigit]
      rfl
  split
  · rename_i hsemicolon
    refine ⟨[], tail, hahead, rfl, ?_⟩
    rw [hsemicolon]
    rfl
  · exact ⟨[], tail, hahead, rfl, rfl⟩

/-- Looking for a token finds the end after white space, or a text that is reported. -/
theorem nextToken_cases (s : Scanner) :
    ((∀ c ∈ s.ahead, isWhitespace c = true) ∧
        s.nextToken = (.ok none, advanceBy s.ahead.length s)) ∨
      ∃ blanks c more rest, s.ahead = blanks ++ c :: more ++ rest ∧
        (∀ c ∈ blanks, isWhitespace c = true) ∧ isWhitespace c = false ∧
        s.nextToken.2 = advanceBy (blanks.length + (c :: more).length) s ∧
        (Reply.ofResult s.nextToken.1).excerpt? =
          some ((advanceBy blanks.length s).excerptHere (c :: more)) := by
  have hsplit : s.ahead = s.run isWhitespace ++ s.skipWhitespace.ahead :=
    ahead_eq_run_append isWhitespace s
  have hrun : IsRun isWhitespace (s.run isWhitespace) s.skipWhitespace.ahead :=
    isRun_run isWhitespace s
  cases hahead : s.skipWhitespace.ahead with
  | nil =>
      rw [hahead, List.append_nil] at hsplit
      refine Or.inl ⟨?_, ?_⟩
      · rw [hsplit]
        exact hrun.all
      · rw [nextToken_of_nil hahead, hsplit]
        rfl
  | cons c tail =>
      obtain ⟨more, rest, hrest, hnext, hexcerpt⟩ := exists_tokenAt hahead
      refine Or.inr ⟨s.run isWhitespace, c, more, rest, ?_, hrun.all, ?_, ?_, ?_⟩
      · rw [hsplit, hrest, List.append_assoc]
      · exact hrun.stops c (by rw [hahead]; rfl)
      · rw [nextToken_of_cons hahead, advanceBy_add]
        exact hnext
      · rw [nextToken_of_cons hahead]
        exact hexcerpt

theorem takes_of_ne_nextToken {call : Call} {body rest : List Char} (hcall : call ≠ .nextToken)
    (hahead : s.ahead = body ++ rest) (hnext : (s.perform call).2 = advanceBy body.length s)
    (hreports : ∀ excerpt ∈ (s.perform call).1.excerpt?, excerpt = s.excerptHere body) :
    s.Takes call [] body rest where
  ahead := hahead
  blank := by simp
  next := by rw [hnext, List.length_nil, Nat.zero_add]
  still _ := rfl
  reports := hreports
  starts hnextToken := absurd hnextToken hcall

/-- Every call takes code points from those ahead. -/
theorem exists_takes (s : Scanner) (call : Call) :
    ∃ blanks body rest, s.Takes call blanks body rest := by
  cases call with
  | peek =>
      exact ⟨_, [], s.ahead, takes_of_ne_nextToken (by decide) rfl rfl
        (by simp [perform, Reply.excerpt?])⟩
  | advance =>
      have hreports : ∀ body, ∀ excerpt ∈ (s.perform .advance).1.excerpt?,
          excerpt = s.excerptHere body := by simp [perform, Reply.excerpt?]
      cases hahead : s.ahead with
      | nil =>
          have hstays : s.advance = s := by rw [advance, hahead]
          exact ⟨_, [], [], takes_of_ne_nextToken (by decide) hahead hstays (hreports _)⟩
      | cons c rest =>
          exact ⟨_, [c], rest, takes_of_ne_nextToken (by decide) hahead rfl (hreports _)⟩
  | skipWhitespace =>
      exact ⟨_, _, _, takes_of_ne_nextToken (by decide) (ahead_eq_run_append isWhitespace s) rfl
        (by simp [perform, Reply.excerpt?])⟩
  | word =>
      refine ⟨_, _, _, takes_of_ne_nextToken (by decide) (ahead_eq_run_append Unicode.isLetter s)
        rfl ?_⟩
      intro excerpt hmem
      rw [perform, excerpt?_ofResult_word] at hmem
      exact (Option.mem_some.mp hmem).symm
  | integer =>
      refine ⟨_, _, _, takes_of_ne_nextToken (by decide) (ahead_eq_run_append isAsciiDigit s)
        rfl ?_⟩
      intro excerpt hmem
      exact (Option.mem_some.mp hmem).symm
  | nextToken =>
      rcases s.nextToken_cases with ⟨hblank, hnext⟩ |
        ⟨blanks, c, more, rest, hahead, hblank, hsolid, hnext, hexcerpt⟩
      · have hnothing : (s.perform .nextToken).1.excerpt? = none := by
          rw [perform, hnext]
          rfl
        refine ⟨s.ahead, [], [], by simp, hblank, ?_, fun hcall => absurd rfl hcall, ?_, ?_⟩
        · rw [perform, hnext]
          rfl
        · simp [hnothing]
        · exact fun _ hsome => absurd hnothing hsome
      · refine ⟨blanks, c :: more, rest, hahead, hblank, hnext, fun hcall => absurd rfl hcall, ?_,
          fun _ _ => ⟨c, rfl, hsolid⟩⟩
        intro excerpt hmem
        rw [perform, hexcerpt] at hmem
        exact (Option.mem_some.mp hmem).symm

end Takes

/-! ### Sequences of calls -/

section Runs

variable {s : Scanner} {chars : List Char}

section

variable {call : Call} {blanks body rest : List Char}

theorem Takes.length_le (h : s.Takes call blanks body rest) :
    blanks.length + body.length ≤ s.ahead.length := by
  rw [h.ahead, List.length_append, List.length_append]
  omega

theorem Takes.pos_eq (h : s.Takes call blanks body rest) :
    (s.perform call).2.pos = s.pos + (blanks.length + body.length) := by
  rw [h.next, pos_advanceBy h.length_le]

theorem Takes.ahead_body (h : s.Takes call blanks body rest) :
    (advanceBy blanks.length s).ahead = body ++ rest := by
  rw [ahead_advanceBy, h.ahead, List.append_assoc, List.drop_left]

end

theorem pos_le_perform (s : Scanner) (call : Call) : s.pos ≤ (s.perform call).2.pos := by
  obtain ⟨blanks, body, rest, htakes⟩ := s.exists_takes call
  rw [htakes.pos_eq]
  omega

theorem StandsIn.perform (h : s.StandsIn chars) (call : Call) :
    (s.perform call).2.StandsIn chars := by
  obtain ⟨blanks, body, rest, htakes⟩ := s.exists_takes call
  rw [htakes.next]
  exact h.advanceBy htakes.length_le

theorem pos_le_after (s : Scanner) (calls : List Call) : s.pos ≤ (s.after calls).pos := by
  induction calls generalizing s with
  | nil => exact Nat.le_refl _
  | cons call calls ih => exact Nat.le_trans (s.pos_le_perform call) (ih (s.perform call).2)

theorem StandsIn.after (h : s.StandsIn chars) (calls : List Call) :
    (s.after calls).StandsIn chars := by
  induction calls generalizing s with
  | nil => exact h
  | cons call calls ih => exact ih (h.perform call)

/-- **Every sequence of calls keeps the place.** After any calls in any order the scanner is in the
source, at the line and the column of its position, and further calls never take it back. A token or
an error that the next call reports has the line and the column of its first code point and the text
from there to the new position. Only looking for a token passes over anything before this text, and
that is white space, up to a code point that is none. -/
theorem calls_keep_place (source : Bytes) (calls : List Call) (call : Call) :
    let chars := codePoints source
    let s := (start source).after calls
    let next := (s.perform call).2
    s.StandsIn chars ∧ (∀ more, s.pos ≤ (s.after more).pos) ∧
      ∀ excerpt ∈ (s.perform call).1.excerpt?, ∃ first,
        s.pos ≤ first ∧ excerpt.StandsAt chars first next.pos ∧
        (call ≠ .nextToken → first = s.pos) ∧
        (call = .nextToken → (∀ c ∈ (chars.take first).drop s.pos, isWhitespace c = true) ∧
          ∃ c, chars[first]? = some c ∧ isWhitespace c = false) := by
  intro chars s next
  have hstands : s.StandsIn chars := (standsIn_start source).after calls
  refine ⟨hstands, s.pos_le_after, ?_⟩
  intro excerpt hmem
  obtain ⟨blanks, body, rest, htakes⟩ := s.exists_takes call
  -- The excerpt was read where the scanner stood behind the blanks.
  have hblanks : blanks.length ≤ s.ahead.length := by
    have hlength := htakes.length_le
    omega
  have hthere := hstands.advanceBy hblanks
  have hfirst : (advanceBy blanks.length s).pos = s.pos + blanks.length := pos_advanceBy hblanks
  have hlast : next.pos = (advanceBy blanks.length s).pos + body.length := by
    rw [hfirst, Nat.add_assoc]
    exact htakes.pos_eq
  refine ⟨(advanceBy blanks.length s).pos, by omega, ?_, ?_, ?_⟩
  · rw [htakes.reports excerpt hmem, hlast]
    exact hthere.standsAt_excerptHere htakes.ahead_body
  · intro hcall
    rw [htakes.still hcall]
    rfl
  · intro hcall
    refine ⟨?_, ?_⟩
    · rw [hfirst, hstands.drop_take (htakes.ahead.trans (List.append_assoc _ _ _))]
      exact htakes.blank
    · obtain ⟨c, hc, hsolid⟩ := htakes.starts hcall (Option.ne_none_iff_exists'.mpr ⟨_, hmem⟩)
      refine ⟨c, ?_, hsolid⟩
      rw [← List.head?_drop, ← hthere.ahead_eq, htakes.ahead_body, List.head?_append,
        Option.mem_def.mp hc]
      rfl

/-- A number on the second line, after a number that was not there, an unknown word, and a step over
the end of the line. -/
theorem calls_keep_place_after_unknown_word :
    let source := utf8 "ab\n 12"
    let s := (start source).after [.integer, .word, .advance]
    (s.perform .nextToken).1 = .token ⟨.integer, utf8 "12", 2, 2⟩ ∧
      ∃ first, s.pos ≤ first ∧ Excerpt.StandsAt ⟨utf8 "12", 2, 2⟩ (codePoints source) first
        (s.perform .nextToken).2.pos := by
  intro source s
  have hreply : (s.perform .nextToken).1 = .token ⟨.integer, utf8 "12", 2, 2⟩ := by decide
  obtain ⟨-, -, hreports⟩ := calls_keep_place source [.integer, .word, .advance] .nextToken
  obtain ⟨first, hback, hstands, -⟩ := hreports ⟨utf8 "12", 2, 2⟩ (by rw [hreply]; rfl)
  exact ⟨hreply, first, hback, hstands⟩

end Runs

/-! ### Progress -/

section Progress

variable {s : Scanner}

/-- Asking for tokens, with those found so far, until the end is found or a text that is no token:
the number of calls that this takes, and its outcome. -/
inductive Loops : List Token → Scanner → Nat → Except LexicalError (List Token) → Prop
  | finished {found : List Token} {s : Scanner} (ended : s.nextToken.1 = .ok none) :
      Loops found s 1 (.ok found)
  | failed {found : List Token} {s : Scanner} {error : LexicalError}
      (failed : s.nextToken.1 = .error error) : Loops found s 1 (.error error)
  | continues {found : List Token} {s next : Scanner} {token : Token} {calls : Nat}
      {outcome : Except LexicalError (List Token)}
      (read : s.nextToken = (.ok (some token), next))
      (later : Loops (found ++ [token]) next calls outcome) : Loops found s (calls + 1) outcome

theorem Loops.unique {found : List Token} {m n : Nat}
    {left right : Except LexicalError (List Token)} (hleft : Loops found s m left)
    (hright : Loops found s n right) : m = n ∧ left = right := by
  induction hleft generalizing n with
  | finished hended =>
      cases hright with
      | finished => exact ⟨rfl, rfl⟩
      | failed hfailed => simp [hended] at hfailed
      | continues hread => simp [hread] at hended
  | failed hfailed =>
      cases hright with
      | finished hended => simp [hfailed] at hended
      | failed hother =>
          rw [hother] at hfailed
          cases hfailed
          exact ⟨rfl, rfl⟩
      | continues hread => simp [hread] at hfailed
  | continues hread _ ih =>
      cases hright with
      | finished hended => simp [hread] at hended
      | failed hfailed => simp [hread] at hfailed
      | continues hother hlater =>
          rw [hother] at hread
          cases hread
          obtain ⟨rfl, rfl⟩ := ih hlater
          exact ⟨rfl, rfl⟩

/-- Every call but the last has found a token. -/
theorem Loops.length_eq {found tokens : List Token} {calls : Nat}
    (h : Loops found s calls (.ok tokens)) : tokens.length + 1 = found.length + calls := by
  generalize houtcome : Except.ok tokens = outcome at h
  induction h with
  | finished => cases houtcome; rfl
  | failed => cases houtcome
  | continues _ _ ih =>
      have hlength := ih houtcome
      rw [List.length_append, List.length_singleton] at hlength
      omega

/-- As every call but the last moves on, the loop ends. -/
theorem exists_loops {calls : Nat} (hcalls : s.ahead.length < calls) (found : List Token) :
    ∃ needed ≤ s.ahead.length + 1,
      Loops found s needed ((tokensWithin calls s).map (found ++ ·)) := by
  induction calls generalizing s found with
  | zero => omega
  | succ calls ih =>
      rw [tokensWithin]
      rcases hnext : s.nextToken with ⟨error | _ | token, next⟩
      · exact ⟨1, by omega, .failed (by rw [hnext])⟩
      · have hended : Loops found s 1 (.ok found) := .finished (by rw [hnext])
        exact ⟨1, by omega, by simpa [Except.map] using hended⟩
      · have hlt : next.ahead.length < s.ahead.length := by
          simpa [hnext] using nextToken_ahead_length_lt (s := s) (by simp [hnext])
        obtain ⟨needed, hneeded, hloops⟩ := ih (s := next) (by omega) (found ++ [token])
        refine ⟨needed + 1, by omega, .continues hnext ?_⟩
        dsimp only
        cases hrest : tokensWithin calls next <;> simpa [hrest, Except.map] using hloops

/-- Looking for a token reaches the end over white space, or finds something and moves on. -/
theorem Within.nextToken_progress {chars : List Char} (h : s.Within chars) :
    (s.nextToken.1 = .ok none ∧ (∀ c ∈ chars.drop s.pos, isWhitespace c = true) ∧
        s.nextToken.2.pos = chars.length) ∨
      (((∃ token, s.nextToken.1 = .ok (some token)) ∨ ∃ error, s.nextToken.1 = .error error) ∧
        s.pos < s.nextToken.2.pos) := by
  rcases s.nextToken_cases with ⟨hblank, hnext⟩ |
    ⟨blanks, c, more, rest, hahead, -, -, hnext, hexcerpt⟩
  · refine Or.inl ⟨by rw [hnext], ?_, ?_⟩
    · rwa [← h.ahead_eq]
    · have hpos := h.pos_le
      rw [hnext, pos_advanceBy (Nat.le_refl _), h.ahead_eq, List.length_drop]
      omega
  · refine Or.inr ⟨?_, ?_⟩
    · rcases hresult : s.nextToken.1 with error | found
      · exact Or.inr ⟨error, rfl⟩
      · cases found with
        | none => rw [hresult] at hexcerpt; cases hexcerpt
        | some token => exact Or.inl ⟨token, rfl⟩
    · have hlength : blanks.length + (c :: more).length ≤ s.ahead.length := by
        rw [hahead, List.length_append, List.length_append]
        omega
      rw [hnext, pos_advanceBy hlength, List.length_cons]
      omega

/-- **Scanning always makes progress.** From any position in a source, looking for a token finds
nothing and is at the end, with only white space before it, or it finds a token or an error and has
moved on. So the loop that collects the tokens ends on every source, in one way, after at most one
call more than there are code points, and there are no more tokens than code points. -/
theorem nextToken_moves_on_until_end (source : Bytes) :
    (∀ s : Scanner, s.Within (codePoints source) →
      (s.nextToken.1 = .ok none ∧
          (∀ c ∈ (codePoints source).drop s.pos, isWhitespace c = true) ∧
          s.nextToken.2.pos = (codePoints source).length) ∨
        (((∃ token, s.nextToken.1 = .ok (some token)) ∨ ∃ error, s.nextToken.1 = .error error) ∧
          s.pos < s.nextToken.2.pos)) ∧
    (∃ calls ≤ (codePoints source).length + 1, ∀ n outcome,
      Loops [] (start source) n outcome ↔ n = calls ∧ outcome = tokenize source) ∧
    ∀ tokens, tokenize source = .ok tokens → tokens.length ≤ (codePoints source).length := by
  obtain ⟨calls, hcalls, hloops⟩ := exists_loops (s := start source) (Nat.lt_succ_self _) []
  have houtcome : Loops [] (start source) calls (tokenize source) := by
    rw [tokenize]
    cases hresult : tokensWithin ((start source).ahead.length + 1) (start source) <;>
      simpa [hresult, Except.map] using hloops
  refine ⟨fun s hwithin => hwithin.nextToken_progress, ⟨calls, hcalls, ?_⟩, ?_⟩
  · intro n outcome
    constructor
    · exact fun hother => hother.unique houtcome
    · rintro ⟨rfl, rfl⟩
      exact houtcome
  · intro tokens htokens
    rw [htokens] at houtcome
    have hlength : tokens.length + 1 = 0 + calls := houtcome.length_eq
    have hbound : calls ≤ (codePoints source).length + 1 := hcalls
    omega

/-- A NUL, which `peek` also gives at the end, is passed like any other code point that starts no
token; the line and the column of the scanner do not matter. -/
theorem nextToken_moves_over_nul :
    let s : Scanner := ⟨[Char.ofNat 0], 1, 7, 9⟩
    s.Within (codePoints [0x20, 0x00]) ∧ s.peek = Char.ofNat 0 ∧
      s.nextToken.1 = .error ⟨.unexpectedCharacter, [0x00], 7, 9⟩ ∧ s.pos < s.nextToken.2.pos := by
  intro s
  have hwithin : s.Within (codePoints [0x20, 0x00]) := ⟨by decide, by decide⟩
  have herror : s.nextToken.1 = .error ⟨.unexpectedCharacter, [0x00], 7, 9⟩ := by rfl
  refine ⟨hwithin, rfl, herror, ?_⟩
  rcases (nextToken_moves_on_until_end [0x20, 0x00]).1 s hwithin with ⟨hnone, -⟩ | ⟨-, hmoved⟩
  · rw [herror] at hnone
    cases hnone
  · exact hmoved

end Progress

end Scanner

end ExitLang
