import ExitLang.Proofs.Acceptance
import Mathlib.Data.List.TakeWhile

/-!
# Comments and layout of assembly

A line of assembly is read the same with white space put in front of it, and with white space and a
comment put behind it: no comment leader is found across the place where they are joined, and the
blanks are trimmed off the pieces of the line wherever it is cut. A line with nothing but blanks or
a comment is read as an empty one. It adds nothing to the listing, so putting it into a text moves
the lines behind it down by one and changes nothing else.
-/

namespace ExitLang

/-! ### Blank texts -/

/-- There is nothing in the text but white space. -/
def IsBlankText (text : Bytes) : Prop := ∀ symbol ∈ decode text, symbol.isBlank = true

instance (text : Bytes) : Decidable (IsBlankText text) :=
  inferInstanceAs (Decidable (∀ symbol ∈ decode text, symbol.isBlank = true))

section Blank

variable {blanks : Bytes} (h : IsBlankText blanks)
include h

theorem IsBlankText.exists_chars :
    ∃ chars, blanks = encodeChars chars ∧ decode blanks = chars.map .scalar := by
  obtain ⟨chars, hchars⟩ := exists_map_scalar h
  refine ⟨chars, ?_, hchars⟩
  rw [← encode_map_scalar, ← hchars, encode_decode]

/-- Visible bytes do not occur in the encoding of a blank. -/
theorem IsBlankText.notMem {b : UInt8} (hb : Bytes.isVisible b = true) : b ∉ blanks := by
  intro hmem
  have hblank := h _ ((scalar_mem_decode_iff (isVisible_lt hb)).mpr hmem)
  rw [isBlank_scalar_asciiChar (isVisible_lt hb), isBlank_of_isVisible hb] at hblank
  cases hblank

theorem trim_blanks_append (text : Bytes) : trim (blanks ++ text) = trim text := by
  obtain ⟨chars, rfl, hchars⟩ := h.exists_chars
  have hall : ∀ symbol ∈ chars.map Symbol.scalar, symbol.isBlank = true := hchars ▸ h
  rw [trim, decode_encodeChars_append, trimSymbols, List.dropWhile_append_of_pos hall, trim,
    trimSymbols]

theorem trim_append_blanks (text : Bytes) : trim (text ++ blanks) = trim text := by
  obtain ⟨chars, rfl, hchars⟩ := h.exists_chars
  have hall : ∀ symbol ∈ chars.map Symbol.scalar, symbol.isBlank = true := hchars ▸ h
  have hreverse : ∀ symbol ∈ (chars.map Symbol.scalar).reverse, symbol.isBlank = true :=
    fun symbol hsymbol => hall symbol (List.mem_reverse.mp hsymbol)
  rw [trim, decode_append_encodeChars, trim, trimSymbols, trimSymbols, List.dropWhile_append]
  split
  · rename_i hempty
    rw [List.isEmpty_iff.mp hempty, List.dropWhile_eq_nil_iff.mpr hall]
  · rw [List.reverse_append, List.dropWhile_append_of_pos hreverse]

end Blank

/-! ### Comments -/

namespace Bytes

variable {mark text : Bytes}

/-- A mark does not reach over a byte that is not in it. -/
theorem prefix_append_cons_iff {b : UInt8} (hb : b ∉ mark) (rest : Bytes) :
    mark <+: text ++ b :: rest ↔ mark <+: text := by
  constructor
  · intro hstart
    rcases List.prefix_or_prefix_of_prefix hstart (List.prefix_append text (b :: rest))
      with hshort | ⟨tail, rfl⟩
    · exact hshort
    · cases tail with
      | nil => simp
      | cons c tail =>
          obtain ⟨rfl, -⟩ := List.cons_prefix_cons.mp
            ((List.prefix_append_right_inj text).mp hstart)
          exact absurd (List.mem_append_right text List.mem_cons_self) hb
  · exact fun hstart => hstart.trans (List.prefix_append text (b :: rest))

/-- The first mark is found where it was, whatever follows. -/
theorem before_append_of_infix (h : mark <:+: text) (rest : Bytes) :
    before mark (text ++ rest) = before mark text := by
  induction text with
  | nil =>
      rw [List.infix_nil] at h
      subst h
      cases rest <;> simp [before]
  | cons b text ih =>
      simp only [List.cons_append, before, List.isPrefixOf_iff_prefix]
      by_cases hhere : mark <+: b :: text
      · have hlonger : mark <+: b :: (text ++ rest) :=
          hhere.trans (List.prefix_append (b :: text) rest)
        rw [if_pos hhere, if_pos hlonger]
      · have hlater := (List.infix_cons_iff.mp h).resolve_left hhere
        have hnot : ¬ mark <+: b :: (text ++ rest) := by
          intro hlonger
          apply hhere
          refine List.prefix_of_prefix_length_le hlonger (List.prefix_append (b :: text) rest) ?_
          exact Nat.le_succ_of_le hlater.length_le
        rw [if_neg hhere, if_neg hnot, ih hlater]

theorem before_append_cons_of_not_infix {b : UInt8} (hne : mark ≠ []) (hb : b ∉ mark)
    (h : ¬ mark <:+: text) (rest : Bytes) :
    before mark (text ++ b :: rest) = text ++ b :: before mark rest := by
  induction text with
  | nil =>
      have hnot : ¬ mark <+: b :: rest := by
        rw [← List.nil_append (b :: rest), prefix_append_cons_iff hb, List.prefix_nil]
        exact hne
      rw [List.nil_append, List.nil_append, before, if_neg (by simpa using hnot)]
  | cons c text ih =>
      rw [List.infix_cons_iff, not_or] at h
      have hnot : ¬ mark <+: (c :: text) ++ b :: rest := by
        rw [prefix_append_cons_iff hb]
        exact h.1
      rw [List.cons_append] at hnot ⊢
      rw [before, if_neg (by simpa using hnot), ih h.2, List.cons_append]

theorem before_of_not_infix (h : ¬ mark <:+: text) : before mark text = text := by
  induction text with
  | nil => rfl
  | cons b text ih =>
      rw [List.infix_cons_iff, not_or] at h
      rw [before, if_neg (by simpa using h.1), ih h.2]

end Bytes

namespace Assembly

variable {blanks : Bytes}

/-! ### One line -/

theorem readPieces_blanks_append_cons (h : IsBlankText blanks) (line : Line) (piece : Bytes)
    (more : List Bytes) :
    readPieces line ((blanks ++ piece) :: more) = readPieces line (piece :: more) := by
  cases more with
  | nil => rw [readPieces, readPieces, trim_blanks_append h]
  | cons next more =>
      have hne := List.cons_ne_nil next more
      rw [readPieces_cons hne, readPieces_cons hne, Bytes.joinWith_append_cons,
        trim_blanks_append h, trim_blanks_append h]

theorem readPieces_concat_append_blanks (h : IsBlankText blanks) (line : Line) (outer : List Bytes)
    (last : Bytes) :
    readPieces line (outer ++ [last ++ blanks]) = readPieces line (outer ++ [last]) := by
  induction outer generalizing line with
  | nil =>
      rw [List.nil_append, List.nil_append, readPieces, readPieces, trim_append_blanks h]
  | cons piece outer ih =>
      rw [List.cons_append, List.cons_append, readPieces_cons (by simp), readPieces_cons (by simp),
        ih, ← List.cons_append, Bytes.joinWith_concat_append, trim_append_blanks h,
        List.cons_append]

theorem readPieces_splitOn_blanks_append (h : IsBlankText blanks) (line : Line) (text : Bytes) :
    readPieces line (Bytes.splitOn 0x3A (blanks ++ text)) =
      readPieces line (Bytes.splitOn 0x3A text) := by
  obtain ⟨first, more, htext, hfront⟩ := Bytes.exists_splitOn_prepend 0x3A text
  rw [hfront blanks (h.notMem (by decide)), htext, readPieces_blanks_append_cons h]

theorem readPieces_splitOn_append_blanks (h : IsBlankText blanks) (line : Line) (text : Bytes) :
    readPieces line (Bytes.splitOn 0x3A (text ++ blanks)) =
      readPieces line (Bytes.splitOn 0x3A text) := by
  obtain ⟨outer, last, htext, hsuffix⟩ := Bytes.exists_splitOn_append 0x3A text
  rw [hsuffix blanks (h.notMem (by decide)), htext, readPieces_concat_append_blanks h]

section Leader

variable {target : Target} {first : UInt8} {rest : Bytes}
  (hcomment : target.CommentStart first rest)
include hcomment

theorem readLine_blanks_append (h : IsBlankText blanks) (raw : Bytes) (number : Int) :
    readLine target (blanks ++ raw) number = readLine target raw number := by
  have hfirst : first ∉ blanks := h.notMem (hcomment.visible _ List.mem_cons_self)
  rw [readLine, withoutComment, hcomment.leader, before_append hfirst,
    readPieces_splitOn_blanks_append h, readLine, withoutComment, hcomment.leader]

/-- A comment behind a blank leaves of the line what was left without it, and the blank at most. -/
theorem exists_withoutComment_append (h : IsBlankText blanks) (hne : blanks ≠ [])
    (raw comment : Bytes) :
    ∃ ending, IsBlankText ending ∧
      withoutComment target.commentLeader (raw ++ blanks ++ target.commentLeader ++ comment) =
        withoutComment target.commentLeader raw ++ ending := by
  rw [hcomment.leader, withoutComment, withoutComment]
  by_cases hinside : first :: rest <:+: raw
  · refine ⟨[], by decide, ?_⟩
    rw [List.append_assoc, List.append_assoc, Bytes.before_append_of_infix hinside,
      List.append_nil]
  · refine ⟨blanks, h, ?_⟩
    obtain ⟨b, more, rfl⟩ := List.exists_cons_of_ne_nil hne
    have hb : b ∉ first :: rest :=
      fun hmem => h.notMem (hcomment.visible b hmem) List.mem_cons_self
    have hmore : first ∉ more := fun hmem =>
      h.notMem (hcomment.visible _ List.mem_cons_self) (List.mem_cons_of_mem b hmem)
    have hjoin : raw ++ b :: more ++ (first :: rest) ++ comment =
        raw ++ b :: (more ++ (first :: rest ++ comment)) := by simp
    rw [hjoin, Bytes.before_append_cons_of_not_infix (List.cons_ne_nil _ _) hb hinside,
      before_append hmore, before_mark_append, List.append_nil, Bytes.before_of_not_infix hinside]

theorem readLine_append_comment (h : IsBlankText blanks) (hne : blanks ≠ []) (raw comment : Bytes)
    (number : Int) :
    readLine target (raw ++ blanks ++ target.commentLeader ++ comment) number =
      readLine target raw number := by
  obtain ⟨ending, hending, hcut⟩ := exists_withoutComment_append hcomment h hne raw comment
  rw [readLine, hcut, readPieces_splitOn_append_blanks hending, readLine]

end Leader

/-- A line with nothing but white space or a comment. -/
def IsIdleLine (target : Target) (raw : Bytes) : Prop :=
  ∃ blanks, IsBlankText blanks ∧
    (raw = blanks ∨ ∃ comment, raw = blanks ++ target.commentLeader ++ comment)

theorem IsIdleLine.readLine_eq {target : Target} {first : UInt8} {rest raw : Bytes}
    (h : IsIdleLine target raw) (hcomment : target.CommentStart first rest) (number : Int) :
    readLine target raw number = .ok ⟨number, [], [], []⟩ := by
  obtain ⟨blanks, hblanks, rfl | ⟨comment, rfl⟩⟩ := h
  · rw [← List.append_nil raw, readLine_blanks_append hcomment hblanks,
      hcomment.readLine_nothing]
  · have hcut : withoutComment target.commentLeader (target.commentLeader ++ comment) = [] := by
      rw [hcomment.leader, withoutComment, before_mark_append]
    rw [List.append_assoc, readLine_blanks_append hcomment hblanks, readLine, hcut]
    rfl

/-! ### Lines that moved -/

def Line.renumbered (f : Int → Int) (line : Line) : Line := { line with number := f line.number }

def Draft.renumbered (f : Int → Int) (draft : Draft) : Draft :=
  { draft with
    directives := draft.directives.map (·.renumbered f)
    instructions := draft.instructions.map (·.renumbered f) }

/-- The listing of the same lines at other places. -/
def Listing.renumbered (f : Int → Int) (listing : Listing) : Listing :=
  { listing with
    directives := listing.directives.map (·.renumbered f)
    instructions := listing.instructions.map (·.renumbered f) }

/-- The new number of a line when one line is put in behind the first ones. -/
def movedDown (count : Nat) (number : Int) : Int := if number ≤ count then number else number + 1

section Renumbered

variable {target : Target} (f : Int → Int)

theorem readInstruction_renumbered {line result : Line} {text : Bytes}
    (h : readInstruction line text = .ok result) :
    readInstruction (line.renumbered f) text = .ok (result.renumbered f) := by
  rw [readInstruction] at h ⊢
  split at h
  · cases h
  · cases h
    rfl

theorem readPieces_renumbered {line result : Line} {pieces : List Bytes}
    (h : readPieces line pieces = .ok result) :
    readPieces (line.renumbered f) pieces = .ok (result.renumbered f) := by
  fun_induction readPieces line pieces with
  | case1 line =>
      cases h
      rfl
  | case2 line last hblank =>
      cases h
      rw [readPieces, if_pos hblank]
  | case3 line last hblank =>
      rw [readPieces, if_neg hblank]
      exact readInstruction_renumbered f h
  | case4 line piece next more label hlabel =>
      rw [readPieces_cons (List.cons_ne_nil next more), if_pos hlabel]
      exact readInstruction_renumbered f h
  | case5 line piece next more label hlabel hvalid ih =>
      rw [readPieces_cons (List.cons_ne_nil next more), if_neg hlabel, if_pos hvalid]
      exact ih h
  | case6 line piece next more label hlabel hvalid => cases h

theorem readLine_renumbered {raw : Bytes} {number : Int} {line : Line}
    (h : readLine target raw number = .ok line) :
    readLine target raw (f number) = .ok (line.renumbered f) :=
  readPieces_renumbered f h

theorem readLoad_renumbered {line : Line} {load : Load} (h : readLoad target line = .ok load) :
    readLoad target (line.renumbered f) = .ok load := by
  simp only [readLoad_eq_ok_iff, readImmediate_eq_ok_iff] at h ⊢
  exact h

namespace Draft

theorem add_renumbered {draft next : Draft} {line : Line}
    (h : draft.add target line = .ok next) :
    (draft.renumbered f).add target (line.renumbered f) = .ok (next.renumbered f) := by
  by_cases hnil : line.mnemonic = []
  · rw [add_labels draft hnil] at h
    cases h
    exact add_labels (draft.renumbered f) hnil
  have hmoved : (line.renumbered f).mnemonic ≠ [] := hnil
  cases hclass : classify target line.mnemonic with
  | directive =>
      rw [add_directive draft hnil hclass] at h
      cases h
      rw [add_directive _ hmoved hclass]
      simp [renumbered, Line.renumbered]
  | trap =>
      rw [add_trap draft hnil hclass] at h
      cases h
      rw [add_trap _ hmoved hclass]
      simp [renumbered, Line.renumbered]
  | load =>
      cases hread : readLoad target line with
      | error e => simp [add, hnil, hclass, hread] at h
      | ok load =>
          rw [add_load draft hnil hclass hread] at h
          cases h
          rw [add_load _ hmoved hclass (readLoad_renumbered f hread)]
          simp [renumbered, Line.renumbered]
  | unknown => simp [add, hnil, hclass] at h

theorem addLines_append_eq_ok_iff {number : Int} {draft final : Draft} {first second : List Bytes} :
    addLines target number draft (first ++ second) = .ok final ↔
      ∃ between, addLines target number draft first = .ok between ∧
        addLines target (number + first.length) between second = .ok final := by
  induction first generalizing number draft with
  | nil => simp [addLines]
  | cons raw first ih =>
      have hnumber : number + (raw :: first).length = number + 1 + first.length := by
        rw [List.length_cons]
        omega
      simp only [List.cons_append, addLines_cons_eq_ok_iff, ih, hnumber]
      grind

/-- Lines add the same at other numbers, as long as these are consecutive too. -/
theorem addLines_renumbered {number next : Int} {draft final : Draft} {raws : List Bytes}
    (hf : ∀ index : Nat, index < raws.length → f (number + index) = next + index)
    (h : addLines target number draft raws = .ok final) :
    addLines target next (draft.renumbered f) raws = .ok (final.renumbered f) := by
  induction raws generalizing number next draft with
  | nil =>
      cases h
      rfl
  | cons raw raws ih =>
      obtain ⟨line, middle, hread, hadd, hrest⟩ := addLines_cons_eq_ok_iff.mp h
      have hfirst : f number = next := by simpa using hf 0 (Nat.succ_pos _)
      have hlater : ∀ index : Nat, index < raws.length →
          f (number + 1 + index) = next + 1 + index := by
        intro index hindex
        have hmoved := hf (index + 1) (Nat.succ_lt_succ hindex)
        rw [Int.natCast_add, Int.add_comm (index : Int), ← Int.add_assoc,
          ← Int.add_assoc] at hmoved
        exact hmoved
      refine addLines_cons_eq_ok_iff.mpr
        ⟨line.renumbered f, middle.renumbered f, ?_, add_renumbered f hadd, ih hlater hrest⟩
      rw [← hfirst]
      exact readLine_renumbered f hread

theorem checkShape_renumbered {draft : Draft} (h : draft.checkShape target = .ok ()) :
    (draft.renumbered f).checkShape target = .ok () := by
  rw [checkShape_eq_ok_iff] at h ⊢
  obtain ⟨hlabels, ⟨line, hline, hexport⟩, before, trap, hinstructions, htrap, hbefore⟩ := h
  refine ⟨hlabels, ⟨line.renumbered f, List.mem_map_of_mem hline, hexport⟩,
    before.map (·.renumbered f), trap.renumbered f, ?_, htrap, ?_⟩
  · rw [renumbered, hinstructions, List.map_append, List.map_singleton]
  · exact List.forall_mem_map.mpr hbefore

end Draft

end Renumbered

/-! ### Texts -/

section Texts

variable {target : Target} {text : Bytes} {before after : List Bytes}

theorem splitOn_joinWith_lines {raw : Bytes} (hlines : ∀ line ∈ before ++ after, 0x0A ∉ line)
    (hraw : 0x0A ∉ raw) :
    Bytes.splitOn 0x0A (Bytes.joinWith (utf8 "\n") (before ++ raw :: after)) =
      before ++ raw :: after := by
  refine Bytes.splitOn_joinWith (by simp) ?_
  rw [List.forall_mem_append] at hlines
  rw [List.forall_mem_append, List.forall_mem_cons]
  exact ⟨hlines.1, hraw, hlines.2⟩

/-- A line that is read as another at every place can stand for it. -/
theorem Draft.addLines_replace {raw other : Bytes}
    (hsame : ∀ number, readLine target other number = readLine target raw number)
    (number : Int) (draft : Draft) :
    addLines target number draft (before ++ other :: after) =
      addLines target number draft (before ++ raw :: after) := by
  induction before generalizing number draft with
  | nil => rw [List.nil_append, List.nil_append, addLines, addLines, hsame]
  | cons line before ih => simp only [List.cons_append, addLines, ih]

theorem check_replace {raw other : Bytes} (htext : Bytes.splitOn 0x0A text = before ++ raw :: after)
    (hother : 0x0A ∉ other)
    (hsame : ∀ number, readLine target other number = readLine target raw number) :
    check target (Bytes.joinWith (utf8 "\n") (before ++ other :: after)) = check target text := by
  have hlines : ∀ line ∈ before ++ after, 0x0A ∉ line := by
    intro line hmem
    apply Bytes.notMem_of_mem_splitOn
    rw [htext]
    exact List.Sublist.mem hmem (List.Sublist.append_left (List.sublist_cons_self raw after) before)
  rw [check, splitOn_joinWith_lines hlines hother, Draft.addLines_replace hsame, ← htext, check]

/-- The lines behind a line that says nothing move down. -/
theorem Draft.addLines_insert {raw : Bytes} {final : Draft}
    (hraw : ∀ number, readLine target raw number = .ok ⟨number, [], [], []⟩)
    (h : Draft.addLines target 1 .empty (before ++ after) = .ok final) :
    Draft.addLines target 1 .empty (before ++ raw :: after) =
      .ok (final.renumbered (movedDown before.length)) := by
  obtain ⟨between, hbefore, hafter⟩ := addLines_append_eq_ok_iff.mp h
  have hstay : ∀ index : Nat, index < before.length →
      movedDown before.length (1 + index) = 1 + index := by
    intro index hindex
    exact if_pos (by omega)
  have hmove : ∀ index : Nat, index < after.length →
      movedDown before.length (1 + before.length + index) = 1 + before.length + 1 + index := by
    intro index hindex
    rw [movedDown, if_neg (by omega)]
    omega
  refine addLines_append_eq_ok_iff.mpr ⟨_, addLines_renumbered _ hstay hbefore, ?_⟩
  refine addLines_cons_eq_ok_iff.mpr ⟨_, _, hraw _, add_labels _ rfl, ?_⟩
  rw [List.append_nil]
  exact addLines_renumbered _ hmove hafter

theorem check_insert {raw : Bytes} {listing : Listing}
    (htext : Bytes.splitOn 0x0A text = before ++ after) (hfeed : 0x0A ∉ raw)
    (hraw : ∀ number, readLine target raw number = .ok ⟨number, [], [], []⟩)
    (h : check target text = .ok listing) :
    check target (Bytes.joinWith (utf8 "\n") (before ++ raw :: after)) =
      .ok (listing.renumbered (movedDown before.length)) := by
  obtain ⟨draft, hdraft, hshape, rfl⟩ := check_eq_ok_iff_draft.mp h
  have hlines : ∀ line ∈ before ++ after, 0x0A ∉ line := by
    rw [← htext]
    exact fun line hmem => Bytes.notMem_of_mem_splitOn hmem
  rw [htext] at hdraft
  refine check_eq_ok_iff_draft.mpr ⟨_, ?_, Draft.checkShape_renumbered _ hshape, rfl⟩
  rw [splitOn_joinWith_lines hlines hfeed]
  exact Draft.addLines_insert hraw hdraft

/-- **Comments and layout do not matter.** For the supported targets and every text, the check gives
the same listing or the same error with white space in front of any line, and with white space and a
comment behind it. A blank line or a comment that is put in between the lines of a text that passes
leaves it passing, with the same listing but for the numbers of the lines behind, which grow by
one. -/
theorem check_ignores_layout (htarget : target ∈ Target.supported) (text : Bytes) :
    (∀ before raw after blanks, Bytes.splitOn 0x0A text = before ++ raw :: after →
      IsBlankText blanks → 0x0A ∉ blanks →
      check target (Bytes.joinWith (utf8 "\n") (before ++ (blanks ++ raw) :: after)) =
        check target text) ∧
    (∀ before raw after blanks comment, Bytes.splitOn 0x0A text = before ++ raw :: after →
      IsBlankText blanks → blanks ≠ [] → 0x0A ∉ blanks → 0x0A ∉ comment →
      check target (Bytes.joinWith (utf8 "\n")
          (before ++ (raw ++ blanks ++ target.commentLeader ++ comment) :: after)) =
        check target text) ∧
    ∀ before idle after listing, Bytes.splitOn 0x0A text = before ++ after →
      IsIdleLine target idle → 0x0A ∉ idle → check target text = .ok listing →
      check target (Bytes.joinWith (utf8 "\n") (before ++ idle :: after)) =
        .ok (listing.renumbered (movedDown before.length)) := by
  obtain ⟨first, rest, hcomment⟩ := (Target.wellFormed_of_mem_supported htarget).comments
  have hline : ∀ {before after : List Bytes} {raw : Bytes},
      Bytes.splitOn 0x0A text = before ++ raw :: after → 0x0A ∉ raw := by
    intro before after raw htext
    apply Bytes.notMem_of_mem_splitOn
    rw [htext]
    exact List.mem_append_right before List.mem_cons_self
  refine ⟨?_, ?_, ?_⟩
  · intro before raw after blanks htext hblanks hfeed
    refine check_replace htext ?_ (readLine_blanks_append hcomment hblanks raw)
    simp [hfeed, hline htext]
  · intro before raw after blanks comment htext hblanks hne hfeed hcommentFeed
    have hleader : 0x0A ∉ target.commentLeader := by
      rw [hcomment.leader]
      exact fun hmem => absurd (hcomment.visible _ hmem) (by decide)
    refine check_replace htext ?_ (readLine_append_comment hcomment hblanks hne raw comment)
    simp [hfeed, hline htext, hleader, hcommentFeed]
  · intro before idle after listing htext hidle hfeed hcheck
    exact check_insert htext hfeed (hidle.readLine_eq hcomment) hcheck

end Texts

/-- The comment does not complete a half of its leader that the line ends in, and a comment behind a
no-break space moves the last line down. -/
theorem check_ignores_layout_arm64 :
    ∃ text listing, text = utf8 "_start: .global _start\nmov x0, #7\nsvc #0 /" ∧
      Target.linuxArm64 ∈ Target.supported ∧ check .linuxArm64 text = .ok listing ∧
      check .linuxArm64 (utf8 "_start: .global _start\n\u2003\tmov x0, #7\nsvc #0 /") =
        .ok listing ∧
      check .linuxArm64 (utf8 "_start: .global _start\nmov x0, #7\nsvc #0 /\u0085// / done: //") =
        .ok listing ∧
      (check .linuxArm64 (utf8 "_start: .global _start\nmov x0, #7\n\u00A0// 9\nsvc #0 /")).map
        (fun moved => moved.instructions.map Line.number) = .ok [2, 4] := by
  obtain ⟨text, htext⟩ : ∃ text,
      text = utf8 "_start: .global _start\nmov x0, #7\nsvc #0 /" := ⟨_, rfl⟩
  have htarget : Target.linuxArm64 ∈ Target.supported := by decide
  have hlines : Bytes.splitOn 0x0A text =
      [utf8 "_start: .global _start", utf8 "mov x0, #7", utf8 "svc #0 /"] := by
    rw [htext]
    decide
  have hcheck : check .linuxArm64 text = .ok
      ⟨[utf8 "_start"], [⟨1, [utf8 "_start"], utf8 ".GLOBAL", [utf8 "_start"]⟩],
       [⟨2, [], utf8 "MOV", [utf8 "x0", utf8 "#7"]⟩, ⟨3, [], utf8 "SVC", [utf8 "#0", utf8 "/"]⟩],
       utf8 "7"⟩ := by
    rw [htext]
    decide
  obtain ⟨hfront, hbehind, hbetween⟩ := check_ignores_layout htarget text
  refine ⟨text, _, htext, htarget, hcheck, ?_, ?_, ?_⟩
  · rw [← hcheck]
    exact hfront [utf8 "_start: .global _start"] (utf8 "mov x0, #7") [utf8 "svc #0 /"]
      (utf8 "\u2003\t") hlines (by decide) (by decide)
  · rw [← hcheck]
    exact hbehind [utf8 "_start: .global _start", utf8 "mov x0, #7"] (utf8 "svc #0 /") []
      (utf8 "\u0085") (utf8 " / done: //") hlines (by decide) (by decide) (by decide) (by decide)
  · have hidle : IsIdleLine .linuxArm64 (utf8 "\u00A0// 9") :=
      ⟨utf8 "\u00A0", by decide, Or.inr ⟨utf8 " 9", by decide⟩⟩
    have hmoved := hbetween [utf8 "_start: .global _start", utf8 "mov x0, #7"]
      (utf8 "\u00A0// 9") [utf8 "svc #0 /"] _ hlines hidle (by decide) hcheck
    exact congrArg (Except.map fun moved => moved.instructions.map Line.number) hmoved

end Assembly

end ExitLang
