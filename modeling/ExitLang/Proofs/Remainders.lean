import ExitLang.Proofs.Words

/-!
# What labels leave of a line

A line is cut at its colons and read from the left: as long as the text before the next colon is a
label, which has no white space in it, it is taken off together with its colon. `remainder` says
what is left then, without a comment and without blanks at its ends, and it is from there that the
mnemonic and the operands are taken as they are written. The reader finds no words exactly where
something is left and it is all commas and blanks.
-/

namespace ExitLang

theorem Unicode.exists_range_of_mem {ranges : List Range} {n : Nat} (h : mem ranges n = true) :
    ∃ range ∈ ranges, range.1 ≤ n ∧ n ≤ range.2 := by
  induction ranges with
  | nil => cases h
  | cons range ranges ih =>
      rw [mem] at h
      split at h
      · cases h
      · rename_i hfirst
        rcases Bool.or_eq_true_iff.mp h with hlast | hlater
        · exact ⟨range, List.mem_cons_self, Nat.le_of_not_lt hfirst, of_decide_eq_true hlast⟩
        · obtain ⟨other, hother, hbounds⟩ := ih hlater
          exact ⟨other, List.mem_cons_of_mem range hother, hbounds⟩

namespace Assembly

/-! ### Labels -/

section Label

variable {label : Bytes} (h : isLabel label = true)
include h

theorem isLabelStart_or_isLabelPart {c : Char} (hmem : c ∈ codePoints label) :
    isLabelStart c = true ∨ isLabelPart c = true := by
  rw [isLabel] at h
  split at h
  · cases h
  · rename_i first rest hpoints
    obtain ⟨hfirst, hrest⟩ := Bool.and_eq_true_iff.mp h
    rw [hpoints] at hmem
    rcases List.mem_cons.mp hmem with rfl | hmem
    · exact Or.inl hfirst
    · exact Or.inr (List.all_eq_true.mp hrest c hmem)

theorem ne_nil_of_isLabel : label ≠ [] := by
  rintro rfl
  cases h

theorem notMem_of_isLabel {b : UInt8} (hb : b < 0x80) (hstart : isLabelStart (asciiChar b) = false)
    (hpart : isLabelPart (asciiChar b) = false) : b ∉ label := by
  intro hmem
  have hchar : asciiChar b ∈ codePoints label :=
    List.mem_map_of_mem (f := Symbol.char) ((scalar_mem_decode_iff hb).mpr hmem)
  rcases isLabelStart_or_isLabelPart h hchar with hchar | hchar
  · exact absurd hchar (Bool.eq_false_iff.mp hstart)
  · exact absurd hchar (Bool.eq_false_iff.mp hpart)

theorem isBlank_eq_false_of_isLabel : ∀ symbol ∈ decode label, symbol.isBlank = false := by
  -- The white-space characters are few enough to look each of them up.
  have htable : ∀ range ∈ Unicode.blankRanges, ∀ offset < range.2 + 1 - range.1,
      isLabelStart (Char.ofNat (range.1 + offset)) = false ∧
        isLabelPart (Char.ofNat (range.1 + offset)) = false := by
    decide +kernel
  intro symbol hsymbol
  rw [Bool.eq_false_iff]
  intro hblank
  cases symbol with
  | stray b => cases hblank
  | scalar c =>
      obtain ⟨range, hrange, hfirst, hlast⟩ := Unicode.exists_range_of_mem hblank
      have hclass := htable range hrange (c.toNat - range.1) (by omega)
      rw [Nat.add_sub_cancel' hfirst, Char.ofNat_toNat] at hclass
      have hchar : c ∈ codePoints label := List.mem_map_of_mem (f := Symbol.char) hsymbol
      rcases isLabelStart_or_isLabelPart h hchar with hstart | hpart
      · exact absurd hstart (Bool.eq_false_iff.mp hclass.1)
      · exact absurd hpart (Bool.eq_false_iff.mp hclass.2)

end Label

/-- Labels hold neither spaces nor tabs. -/
theorem isLabel_eq_false_of_blank {label : Bytes}
    (h : label = [] ∨ label.any (fun b => b == 0x20 || b == 0x09) = true) :
    isLabel label = false := by
  rw [Bool.eq_false_iff]
  intro hlabel
  rcases h with hnil | h
  · exact ne_nil_of_isLabel hlabel hnil
  obtain ⟨b, hmem, hb⟩ := List.any_eq_true.mp h
  rw [Bool.or_eq_true, beq_iff_eq, beq_iff_eq] at hb
  rcases hb with rfl | rfl
  · exact notMem_of_isLabel hlabel (by decide) (by decide) (by decide) hmem
  · exact notMem_of_isLabel hlabel (by decide) (by decide) (by decide) hmem

/-- A colon that more follows ends a label, unless it ends nothing or something with a blank in
it. -/
theorem readPieces_cons {pieces : List Bytes} (hne : pieces ≠ []) (line : Line) (piece : Bytes) :
    readPieces line (piece :: pieces) =
      if trim piece = [] ∨ (trim piece).any (fun b => b == 0x20 || b == 0x09) then
        readInstruction line (trim (Bytes.joinWith (utf8 ":") (piece :: pieces)))
      else if isLabel (trim piece) then
        readPieces { line with labels := line.labels ++ [trim piece] } pieces
      else .error (.invalidLabel line (trim piece)) := by
  obtain ⟨next, more, rfl⟩ := List.exists_cons_of_ne_nil hne
  rw [readPieces]

theorem readPieces_label {label : Bytes} {pieces : List Bytes} (hne : pieces ≠ []) (line : Line)
    (h : isLabel label = true) :
    readPieces line (label :: pieces) =
      readPieces { line with labels := line.labels ++ [label] } pieces := by
  have hblank : ¬ (label = [] ∨ label.any (fun b => b == 0x20 || b == 0x09) = true) := by
    intro hblank
    rw [isLabel_eq_false_of_blank hblank] at h
    cases h
  rw [readPieces_cons hne, trim_eq_self (isBlank_eq_false_of_isLabel h), if_neg hblank, if_pos h]

/-! ### Remainders -/

/-- The pieces of a line, cut at its colons, that are left when the labels are taken off. -/
def afterLabels : List Bytes → List Bytes
  | [] => []
  | [last] => [last]
  | piece :: next :: more =>
    if isLabel (trim piece) then afterLabels (next :: more) else piece :: next :: more

/-- What is left of a line without its comment, its labels and the blanks at the ends. -/
def remainder (target : Target) (raw : Bytes) : Bytes :=
  trim (Bytes.joinWith (utf8 ":")
    (afterLabels (Bytes.splitOn 0x3A (withoutComment target.commentLeader raw))))

/-- There is nothing in the text but commas and white space. -/
def OnlySeparators (text : Bytes) : Prop := ∀ symbol ∈ decode text, symbol.isSeparator = true

instance (text : Bytes) : Decidable (OnlySeparators text) :=
  inferInstanceAs (Decidable (∀ symbol ∈ decode text, symbol.isSeparator = true))

theorem words_withoutCommas_eq_nil_iff {text : Bytes} :
    words (withoutCommas text) = [] ↔ OnlySeparators text := by
  rw [words_withoutCommas_eq_map_fields, List.map_eq_nil_iff, fields_eq_nil_iff, OnlySeparators]

/-- Trimming takes away no byte of a text that is ASCII and no blank. -/
theorem mem_trim {text : Bytes} {b : UInt8} (hb : b < 0x80) (hblank : Bytes.isBlank b = false)
    (hmem : b ∈ text) : b ∈ trim text := by
  obtain ⟨before, after, hbefore, hafter, hsymbols⟩ := exists_trimSymbols (decode text)
  have hsymbol := (scalar_mem_decode_iff hb).mpr hmem
  have hnot : ¬ Symbol.isBlank (.scalar (asciiChar b)) = true := by
    rw [isBlank_scalar_asciiChar hb, hblank]
    exact Bool.false_ne_true
  rw [hsymbols, List.mem_append, List.mem_append] at hsymbol
  rw [← scalar_mem_decode_iff hb, decode_trim]
  rcases hsymbol with (hleft | hmiddle) | hright
  · exact absurd (hbefore _ hleft) hnot
  · exact hmiddle
  · exact absurd (hafter _ hright) hnot

/-- A text with a colon in it is left with more than commas and blanks. -/
theorem not_onlySeparators_trim_joinWith (piece next : Bytes) (more : List Bytes) :
    ¬ OnlySeparators (trim (Bytes.joinWith (utf8 ":") (piece :: next :: more))) := by
  intro honly
  have hcolon : (0x3A : UInt8) ∈ Bytes.joinWith (utf8 ":") (piece :: next :: more) := by
    have hutf8 : utf8 ":" = [0x3A] := rfl
    rw [Bytes.joinWith, List.intercalate_cons_of_ne_nil (List.cons_ne_nil next more), hutf8]
    simp
  have hsymbol := (scalar_mem_decode_iff (by decide)).mpr (mem_trim (by decide) (by decide) hcolon)
  exact absurd (honly _ hsymbol) (by decide)

variable {line result : Line} {pieces : List Bytes}

theorem readInstruction_eq_noWords_iff {text : Bytes} {number : Int} :
    readInstruction line text = .error (.noWords number) ↔
      number = line.number ∧ OnlySeparators text := by
  rw [readInstruction, ← words_withoutCommas_eq_nil_iff]
  split
  · rename_i hwords
    simp [hwords, eq_comm]
  · rename_i hwords
    simp [hwords]

theorem readPieces_eq_noWords_iff {number : Int} :
    readPieces line pieces = .error (.noWords number) ↔
      number = line.number ∧ trim (Bytes.joinWith (utf8 ":") (afterLabels pieces)) ≠ [] ∧
        OnlySeparators (trim (Bytes.joinWith (utf8 ":") (afterLabels pieces))) := by
  fun_induction readPieces line pieces with
  | case1 line => simp [afterLabels, Bytes.joinWith, trim, trimSymbols, decode, decodeFrom, encode]
  | case2 line last hblank => simp [afterLabels, Bytes.joinWith, hblank]
  | case3 line last hblank =>
      rw [readInstruction_eq_noWords_iff]
      simp [afterLabels, Bytes.joinWith, hblank]
  | case4 line piece next more label hlabel =>
      have hnot : isLabel (trim piece) = false := isLabel_eq_false_of_blank hlabel
      have hcolon := not_onlySeparators_trim_joinWith piece next more
      rw [readInstruction_eq_noWords_iff, afterLabels, hnot, if_neg Bool.false_ne_true]
      simp [hcolon]
  | case5 line piece next more label hlabel hvalid ih =>
      rw [ih, afterLabels, if_pos hvalid]
  | case6 line piece next more label hlabel hvalid =>
      have hcolon := not_onlySeparators_trim_joinWith piece next more
      rw [afterLabels, if_neg hvalid]
      simp [hcolon]

/-- A line cannot be read for want of words exactly where its remainder is made of separators. -/
theorem readLine_eq_noWords_iff {target : Target} {raw : Bytes} {number other : Int} :
    readLine target raw number = .error (.noWords other) ↔
      other = number ∧ remainder target raw ≠ [] ∧ OnlySeparators (remainder target raw) :=
  readPieces_eq_noWords_iff

theorem words_of_readInstruction {text : Bytes} (h : readInstruction line text = .ok result) :
    ∃ word, words (withoutCommas text) = word :: result.operands ∧
      result.mnemonic = upperCase word := by
  rw [readInstruction] at h
  split at h
  · cases h
  · rename_i word operands hwords
    cases h
    exact ⟨word, hwords, rfl⟩

theorem words_of_readPieces (h : readPieces line pieces = .ok result) :
    result.mnemonic = line.mnemonic ∨
      ∃ word, words (withoutCommas (trim (Bytes.joinWith (utf8 ":") (afterLabels pieces)))) =
        word :: result.operands ∧ result.mnemonic = upperCase word := by
  fun_induction readPieces line pieces with
  | case1 line =>
      cases h
      exact .inl rfl
  | case2 line last hblank =>
      cases h
      exact .inl rfl
  | case3 line last hblank =>
      right
      simpa [afterLabels, Bytes.joinWith] using words_of_readInstruction h
  | case4 line piece next more label hlabel =>
      have hnot : isLabel (trim piece) = false := isLabel_eq_false_of_blank hlabel
      rw [afterLabels, hnot, if_neg Bool.false_ne_true]
      exact .inr (words_of_readInstruction h)
  | case5 line piece next more label hlabel hvalid ih =>
      rw [afterLabels, if_pos hvalid]
      exact ih h
  | case6 line piece next more label hlabel hvalid => cases h

/-- The mnemonic and the operands of a line are the words of its remainder. -/
theorem words_of_readLine {target : Target} {raw : Bytes} {number : Int}
    (h : readLine target raw number = .ok result) (hmnemonic : result.mnemonic ≠ []) :
    ∃ word, words (withoutCommas (remainder target raw)) = word :: result.operands ∧
      result.mnemonic = upperCase word :=
  (words_of_readPieces h).resolve_left hmnemonic

end Assembly

end ExitLang
