import ExitLang.Proofs.LineLayout

/-!
# Reading back rendered lines

A line of assembly is rendered with its labels in front, each with a colon, and with commas between
the operands of its mnemonic. Labels and words may hold any other characters, and bytes that are no
characters at all. As long as no label and no word can be taken apart, the line is read back as the
parts it was rendered from.
-/

namespace ExitLang

theorem Bytes.infix_append_cons_iff {mark : Bytes} {b : UInt8} (hb : b ∉ mark)
    (left right : Bytes) :
    mark <:+: left ++ b :: right ↔ mark <:+: left ∨ mark <:+: right := by
  have hhere : ∀ text : Bytes, mark <+: text ++ b :: right ↔ mark <+: text :=
    fun text => prefix_append_cons_iff hb right
  induction left with
  | nil =>
      have hstart := hhere []
      rw [List.nil_append] at hstart ⊢
      rw [List.infix_cons_iff, hstart, List.prefix_nil, List.infix_nil]
  | cons c left ih =>
      have hstart := hhere (c :: left)
      rw [List.cons_append] at hstart ⊢
      rw [List.infix_cons_iff, hstart, List.infix_cons_iff, or_assoc]
      exact or_congr_right ih

namespace Assembly

def renderInstruction (mnemonic : Bytes) (operands : List Bytes) : Bytes :=
  if operands = [] then mnemonic else mnemonic ++ utf8 " " ++ Bytes.joinWith (utf8 ", ") operands

/-- The text of a line with its labels. -/
def renderLine (labels : List Bytes) (mnemonic : Bytes) (operands : List Bytes) : Bytes :=
  labels.flatMap (· ++ utf8 ": ") ++ renderInstruction mnemonic operands

/-- A word that has nothing in it that would end it. -/
structure IsBareWord (target : Target) (word : Bytes) : Prop where
  ne_nil : word ≠ []
  notBlank : ∀ symbol ∈ decode word, symbol.isBlank = false
  noComma : 0x2C ∉ word
  noColon : 0x3A ∉ word
  noComment : ¬ target.commentLeader <:+: word

/-- The text has no comment and no colon, and these are its words. -/
structure HasWords (target : Target) (text : Bytes) (words : List Bytes) : Prop where
  noComment : ¬ target.commentLeader <:+: text
  noColon : 0x3A ∉ text
  fields : fields Symbol.isSeparator (decode text) = words.map decode

theorem HasWords.words_eq {target : Target} {text : Bytes} {words : List Bytes}
    (h : HasWords target text words) : ExitLang.words (withoutCommas text) = words := by
  rw [words_withoutCommas_eq_map_fields, h.fields, List.map_map]
  conv_rhs => rw [← List.map_id words]
  exact List.map_congr_left fun word _ => encode_decode word

theorem IsBareWord.hasWords {target : Target} {word : Bytes} (h : IsBareWord target word) :
    HasWords target word [word] := by
  refine ⟨h.noComment, h.noColon, fields_singleton ?_ ?_⟩
  · intro hnil
    apply h.ne_nil
    rw [← encode_decode word, hnil]
    rfl
  · intro symbol hsymbol
    have hcomma : symbol ≠ .scalar ',' := by
      rintro rfl
      exact h.noComma ((scalar_mem_decode_iff (b := 0x2C) (by decide)).mp hsymbol)
    simp [Symbol.isSeparator, h.notBlank symbol hsymbol, hcomma]

/-- The separators of a line and the characters of a label are not part of a comment leader. -/
theorem commentLeader_of_mem_supported : ∀ target ∈ Target.supported,
    target.commentLeader ≠ [] ∧ ∀ b ∈ target.commentLeader,
      b ≠ 0x20 ∧ b ≠ 0x2C ∧ b ≠ 0x3A ∧ b < 0x80 ∧ isLabelStart (asciiChar b) = false ∧
        isLabelPart (asciiChar b) = false := by
  decide

section Supported

variable {target : Target} (htarget : target ∈ Target.supported)
include htarget

theorem hasWords_nil : HasWords target [] [] := by
  refine ⟨?_, List.not_mem_nil, rfl⟩
  rw [List.infix_nil]
  exact (commentLeader_of_mem_supported target htarget).1

/-- A space or a comma between two texts parts their words. -/
theorem HasWords.append_cons {left right : Bytes} {first second : List Bytes} {b : UInt8}
    (hb : b = 0x20 ∨ b = 0x2C) (hleft : HasWords target left first)
    (hright : HasWords target right second) :
    HasWords target (left ++ b :: right) (first ++ second) := by
  have hleader := (commentLeader_of_mem_supported target htarget).2
  have hnotMem : b ∉ target.commentLeader := by
    intro hmem
    obtain ⟨hspace, hcomma, -⟩ := hleader b hmem
    exact hb.elim hspace hcomma
  have hseparator : b < 0x80 ∧ b ≠ 0x3A ∧ Symbol.isSeparator (.scalar (asciiChar b)) = true := by
    rcases hb with rfl | rfl <;> decide
  constructor
  · rw [Bytes.infix_append_cons_iff hnotMem]
    exact not_or_intro hleft.noComment hright.noComment
  · simp [hleft.noColon, hright.noColon, hseparator.2.1.symm]
  · rw [decode_append_cons hseparator.1, fields_append_cons _ _ hseparator.2.2, hleft.fields,
      hright.fields, List.map_append]

theorem hasWords_joinWith {words : List Bytes} (hwords : ∀ word ∈ words, IsBareWord target word) :
    HasWords target (Bytes.joinWith (utf8 ", ") words) words := by
  induction words with
  | nil => exact hasWords_nil htarget
  | cons word words ih =>
      obtain ⟨hword, hwords⟩ := List.forall_mem_cons.mp hwords
      cases words with
      | nil =>
          rw [Bytes.joinWith, List.intercalate_singleton]
          exact hword.hasWords
      | cons next words =>
          have hspaced := (hasWords_nil htarget).append_cons htarget (.inl rfl) (ih hwords)
          rw [Bytes.joinWith, List.intercalate_cons_of_ne_nil (List.cons_ne_nil next words),
            List.append_assoc]
          exact hword.hasWords.append_cons htarget (.inr rfl) hspaced

theorem hasWords_renderInstruction {mnemonic : Bytes} {operands : List Bytes}
    (hmnemonic : IsBareWord target mnemonic)
    (hoperands : ∀ operand ∈ operands, IsBareWord target operand) :
    HasWords target (renderInstruction mnemonic operands) (mnemonic :: operands) := by
  rw [renderInstruction]
  split
  · rename_i hnil
    rw [hnil]
    exact hmnemonic.hasWords
  · rw [List.append_assoc]
    exact hmnemonic.hasWords.append_cons htarget (.inl rfl) (hasWords_joinWith htarget hoperands)

theorem not_infix_renderLine {labels : List Bytes} {text : Bytes}
    (hlabels : ∀ label ∈ labels, isLabel label = true)
    (htext : ¬ target.commentLeader <:+: text) :
    ¬ target.commentLeader <:+: labels.flatMap (· ++ utf8 ": ") ++ text := by
  obtain ⟨hne, hleader⟩ := commentLeader_of_mem_supported target htarget
  have hspace : (0x20 : UInt8) ∉ target.commentLeader := fun hmem => (hleader _ hmem).1 rfl
  have hcolon : (0x3A : UInt8) ∉ target.commentLeader := fun hmem => (hleader _ hmem).2.2.1 rfl
  induction labels with
  | nil => exact htext
  | cons label labels ih =>
      obtain ⟨hlabel, hlabels⟩ := List.forall_mem_cons.mp hlabels
      have hname : ¬ target.commentLeader <:+: label := by
        intro hinside
        obtain ⟨b, hb⟩ := List.exists_mem_of_ne_nil _ hne
        obtain ⟨-, -, -, hascii, hstart, hpart⟩ := hleader b hb
        exact notMem_of_isLabel hlabel hascii hstart hpart (hinside.subset hb)
      have hspaced : ¬ target.commentLeader <:+:
          [] ++ 0x20 :: (labels.flatMap (· ++ utf8 ": ") ++ text) := by
        rw [Bytes.infix_append_cons_iff hspace, List.infix_nil]
        exact not_or_intro hne (ih hlabels)
      rw [List.flatMap_cons, List.append_assoc, List.append_assoc]
      exact fun hinside => ((Bytes.infix_append_cons_iff hcolon _ _).mp hinside).elim hname hspaced

end Supported

theorem readPieces_renderLine {target : Target} {text mnemonic : Bytes} {operands : List Bytes}
    {labels : List Bytes} (hlabels : ∀ label ∈ labels, isLabel label = true)
    (htext : HasWords target text (mnemonic :: operands)) (line : Line) :
    readPieces line (Bytes.splitOn 0x3A (labels.flatMap (· ++ utf8 ": ") ++ text)) =
      .ok { line with
        labels := line.labels ++ labels
        mnemonic := upperCase mnemonic
        operands := operands } := by
  induction labels generalizing line with
  | nil =>
      rw [List.flatMap_nil, List.nil_append, Bytes.splitOn_of_notMem htext.noColon,
        readPieces_of_words line htext.words_eq, List.append_nil]
  | cons label labels ih =>
      obtain ⟨hlabel, hlabels⟩ := List.forall_mem_cons.mp hlabels
      have hcolon : (0x3A : UInt8) ∉ label :=
        notMem_of_isLabel hlabel (by decide) (by decide) (by decide)
      have hsplit := Bytes.splitOn_append_cons 0x3A label
        (utf8 " " ++ (labels.flatMap (· ++ utf8 ": ") ++ text))
      have hblank : IsBlankText (utf8 " ") := by decide
      rw [Bytes.splitOn_of_notMem hcolon, List.singleton_append] at hsplit
      -- The first piece is the label, and the blank behind its colon goes to the next piece.
      rw [List.flatMap_cons, List.append_assoc, List.append_assoc]
      refine (congrArg (readPieces line) hsplit).trans ?_
      rw [readPieces_label (Bytes.splitOn_ne_nil _ _) line hlabel,
        readPieces_splitOn_blanks_append hblank, ih hlabels]
      simp

/-- **Reading undoes rendering.** For the supported targets, a line that is rendered from labels, a
mnemonic and operands is read as these labels, the mnemonic in upper case and these operands, all in
their order and at the number of the line. -/
theorem readLine_renderLine {target : Target} (htarget : target ∈ Target.supported)
    {labels : List Bytes} {mnemonic : Bytes} {operands : List Bytes}
    (hlabels : ∀ label ∈ labels, isLabel label = true) (hmnemonic : IsBareWord target mnemonic)
    (hoperands : ∀ operand ∈ operands, IsBareWord target operand) (number : Int) :
    readLine target (renderLine labels mnemonic operands) number =
      .ok ⟨number, labels, upperCase mnemonic, operands⟩ := by
  have hwords := hasWords_renderInstruction htarget hmnemonic hoperands
  have hcomment := not_infix_renderLine htarget hlabels hwords.noComment
  rw [readLine, withoutComment, renderLine, Bytes.before_of_not_infix hcomment,
    readPieces_renderLine hlabels hwords, List.nil_append]

/-- Labels with letters and digits of other scripts, a mnemonic with a long s, and operands with
half a comment leader and with a byte that is no character. -/
theorem readLine_renderLine_foreign :
    (∀ label ∈ [utf8 "_start", utf8 ".été٣"], isLabel label = true) ∧
      IsBareWord .linuxArm64 (utf8 "ſvc") ∧
      (∀ operand ∈ [utf8 "#0", utf8 "/", [0xA0]], IsBareWord .linuxArm64 operand) ∧
      readLine .linuxArm64 (utf8 "_start: .été٣: ſvc #0, /, " ++ [0xA0]) 7 =
        .ok ⟨7, [utf8 "_start", utf8 ".été٣"], utf8 "SVC", [utf8 "#0", utf8 "/", [0xA0]]⟩ := by
  have hlabels : ∀ label ∈ [utf8 "_start", utf8 ".été٣"], isLabel label = true := by
    decide +kernel
  have hmnemonic : IsBareWord .linuxArm64 (utf8 "ſvc") := by constructor <;> decide
  have hoperands : ∀ operand ∈ [utf8 "#0", utf8 "/", [0xA0]],
      IsBareWord .linuxArm64 operand := by
    intro operand hmem
    simp only [List.mem_cons, List.not_mem_nil, or_false] at hmem
    rcases hmem with rfl | rfl | rfl <;> constructor <;> decide
  refine ⟨hlabels, hmnemonic, hoperands, ?_⟩
  have hupper : upperCase (utf8 "ſvc") = utf8 "SVC" := by decide +kernel
  rw [← hupper]
  exact readLine_renderLine (by decide) hlabels hmnemonic hoperands 7

end Assembly

end ExitLang
