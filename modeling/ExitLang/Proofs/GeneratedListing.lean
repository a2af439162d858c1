import ExitLang.Assembly.Generate
import ExitLang.Proofs.Numerals
import ExitLang.Proofs.Remainders

/-!
# The listing of generated assembly

The generator writes lines with indentation, padding and a comment, and the checker takes them apart
again by searching bytes. The two agree for every target whose words cannot be mistaken for
something else: the comment leader must start with a byte that the target uses nowhere, no word may
hold a separator or a colon, and the four mnemonics must be told apart. Each line of the generated
text is then read back as the words it was put together from.
-/

namespace ExitLang

/-- A printable ASCII byte other than the space. -/
def Bytes.isVisible (b : UInt8) : Bool := 0x21 ≤ b && b ≤ 0x7E

/-- A word of assembly: visible bytes, none of them a comma or a colon. -/
def IsWord (text : Bytes) : Prop :=
  text ≠ [] ∧ ∀ b ∈ text, Bytes.isVisible b = true ∧ b ≠ 0x2C ∧ b ≠ 0x3A

instance (text : Bytes) : Decidable (IsWord text) :=
  inferInstanceAs (Decidable (_ ∧ _))

/-- One or more words with single spaces between them. -/
def IsPhrase (text : Bytes) : Prop := ∀ word ∈ Bytes.splitOn 0x20 text, IsWord word

instance (text : Bytes) : Decidable (IsPhrase text) :=
  inferInstanceAs (Decidable (∀ word ∈ Bytes.splitOn 0x20 text, IsWord word))

/-- A comment leader whose first byte the target writes nowhere else. -/
structure Target.CommentStart (target : Target) (first : UInt8) (rest : Bytes) : Prop where
  leader : target.commentLeader = first :: rest
  visible : ∀ b ∈ first :: rest, Bytes.isVisible b = true
  notDigit : Bytes.isDigit first = false
  ne_comma : first ≠ 0x2C
  ne_colon : first ≠ 0x3A
  notMem : ∀ text ∈ [target.exportDirective, target.sectionDirective, target.entry, target.move,
    target.numberRegister, target.argumentRegister, target.immediateMark, target.trap],
    first ∉ text

/-- A target whose generated lines can be read without ambiguity. -/
structure Target.WellFormed (target : Target) : Prop where
  exportDirective : IsWord target.exportDirective
  sectionDirective : IsPhrase target.sectionDirective
  entry : IsAscii target.entry ∧ Assembly.isLabel target.entry = true
  move : IsWord target.move
  trap : IsPhrase target.trap
  numberRegister : IsWord target.numberRegister
  argumentRegister : IsWord target.argumentRegister
  immediateMark : target.immediateMark = [] ∨ IsWord target.immediateMark
  exitNumber : 0 ≤ target.exitNumber
  comments : ∃ first rest, target.CommentStart first rest
  move_ne_trap : Assembly.mnemonicOf target.move ≠ Assembly.mnemonicOf target.trap
  move_ne_export : Assembly.mnemonicOf target.move ≠ Assembly.mnemonicOf target.exportDirective
  move_ne_section : Assembly.mnemonicOf target.move ≠ Assembly.mnemonicOf target.sectionDirective
  trap_ne_export : Assembly.mnemonicOf target.trap ≠ Assembly.mnemonicOf target.exportDirective
  trap_ne_section : Assembly.mnemonicOf target.trap ≠ Assembly.mnemonicOf target.sectionDirective

/-- The digits that a target's assembler is given for a literal. -/
def Target.spelledDigits (target : Target) (digits : Bytes) : Bytes :=
  if target.dialect = .gas then stripZeros digits else digits

/-- The listing that the program with the given status digits has. -/
def Target.exitListing (target : Target) (digits : Bytes) : Assembly.Listing where
  labels := [target.entry]
  directives :=
    [⟨1, [], Assembly.mnemonicOf target.exportDirective, [target.entry]⟩,
     ⟨2, [], Assembly.mnemonicOf target.sectionDirective, (words target.sectionDirective).tail⟩]
  instructions :=
    [⟨4, [], Assembly.mnemonicOf target.move,
       [target.numberRegister, target.immediate (decimal target.exitNumber)]⟩,
     ⟨5, [], Assembly.mnemonicOf target.move,
       [target.argumentRegister, target.immediate digits]⟩,
     ⟨6, [], Assembly.mnemonicOf target.trap, (words target.trap).tail⟩]
  exitStatus := target.spelledDigits digits

theorem linuxAmd64_wellFormed : Target.linuxAmd64.WellFormed := by
  have hcomments : Target.linuxAmd64.CommentStart 0x3B [] := by constructor <;> decide
  constructor
  case comments => exact ⟨_, _, hcomments⟩
  all_goals decide

theorem linuxArm64_wellFormed : Target.linuxArm64.WellFormed := by
  have hcomments : Target.linuxArm64.CommentStart 0x2F [0x2F] := by constructor <;> decide
  constructor
  case comments => exact ⟨_, _, hcomments⟩
  all_goals decide

theorem Target.wellFormed_of_mem_supported {target : Target} (h : target ∈ Target.supported) :
    target.WellFormed := by
  rcases List.mem_cons.mp h with rfl | h
  · exact linuxAmd64_wellFormed
  · rw [List.mem_singleton.mp h]
    exact linuxArm64_wellFormed

/-! ### Words and phrases -/

theorem isVisible_iff {b : UInt8} :
    Bytes.isVisible b = true ↔ 0x21 ≤ b.toNat ∧ b.toNat ≤ 0x7E := by
  simp only [Bytes.isVisible, Bool.and_eq_true, decide_eq_true_eq, UInt8.le_iff_toNat_le]
  rfl

theorem isVisible_lt {b : UInt8} (hb : Bytes.isVisible b = true) : b < 0x80 := by
  rw [isVisible_iff] at hb
  exact UInt8.lt_iff_toNat_lt.mpr (Nat.lt_of_le_of_lt hb.2 (by decide))

theorem isBlank_of_isVisible {b : UInt8} (hb : Bytes.isVisible b = true) :
    Bytes.isBlank b = false := by
  rw [isVisible_iff] at hb
  rw [Bool.eq_false_iff, ne_eq, isBlank_iff]
  omega

theorem IsDigitRun.isWord {digits : Bytes} (h : IsDigitRun digits) : IsWord digits := by
  refine ⟨h.1, fun b hb => ?_⟩
  have hdigit := isDigit_iff.mp (h.2 b hb)
  refine ⟨isVisible_iff.mpr (by omega), ?_, ?_⟩ <;> rintro rfl <;> simp at hdigit

theorem IsWord.isSeparator {word : Bytes} (h : IsWord word) :
    ∀ b ∈ word, Bytes.isSeparator b = false := by
  intro b hb
  obtain ⟨hvisible, hcomma, -⟩ := h.2 b hb
  simp [Bytes.isSeparator, isBlank_of_isVisible hvisible, hcomma]

theorem IsWord.isAscii {word : Bytes} (h : IsWord word) : IsAscii word :=
  fun b hb => isVisible_lt (h.2 b hb).1

theorem IsWord.words_eq {word : Bytes} (h : IsWord word) : words word = [word] := by
  rw [words_of_isAscii h.isAscii]
  exact fields_singleton h.1 fun b hb => isBlank_of_isVisible (h.2 b hb).1

theorem IsPhrase.of_mem {text : Bytes} (h : IsPhrase text) {b : UInt8} (hb : b ∈ text) :
    b = 0x20 ∨ Bytes.isVisible b = true ∧ b ≠ 0x2C ∧ b ≠ 0x3A := by
  rcases mark_or_mem_splitOnP (p := (· == 0x20)) hb with hspace | ⟨word, hword, hmem⟩
  · exact Or.inl (eq_of_beq hspace)
  · right
    rw [← splitWhere_eq_splitOnP] at hword
    exact (h word hword).2 b hmem

theorem IsPhrase.isAscii {text : Bytes} (h : IsPhrase text) : IsAscii text := by
  intro b hb
  rcases h.of_mem hb with rfl | hvisible
  · decide
  · exact isVisible_lt hvisible.1

/-- A phrase is cut into the same words whether or not commas count as separators. -/
theorem IsPhrase.fields_isSeparator {text : Bytes} (h : IsPhrase text) :
    fields Bytes.isSeparator text = words text := by
  rw [words_of_isAscii h.isAscii]
  apply fields_congr
  intro b hb
  rcases h.of_mem hb with rfl | ⟨-, hcomma, -⟩
  · rfl
  · simp [Bytes.isSeparator, hcomma]

theorem IsPhrase.words_eq {text : Bytes} (h : IsPhrase text) :
    words text = Bytes.splitOn 0x20 text := by
  have hspace : fields Bytes.isBlank text = fields (· == 0x20) text := by
    apply fields_congr
    intro b hb
    rcases h.of_mem hb with rfl | ⟨hvisible, -⟩
    · rfl
    · rw [isVisible_iff] at hvisible
      rw [Bool.eq_iff_iff, isBlank_iff, beq_iff_eq, ← UInt8.toNat_inj]
      simp only [UInt8.reduceToNat]
      omega
  rw [words_of_isAscii h.isAscii, hspace, fields, ← splitWhere_eq_splitOnP]
  apply List.filter_eq_self.mpr
  intro word hword
  simpa using (h word hword).1

theorem IsPhrase.words_ne_nil {text : Bytes} (h : IsPhrase text) : words text ≠ [] := by
  rw [h.words_eq]
  exact splitWhere_ne_nil _ _

theorem upperCase_ne_nil {text : Bytes} (h : text ≠ []) : upperCase text ≠ [] := by
  apply encodeChars_ne_nil
  intro hnil
  apply h
  rw [List.map_eq_nil_iff, codePoints, List.map_eq_nil_iff] at hnil
  rw [← encode_decode text, hnil]
  rfl

/-! ### Reading one line -/

/-- Bytes that stand for themselves in a line: ASCII without line feeds, colons and the byte that a
comment starts with. -/
def IsPlain (first : UInt8) (text : Bytes) : Prop :=
  ∀ b ∈ text, b < 0x80 ∧ b ≠ 0x0A ∧ b ≠ 0x3A ∧ b ≠ first

theorem isPlain_append {first : UInt8} {left right : Bytes} :
    IsPlain first (left ++ right) ↔ IsPlain first left ∧ IsPlain first right :=
  List.forall_mem_append

theorem IsWord.isPlain {first : UInt8} {word : Bytes} (h : IsWord word) (hfirst : first ∉ word) :
    IsPlain first word := by
  intro b hb
  obtain ⟨hvisible, -, hcolon⟩ := h.2 b hb
  refine ⟨isVisible_lt hvisible, ?_, hcolon, fun heq => hfirst (heq ▸ hb)⟩
  rintro rfl
  exact absurd hvisible (by decide)

theorem IsPhrase.isPlain {first : UInt8} {text : Bytes} (h : IsPhrase text)
    (hfirst : first ∉ text) : IsPlain first text := by
  intro b hb
  refine ⟨h.isAscii b hb, ?_, ?_, fun heq => hfirst (heq ▸ hb)⟩
  all_goals
    rintro rfl
    exact absurd (h.of_mem hb) (by decide)

theorem IsPlain.isAscii {first : UInt8} {text : Bytes} (h : IsPlain first text) : IsAscii text :=
  fun b hb => (h b hb).1

theorem IsPlain.first_notMem {first : UInt8} {text : Bytes} (h : IsPlain first text) :
    first ∉ text :=
  fun hmem => (h first hmem).2.2.2 rfl

theorem before_cons_of_ne {first b : UInt8} (h : first ≠ b) (rest text : Bytes) :
    Bytes.before (first :: rest) (b :: text) = b :: Bytes.before (first :: rest) text := by
  rw [Bytes.before, if_neg]
  intro hprefix
  exact h (List.cons_prefix_cons.mp (List.isPrefixOf_iff_prefix.mp hprefix)).1

/-- No mark starts in a text without its first byte. -/
theorem before_append {first : UInt8} {text : Bytes} (h : first ∉ text) (rest suffix : Bytes) :
    Bytes.before (first :: rest) (text ++ suffix) =
      text ++ Bytes.before (first :: rest) suffix := by
  induction text with
  | nil => rfl
  | cons b text ih =>
      rw [List.mem_cons, not_or] at h
      rw [List.cons_append, before_cons_of_ne h.1, ih h.2, List.cons_append]

theorem before_eq_self {first : UInt8} {text : Bytes} (h : first ∉ text) (rest : Bytes) :
    Bytes.before (first :: rest) text = text := by
  simpa [Bytes.before] using before_append h rest []

theorem before_mark_append (first : UInt8) (rest suffix : Bytes) :
    Bytes.before (first :: rest) (first :: rest ++ suffix) = [] := by
  rw [List.cons_append, Bytes.before, if_pos]
  exact List.isPrefixOf_iff_prefix.mpr (List.prefix_append (first :: rest) suffix)

namespace Assembly

theorem readPieces_of_words {text mnemonic : Bytes} {operands : List Bytes} (line : Line)
    (h : words (withoutCommas text) = mnemonic :: operands) :
    readPieces line [text] =
      .ok { line with mnemonic := upperCase mnemonic, operands := operands } := by
  rw [← words_withoutCommas_trim] at h
  have hne : trim text ≠ [] := by
    intro hnil
    rw [hnil] at h
    cases h
  rw [readPieces, if_neg hne, readInstruction, h]

/-- A line that is plain up to its comment is read as its fields. -/
theorem readLine_of_fields {target : Target} {first : UInt8} {raw text mnemonic : Bytes}
    {operands : List Bytes} (number : Int)
    (hcut : withoutComment target.commentLeader raw = text) (hplain : IsPlain first text)
    (hfields : fields Bytes.isSeparator text = mnemonic :: operands) :
    readLine target raw number = .ok ⟨number, [], upperCase mnemonic, operands⟩ := by
  have hcolon : Bytes.splitOn 0x3A text = [text] :=
    Bytes.splitOn_of_notMem fun hmem => (hplain _ hmem).2.2.1 rfl
  rw [readLine, hcut, hcolon]
  exact readPieces_of_words _ ((words_withoutCommas hplain.isAscii).trans hfields)

/-- A line with nothing but a label. -/
theorem readLine_label {target : Target} {label : Bytes} (number : Int)
    (hlabel : isLabel label = true)
    (hcut : withoutComment target.commentLeader (label ++ utf8 ":") = label ++ utf8 ":") :
    readLine target (label ++ utf8 ":") number = .ok ⟨number, [label], [], []⟩ := by
  have hcolon : (0x3A : UInt8) ∉ label :=
    notMem_of_isLabel hlabel (by decide) (by decide) (by decide)
  have hpieces : Bytes.splitOn 0x3A (label ++ utf8 ":") = [label, []] := by
    refine (Bytes.splitOn_append_cons 0x3A label []).trans ?_
    rw [Bytes.splitOn_of_notMem hcolon]
    rfl
  rw [readLine, hcut, hpieces, readPieces_label (List.cons_ne_nil _ _) _ hlabel]
  rfl

end Assembly

/-! ### The generated lines -/

theorem isWord_of_isLabel {text : Bytes} (hascii : IsAscii text)
    (hlabel : Assembly.isLabel text = true) : IsWord text := by
  -- Over ASCII the character classes of labels are finite tables.
  have hstart : ∀ n < 0x80, Assembly.isLabelStart (Char.ofNat n) = true →
      IsWord [UInt8.ofNat n] := by decide
  have hpart : ∀ n < 0x80, Assembly.isLabelPart (Char.ofNat n) = true →
      IsWord [UInt8.ofNat n] := by decide
  rw [Assembly.isLabel, codePoints_of_isAscii hascii] at hlabel
  cases text with
  | nil => cases hlabel
  | cons first rest =>
      rw [List.map_cons] at hlabel
      dsimp only at hlabel
      rw [Bool.and_eq_true, List.all_map, List.all_eq_true] at hlabel
      refine ⟨List.cons_ne_nil first rest, fun b hb => ?_⟩
      have hb' : IsWord [b] := by
        have hlt := hascii b hb
        rcases List.mem_cons.mp hb with rfl | hb
        · simpa using hstart b.toNat hlt hlabel.1
        · simpa using hpart b.toNat hlt (hlabel.2 b hb)
      exact hb'.2 b List.mem_cons_self

namespace Target

section Lines

variable {target : Target} {digits : Bytes}

theorem isDigitRun_spelledDigits (target : Target) (hdigits : IsDigitRun digits) :
    IsDigitRun (target.spelledDigits digits) := by
  rw [spelledDigits]
  split
  · exact isDigitRun_stripZeros hdigits
  · exact hdigits

theorem exists_replicate_append_spelledDigits (hgas : target.dialect = .gas)
    (hdigits : IsDigitRun digits) :
    (∃ zeros, digits = List.replicate zeros 0x30 ++ target.spelledDigits digits) ∧
      IsDigitRun (target.spelledDigits digits) ∧ NoLeadingZero (target.spelledDigits digits) := by
  rw [spelledDigits, if_pos hgas]
  exact ⟨exists_replicate_append_stripZeros hdigits.1, isDigitRun_stripZeros hdigits,
    noLeadingZero_stripZeros digits⟩

theorem WellFormed.isWord_immediate (h : target.WellFormed) (hdigits : IsDigitRun digits) :
    IsWord (target.immediate digits) := by
  have hrun : IsWord (target.spelledDigits digits) :=
    (isDigitRun_spelledDigits target hdigits).isWord
  change IsWord (target.immediateMark ++ target.spelledDigits digits)
  rcases h.immediateMark with hnil | hmark
  · rwa [hnil]
  · exact ⟨List.append_ne_nil_of_left_ne_nil hmark.1 _,
      List.forall_mem_append.mpr ⟨hmark.2, hrun.2⟩⟩

/-- A load is cut into its mnemonic, its register and its immediate. -/
theorem WellFormed.fields_loadText (h : target.WellFormed) {register : Bytes}
    (hregister : IsWord register) (hdigits : IsDigitRun digits) :
    fields Bytes.isSeparator (target.loadText register digits)
      = [target.move, register, target.immediate digits] := by
  have himmediate := h.isWord_immediate hdigits
  have htext : target.loadText register digits
      = target.move ++ 0x20 :: (register ++ 0x2C :: 0x20 :: target.immediate digits) := by
    simp only [loadText, List.append_assoc]
    rfl
  rw [htext, fields_word_cons h.move.1 h.move.isSeparator (by decide),
    fields_word_cons hregister.1 hregister.isSeparator (by decide), fields_cons _ (by decide),
    fields_singleton himmediate.1 himmediate.isSeparator]

theorem fields_indented (text : Bytes) :
    fields Bytes.isSeparator (indented text) = fields Bytes.isSeparator text :=
  fields_marks_append (by decide) text

variable {first : UInt8} {rest : Bytes}

theorem CommentStart.isPlain_of_forall (hcomment : target.CommentStart first rest) {text : Bytes}
    (htext : ∀ b ∈ text, b = 0x20 ∨ b = 0x2C ∨ Bytes.isDigit b = true) : IsPlain first text := by
  intro b hb
  have hfirst : b ≠ first := by
    rintro rfl
    rcases htext b hb with rfl | rfl | hdigit
    · exact absurd (hcomment.visible _ List.mem_cons_self) (by decide)
    · exact hcomment.ne_comma rfl
    · exact absurd hdigit (Bool.eq_false_iff.mp hcomment.notDigit)
  rcases htext b hb with rfl | rfl | hdigit
  · exact ⟨by decide, by decide, by decide, hfirst⟩
  · exact ⟨by decide, by decide, by decide, hfirst⟩
  · have hbounds := isDigit_iff.mp hdigit
    refine ⟨UInt8.lt_iff_toNat_lt.mpr (Nat.lt_of_le_of_lt hbounds.2 (by decide)), ?_, ?_, hfirst⟩
      <;> rintro rfl <;> exact absurd hdigit (by decide)

theorem CommentStart.isPlain_loadText (hcomment : target.CommentStart first rest)
    (h : target.WellFormed) {register : Bytes} (hregister : IsWord register)
    (hfirst : first ∉ register) (hdigits : IsDigitRun digits) :
    IsPlain first (target.loadText register digits) := by
  have hmark : IsPlain first target.immediateMark := by
    rcases h.immediateMark with hnil | hmark
    · rw [hnil]
      exact fun b hb => absurd hb List.not_mem_nil
    · exact hmark.isPlain (hcomment.notMem _ (by simp))
  have hrun : IsPlain first (target.spelledDigits digits) :=
    hcomment.isPlain_of_forall fun b hb =>
      Or.inr (Or.inr ((isDigitRun_spelledDigits target hdigits).2 b hb))
  have hspace : IsPlain first (utf8 " ") := hcomment.isPlain_of_forall (by decide)
  have hcomma : IsPlain first (utf8 ", ") := hcomment.isPlain_of_forall (by decide)
  have hmove : IsPlain first target.move := h.move.isPlain (hcomment.notMem _ (by simp))
  simp only [loadText, immediate, isPlain_append]
  exact ⟨⟨⟨⟨hmove, hspace⟩, hregister.isPlain hfirst⟩, hcomma⟩, hmark, hrun⟩

theorem CommentStart.isPlain_indented (hcomment : target.CommentStart first rest) {text : Bytes}
    (htext : IsPlain first text) : IsPlain first (indented text) :=
  isPlain_append.mpr ⟨hcomment.isPlain_of_forall (by decide), htext⟩

/-- An indented line without a comment. -/
theorem CommentStart.readLine_indented (hcomment : target.CommentStart first rest)
    {text mnemonic : Bytes} {operands : List Bytes} (number : Int) (hplain : IsPlain first text)
    (hfields : fields Bytes.isSeparator text = mnemonic :: operands) :
    Assembly.readLine target (indented text) number
      = .ok ⟨number, [], upperCase mnemonic, operands⟩ := by
  have hindented := hcomment.isPlain_indented hplain
  refine Assembly.readLine_of_fields number ?_ hindented ((fields_indented text).trans hfields)
  rw [Assembly.withoutComment, hcomment.leader, before_eq_self hindented.first_notMem]

/-- An indented line with a comment is read as if it had none. -/
theorem CommentStart.readLine_commented (hcomment : target.CommentStart first rest)
    {text mnemonic : Bytes} {operands : List Bytes} (number : Int) (comment : Bytes)
    (hplain : IsPlain first text)
    (hfields : fields Bytes.isSeparator text = mnemonic :: operands) :
    Assembly.readLine target (target.commented text comment) number
      = .ok ⟨number, [], upperCase mnemonic, operands⟩ := by
  obtain ⟨spaces, hspaces, hpadded⟩ : ∃ spaces : Bytes, (∀ b ∈ spaces, b = 0x20) ∧
      padRight 20 text ++ utf8 " " = text ++ spaces := by
    refine ⟨List.replicate (20 - (decode text).length) 0x20 ++ utf8 " ", ?_, ?_⟩
    · refine List.forall_mem_append.mpr ⟨fun b hb => List.eq_of_mem_replicate hb, by decide⟩
    · rw [padRight, List.append_assoc]
  have hline : target.commented text comment
      = indented (text ++ spaces) ++ (first :: rest ++ (utf8 " " ++ comment)) := by
    rw [commented, hcomment.leader, hpadded]
    simp only [indented, List.append_assoc]
  have hspaced : IsPlain first (indented (text ++ spaces)) :=
    hcomment.isPlain_indented (isPlain_append.mpr
      ⟨hplain, hcomment.isPlain_of_forall fun b hb => Or.inl (hspaces b hb)⟩)
  refine Assembly.readLine_of_fields number ?_ hspaced ?_
  · rw [hline, Assembly.withoutComment, hcomment.leader, before_append hspaced.first_notMem,
      before_mark_append, List.append_nil]
  · rw [fields_indented, fields_append_marks, hfields]
    intro b hb
    rw [hspaces b hb]
    decide

end Lines

end Target

/-! ### The listing -/

theorem IsWord.isPhrase {word : Bytes} (h : IsWord word) : IsPhrase word := by
  have hsplit : Bytes.splitOn 0x20 word = [word] :=
    Bytes.splitOn_of_notMem fun hmem => absurd (h.2 _ hmem).1 (by decide)
  intro other hother
  rw [hsplit, List.mem_singleton] at hother
  rwa [hother]

theorem IsWord.mnemonicOf_eq {word : Bytes} (h : IsWord word) :
    Assembly.mnemonicOf word = upperCase word := by
  rw [Assembly.mnemonicOf, h.words_eq]

theorem IsPhrase.mnemonicOf_ne_nil {text : Bytes} (h : IsPhrase text) :
    Assembly.mnemonicOf text ≠ [] := by
  obtain ⟨word, more, hwords⟩ := List.exists_cons_of_ne_nil h.words_ne_nil
  have hmem : word ∈ Bytes.splitOn 0x20 text := by
    rw [← h.words_eq, hwords]
    exact List.mem_cons_self
  rw [Assembly.mnemonicOf, hwords]
  exact upperCase_ne_nil (h word hmem).1

/-- A text made of lines is cut into these lines and an empty one. -/
theorem splitOn_flatMap_lines {lines : List Bytes} (h : ∀ line ∈ lines, (0x0A : UInt8) ∉ line) :
    Bytes.splitOn 0x0A (lines.flatMap (· ++ utf8 "\n")) = lines ++ [[]] := by
  induction lines with
  | nil => rfl
  | cons line lines ih =>
      rw [List.forall_mem_cons] at h
      have hsplit := Bytes.splitOn_append_cons 0x0A line (lines.flatMap (· ++ utf8 "\n"))
      rw [Bytes.splitOn_of_notMem h.1, ih h.2] at hsplit
      rw [List.flatMap_cons, List.append_assoc]
      exact hsplit

namespace Assembly

theorem Draft.addLines_cons {target : Target} {number : Int} {draft next : Draft} {text : Bytes}
    {line : Line} (hread : readLine target text number = .ok line)
    (hadd : draft.add target line = .ok next) (rest : List Bytes) :
    Draft.addLines target number draft (text :: rest)
      = Draft.addLines target (number + 1) next rest := by
  rw [Draft.addLines, hread]
  dsimp only
  rw [hadd]

theorem Draft.add_directive {target : Target} (draft : Draft) {line : Line}
    (hne : line.mnemonic ≠ []) (hclass : classify target line.mnemonic = .directive) :
    draft.add target line = .ok { draft with
      labels := draft.labels ++ line.labels
      directives := draft.directives ++ [line] } := by
  rw [Draft.add]
  dsimp only
  rw [if_neg hne, hclass]

theorem Draft.add_trap {target : Target} (draft : Draft) {line : Line}
    (hne : line.mnemonic ≠ []) (hclass : classify target line.mnemonic = .trap) :
    draft.add target line = .ok { draft with
      labels := draft.labels ++ line.labels
      instructions := draft.instructions ++ [line] } := by
  rw [Draft.add]
  dsimp only
  rw [if_neg hne, hclass]

theorem Draft.add_load {target : Target} (draft : Draft) {line : Line} {load : Load}
    (hne : line.mnemonic ≠ []) (hclass : classify target line.mnemonic = .load)
    (hload : readLoad target line = .ok load) :
    draft.add target line = .ok { draft with
      labels := draft.labels ++ line.labels
      instructions := draft.instructions ++ [line]
      loads := load :: draft.loads } := by
  rw [Draft.add]
  dsimp only
  rw [if_neg hne, hclass]
  dsimp only
  rw [hload]

theorem Draft.add_labels {target : Target} (draft : Draft) {line : Line}
    (hnil : line.mnemonic = []) :
    draft.add target line = .ok { draft with labels := draft.labels ++ line.labels } :=
  if_pos hnil

theorem dropMark?_immediate (target : Target) (digits : Bytes) :
    Bytes.dropMark? target.immediateMark (target.immediate digits)
      = some (target.spelledDigits digits) :=
  Bytes.dropMark?_eq_some_iff.mpr rfl

/-- An immediate is read back as the digits that it spells, for every target. -/
theorem readImmediate_immediate (target : Target) {digits : Bytes} (hdigits : IsDigitRun digits)
    (number : Int) :
    readImmediate target (target.immediate digits) number = .ok (target.spelledDigits digits) :=
  readImmediate_eq_ok_iff.mpr ⟨rfl, target.isDigitRun_spelledDigits hdigits,
    fun hgas => (Target.exists_replicate_append_spelledDigits hgas hdigits).2.2⟩

theorem readLoad_immediate {target : Target} {register digits mnemonic : Bytes}
    (hregister : register = target.numberRegister ∨ register = target.argumentRegister)
    (hdigits : IsDigitRun digits) (number : Int) (labels : List Bytes) :
    readLoad target ⟨number, labels, mnemonic, [register, target.immediate digits]⟩
      = .ok ⟨upperCase register, target.spelledDigits digits⟩ := by
  have hknown : upperCase register = upperCase target.numberRegister ∨
      upperCase register = upperCase target.argumentRegister :=
    hregister.imp (congrArg upperCase) (congrArg upperCase)
  rw [readLoad]
  dsimp only
  rw [if_pos hknown, readImmediate_immediate target hdigits]
  rfl

end Assembly

namespace Target

open Assembly

section Listing

variable {target : Target} {digits : Bytes}

theorem WellFormed.classify_trap (h : target.WellFormed) :
    classify target (mnemonicOf target.trap) = .trap := by
  rw [classify, if_neg (not_or_intro h.trap_ne_export h.trap_ne_section), if_pos rfl]

theorem WellFormed.classify_move (h : target.WellFormed) :
    classify target (mnemonicOf target.move) = .load := by
  rw [classify, if_neg (not_or_intro h.move_ne_export h.move_ne_section), if_neg h.move_ne_trap,
    if_pos rfl]

theorem WellFormed.isDigitRun_exitNumber (h : target.WellFormed) :
    IsDigitRun (decimal target.exitNumber) := by
  obtain ⟨n, hn⟩ := Int.eq_ofNat_of_zero_le h.exitNumber
  rw [hn]
  exact isDigitRun_decimalNat n

theorem WellFormed.isWord_entry (h : target.WellFormed) : IsWord target.entry :=
  isWord_of_isLabel h.entry.1 h.entry.2

variable {first : UInt8} {rest : Bytes}

theorem WellFormed.readLine_export (h : target.WellFormed)
    (hcomment : target.CommentStart first rest) (number : Int) :
    readLine target (indented (target.exportDirective ++ utf8 " " ++ target.entry)) number
      = .ok ⟨number, [], mnemonicOf target.exportDirective, [target.entry]⟩ := by
  have hentry := h.isWord_entry
  have hplain : IsPlain first (target.exportDirective ++ utf8 " " ++ target.entry) := by
    rw [isPlain_append, isPlain_append]
    exact ⟨⟨h.exportDirective.isPlain (hcomment.notMem _ (by simp)),
      hcomment.isPlain_of_forall (by decide)⟩, hentry.isPlain (hcomment.notMem _ (by simp))⟩
  have hfields : fields Bytes.isSeparator (target.exportDirective ++ utf8 " " ++ target.entry)
      = [target.exportDirective, target.entry] := by
    rw [List.append_assoc]
    refine (fields_word_cons h.exportDirective.1 h.exportDirective.isSeparator (by decide) _).trans
      ?_
    exact congrArg (target.exportDirective :: ·) (fields_singleton hentry.1 hentry.isSeparator)
  rw [h.exportDirective.mnemonicOf_eq]
  exact hcomment.readLine_indented number hplain hfields

theorem CommentStart.readLine_phrase (hcomment : target.CommentStart first rest) {text : Bytes}
    (htext : IsPhrase text) (hfirst : first ∉ text) (number : Int) :
    readLine target (indented text) number
      = .ok ⟨number, [], mnemonicOf text, (words text).tail⟩ := by
  obtain ⟨word, more, hwords⟩ := List.exists_cons_of_ne_nil htext.words_ne_nil
  have hfields : fields Bytes.isSeparator text = word :: more := by
    rw [htext.fields_isSeparator, hwords]
  rw [mnemonicOf, hwords]
  exact hcomment.readLine_indented number (htext.isPlain hfirst) hfields

theorem CommentStart.readLine_nothing (hcomment : target.CommentStart first rest) (number : Int) :
    readLine target [] number = .ok ⟨number, [], [], []⟩ := by
  rw [readLine, withoutComment, hcomment.leader]
  rfl

theorem WellFormed.readLine_entry (h : target.WellFormed)
    (hcomment : target.CommentStart first rest) (number : Int) :
    readLine target (target.entry ++ utf8 ":") number = .ok ⟨number, [target.entry], [], []⟩ := by
  refine readLine_label number h.entry.2 ?_
  rw [withoutComment, hcomment.leader]
  apply before_eq_self
  rw [List.mem_append, not_or]
  refine ⟨hcomment.notMem _ (by simp), ?_⟩
  intro hmem
  exact hcomment.ne_colon (List.mem_singleton.mp hmem)

theorem WellFormed.readLine_number (h : target.WellFormed)
    (hcomment : target.CommentStart first rest) (number : Int) :
    readLine target
        (target.commented (target.loadText target.numberRegister (decimal target.exitNumber))
          (utf8 "exit")) number
      = .ok ⟨number, [], mnemonicOf target.move,
          [target.numberRegister, target.immediate (decimal target.exitNumber)]⟩ := by
  rw [h.move.mnemonicOf_eq]
  exact hcomment.readLine_commented number (utf8 "exit")
    (hcomment.isPlain_loadText h h.numberRegister (hcomment.notMem _ (by simp))
      h.isDigitRun_exitNumber)
    (h.fields_loadText h.numberRegister h.isDigitRun_exitNumber)

theorem WellFormed.readLine_argument (h : target.WellFormed)
    (hcomment : target.CommentStart first rest) (hdigits : IsDigitRun digits) (number : Int) :
    readLine target (indented (target.loadText target.argumentRegister digits)) number
      = .ok ⟨number, [], mnemonicOf target.move,
          [target.argumentRegister, target.immediate digits]⟩ := by
  rw [h.move.mnemonicOf_eq]
  exact hcomment.readLine_indented number
    (hcomment.isPlain_loadText h h.argumentRegister (hcomment.notMem _ (by simp)) hdigits)
    (h.fields_loadText h.argumentRegister hdigits)

/-- The draft after the lines of a program. -/
def exitDraft (target : Target) (digits : Bytes) : Draft where
  labels := (target.exitListing digits).labels
  directives := (target.exitListing digits).directives
  instructions := (target.exitListing digits).instructions
  loads :=
    [⟨upperCase target.argumentRegister, target.spelledDigits digits⟩,
     ⟨upperCase target.numberRegister, target.spelledDigits (decimal target.exitNumber)⟩]

theorem WellFormed.addLines_exitLines (h : target.WellFormed) (hdigits : IsDigitRun digits) :
    Draft.addLines target 1 .empty (target.exitLines digits ++ [[]])
      = .ok (target.exitDraft digits) := by
  obtain ⟨first, rest, hcomment⟩ := h.comments
  have hmove := h.move.isPhrase.mnemonicOf_ne_nil
  rw [exitLines]
  -- One step for each of the six lines, and one for the empty line after the last line feed.
  refine (Draft.addLines_cons (h.readLine_export hcomment 1) (Draft.add_directive _
    h.exportDirective.isPhrase.mnemonicOf_ne_nil (if_pos (Or.inl rfl))) _).trans ?_
  refine (Draft.addLines_cons
    (hcomment.readLine_phrase h.sectionDirective (hcomment.notMem _ (by simp)) 2)
    (Draft.add_directive _ h.sectionDirective.mnemonicOf_ne_nil (if_pos (Or.inr rfl))) _).trans ?_
  refine (Draft.addLines_cons (h.readLine_entry hcomment 3) (Draft.add_labels _ rfl) _).trans ?_
  refine (Draft.addLines_cons (h.readLine_number hcomment 4) (Draft.add_load _ hmove
    h.classify_move (readLoad_immediate (Or.inl rfl) h.isDigitRun_exitNumber 4 [])) _).trans ?_
  refine (Draft.addLines_cons (h.readLine_argument hcomment hdigits 5) (Draft.add_load _ hmove
    h.classify_move (readLoad_immediate (Or.inr rfl) hdigits 5 [])) _).trans ?_
  refine (Draft.addLines_cons
    (hcomment.readLine_phrase h.trap (hcomment.notMem _ (by simp)) 6)
    (Draft.add_trap _ h.trap.mnemonicOf_ne_nil h.classify_trap) _).trans ?_
  exact Draft.addLines_cons (hcomment.readLine_nothing 7) (Draft.add_labels _ rfl) []

theorem WellFormed.notMem_exitLines (h : target.WellFormed) (hdigits : IsDigitRun digits) :
    ∀ line ∈ target.exitLines digits, (0x0A : UInt8) ∉ line := by
  obtain ⟨first, rest, hcomment⟩ := h.comments
  have hplain : ∀ {text : Bytes}, IsPlain first text → (0x0A : UInt8) ∉ text :=
    fun htext hmem => (htext _ hmem).2.1 rfl
  have hload : ∀ {register digits : Bytes}, IsWord register → first ∉ register →
      IsDigitRun digits → (0x0A : UInt8) ∉ target.loadText register digits :=
    fun hregister hfirst hrun => hplain (hcomment.isPlain_loadText h hregister hfirst hrun)
  have hleader : (0x0A : UInt8) ∉ target.commentLeader := by
    rw [hcomment.leader]
    intro hmem
    exact absurd (hcomment.visible _ hmem) (by decide)
  have hspaces : ∀ k, (0x0A : UInt8) ∉ List.replicate k 0x20 := by
    intro k hmem
    exact absurd (List.eq_of_mem_replicate hmem) (by decide)
  have hnumber := hload h.numberRegister (hcomment.notMem _ (by simp)) h.isDigitRun_exitNumber
  have hargument := hload h.argumentRegister (hcomment.notMem _ (by simp)) hdigits
  have hexport := hplain (h.exportDirective.isPlain (hcomment.notMem _ (by simp)))
  have hsection := hplain (h.sectionDirective.isPlain (hcomment.notMem _ (by simp)))
  have hentry := hplain (h.isWord_entry.isPlain (hcomment.notMem _ (by simp)))
  have htrap := hplain (h.trap.isPlain (hcomment.notMem _ (by simp)))
  have hindent : (0x0A : UInt8) ∉ utf8 "    " := by decide
  have hspace : (0x0A : UInt8) ∉ utf8 " " := by decide
  have hcolon : (0x0A : UInt8) ∉ utf8 ":" := by decide
  have hexit : (0x0A : UInt8) ∉ utf8 "exit" := by decide
  simp only [exitLines, List.forall_mem_cons, indented, commented, padRight, List.mem_append,
    not_or]
  exact ⟨⟨hindent, ⟨hexport, hspace⟩, hentry⟩, ⟨hindent, hsection⟩, ⟨hentry, hcolon⟩,
    ⟨hindent, ⟨⟨⟨⟨hnumber, hspaces _⟩, hspace⟩, hleader⟩, hspace⟩, hexit⟩, ⟨hindent, hargument⟩,
    ⟨hindent, htrap⟩, fun _ hmem => absurd hmem List.not_mem_nil⟩

theorem WellFormed.checkShape_exitDraft (h : target.WellFormed) (digits : Bytes) :
    (target.exitDraft digits).checkShape target = .ok () := by
  have hexport : (target.exitDraft digits).directives.any (Draft.exportsEntry target) = true := by
    simp [exitDraft, exitListing, Draft.exportsEntry]
  have hcount : ((target.exitDraft digits).instructions.countP
      fun line => line.mnemonic == mnemonicOf target.trap) = 1 := by
    simp [exitDraft, exitListing, h.move_ne_trap]
  rw [Draft.checkShape, hcount, if_neg (by simp [exitDraft, exitListing]), hexport,
    if_neg (by simp), if_neg (by simp)]
  exact if_pos rfl

theorem valueOf_exitDraft (target : Target) (digits : Bytes) :
    (target.exitDraft digits).valueOf target.argumentRegister = target.spelledDigits digits := by
  simp [Draft.valueOf, exitDraft]

theorem generate_literal (target : Target) (h : digits ≠ []) :
    target.generate (.exit (.literal digits)) =
      .ok ((target.exitLines digits).flatMap (· ++ utf8 "\n")) := by
  obtain ⟨b, more, rfl⟩ := List.exists_cons_of_ne_nil h
  rfl

/-- The assembly of a program for a well-formed target passes the check. -/
theorem WellFormed.check_generate (h : target.WellFormed) (hdigits : IsDigitRun digits) :
    ∃ assembly, target.generate (.exit (.literal digits)) = .ok assembly ∧
      check target assembly = .ok (target.exitListing digits) := by
  refine ⟨_, target.generate_literal hdigits.1, ?_⟩
  rw [check, splitOn_flatMap_lines (h.notMem_exitLines hdigits), h.addLines_exitLines hdigits]
  dsimp only
  rw [h.checkShape_exitDraft]
  dsimp only
  rw [valueOf_exitDraft]
  rfl

/-- **Generator and checker agree.** For every well-formed target and every literal there is
assembly, and it passes the check of its target. The listing consists of the words that the lines
were written with: one label, directives on the first two lines and instructions on the last three.
Its status is what stands after the mark of the immediate, the digits themselves or, for the GNU
assembler, the digits without leading zeros. -/
theorem generated_assembly_passes_check (h : target.WellFormed) (hdigits : IsDigitRun digits) :
    ∃ assembly listing, target.generate (.exit (.literal digits)) = .ok assembly ∧
      check target assembly = .ok listing ∧
      listing.labels = [target.entry] ∧
      listing.directives =
        [⟨1, [], mnemonicOf target.exportDirective, [target.entry]⟩,
         ⟨2, [], mnemonicOf target.sectionDirective, (words target.sectionDirective).tail⟩] ∧
      listing.instructions =
        [⟨4, [], mnemonicOf target.move,
           [target.numberRegister, target.immediate (decimal target.exitNumber)]⟩,
         ⟨5, [], mnemonicOf target.move, [target.argumentRegister, target.immediate digits]⟩,
         ⟨6, [], mnemonicOf target.trap, (words target.trap).tail⟩] ∧
      target.immediate digits = target.immediateMark ++ listing.exitStatus ∧
      (target.dialect ≠ .gas → listing.exitStatus = digits) ∧
      (target.dialect = .gas →
        (∃ zeros, digits = List.replicate zeros 0x30 ++ listing.exitStatus) ∧
        IsDigitRun listing.exitStatus ∧ NoLeadingZero listing.exitStatus) := by
  obtain ⟨assembly, hgenerate, hcheck⟩ := h.check_generate hdigits
  refine ⟨assembly, target.exitListing digits, hgenerate, hcheck, rfl, rfl, rfl, rfl, ?_, ?_⟩
  · intro hgas
    exact if_neg hgas
  · intro hgas
    exact exists_replicate_append_spelledDigits hgas hdigits

/-- Linux on 64-bit RISC-V, which cannot be asked for by name. -/
def linuxRiscv64 : Target :=
  { linuxArm64 with
    arch := utf8 "riscv64"
    sectionDirective := utf8 ".section .text"
    commentLeader := utf8 "#"
    numberRegister := utf8 "a7"
    argumentRegister := utf8 "a0"
    immediateMark := []
    move := utf8 "li"
    trap := utf8 "ecall" }

theorem linuxRiscv64_wellFormed : linuxRiscv64.WellFormed := by
  have hcomments : linuxRiscv64.CommentStart 0x23 [] := by constructor <;> decide
  constructor
  case comments => exact ⟨_, _, hcomments⟩
  all_goals decide

/-- A target of the same dialect whose comments start with the byte that marks immediates on ARM. -/
theorem generated_riscv64_passes_check :
    ∃ assembly listing,
      linuxRiscv64.generate (.exit (.literal (utf8 "007"))) = .ok assembly ∧
      check linuxRiscv64 assembly = .ok listing ∧ listing.exitStatus = utf8 "7" := by
  have hdigits : IsDigitRun (utf8 "007") := ⟨by decide, by decide⟩
  obtain ⟨assembly, listing, hgenerate, hcheck, -, -, -, himmediate, -⟩ :=
    generated_assembly_passes_check linuxRiscv64_wellFormed hdigits
  refine ⟨assembly, listing, hgenerate, hcheck, ?_⟩
  have hstatus : listing.exitStatus = linuxRiscv64.immediate (utf8 "007") := himmediate.symm
  rw [hstatus]
  decide

end Listing

end Target

end ExitLang
