import ExitLang.Assembly.Line
import ExitLang.Proofs.Decoding

/-!
# Words of a text

The words of a text are its non-empty stretches between blanks. `fields` states this for any list
and any kind of mark, and its laws say how words are found in a text that is put together from
words and marks. For ASCII texts the words that the library finds by way of code points are the
fields of the bytes, and commas turned into blanks only add to the marks.

Where a single byte is the mark and empty stretches count, as between the lines of a text or the
components of a path, cutting a text apart and joining its stretches undo each other.
-/

namespace ExitLang

section Fields

variable {α β : Type} {p q : α → Bool}

theorem splitWhere_eq_splitOnP (p : α → Bool) (list : List α) :
    splitWhere p list = list.splitOnP p := by
  induction list with
  | nil => rfl
  | cons a rest ih =>
      rw [splitWhere, ih, List.splitOnP_cons_eq_if_modifyHead]
      obtain ⟨stretch, more, hsplit⟩ := List.exists_cons_of_ne_nil (List.splitOnP_ne_nil p rest)
      rw [hsplit]
      rfl

/-- The stretches between marks that are not empty. -/
def fields (p : α → Bool) (list : List α) : List (List α) :=
  (list.splitOnP p).filter fun stretch => !stretch.isEmpty

theorem fields_append_cons (left right : List α) {mark : α} (hmark : p mark = true) :
    fields p (left ++ mark :: right) = fields p left ++ fields p right := by
  rw [fields, List.splitOnP_append_cons left right hmark, List.filter_append]
  rfl

@[simp]
theorem fields_nil : fields p ([] : List α) = [] := rfl

theorem fields_cons (right : List α) {mark : α} (hmark : p mark = true) :
    fields p (mark :: right) = fields p right := by
  simpa using fields_append_cons [] right hmark

theorem fields_marks_append {marks : List α} (hmarks : ∀ mark ∈ marks, p mark = true)
    (right : List α) : fields p (marks ++ right) = fields p right := by
  induction marks with
  | nil => rfl
  | cons mark marks ih =>
      rw [List.cons_append, fields_cons _ (hmarks mark List.mem_cons_self)]
      exact ih fun other hother => hmarks other (List.mem_cons_of_mem mark hother)

theorem fields_append_marks {marks : List α} (hmarks : ∀ mark ∈ marks, p mark = true)
    (left : List α) : fields p (left ++ marks) = fields p left := by
  cases marks with
  | nil => rw [List.append_nil]
  | cons mark marks =>
      have hrest : fields p marks = [] := by
        simpa using fields_marks_append
          (fun other hother => hmarks other (List.mem_cons_of_mem mark hother)) []
      rw [fields_append_cons left marks (hmarks mark List.mem_cons_self), hrest, List.append_nil]

/-- A stretch without marks is a field of its own. -/
theorem fields_singleton {word : List α} (hne : word ≠ []) (hword : ∀ a ∈ word, p a = false) :
    fields p word = [word] := by
  rw [fields, List.splitOnP_eq_singleton hword]
  simp [hne]

theorem fields_word_cons {word : List α} (hne : word ≠ []) (hword : ∀ a ∈ word, p a = false)
    {mark : α} (hmark : p mark = true) (right : List α) :
    fields p (word ++ mark :: right) = word :: fields p right := by
  rw [fields_append_cons word right hmark, fields_singleton hne hword, List.singleton_append]

theorem splitOnP_map (f : α → β) (p : β → Bool) (list : List α) :
    (list.map f).splitOnP p = (list.splitOnP (p ∘ f)).map (List.map f) := by
  induction list with
  | nil => rfl
  | cons a rest ih =>
      obtain ⟨stretch, more, hsplit⟩ :=
        List.exists_cons_of_ne_nil (List.splitOnP_ne_nil (p ∘ f) rest)
      rw [List.map_cons, List.splitOnP_cons_eq_if_modifyHead, ih,
        List.splitOnP_cons_eq_if_modifyHead, Function.comp_apply, hsplit]
      split <;> rfl

theorem fields_map (f : α → β) (p : β → Bool) (list : List α) :
    fields p (list.map f) = (fields (p ∘ f) list).map (List.map f) := by
  rw [fields, splitOnP_map, fields, List.filter_map]
  congr 2
  funext stretch
  simp

theorem of_mem_splitOnP {list stretch : List α} (hmem : stretch ∈ list.splitOnP p) :
    ∀ a ∈ stretch, a ∈ list ∧ p a = false := by
  induction list generalizing stretch with
  | nil => simp_all
  | cons b rest ih =>
      obtain ⟨first, more, hsplit⟩ := List.exists_cons_of_ne_nil (List.splitOnP_ne_nil p rest)
      rw [List.splitOnP_cons_eq_if_modifyHead, hsplit] at hmem
      rw [hsplit] at ih
      intro a ha
      by_cases hb : p b = true
      · rw [if_pos hb] at hmem
        rcases List.mem_cons.mp hmem with rfl | hmem
        · simp at ha
        · exact (ih hmem a ha).imp_left (List.mem_cons_of_mem b)
      · rw [if_neg hb, List.modifyHead_cons] at hmem
        rcases List.mem_cons.mp hmem with rfl | hmem
        · rcases List.mem_cons.mp ha with rfl | ha
          · exact ⟨List.mem_cons_self, Bool.eq_false_iff.mpr hb⟩
          · exact (ih List.mem_cons_self a ha).imp_left (List.mem_cons_of_mem b)
        · exact (ih (List.mem_cons_of_mem first hmem) a ha).imp_left (List.mem_cons_of_mem b)

theorem mark_or_mem_splitOnP {list : List α} {a : α} (ha : a ∈ list) :
    p a = true ∨ ∃ stretch ∈ list.splitOnP p, a ∈ stretch := by
  induction list with
  | nil => cases ha
  | cons b rest ih =>
      obtain ⟨first, more, hsplit⟩ := List.exists_cons_of_ne_nil (List.splitOnP_ne_nil p rest)
      rw [List.splitOnP_cons_eq_if_modifyHead, hsplit]
      rw [hsplit] at ih
      by_cases hb : p b = true
      · rw [if_pos hb]
        rcases List.mem_cons.mp ha with rfl | ha
        · exact Or.inl hb
        · refine (ih ha).imp_right ?_
          rintro ⟨stretch, hstretch, hmem⟩
          exact ⟨stretch, List.mem_cons_of_mem [] hstretch, hmem⟩
      · rw [if_neg hb, List.modifyHead_cons]
        rcases List.mem_cons.mp ha with rfl | ha
        · exact Or.inr ⟨a :: first, List.mem_cons_self, List.mem_cons_self⟩
        · refine (ih ha).imp_right ?_
          rintro ⟨stretch, hstretch, hmem⟩
          rcases List.mem_cons.mp hstretch with rfl | hstretch
          · exact ⟨b :: stretch, List.mem_cons_self, List.mem_cons_of_mem b hmem⟩
          · exact ⟨stretch, List.mem_cons_of_mem _ hstretch, hmem⟩

/-- A field has elements of the list and no marks. -/
theorem of_mem_fields {list field : List α} (hmem : field ∈ fields p list) :
    ∀ a ∈ field, a ∈ list ∧ p a = false :=
  of_mem_splitOnP (List.mem_of_mem_filter hmem)

/-- There is no field where there is nothing but marks. -/
theorem fields_eq_nil_iff {list : List α} : fields p list = [] ↔ ∀ a ∈ list, p a = true := by
  constructor
  · intro hnil a ha
    rcases mark_or_mem_splitOnP (p := p) ha with hmark | ⟨stretch, hstretch, hmem⟩
    · exact hmark
    · rw [fields, List.filter_eq_nil_iff] at hnil
      have hempty : stretch = [] := by simpa using hnil stretch hstretch
      rw [hempty] at hmem
      cases hmem
  · intro hmarks
    simpa using fields_marks_append hmarks []

theorem splitOnP_congr {list : List α}
    (h : ∀ a ∈ list, p a = q a) : list.splitOnP p = list.splitOnP q := by
  induction list with
  | nil => rfl
  | cons a rest ih =>
      rw [List.splitOnP_cons_eq_if_modifyHead, List.splitOnP_cons_eq_if_modifyHead,
        h a List.mem_cons_self, ih fun b hb => h b (List.mem_cons_of_mem a hb)]

theorem fields_congr {list : List α} (h : ∀ a ∈ list, p a = q a) :
    fields p list = fields q list := by
  rw [fields, splitOnP_congr h, fields]

end Fields

/-! ### Stretches between single bytes -/

namespace Bytes

theorem splitOn_eq_splitOnP (mark : UInt8) (text : Bytes) :
    splitOn mark text = text.splitOnP (· == mark) :=
  splitWhere_eq_splitOnP _ text

theorem splitOn_ne_nil (mark : UInt8) (text : Bytes) : splitOn mark text ≠ [] :=
  splitWhere_ne_nil _ text

theorem splitOn_append_cons (mark : UInt8) (left right : Bytes) :
    splitOn mark (left ++ mark :: right) = splitOn mark left ++ splitOn mark right := by
  simp only [splitOn_eq_splitOnP]
  exact List.splitOnP_append_cons left right (beq_self_eq_true mark)

theorem splitOn_of_notMem {mark : UInt8} {text : Bytes} (h : mark ∉ text) :
    splitOn mark text = [text] := by
  rw [splitOn_eq_splitOnP]
  apply List.splitOnP_eq_singleton
  intro b hb
  rw [beq_eq_false_iff_ne]
  rintro rfl
  exact h hb

theorem notMem_of_mem_splitOn {mark : UInt8} {text stretch : Bytes}
    (h : stretch ∈ splitOn mark text) : mark ∉ stretch := by
  intro hmem
  rw [splitOn_eq_splitOnP] at h
  simpa using (of_mem_splitOnP h mark hmem).2

theorem splitOn_joinWith {mark : UInt8} {stretches : List Bytes} (hne : stretches ≠ [])
    (h : ∀ stretch ∈ stretches, mark ∉ stretch) :
    splitOn mark (joinWith [mark] stretches) = stretches := by
  rw [splitOn_eq_splitOnP]
  exact List.splitOn_intercalate mark h hne

theorem joinWith_concat_append (mark : Bytes) (outer : List Bytes) (last suffix : Bytes) :
    joinWith mark (outer ++ [last ++ suffix]) = joinWith mark (outer ++ [last]) ++ suffix := by
  induction outer with
  | nil => simp [joinWith]
  | cons stretch rest ih =>
      simp only [joinWith] at ih ⊢
      simp [List.intercalate_cons_of_ne_nil, ih]

/-- A suffix without the mark goes to the last stretch and leaves the others as they are. -/
theorem exists_splitOn_append (mark : UInt8) (text : Bytes) :
    ∃ outer last, splitOn mark text = outer ++ [last] ∧
      ∀ suffix : Bytes, mark ∉ suffix →
        splitOn mark (text ++ suffix) = outer ++ [last ++ suffix] := by
  obtain ⟨outer, last, hsplit⟩ :=
    (List.eq_nil_or_concat' (splitOn mark text)).resolve_left (splitOn_ne_nil mark text)
  have hfree : ∀ stretch ∈ outer ++ [last], mark ∉ stretch := by
    rw [← hsplit]
    exact fun stretch hmem => notMem_of_mem_splitOn hmem
  refine ⟨outer, last, hsplit, ?_⟩
  intro suffix hsuffix
  have hlonger : ∀ stretch ∈ outer ++ [last ++ suffix], mark ∉ stretch := by
    rw [List.forall_mem_append, List.forall_mem_singleton] at hfree ⊢
    exact ⟨hfree.1, fun hmem => (List.mem_append.mp hmem).elim hfree.2 hsuffix⟩
  calc splitOn mark (text ++ suffix)
      = splitOn mark (joinWith [mark] (outer ++ [last ++ suffix])) := by
        rw [joinWith_concat_append, ← hsplit, joinWith_splitOn]
    _ = outer ++ [last ++ suffix] := splitOn_joinWith (by simp) hlonger

theorem joinWith_append_cons (mark front first : Bytes) (more : List Bytes) :
    joinWith mark ((front ++ first) :: more) = front ++ joinWith mark (first :: more) := by
  cases more <;> simp [joinWith, List.intercalate_cons_of_ne_nil]

/-- What is put in front and does not hold the mark goes to the first stretch. -/
theorem exists_splitOn_prepend (mark : UInt8) (text : Bytes) :
    ∃ first more, splitOn mark text = first :: more ∧
      ∀ front : Bytes, mark ∉ front → splitOn mark (front ++ text) = (front ++ first) :: more := by
  obtain ⟨first, more, hsplit⟩ := List.exists_cons_of_ne_nil (splitOn_ne_nil mark text)
  have hfree : ∀ stretch ∈ first :: more, mark ∉ stretch := by
    rw [← hsplit]
    exact fun stretch hmem => notMem_of_mem_splitOn hmem
  refine ⟨first, more, hsplit, ?_⟩
  intro front hfront
  have hlonger : ∀ stretch ∈ (front ++ first) :: more, mark ∉ stretch := by
    rw [List.forall_mem_cons] at hfree ⊢
    exact ⟨fun hmem => (List.mem_append.mp hmem).elim hfront hfree.1, hfree.2⟩
  calc splitOn mark (front ++ text)
      = splitOn mark (joinWith [mark] ((front ++ first) :: more)) := by
        rw [joinWith_append_cons, ← hsplit, joinWith_splitOn]
    _ = (front ++ first) :: more := splitOn_joinWith (List.cons_ne_nil _ _) hlonger

end Bytes

/-! ### Words of ASCII texts -/

/-- An ASCII blank. -/
def Bytes.isBlank (b : UInt8) : Bool := (0x09 ≤ b && b ≤ 0x0D) || b == 0x20

/-- What separates the words of an instruction: a blank or a comma. -/
def Bytes.isSeparator (b : UInt8) : Bool := isBlank b || b == 0x2C

theorem isBlank_iff {b : UInt8} :
    Bytes.isBlank b = true ↔ 9 ≤ b.toNat ∧ b.toNat ≤ 13 ∨ b.toNat = 0x20 := by
  simp only [Bytes.isBlank, Bool.or_eq_true, Bool.and_eq_true, decide_eq_true_eq, beq_iff_eq,
    UInt8.le_iff_toNat_le, ← UInt8.toNat_inj]
  rfl

theorem isBlank_scalar_asciiChar {b : UInt8} (hb : b < 0x80) :
    Symbol.isBlank (.scalar (asciiChar b)) = Bytes.isBlank b := by
  have hall : ∀ n < 0x80,
      Symbol.isBlank (.scalar (Char.ofNat n)) = Bytes.isBlank (UInt8.ofNat n) := by decide
  simpa [asciiChar] using hall b.toNat hb

theorem words_eq_map_fields (text : Bytes) :
    words text = (fields Symbol.isBlank (decode text)).map encode := by
  rw [words, splitWhere_eq_splitOnP, fields]

theorem encode_map_scalar (chars : List Char) : encode (chars.map .scalar) = encodeChars chars := by
  rw [encode, List.flatMap_map, encodeChars]
  rfl

theorem encode_map_scalar_asciiChar {text : Bytes} (h : IsAscii text) :
    encode (text.map fun b => .scalar (asciiChar b)) = text := by
  have hencode := encode_map_scalar (text.map asciiChar)
  rw [List.map_map] at hencode
  exact hencode.trans (encodeChars_map_asciiChar h)

/-- The fields of an ASCII text can be taken from its bytes as well as from its code points. -/
theorem map_encode_fields_decode {text : Bytes} (h : IsAscii text) {p : Symbol → Bool}
    {q : UInt8 → Bool} (hmarks : ∀ b < 0x80, p (.scalar (asciiChar b)) = q b) :
    (fields p (decode text)).map encode = fields q text := by
  have hfields : fields (p ∘ fun b => .scalar (asciiChar b)) text = fields q text :=
    fields_congr fun b hb => hmarks b (h b hb)
  rw [decode_of_isAscii h, fields_map, hfields, List.map_map]
  conv_rhs => rw [← List.map_id (fields q text)]
  apply List.map_congr_left
  intro field hfield
  exact encode_map_scalar_asciiChar fun b hb => h b (of_mem_fields hfield b hb).1

/-- The words of an ASCII text are its fields between blank bytes. -/
theorem words_of_isAscii {text : Bytes} (h : IsAscii text) :
    words text = fields Bytes.isBlank text := by
  rw [words_eq_map_fields, map_encode_fields_decode h fun b hb => isBlank_scalar_asciiChar hb]

theorem exists_trimSymbols (symbols : List Symbol) :
    ∃ before after, (∀ a ∈ before, a.isBlank = true) ∧ (∀ a ∈ after, a.isBlank = true) ∧
      symbols = before ++ trimSymbols symbols ++ after := by
  refine ⟨symbols.takeWhile Symbol.isBlank,
    ((symbols.dropWhile Symbol.isBlank).reverse.takeWhile Symbol.isBlank).reverse, ?_, ?_, ?_⟩
  · exact List.all_eq_true.mp List.all_takeWhile
  · intro a ha
    exact List.all_eq_true.mp List.all_takeWhile a (List.mem_reverse.mp ha)
  · rw [trimSymbols, List.append_assoc, ← List.reverse_append, List.takeWhile_append_dropWhile,
      List.reverse_reverse, List.takeWhile_append_dropWhile]

/-- Blanks are code points and no stray bytes. -/
theorem exists_map_scalar {symbols : List Symbol}
    (h : ∀ symbol ∈ symbols, symbol.isBlank = true) :
    ∃ chars : List Char, symbols = chars.map .scalar := by
  refine ⟨symbols.map Symbol.char, ?_⟩
  rw [List.map_map]
  conv_lhs => rw [← List.map_id symbols]
  apply List.map_congr_left
  intro symbol hsymbol
  cases symbol with
  | scalar c => rfl
  | stray b => cases h _ hsymbol

/-- The symbols of a trimmed text are those of the text, trimmed. -/
theorem decode_trim (text : Bytes) : decode (trim text) = trimSymbols (decode text) := by
  obtain ⟨before, after, hbefore, hafter, hsymbols⟩ := exists_trimSymbols (decode text)
  obtain ⟨front, rfl⟩ := exists_map_scalar hbefore
  obtain ⟨back, rfl⟩ := exists_map_scalar hafter
  have hbytes : text = encodeChars front ++ (trim text ++ encodeChars back) :=
    calc text = encode (decode text) := (encode_decode text).symm
      _ = encode (front.map .scalar ++ trimSymbols (decode text) ++ back.map .scalar) :=
        congrArg encode hsymbols
      _ = encodeChars front ++ (trim text ++ encodeChars back) := by
        rw [← encode_map_scalar, ← encode_map_scalar, trim]
        simp [encode]
  have hdecode : front.map Symbol.scalar ++ (decode (trim text) ++ back.map .scalar) =
      front.map .scalar ++ (trimSymbols (decode text) ++ back.map .scalar) :=
    calc _ = decode (encodeChars front ++ (trim text ++ encodeChars back)) := by
          rw [decode_encodeChars_append, decode_append_encodeChars]
      _ = decode text := congrArg decode hbytes.symm
      _ = _ := by rw [← List.append_assoc, ← hsymbols]
  exact List.append_cancel_right (List.append_cancel_left hdecode)

theorem trim_eq_self {text : Bytes} (h : ∀ symbol ∈ decode text, symbol.isBlank = false) :
    trim text = text := by
  have hkeep : ∀ symbols : List Symbol, (∀ symbol ∈ symbols, symbol.isBlank = false) →
      symbols.dropWhile Symbol.isBlank = symbols := by
    intro symbols hsymbols
    cases symbols with
    | nil => rfl
    | cons symbol symbols =>
        exact List.dropWhile_cons_of_neg (by simp [hsymbols symbol List.mem_cons_self])
  rw [trim, trimSymbols, hkeep _ h, hkeep _ fun symbol hmem => h symbol (List.mem_reverse.mp hmem),
    List.reverse_reverse, encode_decode]

/-- What separates the words of an instruction, in any text: a white-space symbol or a comma. -/
def Symbol.isSeparator (symbol : Symbol) : Bool := symbol.isBlank || symbol == .scalar ','

/-- The words of an instruction are its fields between separators. -/
theorem words_withoutCommas_eq_map_fields (text : Bytes) :
    words (Assembly.withoutCommas text) =
      (fields Symbol.isSeparator (decode text)).map encode := by
  induction hlength : text.length using Nat.strongRecOn generalizing text with
  | ind length ih =>
  subst hlength
  by_cases hcomma : 0x2C ∈ text
  · obtain ⟨left, right, rfl, hleft⟩ := List.eq_append_cons_of_mem hcomma
    have hsplit : Assembly.withoutCommas (left ++ 0x2C :: right) =
        Assembly.withoutCommas left ++ 0x20 :: Assembly.withoutCommas right := by
      simp [Assembly.withoutCommas]
    rw [hsplit, words_eq_map_fields, decode_append_cons (by decide), decode_append_cons (by decide),
      fields_append_cons _ _ (by decide), fields_append_cons _ _ (by decide), List.map_append,
      List.map_append, ← words_eq_map_fields, ← words_eq_map_fields,
      ih left.length (by simp) left rfl, ih right.length (by simp; omega) right rfl]
  · have hself : Assembly.withoutCommas text = text := by
      rw [Assembly.withoutCommas]
      conv_rhs => rw [← List.map_id text]
      apply List.map_congr_left
      intro b hb
      have hne : b ≠ 0x2C := fun heq => hcomma (heq ▸ hb)
      rw [if_neg hne, id]
    rw [hself, words_eq_map_fields]
    congr 1
    apply fields_congr
    intro symbol hsymbol
    have hne : symbol ≠ .scalar ',' := by
      rintro rfl
      exact hcomma ((scalar_mem_decode_iff (b := 0x2C) (by decide)).mp hsymbol)
    simp [Symbol.isSeparator, hne]

theorem isSeparator_of_isBlank {symbol : Symbol} (h : symbol.isBlank = true) :
    symbol.isSeparator = true := by
  rw [Symbol.isSeparator, h, Bool.true_or]

/-- Trimming takes no word away. -/
theorem words_withoutCommas_trim (text : Bytes) :
    words (Assembly.withoutCommas (trim text)) = words (Assembly.withoutCommas text) := by
  obtain ⟨before, after, hbefore, hafter, hsymbols⟩ := exists_trimSymbols (decode text)
  rw [words_withoutCommas_eq_map_fields, words_withoutCommas_eq_map_fields, decode_trim]
  conv_rhs => rw [hsymbols]
  rw [fields_append_marks fun symbol hmem => isSeparator_of_isBlank (hafter symbol hmem),
    fields_marks_append fun symbol hmem => isSeparator_of_isBlank (hbefore symbol hmem)]

theorem isSeparator_scalar_asciiChar {b : UInt8} (hb : b < 0x80) :
    Symbol.isSeparator (.scalar (asciiChar b)) = Bytes.isSeparator b := by
  have hall : ∀ n < 0x80,
      Symbol.isSeparator (.scalar (Char.ofNat n)) = Bytes.isSeparator (UInt8.ofNat n) := by decide
  simpa [asciiChar] using hall b.toNat hb

/-- With commas turned into spaces, words end at commas as well. -/
theorem words_withoutCommas {text : Bytes} (h : IsAscii text) :
    words (Assembly.withoutCommas text) = fields Bytes.isSeparator text := by
  rw [words_withoutCommas_eq_map_fields,
    map_encode_fields_decode h fun b hb => isSeparator_scalar_asciiChar hb]

end ExitLang
