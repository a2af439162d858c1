import ExitLang.Text.Symbol
import Mathlib.Data.List.Basic

/-!
# Encoding and decoding

Reading the encoding of a code point gives that code point and leaves the rest as it is, so a text
that was encoded from code points is read back without loss. Together with `encode_decode` this
makes bytes and code points interchangeable wherever no stray byte occurs, and for ASCII texts one
by one.
-/

namespace ExitLang

/-! Statements about all members of a list are decided by going through the list, also where the
members are of a finite type. -/

instance (priority := 2000) decidableForallMem {α : Type} {p : α → Prop} [DecidablePred p]
    (list : List α) : Decidable (∀ a ∈ list, p a) :=
  List.decidableBAll p list

instance (priority := 2000) decidableExistsMem {α : Type} {p : α → Prop} [DecidablePred p]
    (list : List α) : Decidable (∃ a ∈ list, p a) :=
  List.decidableBEx p list

/-- The first byte of an encoding tells its length, and the bits of all its bytes are the code
point. -/
theorem exists_opening_utf8EncodeChar (c : Char) :
    ∃ b tail high, String.utf8EncodeChar c = b :: tail ∧ opening? b = some (tail.length, high) ∧
      tail.foldl (fun bits next => bits * 64 + next.toNat % 64) high = c.toNat := by
  have hvalid : c.toNat < 0x110000 := by
    rcases c.valid with hlow | hhigh
    · exact Nat.lt_trans hlow (by decide)
    · exact hhigh.2
  unfold String.utf8EncodeChar
  rw [show c.val.toNat = c.toNat from rfl]
  generalize c.toNat = n at hvalid ⊢
  dsimp only
  split
  · refine ⟨_, _, n, rfl, ?_, rfl⟩
    have hbyte : (UInt8.ofNat n).toNat = n := by simp; omega
    simp [opening?, hbyte]
    omega
  split
  · refine ⟨_, _, n / 64, rfl, ?_, ?_⟩
    · have hbyte : (UInt8.ofNat (n / 64 % 32 + 192)).toNat = n / 64 + 192 := by simp; omega
      simp only [opening?, hbyte, List.length_cons, List.length_nil]
      grind
    · simp; omega
  split
  · refine ⟨_, _, n / 4096, rfl, ?_, ?_⟩
    · have hbyte : (UInt8.ofNat (n / 4096 % 16 + 224)).toNat = n / 4096 + 224 := by simp; omega
      simp only [opening?, hbyte, List.length_cons, List.length_nil]
      grind
    · simp; omega
  · refine ⟨_, _, n / 262144, rfl, ?_, ?_⟩
    · have hbyte : (UInt8.ofNat (n / 262144 % 8 + 240)).toNat = n / 262144 + 240 := by simp; omega
      simp only [opening?, hbyte, List.length_cons, List.length_nil]
      grind
    · simp; omega

theorem firstChar?_utf8EncodeChar_append (c : Char) (rest : Bytes) :
    firstChar? (String.utf8EncodeChar c ++ rest) = some c := by
  obtain ⟨b, tail, high, henc, hopening, hbits⟩ := exists_opening_utf8EncodeChar c
  rw [henc, List.cons_append, firstChar?, hopening]
  dsimp only
  rw [List.take_left, hbits, Char.ofNat_toNat, if_pos henc]

theorem firstChar?_eq_some_iff {text : Bytes} {c : Char} :
    firstChar? text = some c ↔ String.utf8EncodeChar c <+: text := by
  constructor
  · intro hfirst
    exact ⟨_, (eq_append_of_firstChar? hfirst).symm⟩
  · rintro ⟨rest, rfl⟩
    exact firstChar?_utf8EncodeChar_append c rest

theorem decodeFrom_eq_decode_drop (skip : Nat) (text : Bytes) :
    decodeFrom skip text = decode (text.drop skip) := by
  induction skip generalizing text with
  | zero => rfl
  | succ skip ih =>
      cases text with
      | nil => simp [decodeFrom, decode]
      | cons b rest => rw [decodeFrom, ih, List.drop_succ_cons]

theorem decode_utf8EncodeChar_append (c : Char) (rest : Bytes) :
    decode (String.utf8EncodeChar c ++ rest) = .scalar c :: decode rest := by
  have hfirst := firstChar?_utf8EncodeChar_append c rest
  obtain ⟨b, tail, henc⟩ := List.exists_cons_of_ne_nil (String.utf8EncodeChar_ne_nil (c := c))
  rw [henc, List.cons_append] at hfirst ⊢
  rw [decode, decodeFrom, hfirst]
  simp only [henc, List.length_cons, Nat.add_one_sub_one, decodeFrom_eq_decode_drop]
  rw [List.drop_left]

theorem decode_encodeChars_append (chars : List Char) (rest : Bytes) :
    decode (encodeChars chars ++ rest) = chars.map Symbol.scalar ++ decode rest := by
  induction chars with
  | nil => rfl
  | cons c chars ih =>
      rw [encodeChars, List.flatMap_cons, List.append_assoc, decode_utf8EncodeChar_append]
      exact congrArg (Symbol.scalar c :: ·) ih

theorem decode_encodeChars (chars : List Char) :
    decode (encodeChars chars) = chars.map Symbol.scalar := by
  simpa [decode, decodeFrom] using decode_encodeChars_append chars []

/-- Code points are read back from their encoding. -/
theorem codePoints_encodeChars (chars : List Char) : codePoints (encodeChars chars) = chars := by
  rw [codePoints, decode_encodeChars, List.map_map]
  exact List.map_id chars

theorem encodeChars_injective : Function.Injective encodeChars := by
  intro left right heq
  rw [← codePoints_encodeChars left, heq, codePoints_encodeChars]

/-- A text without stray bytes and replacement characters is the encoding of its code points. -/
theorem encodeChars_codePoints {text : Bytes} (h : replacement ∉ codePoints text) :
    encodeChars (codePoints text) = text := by
  have hsymbol : ∀ symbol ∈ decode text, String.utf8EncodeChar symbol.char = symbol.bytes := by
    intro symbol hmem
    cases symbol with
    | scalar c => rfl
    | stray b => exact absurd (List.mem_map_of_mem (f := Symbol.char) hmem) h
  calc encodeChars (codePoints text)
      = (decode text).flatMap fun symbol => String.utf8EncodeChar symbol.char := by
        rw [encodeChars, codePoints, List.flatMap_map]
    _ = encode (decode text) := List.flatMap_congr hsymbol
    _ = text := encode_decode text

theorem encodeChars_append (left right : List Char) :
    encodeChars (left ++ right) = encodeChars left ++ encodeChars right :=
  List.flatMap_append

theorem encodeChars_ne_nil {chars : List Char} (h : chars ≠ []) : encodeChars chars ≠ [] := by
  intro hnil
  apply h
  rw [← codePoints_encodeChars chars, hnil]
  rfl

/-! ### ASCII texts -/

/-- The character of an ASCII byte. -/
def asciiChar (b : UInt8) : Char := Char.ofNat b.toNat

/-- Every byte is an ASCII character of its own. -/
def IsAscii (text : Bytes) : Prop := ∀ b ∈ text, b < 0x80

instance (text : Bytes) : Decidable (IsAscii text) :=
  inferInstanceAs (Decidable (∀ b ∈ text, b < 0x80))

theorem toNat_asciiChar {b : UInt8} (hb : b < 0x80) : (asciiChar b).toNat = b.toNat := by
  have hlt : b.toNat < 0x80 := hb
  rw [asciiChar, Char.ofNat, dif_pos (Or.inl (by omega))]
  rfl

theorem utf8EncodeChar_asciiChar {b : UInt8} (hb : b < 0x80) :
    String.utf8EncodeChar (asciiChar b) = [b] := by
  have hlt : b.toNat < 0x80 := hb
  have hval : (asciiChar b).val.toNat = b.toNat := toNat_asciiChar hb
  rw [String.utf8EncodeChar, hval, if_pos (by omega), UInt8.ofNat_toNat]

theorem encodeChars_map_asciiChar {text : Bytes} (h : IsAscii text) :
    encodeChars (text.map asciiChar) = text := by
  rw [encodeChars, List.flatMap_map]
  calc text.flatMap (fun b => String.utf8EncodeChar (asciiChar b))
      = text.flatMap fun b => [b] :=
        List.flatMap_congr fun b hmem => utf8EncodeChar_asciiChar (h b hmem)
    _ = text := List.flatMap_singleton' text

theorem decode_append_of_isAscii {text : Bytes} (h : IsAscii text) (rest : Bytes) :
    decode (text ++ rest) = (text.map fun b => .scalar (asciiChar b)) ++ decode rest := by
  conv_lhs => rw [← encodeChars_map_asciiChar h]
  rw [decode_encodeChars_append, List.map_map]
  rfl

theorem decode_of_isAscii {text : Bytes} (h : IsAscii text) :
    decode text = text.map fun b => .scalar (asciiChar b) := by
  simpa [decode, decodeFrom] using decode_append_of_isAscii h []

theorem codePoints_of_isAscii {text : Bytes} (h : IsAscii text) :
    codePoints text = text.map asciiChar := by
  rw [codePoints, decode_of_isAscii h, List.map_map]
  rfl

/-- A text with the code points of an ASCII text is that text. -/
theorem eq_of_codePoints_eq_map_asciiChar {text ascii : Bytes} (h : IsAscii ascii)
    (hpoints : codePoints text = ascii.map asciiChar) : text = ascii := by
  have hreplacement : replacement ∉ codePoints text := by
    rw [hpoints]
    intro hmem
    obtain ⟨b, hb, heq⟩ := List.mem_map.mp hmem
    have hcode : b.toNat = 0xFFFD := by
      rw [← toNat_asciiChar (h b hb), heq]
      rfl
    have hlt : b.toNat < 0x80 := h b hb
    omega
  rw [← encodeChars_codePoints hreplacement, hpoints, encodeChars_map_asciiChar h]

theorem asciiChar_ofNat_toNat {c : Char} (h : c.toNat < 0x80) :
    asciiChar (UInt8.ofNat c.toNat) = c := by
  have hbyte : (UInt8.ofNat c.toNat).toNat = c.toNat := by
    rw [UInt8.toNat_ofNat']
    exact Nat.mod_eq_of_lt (by omega)
  rw [asciiChar, hbyte, Char.ofNat_toNat]

/-- Small code points are the characters of ASCII bytes. -/
theorem exists_map_asciiChar {chars : List Char} (h : ∀ c ∈ chars, c.toNat < 0x80) :
    ∃ text : Bytes, IsAscii text ∧ text.map asciiChar = chars := by
  refine ⟨chars.map fun c => UInt8.ofNat c.toNat, ?_, ?_⟩
  · intro b hmem
    obtain ⟨c, hc, rfl⟩ := List.mem_map.mp hmem
    have hlt := h c hc
    rw [UInt8.lt_iff_toNat_lt, UInt8.toNat_ofNat']
    exact Nat.lt_of_le_of_lt (Nat.mod_le _ _) hlt
  · rw [List.map_map]
    conv_rhs => rw [← List.map_id chars]
    exact List.map_congr_left fun c hc => asciiChar_ofNat_toNat (h c hc)

/-- The encoding of small code points holds nothing but their bytes. -/
theorem asciiChar_mem_of_mem_encodeChars {chars : List Char} {b : UInt8}
    (h : ∀ c ∈ chars, c.toNat < 0x80) (hmem : b ∈ encodeChars chars) :
    b < 0x80 ∧ asciiChar b ∈ chars := by
  obtain ⟨text, hascii, rfl⟩ := exists_map_asciiChar h
  rw [encodeChars_map_asciiChar hascii] at hmem
  exact ⟨hascii b hmem, List.mem_map_of_mem hmem⟩

/-! ### Texts around a code point -/

/-- A byte that stands in the encoding of a code point behind the first. -/
def Bytes.isTrailing (b : UInt8) : Bool := 0x80 ≤ b && b < 0xC0

theorem isTrailing_eq_false_of_lt {b : UInt8} (hb : b < 0x80) : Bytes.isTrailing b = false := by
  rw [Bytes.isTrailing, Bool.and_eq_false_iff, decide_eq_false_iff_not, UInt8.not_le]
  exact Or.inl hb

theorem isTrailing_of_mem_tail_utf8EncodeChar {c : Char} {b : UInt8}
    (h : b ∈ (String.utf8EncodeChar c).tail) : Bytes.isTrailing b = true := by
  have hbyte : ∀ n : Nat, Bytes.isTrailing (UInt8.ofNat (n % 64 + 128)) = true := by
    intro n
    rw [Bytes.isTrailing, Bool.and_eq_true, decide_eq_true_eq, decide_eq_true_eq,
      UInt8.le_iff_toNat_le, UInt8.lt_iff_toNat_lt, UInt8.toNat_ofNat']
    simp only [UInt8.reduceToNat]
    omega
  rw [String.utf8EncodeChar] at h
  split at h
  · cases h
  split at h
  · simp only [List.tail_cons, List.mem_cons, List.not_mem_nil, or_false] at h
    rw [h]
    exact hbyte _
  split at h
  · simp only [List.tail_cons, List.mem_cons, List.not_mem_nil, or_false] at h
    rcases h with rfl | rfl <;> exact hbyte _
  · simp only [List.tail_cons, List.mem_cons, List.not_mem_nil, or_false] at h
    rcases h with rfl | rfl | rfl <;> exact hbyte _

theorem exists_utf8EncodeChar_eq_cons (c : Char) :
    ∃ b tail, String.utf8EncodeChar c = b :: tail ∧ Bytes.isTrailing b = false := by
  obtain ⟨b, tail, high, henc, hopening, -⟩ := exists_opening_utf8EncodeChar c
  refine ⟨b, tail, henc, ?_⟩
  by_contra htrailing
  rw [Bool.not_eq_false, Bytes.isTrailing, Bool.and_eq_true, decide_eq_true_eq, decide_eq_true_eq,
    UInt8.le_iff_toNat_le, UInt8.lt_iff_toNat_lt] at htrailing
  simp only [UInt8.reduceToNat] at htrailing
  rw [opening?, if_neg (by omega), if_pos (by omega)] at hopening
  cases hopening

/-- A code point ends before a byte that is not a trailing one. -/
theorem firstChar?_append_cons {left : Bytes} (hne : left ≠ []) {b : UInt8}
    (hb : Bytes.isTrailing b = false) (right : Bytes) :
    firstChar? (left ++ b :: right) = firstChar? left := by
  apply Option.ext
  intro c
  rw [firstChar?_eq_some_iff, firstChar?_eq_some_iff]
  constructor
  · intro hprefix
    rcases List.prefix_or_prefix_of_prefix hprefix (List.prefix_append left (b :: right))
      with hshort | ⟨rest, hrest⟩
    · exact hshort
    · cases rest with
      | nil =>
          rw [List.append_nil] at hrest
          exact hrest ▸ List.prefix_rfl
      | cons next rest =>
          exfalso
          rw [← hrest] at hprefix
          obtain ⟨rfl, -⟩ := List.cons_prefix_cons.mp
            ((List.prefix_append_right_inj left).mp hprefix)
          have hmem : next ∈ (String.utf8EncodeChar c).tail := by
            rw [← hrest, List.tail_append_of_ne_nil hne]
            simp
          rw [isTrailing_of_mem_tail_utf8EncodeChar hmem] at hb
          cases hb
  · exact fun hprefix => hprefix.trans (List.prefix_append left (b :: right))

theorem decode_cons_of_firstChar? {first : UInt8} {rest : Bytes}
    (h : firstChar? (first :: rest) = none) :
    decode (first :: rest) = .stray first :: decode rest := by
  rw [decode, decodeFrom, h]
  rfl

/-- Decoding starts anew at every byte that is not a trailing one, whatever stands before it. -/
theorem decode_append_of_isTrailing_eq_false {b : UInt8} (hb : Bytes.isTrailing b = false)
    (left right : Bytes) : decode (left ++ b :: right) = decode left ++ decode (b :: right) := by
  induction hlength : left.length using Nat.strongRecOn generalizing left with
  | ind length ih =>
  subst hlength
  cases left with
  | nil => rfl
  | cons first rest =>
      have hsame := firstChar?_append_cons (List.cons_ne_nil first rest) hb right
      cases hfirst : firstChar? (first :: rest) with
      | none =>
          rw [hfirst] at hsame
          rw [List.cons_append] at hsame ⊢
          rw [decode_cons_of_firstChar? hsame, decode_cons_of_firstChar? hfirst,
            ih rest.length (Nat.lt_succ_self _) rest rfl, List.cons_append]
      | some c =>
          obtain ⟨more, hmore⟩ := firstChar?_eq_some_iff.mp hfirst
          have hlt : more.length < (first :: rest).length := by
            rw [← hmore, List.length_append]
            have := List.length_pos_iff.mpr (String.utf8EncodeChar_ne_nil (c := c))
            omega
          rw [← hmore, List.append_assoc, decode_utf8EncodeChar_append,
            decode_utf8EncodeChar_append, ih more.length hlt more rfl, List.cons_append]

theorem decode_append_cons {b : UInt8} (hb : b < 0x80) (left right : Bytes) :
    decode (left ++ b :: right) = decode left ++ .scalar (asciiChar b) :: decode right := by
  have hbyte := decode_utf8EncodeChar_append (asciiChar b) right
  rw [utf8EncodeChar_asciiChar hb] at hbyte
  rw [decode_append_of_isTrailing_eq_false (isTrailing_eq_false_of_lt hb)]
  exact congrArg (decode left ++ ·) hbyte

/-- Code points at the end of a text are read as such, whatever stands before them. -/
theorem decode_append_encodeChars (left : Bytes) (chars : List Char) :
    decode (left ++ encodeChars chars) = decode left ++ chars.map .scalar := by
  cases chars with
  | nil => simp [encodeChars]
  | cons c chars =>
      obtain ⟨b, tail, henc, hb⟩ := exists_utf8EncodeChar_eq_cons c
      rw [← decode_encodeChars, encodeChars, List.flatMap_cons, henc, List.cons_append,
        decode_append_of_isTrailing_eq_false hb]

/-- An ASCII byte of a text is a code point of it. -/
theorem scalar_mem_decode_iff {b : UInt8} (hb : b < 0x80) {text : Bytes} :
    .scalar (asciiChar b) ∈ decode text ↔ b ∈ text := by
  constructor
  · intro hmem
    rw [← encode_decode text, encode, List.mem_flatMap]
    refine ⟨_, hmem, ?_⟩
    rw [Symbol.bytes, utf8EncodeChar_asciiChar hb]
    exact List.mem_cons_self
  · intro hmem
    obtain ⟨left, right, rfl⟩ := List.append_of_mem hmem
    rw [decode_append_cons hb]
    simp

end ExitLang
