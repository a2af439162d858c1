import ExitLang.Bytes

/-!
# Reading bytes as text

A byte string is read as a list of symbols: the code points that its bytes encode, and between them
the stray bytes that belong to no code point. A stretch of bytes is a code point exactly when it is
that code point's own encoding, so overlong forms, surrogates and values beyond the last code point
are all stray bytes, one symbol each. Reading loses nothing: `encode` gives back the bytes.
-/

namespace ExitLang

/-- A code point, or a byte that belongs to none. -/
inductive Symbol where
  | scalar (c : Char)
  | stray (b : UInt8)
  deriving DecidableEq

/-- The character that stands for a stray byte where only code points are wanted. -/
def replacement : Char := Char.ofNat 0xFFFD

namespace Symbol

/-- The bytes that the symbol was read from. -/
def bytes : Symbol → Bytes
  | scalar c => String.utf8EncodeChar c
  | stray b => [b]

/-- The code point of a symbol; a stray byte counts as the replacement character. -/
def char : Symbol → Char
  | scalar c => c
  | stray _ => replacement

end Symbol

/-- The bytes of a list of symbols. -/
def encode (symbols : List Symbol) : Bytes := symbols.flatMap Symbol.bytes

/-- The bytes of a list of code points. -/
def encodeChars (chars : List Char) : Bytes := chars.flatMap String.utf8EncodeChar

/-- What a first byte says about the code point it opens: how many bytes follow, and the bits that
it carries itself. -/
def opening? (b : UInt8) : Option (Nat × Nat) :=
  let n := b.toNat
  if n < 0x80 then some (0, n)
  else if n < 0xC0 then none
  else if n < 0xE0 then some (1, n - 0xC0)
  else if n < 0xF0 then some (2, n - 0xE0)
  else some (3, n - 0xF0)

/-- The code point that the text starts with. The bits of the bytes suggest one, and it counts only
if the bytes are its encoding. -/
def firstChar? : Bytes → Option Char
  | [] => none
  | b :: rest =>
    match opening? b with
    | none => none
    | some (following, high) =>
      let tail := rest.take following
      let c := Char.ofNat (tail.foldl (fun bits next => bits * 64 + next.toNat % 64) high)
      if String.utf8EncodeChar c = b :: tail then some c else none

/-- Reads symbols after passing over `skip` bytes, those that a code point read before has used. -/
def decodeFrom : (skip : Nat) → Bytes → List Symbol
  | _, [] => []
  | skip + 1, _ :: rest => decodeFrom skip rest
  | 0, b :: rest =>
    match firstChar? (b :: rest) with
    | some c => .scalar c :: decodeFrom ((String.utf8EncodeChar c).length - 1) rest
    | none => .stray b :: decodeFrom 0 rest

/-- The symbols of a byte string. -/
def decode (text : Bytes) : List Symbol := decodeFrom 0 text

/-- A code point that a text starts with is there by its encoding. -/
theorem eq_append_of_firstChar? {text : Bytes} {c : Char} (h : firstChar? text = some c) :
    text = String.utf8EncodeChar c ++ text.drop (String.utf8EncodeChar c).length := by
  cases text with
  | nil => simp [firstChar?] at h
  | cons b rest =>
    rw [firstChar?] at h
    split at h
    · cases h
    · rename_i following high _
      dsimp only at h
      split at h
      · rename_i hbytes
        cases h
        rw [hbytes]
        simp only [List.cons_append, List.length_cons, List.drop_succ_cons, List.cons.injEq,
          true_and]
        rcases Nat.le_total following rest.length with hle | hle
        · simp [Nat.min_eq_left hle]
        · simp [List.take_of_length_le hle]
      · cases h

theorem encode_decodeFrom (skip : Nat) (text : Bytes) :
    encode (decodeFrom skip text) = text.drop skip := by
  fun_induction decodeFrom skip text with
  | case1 => simp [encode]
  | case2 skip b rest ih => simpa using ih
  | case3 b rest c hfirst ih =>
    have hbytes := eq_append_of_firstChar? hfirst
    have hne := String.utf8EncodeChar_ne_nil (c := c)
    obtain ⟨first, more, henc⟩ := List.exists_cons_of_ne_nil hne
    simp only [henc, List.length_cons, Nat.add_one_sub_one, List.cons_append, List.drop_succ_cons,
      List.cons.injEq] at ih hbytes ⊢
    simp only [encode, List.flatMap_cons, Symbol.bytes, henc] at ih ⊢
    rw [ih, hbytes.1, List.cons_append, ← hbytes.2, List.drop_zero]
  | case4 b rest hfirst ih =>
    simpa [encode, Symbol.bytes] using ih

/-- Reading a byte string as symbols loses nothing. -/
theorem encode_decode (text : Bytes) : encode (decode text) = text := by
  rw [decode, encode_decodeFrom, List.drop_zero]

/-- The code points of a byte string, with a replacement character for each stray byte. -/
def codePoints (text : Bytes) : List Char := (decode text).map Symbol.char

end ExitLang
