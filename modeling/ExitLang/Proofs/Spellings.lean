import ExitLang.Proofs.Acceptance
import ExitLang.Proofs.CaseMaps
import ExitLang.Proofs.Meaning
import ExitLang.Proofs.Remainders

/-!
# How accepted words are spelled

The checker compares words in upper case. Of the characters outside ASCII two have an ASCII letter
as their upper case, the dotless `ı` and the long `ſ`, so a word that passes for a name of the
target is that name letter by letter, in either case, with `ı` allowed for an i and `ſ` for an s.
Names without these letters can be written in ASCII only.

An assembler knows no such spellings: `check_accepts_long_s_and_dotless_i` is a text that passes
although nasm has neither its register nor its system call.
-/

namespace ExitLang

/-! ### Upper case -/

/-- The runs of the upper-case mapping stay within ASCII, or outside, but for `ı` and `ſ`. -/
theorem Unicode.upperRuns_stay : ∀ run ∈ upperRuns, run.Stays [0x131, 0x17F] := by
  decide +kernel

/-- An ASCII letter in upper case. All other bytes stay. -/
def Bytes.toUpper (b : UInt8) : UInt8 := if 0x61 ≤ b ∧ b ≤ 0x7A then b - 0x20 else b

/-- The two texts differ in the case of ASCII letters at most. -/
def SameUpToAsciiCase (left right : Bytes) : Prop :=
  left.map Bytes.toUpper = right.map Bytes.toUpper

instance (left right : Bytes) : Decidable (SameUpToAsciiCase left right) :=
  inferInstanceAs (Decidable (left.map Bytes.toUpper = right.map Bytes.toUpper))

/-- The characters that can be written for an ASCII character: the same one in any case, `ı` for an
i and `ſ` for an s. -/
inductive IsVariant : Char → UInt8 → Prop
  | ascii {a b : UInt8} (ascii : a < 0x80) (same : Bytes.toUpper a = Bytes.toUpper b) :
      IsVariant (asciiChar a) b
  | dotlessI {b : UInt8} (letter : Bytes.toUpper b = 0x49) : IsVariant 'ı' b
  | longS {b : UInt8} (letter : Bytes.toUpper b = 0x53) : IsVariant 'ſ' b

/-- The word is the name letter by letter, each in any spelling. -/
def IsSpelling (word name : Bytes) : Prop := List.Forall₂ IsVariant (codePoints word) name

theorem toUpper_asciiChar {b : UInt8} (hb : b < 0x80) :
    Unicode.toUpper (asciiChar b) = asciiChar (Bytes.toUpper b) := by
  have hall : ∀ n < 0x80, Unicode.toUpper (asciiChar (UInt8.ofNat n)) =
      asciiChar (Bytes.toUpper (UInt8.ofNat n)) := by decide
  simpa using hall b.toNat hb

theorem toUpper_lt {b : UInt8} (hb : b < 0x80) : Bytes.toUpper b < 0x80 := by
  have hall : ∀ n < 0x80, Bytes.toUpper (UInt8.ofNat n) < 0x80 := by decide
  simpa using hall b.toNat hb

theorem toUpper_ne_zero {b : UInt8} (hb : b < 0x80) (hne : b ≠ 0) : Bytes.toUpper b ≠ 0 := by
  have hall : ∀ n < 0x80, UInt8.ofNat n ≠ 0 → Bytes.toUpper (UInt8.ofNat n) ≠ 0 := by decide
  have hbyte := hall b.toNat hb
  rw [UInt8.ofNat_toNat] at hbyte
  exact hbyte hne

/-- An ASCII character other than NUL is the upper case of its spellings and of nothing else. -/
theorem toUpper_eq_iff_isVariant {c : Char} {b : UInt8} (hb : b < 0x80) (hne : b ≠ 0) :
    Unicode.toUpper c = asciiChar (Bytes.toUpper b) ↔ IsVariant c b := by
  have hupper := toUpper_lt hb
  constructor
  · intro heq
    by_cases hc : c.toNat < 0x80
    · obtain ⟨a, ha, rfl⟩ := exists_asciiChar_eq hc
      rw [toUpper_asciiChar ha, asciiChar_inj (toUpper_lt ha) hupper] at heq
      exact .ascii ha heq
    · obtain ⟨hmem, hcode⟩ := Unicode.mem_of_ofNat_mapCase_eq Unicode.upperRuns_stay
        (Nat.le_of_not_lt hc) hupper (toUpper_ne_zero hb hne) heq
      rcases List.mem_pair.mp hmem with hdotless | hlong
      · obtain rfl : c = 'ı' := Char.toNat_inj.mp hdotless
        exact .dotlessI (UInt8.toNat_inj.mp hcode.symm)
      · obtain rfl : c = 'ſ' := Char.toNat_inj.mp hlong
        exact .longS (UInt8.toNat_inj.mp hcode.symm)
  · intro hvariant
    cases hvariant with
    | ascii ha hsame => rw [toUpper_asciiChar ha, hsame]
    | dotlessI hletter =>
        rw [hletter]
        decide
    | longS hletter =>
        rw [hletter]
        decide

theorem map_toUpper_eq_iff {chars : List Char} {name : Bytes} (h : ∀ b ∈ name, b < 0x80 ∧ b ≠ 0) :
    chars.map Unicode.toUpper = name.map (fun b => asciiChar (Bytes.toUpper b)) ↔
      List.Forall₂ IsVariant chars name := by
  induction name generalizing chars with
  | nil => simp
  | cons b name ih =>
      rw [List.forall_mem_cons] at h
      cases chars with
      | nil => simp
      | cons c chars =>
          rw [List.map_cons, List.map_cons, List.cons.injEq, List.forall₂_cons,
            toUpper_eq_iff_isVariant h.1.1 h.1.2, ih h.2]

/-- A word is the same as a name in upper case exactly when it is a spelling of it. -/
theorem upperCase_eq_iff_isSpelling {word name : Bytes} (h : ∀ b ∈ name, b < 0x80 ∧ b ≠ 0) :
    upperCase word = upperCase name ↔ IsSpelling word name := by
  have hascii : IsAscii name := fun b hb => (h b hb).1
  have hname : (codePoints name).map Unicode.toUpper =
      name.map fun b => asciiChar (Bytes.toUpper b) := by
    rw [codePoints_of_isAscii hascii, List.map_map]
    exact List.map_congr_left fun b hb => toUpper_asciiChar (hascii b hb)
  rw [upperCase, upperCase, encodeChars_injective.eq_iff, hname, map_toUpper_eq_iff h, IsSpelling]

/-- Characters that spell neither an i nor an s are in ASCII. -/
theorem exists_map_asciiChar_of_isVariant {chars : List Char} {name : Bytes}
    (h : List.Forall₂ IsVariant chars name)
    (hname : ∀ b ∈ name, Bytes.toUpper b ≠ 0x49 ∧ Bytes.toUpper b ≠ 0x53) :
    ∃ text, IsAscii text ∧ chars = text.map asciiChar ∧ SameUpToAsciiCase text name := by
  induction h with
  | nil => exact ⟨[], by simp [IsAscii], rfl, rfl⟩
  | cons hfirst _ ih =>
      rw [List.forall_mem_cons] at hname
      obtain ⟨text, hascii, rfl, hsame⟩ := ih hname.2
      cases hfirst with
      | @ascii a _ ha heq =>
          refine ⟨a :: text, List.forall_mem_cons.mpr ⟨ha, hascii⟩, rfl, ?_⟩
          rw [SameUpToAsciiCase, List.map_cons, List.map_cons, heq, hsame]
      | dotlessI hletter => exact absurd hletter hname.1.1
      | longS hletter => exact absurd hletter hname.1.2

/-- A name without the letters i and s has no spellings but those in ASCII. -/
theorem IsSpelling.sameUpToAsciiCase {word name : Bytes} (h : IsSpelling word name)
    (hname : ∀ b ∈ name, Bytes.toUpper b ≠ 0x49 ∧ Bytes.toUpper b ≠ 0x53) :
    SameUpToAsciiCase word name := by
  obtain ⟨text, hascii, hpoints, hsame⟩ := exists_map_asciiChar_of_isVariant h hname
  rw [eq_of_codePoints_eq_map_asciiChar hascii hpoints]
  exact hsame

theorem IsWord.upperCase_eq_iff {word name : Bytes} (h : IsWord name) :
    upperCase word = upperCase name ↔ IsSpelling word name := by
  apply upperCase_eq_iff_isSpelling
  intro b hb
  refine ⟨h.isAscii b hb, ?_⟩
  rintro rfl
  exact absurd (h.2 0 hb).1 (by decide)

/-! ### Words of accepted lines -/

namespace Assembly

variable {target : Target} {text : Bytes} {listing : Listing}

theorem exists_trapWord (h : target.WellFormed) :
    ∃ name, (words target.trap).head? = some name ∧ IsWord name ∧
      mnemonicOf target.trap = upperCase name := by
  obtain ⟨name, rest, hwords⟩ := List.exists_cons_of_ne_nil h.trap.words_ne_nil
  have hname : IsWord name := by
    apply h.trap
    rw [← h.trap.words_eq, hwords]
    exact List.mem_cons_self
  refine ⟨name, by rw [hwords, List.head?_cons], hname, ?_⟩
  rw [mnemonicOf, hwords]

/-- The words of an instruction are spellings of the target's names. -/
theorem isSpelling_of_mem_instructions (hwell : target.WellFormed)
    (hcheck : check target text = .ok listing) {line : Line} (hline : line ∈ listing.instructions) :
    ∃ (index : Nat) (raw word : Bytes), (Bytes.splitOn 0x0A text)[index]? = some raw ∧
      line.number = index + 1 ∧
      words (withoutCommas (remainder target raw)) = word :: line.operands ∧
      ((IsSpelling word target.move ∧ ∃ register operand, line.operands = [register, operand] ∧
          ∃ name ∈ [target.numberRegister, target.argumentRegister], IsSpelling register name) ∨
        ∃ name, (words target.trap).head? = some name ∧ IsSpelling word name) := by
  obtain ⟨lines, hread, hprogram, rfl⟩ := check_eq_ok_iff.mp hcheck
  obtain ⟨hmem, hdecide⟩ := List.mem_filter.mp hline
  have hinstruction := of_decide_eq_true hdecide
  obtain ⟨index, raw, hraw, hnumber, hreadLine⟩ := hread.exists_of_mem hmem
  obtain ⟨word, hwords, hmnemonic⟩ := words_of_readLine hreadLine hinstruction.1
  refine ⟨index, raw, word, hraw, hnumber, hwords, ?_⟩
  rcases hprogram.known line hmem hinstruction.1 with hdirective | htrap | hload
  · exact absurd hinstruction hdirective.not_isInstruction
  · obtain ⟨name, hhead, hname, hupper⟩ := exists_trapWord hwell
    exact .inr ⟨name, hhead, hname.upperCase_eq_iff.mp (by rw [← hmnemonic, htrap.2, hupper])⟩
  · obtain ⟨name, hregister, digits, -, -, hmove, register, operand, hoperands, hname, -⟩ := hload
    have hword : IsWord name := by
      rcases List.mem_pair.mp hregister with rfl | rfl
      · exact hwell.numberRegister
      · exact hwell.argumentRegister
    rw [hmnemonic, hwell.move.mnemonicOf_eq] at hmove
    exact .inl ⟨hwell.move.upperCase_eq_iff.mp hmove, register, operand, hoperands, name, hregister,
      hword.upperCase_eq_iff.mp hname⟩

/-- Neither the load mnemonic of a supported target nor its register for the number of a system call
has an i or an s. -/
theorem ascii_names_of_mem_supported : ∀ target ∈ Target.supported,
    ∀ b ∈ target.move ++ target.numberRegister,
      Bytes.toUpper b ≠ 0x49 ∧ Bytes.toUpper b ≠ 0x53 := by
  decide

/-- **Words of accepted lines.** On every line that is kept as an instruction of a supported target
the mnemonic is written as that of a load, up to the case of ASCII letters, or it is a spelling of
the first word of the system call. A load has two operands, and the first is written as the register
for the number of the call, up to the case of ASCII letters, or is a spelling of the register for
the argument. -/
theorem check_ok_words_isSpelling {target : Target} (htarget : target ∈ Target.supported)
    {text : Bytes} {listing : Listing} (hcheck : check target text = .ok listing) :
    ∀ line ∈ listing.instructions, ∃ (index : Nat) (raw word : Bytes),
      (Bytes.splitOn 0x0A text)[index]? = some raw ∧ line.number = index + 1 ∧
      words (withoutCommas (remainder target raw)) = word :: line.operands ∧
      ((SameUpToAsciiCase word target.move ∧
          ∃ register operand, line.operands = [register, operand] ∧
            (SameUpToAsciiCase register target.numberRegister ∨
              IsSpelling register target.argumentRegister)) ∨
        ∃ name, (words target.trap).head? = some name ∧ IsSpelling word name) := by
  intro line hline
  have hwell := Target.wellFormed_of_mem_supported htarget
  obtain ⟨hmove, hnumberRegister⟩ :=
    List.forall_mem_append.mp (ascii_names_of_mem_supported target htarget)
  obtain ⟨index, raw, word, hraw, hnumber, hwords, hspelling⟩ :=
    isSpelling_of_mem_instructions hwell hcheck hline
  refine ⟨index, raw, word, hraw, hnumber, hwords, hspelling.imp_left ?_⟩
  rintro ⟨hword, register, operand, hoperands, name, hname, hregister⟩
  refine ⟨hword.sameUpToAsciiCase hmove, register, operand, hoperands, ?_⟩
  rcases List.mem_pair.mp hname with rfl | rfl
  · exact .inl (hregister.sameUpToAsciiCase hnumberRegister)
  · exact .inr hregister

/-- A load of the argument register in mixed case, and a system call with a long s. -/
theorem check_ok_words_long_s :
    ∃ text listing line, text = utf8 "global _start\n_start: Mov rDı, 5\nSYſCALL" ∧
      check .linuxAmd64 text = .ok listing ∧ line ∈ listing.instructions ∧ line.number = 3 ∧
      IsSpelling (utf8 "SYſCALL") (utf8 "syscall") := by
  obtain ⟨text, htext⟩ : ∃ text, text = utf8 "global _start\n_start: Mov rDı, 5\nSYſCALL" :=
    ⟨_, rfl⟩
  have hcheck : check .linuxAmd64 text = .ok
      ⟨[utf8 "_start"], [⟨1, [], utf8 "GLOBAL", [utf8 "_start"]⟩],
       [⟨2, [utf8 "_start"], utf8 "MOV", [utf8 "rDı", utf8 "5"]⟩, ⟨3, [], utf8 "SYSCALL", []⟩],
       utf8 "5"⟩ := by
    rw [htext]
    decide +kernel
  refine ⟨text, _, ⟨3, [], utf8 "SYSCALL", []⟩, htext, hcheck, by simp, rfl, ?_⟩
  obtain ⟨index, raw, word, hraw, hnumber, hwords, hspelling⟩ :=
    check_ok_words_isSpelling (by decide) hcheck ⟨3, [], utf8 "SYSCALL", []⟩ (by simp)
  obtain rfl : index = 2 := by
    have hindex : (3 : Int) = index + 1 := hnumber
    omega
  rw [htext] at hraw
  obtain rfl : utf8 "SYſCALL" = raw := Option.some_inj.mp (Eq.trans (by decide +kernel) hraw)
  have hword : [utf8 "SYſCALL"] = [word] := Eq.trans (by decide +kernel) hwords
  obtain rfl := (List.cons.inj hword).1
  rcases hspelling with ⟨hmove, -⟩ | ⟨name, hname, hspelling⟩
  · exact absurd hmove (by decide +kernel)
  · obtain rfl : utf8 "syscall" = name := Option.some_inj.mp (Eq.trans (by decide) hname)
    exact hspelling

/-- A text that passes although one register and the system call are none of the target's, in any
case of ASCII letters: `ı` stands for an i and `ſ` for an s. -/
theorem check_accepts_long_s_and_dotless_i :
    ∃ text listing load call, text = utf8 "global _start\n_start:\nmov rdı, 5\nſyscall\n" ∧
      check .linuxAmd64 text = .ok listing ∧ listing.instructions = [load, call] ∧
      (load.mnemonic = mnemonicOf Target.linuxAmd64.move ∧
        ∃ register operand, load.operands = [register, operand] ∧
          ¬ SameUpToAsciiCase register Target.linuxAmd64.numberRegister ∧
          ¬ SameUpToAsciiCase register Target.linuxAmd64.argumentRegister) ∧
      ∃ raw word name, (Bytes.splitOn 0x0A text)[3]? = some raw ∧ call.number = 4 ∧
        words (withoutCommas (remainder .linuxAmd64 raw)) = word :: call.operands ∧
        (words Target.linuxAmd64.trap).head? = some name ∧
        ¬ SameUpToAsciiCase word Target.linuxAmd64.move ∧ ¬ SameUpToAsciiCase word name := by
  refine ⟨_, ⟨[utf8 "_start"], [⟨1, [], utf8 "GLOBAL", [utf8 "_start"]⟩],
      [⟨3, [], utf8 "MOV", [utf8 "rdı", utf8 "5"]⟩, ⟨4, [], utf8 "SYSCALL", []⟩], utf8 "5"⟩,
    _, _, rfl, by decide +kernel, rfl, ⟨by decide, _, _, rfl, by decide +kernel, by decide +kernel⟩,
    utf8 "ſyscall", utf8 "ſyscall", utf8 "syscall", by decide +kernel, rfl, by decide +kernel,
    by decide, by decide +kernel, by decide +kernel⟩

end Assembly

end ExitLang
