import ExitLang.Assembly.Listing
import ExitLang.Proofs.Decoding

/-!
# Digit runs and their numbers

A digit run is read as a number in some base. Assemblers do not agree on leading zeros: for one
dialect they mean nothing, for the other they switch to base eight. Stripping them keeps the decimal
number, and a stripped run is read as decimal by both.
-/

namespace ExitLang

/-- A run of one or more ASCII digits. -/
def IsDigitRun (digits : Bytes) : Prop := digits ≠ [] ∧ ∀ b ∈ digits, Bytes.isDigit b = true

/-- The number that digits spell in a base. -/
def valueIn (base : Nat) (digits : Bytes) : Nat := Nat.ofDigitChars base (digits.map asciiChar) 0

/-- The number that the assembler of a dialect reads. The GNU assembler takes several digits after
a zero as octal. -/
def Dialect.numeral (dialect : Dialect) (digits : Bytes) : Nat :=
  if dialect = .gas ∧ digits.length > 1 ∧ digits.head? = some 0x30 then valueIn 8 digits
  else valueIn 10 digits

/-- A run is `0` itself or does not start with a zero. -/
def NoLeadingZero (digits : Bytes) : Prop := digits = [0x30] ∨ digits.head? ≠ some 0x30

theorem isDigit_iff {b : UInt8} :
    Bytes.isDigit b = true ↔ 0x30 ≤ b.toNat ∧ b.toNat ≤ 0x39 := by
  simp only [Bytes.isDigit, Bool.and_eq_true, decide_eq_true_eq, UInt8.le_iff_toNat_le]
  rfl

theorem lt_of_isDigit {b : UInt8} (h : Bytes.isDigit b = true) : b < 0x80 :=
  UInt8.lt_iff_toNat_lt.mpr (Nat.lt_of_le_of_lt (isDigit_iff.mp h).2 (by decide))

theorem IsDigitRun.isAscii {digits : Bytes} (h : IsDigitRun digits) : IsAscii digits :=
  fun b hb => lt_of_isDigit (h.2 b hb)

theorem noLeadingZero_iff {digits : Bytes} :
    NoLeadingZero digits ↔ ¬ (digits.length > 1 ∧ digits.head? = some 0x30) := by
  rcases digits with _ | ⟨first, _ | ⟨second, rest⟩⟩
  · simp [NoLeadingZero]
  · by_cases hfirst : first = 0x30 <;> simp [NoLeadingZero, hfirst]
  · simp [NoLeadingZero]

theorem valueIn_replicate_zero_append (base k : Nat) (digits : Bytes) :
    valueIn base (List.replicate k 0x30 ++ digits) = valueIn base digits := by
  rw [valueIn, List.map_append, Nat.ofDigitChars_append, List.map_replicate,
    show asciiChar 0x30 = '0' from rfl, Nat.ofDigitChars_replicate_zero, Nat.mul_zero, valueIn]

/-- A run without a leading zero is read as decimal by every assembler. -/
theorem Dialect.numeral_of_noLeadingZero (dialect : Dialect) {digits : Bytes}
    (h : NoLeadingZero digits) : dialect.numeral digits = valueIn 10 digits :=
  if_neg fun hoctal => noLeadingZero_iff.mp h hoctal.2

theorem Dialect.numeral_of_ne_gas {dialect : Dialect} (h : dialect ≠ .gas) (digits : Bytes) :
    dialect.numeral digits = valueIn 10 digits :=
  if_neg fun hgas => h hgas.1

namespace Target

/-- Stripping takes nothing but zeros from the front. -/
theorem exists_replicate_append_stripZeros {digits : Bytes} (h : digits ≠ []) :
    ∃ k, digits = List.replicate k 0x30 ++ stripZeros digits := by
  have hzeros : digits.takeWhile (· == 0x30)
      = List.replicate (digits.takeWhile (· == 0x30)).length 0x30 := by
    apply List.eq_replicate_of_mem
    intro b hb
    exact eq_of_beq (List.all_eq_true.mp List.all_takeWhile b hb)
  generalize (digits.takeWhile (· == 0x30)).length = k at hzeros
  have hdigits : digits = List.replicate k 0x30 ++ digits.dropWhile (· == 0x30) := by
    rw [← hzeros, List.takeWhile_append_dropWhile]
  rw [stripZeros]
  split
  · rename_i hnil
    rw [hnil, List.append_nil] at hdigits
    cases k with
    | zero => exact absurd hdigits h
    | succ k => exact ⟨k, hdigits.trans List.replicate_succ'⟩
  · exact ⟨k, hdigits⟩

theorem noLeadingZero_stripZeros (digits : Bytes) : NoLeadingZero (stripZeros digits) := by
  rw [stripZeros]
  split
  · exact Or.inl rfl
  · right
    intro hhead
    have hnot := List.head?_dropWhile_not (· == 0x30) digits
    rw [hhead] at hnot
    exact absurd hnot (by decide)

theorem isDigitRun_stripZeros {digits : Bytes} (h : IsDigitRun digits) :
    IsDigitRun (stripZeros digits) := by
  obtain ⟨k, hdigits⟩ := exists_replicate_append_stripZeros h.1
  constructor
  · rw [stripZeros]
    split
    · decide
    · assumption
  · intro b hb
    apply h.2
    rw [hdigits]
    exact List.mem_append_right _ hb

theorem stripZeros_eq_self {digits : Bytes} (hne : digits ≠ []) (h : NoLeadingZero digits) :
    stripZeros digits = digits := by
  obtain ⟨first, rest, rfl⟩ := List.exists_cons_of_ne_nil hne
  rcases h with hzero | hfirst
  · rw [hzero]
    rfl
  · have hkeep : (first == 0x30) = false := by simpa using hfirst
    simp [stripZeros, hkeep]

theorem valueIn_stripZeros (base : Nat) {digits : Bytes} (h : digits ≠ []) :
    valueIn base (stripZeros digits) = valueIn base digits := by
  obtain ⟨k, hdigits⟩ := exists_replicate_append_stripZeros h
  conv_rhs => rw [hdigits]
  rw [valueIn_replicate_zero_append]

end Target

/-! ### Decimal notation -/

theorem map_asciiChar_decimalNat (n : Nat) : (decimalNat n).map asciiChar = Nat.toDigits 10 n := by
  rw [decimalNat, List.map_map]
  conv_rhs => rw [← List.map_id (Nat.toDigits 10 n)]
  apply List.map_congr_left
  intro c hc
  have hdigit := Nat.isDigit_of_mem_toDigits (by decide) (by decide) hc
  have hbounds := Char.isDigit_iff_toNat.mp hdigit
  exact asciiChar_ofNat_toNat (Nat.lt_of_le_of_lt hbounds.2 (by decide))

theorem isDigitRun_decimalNat (n : Nat) : IsDigitRun (decimalNat n) := by
  constructor
  · intro hnil
    exact Nat.toDigits_ne_nil (List.map_eq_nil_iff.mp hnil)
  · intro b hb
    obtain ⟨c, hc, rfl⟩ := List.mem_map.mp hb
    have hdigit := Nat.isDigit_of_mem_toDigits (by decide) (by decide) hc
    obtain ⟨hlow, hhigh⟩ := Char.isDigit_iff_toNat.mp hdigit
    simp only [Char.reduceToNat] at hlow hhigh
    have hbyte : (UInt8.ofNat c.toNat).toNat = c.toNat := by
      rw [UInt8.toNat_ofNat']
      exact Nat.mod_eq_of_lt (by omega)
    rw [isDigit_iff, hbyte]
    exact ⟨hlow, hhigh⟩

theorem valueIn_decimalNat (n : Nat) : valueIn 10 (decimalNat n) = n := by
  rw [valueIn, map_asciiChar_decimalNat, Nat.ofDigitChars_ten_toDigits]

theorem decimalNat_injective : Function.Injective decimalNat :=
  Function.LeftInverse.injective valueIn_decimalNat

theorem decimalNat_of_isDigit {b : UInt8} (h : Bytes.isDigit b = true) :
    decimalNat (b.toNat - 0x30) = [b] := by
  have hbounds := isDigit_iff.mp h
  have hlt : b.toNat - 0x30 < 10 := by omega
  rw [decimalNat, Nat.toDigits_of_lt_base hlt, List.map_singleton,
    Nat.toNat_digitChar_of_lt_ten hlt]
  congr 1
  rw [Nat.add_sub_cancel' hbounds.1, UInt8.ofNat_toNat]

theorem decimalNat_concat {n d : Nat} (hn : 0 < n) (hd : d < 10) :
    decimalNat (10 * n + d) = decimalNat n ++ decimalNat d := by
  rw [decimalNat, ← Nat.toDigits_append_toDigits (by decide) hn hd, List.map_append]
  rfl

theorem ofDigitChars_asciiChar_cons {b : UInt8} (h : Bytes.isDigit b = true) (rest : Bytes)
    (n : Nat) :
    Nat.ofDigitChars 10 ((b :: rest).map asciiChar) n =
      Nat.ofDigitChars 10 (rest.map asciiChar) (10 * n + (b.toNat - 0x30)) := by
  rw [List.map_cons, Nat.ofDigitChars_cons, toNat_asciiChar (lt_of_isDigit h)]
  rfl

/-- Digits that are read after a number other than zero are written after it. -/
theorem decimalNat_ofDigitChars {n : Nat} (hn : 0 < n) {digits : Bytes}
    (h : ∀ b ∈ digits, Bytes.isDigit b = true) :
    decimalNat (Nat.ofDigitChars 10 (digits.map asciiChar) n) = decimalNat n ++ digits := by
  induction digits generalizing n with
  | nil => rw [List.map_nil, Nat.ofDigitChars_nil, List.append_nil]
  | cons b rest ih =>
      rw [List.forall_mem_cons] at h
      have hbounds := isDigit_iff.mp h.1
      calc decimalNat (Nat.ofDigitChars 10 ((b :: rest).map asciiChar) n)
          = decimalNat (10 * n + (b.toNat - 0x30)) ++ rest := by
            rw [ofDigitChars_asciiChar_cons h.1, ih (by omega) h.2]
        _ = decimalNat n ++ b :: rest := by
            rw [decimalNat_concat hn (by omega), decimalNat_of_isDigit h.1, List.append_assoc,
              List.singleton_append]

/-- A run without a leading zero is the decimal notation of its number, so it is the only such run
for that number. -/
theorem decimalNat_valueIn {digits : Bytes} (h : IsDigitRun digits) (hzero : NoLeadingZero digits) :
    decimalNat (valueIn 10 digits) = digits := by
  rcases hzero with rfl | hhead
  · rfl
  obtain ⟨first, rest, rfl⟩ := List.exists_cons_of_ne_nil h.1
  obtain ⟨hfirst, hrest⟩ := List.forall_mem_cons.mp h.2
  have hbounds := isDigit_iff.mp hfirst
  have hne : first.toNat ≠ 0x30 := by
    intro heq
    apply hhead
    rw [List.head?_cons, show first = 0x30 from UInt8.toNat_inj.mp heq]
  rw [valueIn, ofDigitChars_asciiChar_cons hfirst, decimalNat_ofDigitChars (by omega) hrest,
    Nat.mul_zero, Nat.zero_add, decimalNat_of_isDigit hfirst, List.singleton_append]

theorem Target.stripZeros_eq_decimalNat {digits : Bytes} (h : IsDigitRun digits) :
    stripZeros digits = decimalNat (valueIn 10 digits) := by
  rw [← valueIn_stripZeros 10 h.1,
    decimalNat_valueIn (isDigitRun_stripZeros h) (noLeadingZero_stripZeros digits)]

/-! ### Immediate operands -/

theorem Bytes.dropMark?_eq_some_iff {mark text rest : Bytes} :
    dropMark? mark text = some rest ↔ text = mark ++ rest := by
  rw [dropMark?]
  constructor
  · intro hdrop
    split at hdrop
    · rename_i hmark
      obtain ⟨tail, rfl⟩ := List.isPrefixOf_iff_prefix.mp hmark
      rw [List.drop_left] at hdrop
      rw [Option.some.inj hdrop]
    · cases hdrop
  · rintro rfl
    rw [if_pos (List.isPrefixOf_iff_prefix.mpr (List.prefix_append mark rest)), List.drop_left]

/-- The operands that are read as immediates, each with its digits. -/
theorem Assembly.readImmediate_eq_ok_iff {target : Target} {operand digits : Bytes} {number : Int} :
    readImmediate target operand number = .ok digits ↔
      operand = target.immediateMark ++ digits ∧ IsDigitRun digits ∧
        (target.dialect = .gas → NoLeadingZero digits) := by
  have hrun : IsDigitRun digits ↔ ¬ (digits = [] ∨ (!digits.all Bytes.isDigit) = true) := by
    simp [IsDigitRun]
  constructor
  · intro hread
    rw [readImmediate] at hread
    split at hread
    · cases hread
    rename_i rest hdrop
    split at hread
    · cases hread
    rename_i hvalid
    split at hread
    · cases hread
    rename_i hoctal
    cases hread
    exact ⟨Bytes.dropMark?_eq_some_iff.mp hdrop, hrun.mpr hvalid,
      fun hgas => noLeadingZero_iff.mpr fun hzero => hoctal ⟨hgas, hzero⟩⟩
  · rintro ⟨hoperand, hdigits, hzero⟩
    rw [readImmediate, Bytes.dropMark?_eq_some_iff.mpr hoperand]
    dsimp only
    rw [if_neg (hrun.mp hdigits), if_neg]
    exact fun hoctal => noLeadingZero_iff.mp (hzero hoctal.1) hoctal.2

end ExitLang
