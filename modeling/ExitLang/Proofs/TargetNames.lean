import ExitLang.Target
import ExitLang.Proofs.CaseMaps

/-!
# Names that a target is found by

A target is looked up by its name up to case, and case is folded by the Unicode tables. Two
characters outside ASCII fold to an ASCII letter, the long `ſ` to an s and the Kelvin sign to a k.
A name without these two letters is met by the ASCII spellings of its letters and by nothing else,
and no supported target has one of them in its name.
-/

namespace ExitLang

/-! ### Folding into ASCII -/

/-- An ASCII letter in lower case. All other bytes stay. -/
def Bytes.toLower (b : UInt8) : UInt8 := if 0x41 ≤ b ∧ b ≤ 0x5A then b + 0x20 else b

/-- A byte in lower case that no character outside ASCII folds to. -/
structure Bytes.FoldsAlone (b : UInt8) : Prop where
  ascii : b < 0x80
  ne_nul : b ≠ 0
  lower : Bytes.toLower b = b
  ne_k : b ≠ 0x6B
  ne_s : b ≠ 0x73

instance (b : UInt8) : Decidable (Bytes.FoldsAlone b) :=
  decidable_of_iff (b < 0x80 ∧ b ≠ 0 ∧ Bytes.toLower b = b ∧ b ≠ 0x6B ∧ b ≠ 0x73)
    ⟨fun ⟨ascii, ne_nul, lower, ne_k, ne_s⟩ => ⟨ascii, ne_nul, lower, ne_k, ne_s⟩,
      fun ⟨ascii, ne_nul, lower, ne_k, ne_s⟩ => ⟨ascii, ne_nul, lower, ne_k, ne_s⟩⟩

/-- The runs of case folding stay within ASCII, or outside, but for `ſ` and the Kelvin sign. -/
theorem Unicode.foldRuns_stay : ∀ run ∈ foldRuns, run.Stays [0x17F, 0x212A] := by
  decide +kernel

theorem Unicode.mapCase_foldRuns_strangers :
    mapCase foldRuns 0x17F = 0x73 ∧ mapCase foldRuns 0x212A = 0x6B := by
  decide +kernel

theorem toLower_lt_iff {b : UInt8} : Bytes.toLower b < 0x80 ↔ b < 0x80 := by
  rw [Bytes.toLower]
  split
  · rename_i hletter
    simp only [UInt8.lt_iff_toNat_lt, UInt8.le_iff_toNat_le, UInt8.toNat_add,
      UInt8.reduceToNat] at hletter ⊢
    omega
  · rfl

theorem fold_asciiChar {b : UInt8} (hb : b < 0x80) :
    Unicode.fold (asciiChar b) = asciiChar (Bytes.toLower b) := by
  have hall : ∀ n < 0x80, Unicode.fold (asciiChar (UInt8.ofNat n)) =
      asciiChar (Bytes.toLower (UInt8.ofNat n)) := by decide
  simpa using hall b.toNat hb

/-- What folds to such a byte is an ASCII character. -/
theorem fold_eq_asciiChar_iff {c : Char} {b : UInt8} (h : Bytes.FoldsAlone b) :
    Unicode.fold c = asciiChar b ↔ ∃ a < 0x80, asciiChar a = c ∧ Bytes.toLower a = b := by
  constructor
  · intro hfold
    by_cases hc : c.toNat < 0x80
    · obtain ⟨a, ha, rfl⟩ := exists_asciiChar_eq hc
      rw [fold_asciiChar ha, asciiChar_inj (toLower_lt_iff.mpr ha) h.ascii] at hfold
      exact ⟨a, ha, rfl, hfold⟩
    · exfalso
      obtain ⟨hmem, hcode⟩ := Unicode.mem_of_ofNat_mapCase_eq Unicode.foldRuns_stay
        (Nat.le_of_not_lt hc) h.ascii h.ne_nul hfold
      obtain ⟨hs, hk⟩ := Unicode.mapCase_foldRuns_strangers
      rcases List.mem_pair.mp hmem with hlong | hkelvin
      · rw [hlong, hs] at hcode
        exact h.ne_s (UInt8.toNat_inj.mp hcode.symm)
      · rw [hkelvin, hk] at hcode
        exact h.ne_k (UInt8.toNat_inj.mp hcode.symm)
  · rintro ⟨a, ha, rfl, rfl⟩
    exact fold_asciiChar ha

theorem map_fold_eq_iff {chars : List Char} {text : Bytes} (h : ∀ b ∈ text, Bytes.FoldsAlone b) :
    chars.map Unicode.fold = text.map asciiChar ↔
      ∃ name, IsAscii name ∧ name.map asciiChar = chars ∧ name.map Bytes.toLower = text := by
  induction text generalizing chars with
  | nil =>
      rw [List.map_nil, List.map_eq_nil_iff]
      constructor
      · rintro rfl
        exact ⟨[], by simp [IsAscii], rfl, rfl⟩
      · rintro ⟨name, -, rfl, hlower⟩
        rw [List.map_eq_nil_iff.mp hlower, List.map_nil]
  | cons b text ih =>
      rw [List.forall_mem_cons] at h
      cases chars with
      | nil => simp
      | cons c chars =>
          rw [List.map_cons, List.map_cons, List.cons.injEq, fold_eq_asciiChar_iff h.1, ih h.2]
          constructor
          · rintro ⟨⟨a, ha, rfl, rfl⟩, name, hascii, rfl, rfl⟩
            exact ⟨a :: name, List.forall_mem_cons.mpr ⟨ha, hascii⟩, rfl, rfl⟩
          · rintro ⟨name, hascii, hchars, hlower⟩
            obtain ⟨a, name, rfl, rfl, rfl⟩ := List.map_eq_cons_iff.mp hchars
            obtain ⟨ha, hrest⟩ := List.forall_mem_cons.mp hascii
            obtain ⟨rfl, rfl⟩ := List.cons.inj hlower
            exact ⟨⟨a, ha, rfl, rfl⟩, name, hrest, rfl, rfl⟩

/-- A text of such bytes is met by the ASCII spellings of it and by nothing else. -/
theorem sameUpToCase_iff {name text : Bytes} (h : ∀ b ∈ text, Bytes.FoldsAlone b) :
    sameUpToCase name text = true ↔ name.map Bytes.toLower = text := by
  have hascii : IsAscii text := fun b hb => (h b hb).ascii
  have htext : (codePoints text).map Unicode.fold = text.map asciiChar := by
    rw [codePoints_of_isAscii hascii, List.map_map]
    refine List.map_congr_left fun b hb => ?_
    rw [Function.comp_apply, fold_asciiChar (h b hb).ascii, (h b hb).lower]
  rw [sameUpToCase, beq_iff_eq, htext, map_fold_eq_iff h]
  constructor
  · rintro ⟨ascii, hname, hpoints, rfl⟩
    rw [eq_of_codePoints_eq_map_asciiChar hname hpoints.symm]
  · rintro rfl
    have hname : IsAscii name := fun b hb =>
      toLower_lt_iff.mp (hascii _ (List.mem_map_of_mem hb))
    exact ⟨name, hname, (codePoints_of_isAscii hname).symm, rfl⟩

/-! ### Supported targets -/

namespace Target

theorem foldsAlone_of_mem_supported : ∀ target ∈ supported, ∀ b ∈ target.name,
    Bytes.FoldsAlone b := by
  decide

theorem eq_of_name_eq_of_mem_supported : ∀ left ∈ supported, ∀ right ∈ supported,
    left.name = right.name → left = right := by
  decide

theorem sameUpToCase_name_iff {name : Bytes} {target : Target} (h : target ∈ supported) :
    sameUpToCase name target.name = true ↔ name.map Bytes.toLower = target.name :=
  sameUpToCase_iff (foldsAlone_of_mem_supported target h)

theorem of_lookup?_eq_some {name : Bytes} {target : Target} (h : lookup? name = some target) :
    target ∈ supported ∧ name.map Bytes.toLower = target.name := by
  rw [lookup?] at h
  have hmem := List.mem_of_find?_eq_some h
  have hsame := List.find?_some h
  exact ⟨hmem, (sameUpToCase_name_iff hmem).mp hsame⟩

theorem lookup?_eq_some_iff {name : Bytes} {target : Target} :
    lookup? name = some target ↔ target ∈ supported ∧ name.map Bytes.toLower = target.name := by
  refine ⟨of_lookup?_eq_some, ?_⟩
  rintro ⟨hmem, hname⟩
  have hsome : (lookup? name).isSome = true :=
    List.find?_isSome.mpr ⟨target, hmem, (sameUpToCase_name_iff hmem).mpr hname⟩
  obtain ⟨found, hfound⟩ := Option.isSome_iff_exists.mp hsome
  obtain ⟨hother, hsame⟩ := of_lookup?_eq_some hfound
  rw [hfound, eq_of_name_eq_of_mem_supported found hother target hmem (hsame.symm.trans hname)]

/-- **A target is found by the ASCII spellings of its name.** A name finds a target exactly when it
becomes the name of that target by taking its ASCII letters to lower case and leaving all else, so
it meets one target at most and holds ASCII bytes only. Every other name finds none. -/
theorem lookup?_finds_ascii_spellings (name : Bytes) :
    (∀ target, lookup? name = some target ↔
      target ∈ supported ∧ name.map Bytes.toLower = target.name) ∧
    (∀ left ∈ supported, ∀ right ∈ supported, sameUpToCase name left.name = true →
      sameUpToCase name right.name = true → left = right) ∧
    (∀ target, lookup? name = some target → ∀ b ∈ name, b < 0x80) ∧
    (lookup? name = none ↔ ∀ target ∈ supported, name.map Bytes.toLower ≠ target.name) := by
  refine ⟨fun target => lookup?_eq_some_iff, ?_, ?_, ?_⟩
  · intro left hleft right hright hsameLeft hsameRight
    rw [sameUpToCase_name_iff hleft] at hsameLeft
    rw [sameUpToCase_name_iff hright] at hsameRight
    exact eq_of_name_eq_of_mem_supported left hleft right hright
      (hsameLeft.symm.trans hsameRight)
  · intro target hfound b hb
    obtain ⟨hmem, hname⟩ := lookup?_eq_some_iff.mp hfound
    apply toLower_lt_iff.mp
    apply Bytes.FoldsAlone.ascii
    apply foldsAlone_of_mem_supported target hmem
    rw [← hname]
    exact List.mem_map_of_mem hb
  · rw [Option.eq_none_iff_forall_ne_some]
    simp only [ne_eq, lookup?_eq_some_iff, not_and]

/-- A name in mixed case finds its target, and one with a dotless `ı` finds none. -/
theorem lookup?_finds_mixed_case :
    lookup? (utf8 "LiNuX/ArM64") = some linuxArm64 ∧ lookup? (utf8 "lınux/arm64") = none := by
  constructor
  · exact ((lookup?_finds_ascii_spellings (utf8 "LiNuX/ArM64")).1 linuxArm64).mpr (by decide)
  · exact (lookup?_finds_ascii_spellings (utf8 "lınux/arm64")).2.2.2.mpr (by decide)

end Target

end ExitLang
