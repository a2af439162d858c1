import ExitLang.Text.Case
import ExitLang.Proofs.Decoding

/-!
# Case mappings and ASCII

A case mapping can take characters from outside ASCII to ASCII letters. Which ones can be read off
the runs of its table: a run that stays within ASCII or outside takes none, and the few others are
single code points.
-/

namespace ExitLang

theorem asciiChar_inj {a b : UInt8} (ha : a < 0x80) (hb : b < 0x80) :
    asciiChar a = asciiChar b ↔ a = b := by
  rw [← Char.toNat_inj, toNat_asciiChar ha, toNat_asciiChar hb, UInt8.toNat_inj]

theorem exists_asciiChar_eq {c : Char} (h : c.toNat < 0x80) : ∃ a < 0x80, asciiChar a = c := by
  refine ⟨UInt8.ofNat c.toNat, ?_, asciiChar_ofNat_toNat h⟩
  rw [UInt8.lt_iff_toNat_lt, UInt8.toNat_ofNat']
  exact Nat.lt_of_le_of_lt (Nat.mod_le _ _) h

namespace Unicode

theorem exists_run_of_mapCase_ne {runs : List CaseRun} {n : Nat} (h : mapCase runs n ≠ n) :
    ∃ run ∈ runs, run.covers n = true ∧ mapCase runs n = (n + run.shift).toNat := by
  induction runs with
  | nil => exact absurd rfl h
  | cons run runs ih =>
      rw [mapCase] at h ⊢
      split at h
      · exact absurd rfl h
      rename_i hfirst
      rw [if_neg hfirst]
      split at h
      · rename_i hcovers
        rw [if_pos hcovers]
        exact ⟨run, List.mem_cons_self, hcovers, rfl⟩
      · rename_i hcovers
        rw [if_neg hcovers]
        obtain ⟨other, hmem, hother⟩ := ih h
        exact ⟨other, List.mem_cons_of_mem run hmem, hother⟩

/-- The run stays within ASCII or outside, or it is one of the given code points alone. -/
def CaseRun.Stays (run : CaseRun) (strangers : List Nat) : Prop :=
  run.last < 0x80 ∨ 0x80 ≤ run.first + run.shift ∨ run.first = run.last ∧ run.first ∈ strangers

instance (run : CaseRun) (strangers : List Nat) : Decidable (run.Stays strangers) :=
  inferInstanceAs (Decidable (_ ∨ _ ∨ _ ∧ _))

section Strangers

variable {runs : List CaseRun} {strangers : List Nat}
  (hruns : ∀ run ∈ runs, run.Stays strangers)

include hruns

/-- Only these code points come into ASCII from outside. -/
theorem mem_of_mapCase_lt {n : Nat} (hn : 0x80 ≤ n) (h : mapCase runs n < 0x80) :
    n ∈ strangers := by
  have hne : mapCase runs n ≠ n := by omega
  obtain ⟨run, hmem, hcovers, hshift⟩ := exists_run_of_mapCase_ne hne
  have hbetween : run.first ≤ n ∧ n ≤ run.last := by
    rw [CaseRun.covers, Bool.and_eq_true, Bool.and_eq_true] at hcovers
    exact ⟨of_decide_eq_true hcovers.1.1, of_decide_eq_true hcovers.1.2⟩
  rcases hruns run hmem with hlast | hfirst | ⟨hsingle, hstranger⟩
  · omega
  · omega
  · rwa [show n = run.first by omega]

theorem mem_of_ofNat_mapCase_eq {c : Char} {b : UInt8} (hc : 0x80 ≤ c.toNat) (hb : b < 0x80)
    (hne : b ≠ 0) (h : Char.ofNat (mapCase runs c.toNat) = asciiChar b) :
    c.toNat ∈ strangers ∧ mapCase runs c.toNat = b.toNat := by
  have hcode : mapCase runs c.toNat = b.toNat := by
    have hnat := congrArg Char.toNat h
    rw [toNat_asciiChar hb, Char.ofNat] at hnat
    by_cases hvalid : (mapCase runs c.toNat).isValidChar
    · rwa [dif_pos hvalid] at hnat
    · -- A number that is no code point would have given NUL.
      rw [dif_neg hvalid] at hnat
      exact absurd (UInt8.toNat_inj.mp hnat.symm) hne
  refine ⟨mem_of_mapCase_lt hruns hc ?_, hcode⟩
  rw [hcode]
  exact hb

end Strangers

end Unicode

end ExitLang
