import ExitLang.Proofs.GeneratedListing

/-!
# Immediate operands and the digits behind them

The generator writes digits as an immediate operand, and the checker reads digits from one. Each
undoes the other for every target, whatever the mark of its immediates is: what is read is what was
written, up to the leading zeros that the dialect of the GNU assembler does not have. Since nothing
else in the generated text depends on the literal, the text tells two literals apart exactly as far
as the operand does.
-/

namespace ExitLang

/-- Every number has one notation that is a run of digits without a leading zero. -/
theorem eq_decimalNat_iff {digits : Bytes} {n : Nat} :
    digits = decimalNat n ↔ IsDigitRun digits ∧ NoLeadingZero digits ∧ valueIn 10 digits = n := by
  constructor
  · rintro rfl
    have hrun := isDigitRun_decimalNat n
    have hstrip := Target.stripZeros_eq_decimalNat hrun
    rw [valueIn_decimalNat] at hstrip
    refine ⟨hrun, ?_, valueIn_decimalNat n⟩
    rw [← hstrip]
    exact Target.noLeadingZero_stripZeros _
  · rintro ⟨hrun, hzero, rfl⟩
    exact (decimalNat_valueIn hrun hzero).symm

namespace Target

variable {target : Target} {digits : Bytes}

theorem spelledDigits_of_ne_gas (h : target.dialect ≠ .gas) (digits : Bytes) :
    target.spelledDigits digits = digits :=
  if_neg h

theorem spelledDigits_of_gas (h : target.dialect = .gas) (hdigits : IsDigitRun digits) :
    target.spelledDigits digits = decimalNat (valueIn 10 digits) := by
  rw [spelledDigits, if_pos h, stripZeros_eq_decimalNat hdigits]

theorem spelledDigits_eq_self (hne : digits ≠ [])
    (h : target.dialect = .gas → NoLeadingZero digits) : target.spelledDigits digits = digits := by
  by_cases hgas : target.dialect = .gas
  · rw [spelledDigits, if_pos hgas, stripZeros_eq_self hne (h hgas)]
  · exact spelledDigits_of_ne_gas hgas digits

end Target

namespace Assembly

theorem immediate_of_readImmediate {target : Target} {operand digits : Bytes} {number : Int}
    (h : readImmediate target operand number = .ok digits) :
    IsDigitRun digits ∧ target.immediate digits = operand := by
  obtain ⟨hoperand, hdigits, hzero⟩ := readImmediate_eq_ok_iff.mp h
  refine ⟨hdigits, ?_⟩
  calc target.immediate digits
      = target.immediateMark ++ target.spelledDigits digits := rfl
    _ = target.immediateMark ++ digits := by rw [Target.spelledDigits_eq_self hdigits.1 hzero]
    _ = operand := hoperand.symm

/-- **Writing and reading an immediate operand undo each other.** For every target, the operand that
is written for a digit run is read: as the run itself, or for the GNU assembler as the one run of
the same decimal value without a leading zero. And whatever operand is read, its digits are a run
that is written as this operand. -/
theorem readImmediate_inverts_immediate (target : Target) (number : Int) :
    (∀ digits, IsDigitRun digits →
      ∃ read, readImmediate target (target.immediate digits) number = .ok read ∧
        (target.dialect ≠ .gas → read = digits) ∧
        (target.dialect = .gas → ∀ other, other = read ↔
          IsDigitRun other ∧ NoLeadingZero other ∧ valueIn 10 other = valueIn 10 digits)) ∧
    (∀ operand digits, readImmediate target operand number = .ok digits →
      IsDigitRun digits ∧ target.immediate digits = operand) := by
  constructor
  · intro digits hdigits
    refine ⟨_, readImmediate_immediate target hdigits number, ?_, ?_⟩
    · exact fun hother => Target.spelledDigits_of_ne_gas hother digits
    · intro hgas other
      rw [Target.spelledDigits_of_gas hgas hdigits]
      exact eq_decimalNat_iff
  · exact fun operand digits => immediate_of_readImmediate

/-- The mark of the operands may end in a zero itself. -/
theorem readImmediate_inverts_immediate_zero_mark :
    let target := { Target.linuxArm64 with immediateMark := utf8 "#0" }
    target.immediate (utf8 "007") = utf8 "#07" ∧
      readImmediate target (utf8 "#07") 5 = .ok (utf8 "7") ∧
      target.immediate (utf8 "7") = utf8 "#07" := by
  intro target
  obtain ⟨hwritten, hread⟩ := readImmediate_inverts_immediate target 5
  obtain ⟨read, hok, -, hunique⟩ := hwritten (utf8 "007") ⟨by decide, by decide⟩
  have hseven : utf8 "7" = read :=
    (hunique rfl _).mpr ⟨⟨by decide, by decide⟩, Or.inr (by decide), by decide⟩
  rw [← hseven] at hok
  exact ⟨rfl, hok, (hread _ _ hok).2⟩

end Assembly

namespace Target

variable {target : Target} {left right : Bytes}

theorem immediate_inj : target.immediate left = target.immediate right ↔
    target.spelledDigits left = target.spelledDigits right :=
  List.append_right_inj target.immediateMark

/-- The digits of the status stand in one line only, and the other lines are the same. -/
theorem flatMap_exitLines_inj :
    (target.exitLines left).flatMap (· ++ utf8 "\n") =
        (target.exitLines right).flatMap (· ++ utf8 "\n") ↔
      target.immediate left = target.immediate right := by
  simp [exitLines, indented, loadText]

theorem spelledDigits_inj_of_gas (h : target.dialect = .gas) (hleft : IsDigitRun left)
    (hright : IsDigitRun right) :
    target.spelledDigits left = target.spelledDigits right ↔
      valueIn 10 left = valueIn 10 right := by
  rw [spelledDigits_of_gas h hleft, spelledDigits_of_gas h hright]
  exact decimalNat_injective.eq_iff

/-- **Generated texts are equal as far as the dialect identifies literals.** For every target two
digit runs have assembly. The texts are the same exactly if the runs are, and for the GNU assembler
exactly if the runs have the same decimal value. -/
theorem generate_text_eq_iff (target : Target) {left right : Bytes} (hleft : IsDigitRun left)
    (hright : IsDigitRun right) :
    ∃ leftText rightText, target.generate (.exit (.literal left)) = .ok leftText ∧
      target.generate (.exit (.literal right)) = .ok rightText ∧
      (target.dialect ≠ .gas → (leftText = rightText ↔ left = right)) ∧
      (target.dialect = .gas →
        (leftText = rightText ↔ valueIn 10 left = valueIn 10 right)) := by
  refine ⟨_, _, target.generate_literal hleft.1, target.generate_literal hright.1, ?_, ?_⟩
  · intro hother
    rw [flatMap_exitLines_inj, immediate_inj, spelledDigits_of_ne_gas hother,
      spelledDigits_of_ne_gas hother]
  · intro hgas
    rw [flatMap_exitLines_inj, immediate_inj, spelledDigits_inj_of_gas hgas hleft hright]

/-- A leading zero is lost on one of the supported targets and kept on the other. -/
theorem generate_text_eq_leadingZero :
    (∃ text, Target.linuxArm64.generate (.exit (.literal (utf8 "010"))) = .ok text ∧
      Target.linuxArm64.generate (.exit (.literal (utf8 "10"))) = .ok text) ∧
    ∃ left right, Target.linuxAmd64.generate (.exit (.literal (utf8 "010"))) = .ok left ∧
      Target.linuxAmd64.generate (.exit (.literal (utf8 "10"))) = .ok right ∧ left ≠ right := by
  have hzero : IsDigitRun (utf8 "010") := ⟨by decide, by decide⟩
  have hplain : IsDigitRun (utf8 "10") := ⟨by decide, by decide⟩
  constructor
  · obtain ⟨left, right, hleft, hright, -, hgas⟩ := generate_text_eq_iff .linuxArm64 hzero hplain
    obtain rfl : left = right := (hgas rfl).mpr (by decide)
    exact ⟨left, hleft, hright⟩
  · obtain ⟨left, right, hleft, hright, hnasm, -⟩ := generate_text_eq_iff .linuxAmd64 hzero hplain
    refine ⟨left, right, hleft, hright, fun heq => ?_⟩
    exact absurd ((hnasm (by decide)).mp heq) (by decide)

end Target

end ExitLang
