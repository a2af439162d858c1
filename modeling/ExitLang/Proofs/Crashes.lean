import ExitLang.Proofs.Acceptance
import ExitLang.Proofs.Remainders

/-!
# Where the checker has nothing to look at

The checker asks for the first word of an instruction and for the last instruction of a text, and in
neither place does it test that there is one. The last instruction is always there: it is asked for
only after one system call was counted. The first word is missing where the labels leave commas and
blanks of a line, and a text gets there if every line before it passes by itself.
-/

namespace ExitLang.Assembly

/-- The errors of a check that asked for something that is not there. -/
def CheckError.isCrash : CheckError → Bool
  | .unreadable (.noWords _) => true
  | .noLastInstruction => true
  | _ => false

/-- A line that can be read and that the target knows. -/
def Passes (target : Target) (raw : Bytes) (number : Int) : Prop :=
  ∃ line, readLine target raw number = .ok line ∧ line.IsKnown target

variable {target : Target} {draft : Draft} {error : CheckError}

theorem isCrash_eq_false_of_readImmediate {operand : Bytes} {number : Int}
    (h : readImmediate target operand number = .error error) : error.isCrash = false := by
  rw [readImmediate] at h
  split at h
  · cases h
    rfl
  split at h
  · cases h
    rfl
  split at h
  · cases h
    rfl
  · cases h

theorem isCrash_eq_false_of_readLoad {line : Line} (h : readLoad target line = .error error) :
    error.isCrash = false := by
  rw [readLoad] at h
  split at h
  · rename_i register operand hoperands
    dsimp only at h
    split at h
    · cases himmediate : readImmediate target operand line.number with
      | error e =>
          rw [himmediate] at h
          cases h
          exact isCrash_eq_false_of_readImmediate himmediate
      | ok digits =>
          rw [himmediate] at h
          cases h
    · cases h
      rfl
  · cases h
    rfl

theorem Draft.isCrash_eq_false_of_add {line : Line} (h : draft.add target line = .error error) :
    error.isCrash = false := by
  rw [add] at h
  dsimp only at h
  split at h
  · cases h
  split at h
  · cases h
  · cases h
  · split at h
    · rename_i e hread
      cases h
      exact isCrash_eq_false_of_readLoad hread
    · cases h
  · cases h
    rfl

/-- One system call among the instructions means that there is a last instruction. -/
theorem Draft.isCrash_eq_false_of_checkShape (h : draft.checkShape target = .error error) :
    error.isCrash = false := by
  rw [checkShape] at h
  split at h
  · cases h
    rfl
  split at h
  · cases h
    rfl
  split at h
  · cases h
    rfl
  rename_i hcount
  split at h
  · rename_i hnone
    rw [List.getLast?_eq_none_iff] at hnone
    rw [hnone] at hcount
    exact absurd Nat.zero_ne_one hcount
  split at h
  · cases h
  · cases h
    rfl

theorem isCrash_unreadable_iff {raw : Bytes} (number : Int) :
    (∃ e, readLine target raw number = .error e ∧ (CheckError.unreadable e).isCrash = true) ↔
      remainder target raw ≠ [] ∧ OnlySeparators (remainder target raw) := by
  constructor
  · rintro ⟨e, hread, hcrash⟩
    cases e with
    | invalidLabel soFar label => cases hcrash
    | noWords other => exact (readLine_eq_noWords_iff.mp hread).2
  · intro hremainder
    exact ⟨.noWords number, readLine_eq_noWords_iff.mpr ⟨rfl, hremainder⟩, rfl⟩

/-- Some line leaves nothing but separators behind its labels, and all lines before it pass. The
first line has the given number. -/
def MeetsSeparators (target : Target) (first : Nat) (raws : List Bytes) : Prop :=
  ∃ before raw after, raws = before ++ raw :: after ∧
    (∀ earlier ∈ before.zipIdx first, Passes target earlier.1 earlier.2) ∧
    remainder target raw ≠ [] ∧ OnlySeparators (remainder target raw)

theorem not_meetsSeparators_nil (target : Target) (first : Nat) :
    ¬ MeetsSeparators target first [] := by
  rintro ⟨before, raw, after, hraws, -⟩
  cases before <;> cases hraws

theorem meetsSeparators_cons_iff {raw : Bytes} {raws : List Bytes} {first : Nat} :
    MeetsSeparators target first (raw :: raws) ↔
      (remainder target raw ≠ [] ∧ OnlySeparators (remainder target raw)) ∨
        Passes target raw first ∧ MeetsSeparators target (first + 1) raws := by
  constructor
  · rintro ⟨before, line, after, hraws, hbefore, hline⟩
    cases before with
    | nil =>
        cases hraws
        exact .inl hline
    | cons earlier before =>
        rw [List.cons_append, List.cons.injEq] at hraws
        obtain ⟨rfl, hraws⟩ := hraws
        rw [List.zipIdx_cons, List.forall_mem_cons] at hbefore
        exact .inr ⟨hbefore.1, before, line, after, hraws, hbefore.2, hline⟩
  · rintro (hline | ⟨hpasses, before, line, after, rfl, hbefore, hline⟩)
    · exact ⟨[], raw, raws, rfl, by simp, hline⟩
    · refine ⟨raw :: before, line, after, rfl, ?_, hline⟩
      rw [List.zipIdx_cons, List.forall_mem_cons]
      exact ⟨hpasses, hbefore⟩

/-- Going through the lines crashes at the first line that does not pass, if that has no words. -/
theorem Draft.addLines_crashes_iff {raws : List Bytes} {first : Nat} :
    (∃ error, Draft.addLines target first draft raws = .error error ∧ error.isCrash = true) ↔
      MeetsSeparators target first raws := by
  induction raws generalizing first draft with
  | nil => simp [addLines, not_meetsSeparators_nil]
  | cons raw raws ih =>
      have hnext : (first : Int) + 1 = ((first + 1 : Nat) : Int) := rfl
      rw [meetsSeparators_cons_iff, ← isCrash_unreadable_iff first, addLines, hnext]
      cases hread : readLine target raw first with
      | error e =>
          have hfails : ¬ Passes target raw first := by
            rintro ⟨line, hline, -⟩
            cases hread.symm.trans hline
          simp [hfails]
      | ok line =>
          dsimp only
          cases hadd : draft.add target line with
          | error e =>
              have hfails : ¬ Passes target raw first := by
                rintro ⟨other, hother, hknown⟩
                obtain rfl : line = other := Except.ok.inj (hread.symm.trans hother)
                cases hadd.symm.trans (draft.add_of_isKnown hknown)
              simp [hfails, isCrash_eq_false_of_add hadd]
          | ok next =>
              have hpasses : Passes target raw first := ⟨line, hread, isKnown_of_add hadd⟩
              dsimp only
              rw [ih]
              simp [hpasses]

theorem Draft.addLines_ne_noLastInstruction {raws : List Bytes} {number : Int} :
    Draft.addLines target number draft raws ≠ .error .noLastInstruction := by
  induction raws generalizing number draft with
  | nil => simp [addLines]
  | cons raw raws ih =>
      rw [addLines]
      split
      · simp
      split
      · rename_i e hadd
        rintro ⟨⟩
        cases isCrash_eq_false_of_add hadd
      · exact ih

theorem check_ne_noLastInstruction {text : Bytes} :
    check target text ≠ .error .noLastInstruction := by
  rw [check]
  split
  · rename_i e hadd
    rintro ⟨⟩
    exact Draft.addLines_ne_noLastInstruction hadd
  split
  · rename_i e hshape
    rintro ⟨⟩
    cases Draft.isCrash_eq_false_of_checkShape hshape
  · simp

/-- **Where the checker crashes.** For every target and every text the check asks for something that
is not there exactly when labels leave nothing but commas and blanks of some line, and something of
it, while every line before it passes. The last instruction is never missed. -/
theorem check_crashes_iff_onlySeparators (target : Target) (text : Bytes) :
    ((∃ error, check target text = .error error ∧ error.isCrash = true) ↔
      ∃ before raw after, Bytes.splitOn 0x0A text = before ++ raw :: after ∧
        (∀ earlier ∈ before.zipIdx 1, Passes target earlier.1 earlier.2) ∧
        remainder target raw ≠ [] ∧ OnlySeparators (remainder target raw)) ∧
    check target text ≠ .error .noLastInstruction := by
  refine ⟨?_, check_ne_noLastInstruction⟩
  have hlines : (∃ error, Draft.addLines target 1 .empty (Bytes.splitOn 0x0A text) =
        .error error ∧ error.isCrash = true) ↔
      MeetsSeparators target 1 (Bytes.splitOn 0x0A text) :=
    Draft.addLines_crashes_iff
  refine Iff.trans ?_ hlines
  -- Only the lines can make the check crash, not the shape of the whole.
  rw [check]
  cases hadd : Draft.addLines target 1 .empty (Bytes.splitOn 0x0A text) with
  | error e => simp
  | ok draft =>
      dsimp only
      cases hshape : draft.checkShape target with
      | error e => simp [Draft.isCrash_eq_false_of_checkShape hshape]
      | ok _ => simp

/-- The line before it passes, and the labels and the comment leave a comma of the second line. -/
example : check .linuxAmd64 (utf8 "mov rdi 1\na: b:\t, ; c\n:") =
    .error (.unreadable (.noWords 2)) := by
  decide

end ExitLang.Assembly
