import ExitLang.Proofs.GeneratedListing
import ExitLang.Proofs.Language

/-!
# The meaning of compiled programs

An instruction line has an effect: it loads a number into a register, or it enters the system. The
number is the one that the assembler of the target reads, which for the GNU assembler depends on
leading zeros. A run of instructions keeps the registers and ends in its first system call.

A run is taken on the lines as the checker reads them: words in capitals, operands without commas,
any spelling of a name that the checker takes for it. Directives have no effect, so in which section
a line stands does not matter, and what the assembler itself would say to a spelling is left out.

For every source that compiles, the assembly passes the check of its target, and from any registers
its instructions make the exit call with the decimal value of the digits in the source.
-/

namespace ExitLang

/-- What an instruction does. -/
inductive Effect where
  | load (register : Bytes) (value : Nat)
  | systemCall
  deriving DecidableEq

/-- A system call: its number and its first argument. -/
structure SystemCall where
  number : Nat
  argument : Nat
  deriving DecidableEq

namespace Target

open Assembly

/-- The number that the assembler of the target reads from an immediate operand. -/
def operandValue? (target : Target) (operand : Bytes) : Option Nat :=
  match Bytes.dropMark? target.immediateMark operand with
  | none => none
  | some digits =>
    if digits ≠ [] ∧ digits.all Bytes.isDigit then some (target.dialect.numeral digits) else none

/-- The effect of an instruction line as the checker has read it. A line enters the system only if it
is the target's trap with all its operands. Whether the assembler knows the words as they were
spelled in the text is not asked. -/
def effect? (target : Target) (line : Line) : Option Effect :=
  if line.mnemonic = mnemonicOf target.trap then
    if line.operands = (words target.trap).tail then some .systemCall else none
  else if line.mnemonic = mnemonicOf target.move then
    match line.operands with
    | [register, operand] => (target.operandValue? operand).map (.load register)
    | _ => none
  else none

/-- The first system call of a run of instructions, in the order of their lines. Register names are
the same in any case. The sections that directives open play no part. -/
def firstCall? (target : Target) : (Bytes → Option Nat) → List Line → Option SystemCall
  | _, [] => none
  | registers, line :: rest =>
    match target.effect? line with
    | none => none
    | some (.load register value) =>
      target.firstCall? (Function.update registers (upperCase register) (some value)) rest
    | some .systemCall =>
      match registers (upperCase target.numberRegister),
          registers (upperCase target.argumentRegister) with
      | some number, some argument => some ⟨number, argument⟩
      | _, _ => none

/-! ### Generated instructions -/

theorem numeral_spelledDigits (target : Target) {digits : Bytes} (h : digits ≠ []) :
    target.dialect.numeral (target.spelledDigits digits) = valueIn 10 digits := by
  rw [spelledDigits]
  by_cases hgas : target.dialect = .gas
  · rw [if_pos hgas, Dialect.numeral_of_noLeadingZero _ (noLeadingZero_stripZeros digits),
      valueIn_stripZeros 10 h]
  · rw [if_neg hgas, Dialect.numeral_of_ne_gas hgas]

/-- Whatever the dialect makes of leading zeros, an immediate has the decimal value. -/
theorem operandValue?_immediate (target : Target) {digits : Bytes} (h : IsDigitRun digits) :
    target.operandValue? (target.immediate digits) = some (valueIn 10 digits) := by
  have hrun := isDigitRun_spelledDigits target h
  rw [operandValue?, dropMark?_immediate]
  dsimp only
  rw [if_pos ⟨hrun.1, List.all_eq_true.mpr hrun.2⟩, numeral_spelledDigits target h.1]

variable {target : Target} {digits : Bytes}

theorem WellFormed.effect?_load (h : target.WellFormed) (hdigits : IsDigitRun digits)
    (number : Int) (labels : List Bytes) (register : Bytes) :
    target.effect? ⟨number, labels, mnemonicOf target.move, [register, target.immediate digits]⟩
      = some (.load register (valueIn 10 digits)) := by
  rw [effect?]
  dsimp only
  rw [if_neg h.move_ne_trap, if_pos rfl, operandValue?_immediate target hdigits]
  rfl

theorem WellFormed.valueIn_exitNumber (h : target.WellFormed) :
    valueIn 10 (decimal target.exitNumber) = target.exitNumber.toNat := by
  obtain ⟨n, hn⟩ := Int.eq_ofNat_of_zero_le h.exitNumber
  rw [hn]
  exact valueIn_decimalNat n

/-- The three instructions of a generated listing, by what they do. -/
theorem WellFormed.map_effect?_exitListing (h : target.WellFormed) (hdigits : IsDigitRun digits) :
    (target.exitListing digits).instructions.map target.effect? =
      [some (.load target.numberRegister target.exitNumber.toNat),
       some (.load target.argumentRegister (valueIn 10 digits)),
       some .systemCall] := by
  have htrap : target.effect? ⟨6, [], mnemonicOf target.trap, (words target.trap).tail⟩
      = some .systemCall := by simp [effect?]
  simp only [exitListing, List.map_cons, List.map_nil, htrap,
    h.effect?_load h.isDigitRun_exitNumber, h.effect?_load hdigits, h.valueIn_exitNumber]

/-- Loading both registers and then entering the system makes the call with the loaded values,
whatever the registers held before. -/
theorem firstCall?_of_map_effect? {lines : List Line} {number argument : Nat}
    (hregisters : upperCase target.numberRegister ≠ upperCase target.argumentRegister)
    (heffects : lines.map target.effect? =
      [some (.load target.numberRegister number), some (.load target.argumentRegister argument),
       some .systemCall])
    (registers : Bytes → Option Nat) :
    target.firstCall? registers lines = some ⟨number, argument⟩ := by
  obtain ⟨first, _, rfl, hfirst, heffects⟩ := List.map_eq_cons_iff.mp heffects
  obtain ⟨second, _, rfl, hsecond, heffects⟩ := List.map_eq_cons_iff.mp heffects
  obtain ⟨third, _, rfl, hthird, -⟩ := List.map_eq_cons_iff.mp heffects
  simp [firstCall?, hfirst, hsecond, hthird, Function.update_of_ne hregisters]

theorem entry_of_mem_supported : ∀ target ∈ supported, target.entry = utf8 "_start" := by
  decide

theorem registers_ne_of_mem_supported : ∀ target ∈ supported,
    upperCase target.numberRegister ≠ upperCase target.argumentRegister := by
  decide

end Target

/-- **Compilation preserves meaning.** The assembly of a source that compiles passes the check of
its target. It has one label and three instructions, which load the number of the exit call and the
decimal value of the source's digits and enter the system, so that from any registers they make
exactly this call. The status in the listing is the digits themselves for nasm and the digits
without leading zeros for the GNU assembler. -/
theorem compile_preserves_meaning {source : Bytes} {target : Target} {made : Compilation}
    (htarget : target ∈ Target.supported) (hcompile : compile source target = .ok made) :
    ∃ listing, Assembly.check target made.assembly = .ok listing ∧
      listing.labels = [utf8 "_start"] ∧
      listing.instructions.map target.effect? =
        [some (.load target.numberRegister target.exitNumber.toNat),
         some (.load target.argumentRegister (valueIn 10 made.program.status)),
         some .systemCall] ∧
      (∀ registers, target.firstCall? registers listing.instructions =
        some ⟨target.exitNumber.toNat, valueIn 10 made.program.status⟩) ∧
      (target.dialect = .nasm → listing.exitStatus = made.program.status) ∧
      (target.dialect = .gas →
        (∃ zeros, made.program.status = List.replicate zeros 0x30 ++ listing.exitStatus) ∧
        IsDigitRun listing.exitStatus ∧ NoLeadingZero listing.exitStatus) := by
  have hwell := Target.wellFormed_of_mem_supported htarget
  have hdigits := (spellsExit_status hcompile).isDigitRun
  obtain ⟨assembly, hgenerate, hcheck⟩ := hwell.check_generate hdigits
  obtain ⟨-, -, hassembly⟩ := compile_eq_ok_iff.mp hcompile
  obtain rfl : assembly = made.assembly := Except.ok.inj (hgenerate.symm.trans hassembly)
  have heffects := hwell.map_effect?_exitListing hdigits
  have hlabels : [target.entry] = [utf8 "_start"] := by
    rw [Target.entry_of_mem_supported target htarget]
  have hregisters := Target.registers_ne_of_mem_supported target htarget
  refine ⟨_, hcheck, hlabels, heffects, Target.firstCall?_of_map_effect? hregisters heffects, ?_,
    fun hgas => Target.exists_replicate_append_spelledDigits hgas hdigits⟩
  intro hnasm
  simp [Target.exitListing, Target.spelledDigits, hnasm]

/-- A leading zero does not make the status octal. -/
theorem firstCall?_compile_leadingZero :
    ∃ made listing, compile (utf8 "exit 010;") .linuxArm64 = .ok made ∧
      Assembly.check .linuxArm64 made.assembly = .ok listing ∧
      ∀ registers,
        Target.linuxArm64.firstCall? registers listing.instructions = some ⟨93, 10⟩ := by
  have hsource : SpellsExit (utf8 "010") (utf8 "exit 010;") :=
    @SpellsExit.intro (utf8 "010") [] (utf8 " ") [] [] ⟨by decide, by decide⟩ (by decide)
  obtain ⟨made, hcompile, hstatus⟩ := @exists_compile_iff _ _ .linuxArm64 |>.mpr hsource
  obtain ⟨listing, hcheck, -, -, hcall, -⟩ := compile_preserves_meaning (by decide) hcompile
  rw [hstatus] at hcall
  exact ⟨made, listing, hcompile, hcheck, hcall⟩

end ExitLang
