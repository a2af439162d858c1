import ExitLang.Proofs.Acceptance
import ExitLang.Proofs.Meaning

/-!
# Running a text that was accepted

A text that passes the check enters the system once, at its end, and before that it only loads the
two registers of a system call. A run starts at the entry label, wherever that stands among the
instructions. What it comes to is decided by the loads from there on and by the operands of the
system call: if the number of the exit call was loaded last, if an argument was loaded at all, and
if the operands are those of the target, then the run is the exit call with the status of the
listing, and else it is not. As everywhere here, the run is one of the lines as the checker reads
them, without sections and without the assembler's own rules of spelling.

The check looks at none of these three. `check_accepts_incomplete_program` is a text that fails
in all of them and starts behind its last instruction.
-/

namespace ExitLang

namespace Assembly

variable {target : Target} {register : Bytes}

theorem isDigitRun_of_readImmediate {operand digits : Bytes} {number : Int}
    (h : readImmediate target operand number = .ok digits) :
    Bytes.dropMark? target.immediateMark operand = some digits ∧ IsDigitRun digits := by
  obtain ⟨hoperand, hdigits, -⟩ := readImmediate_eq_ok_iff.mp h
  exact ⟨Bytes.dropMark?_eq_some_iff.mpr hoperand, hdigits⟩

theorem lastLoad?_append (first second : List Line) :
    lastLoad? target register (first ++ second) =
      (lastLoad? target register second).or (lastLoad? target register first) := by
  rw [lastLoad?, List.reverse_append, List.findSome?_append]
  rfl

theorem lastLoad?_cons (line : Line) (lines : List Line) :
    lastLoad? target register (line :: lines) =
      (lastLoad? target register lines).or (line.loaded? target register) := by
  have hline : lastLoad? target register [line] = line.loaded? target register := by
    simp [lastLoad?]
  rw [← List.singleton_append, lastLoad?_append, hline]

theorem Line.loaded?_of_loads {line : Line} {digits : Bytes}
    (hregister : register ∈ [target.numberRegister, target.argumentRegister])
    (h : line.Loads target register digits) (other : Bytes) :
    line.loaded? target other =
      if upperCase register = upperCase other then some digits else none := by
  have hload : line.load? target = some ⟨upperCase register, digits⟩ :=
    load?_eq_some_iff.mpr ⟨register, hregister, rfl, h⟩
  rw [loaded?, hload]
  by_cases hsame : upperCase register = upperCase other <;> simp [Option.filter, hsame]

theorem Line.loaded?_of_not_load {line : Line}
    (h : ∀ register ∈ [target.numberRegister, target.argumentRegister], ∀ digits,
      ¬ line.Loads target register digits) : line.loaded? target register = none := by
  have hload : line.load? target = none := by
    rw [Option.eq_none_iff_forall_ne_some]
    intro load hload
    obtain ⟨other, hmem, -, hloads⟩ := load?_eq_some_iff.mp hload
    exact h other hmem _ hloads
  rw [loaded?, hload]
  rfl

/-- The system call at the end loads nothing. -/
theorem lastLoad?_concat_trap {trap : Line} (htrap : trap.mnemonic = mnemonicOf target.trap)
    (lines : List Line) :
    lastLoad? target register (lines ++ [trap]) = lastLoad? target register lines := by
  have hnone : trap.loaded? target register = none :=
    Line.loaded?_of_not_load fun _ _ _ hloads => hloads.2.1 htrap
  rw [lastLoad?_append, lastLoad?_cons, hnone]
  rfl

/-- Only instructions load anything. -/
theorem lastLoad?_filter_isInstruction (lines : List Line) :
    lastLoad? target register (lines.filter (·.IsInstruction target)) =
      lastLoad? target register lines := by
  induction lines with
  | nil => rfl
  | cons line lines ih =>
      by_cases hline : line.IsInstruction target
      · rw [List.filter_cons_of_pos (by simpa using hline), lastLoad?_cons, lastLoad?_cons, ih]
      · have hnone : line.loaded? target register = none :=
          Line.loaded?_of_not_load fun _ _ _ hloads => hline hloads.1
        rw [List.filter_cons_of_neg (by simpa using hline), lastLoad?_cons, ih, hnone,
          Option.or_none]

variable {lines : List Line}

/-- Before the system call at its end an exit program only loads registers. -/
theorem IsExitProgram.exists_loads (h : IsExitProgram target lines) :
    ∃ loads trap, lines.filter (·.IsInstruction target) = loads ++ [trap] ∧
      trap.mnemonic = mnemonicOf target.trap ∧
      ∀ line ∈ loads, ∃ register ∈ [target.numberRegister, target.argumentRegister],
        ∃ digits, line.Loads target register digits := by
  obtain ⟨loads, trap, hinstructions, htrap, hbefore⟩ := h.trapLast
  refine ⟨loads, trap, hinstructions, htrap, ?_⟩
  intro line hline
  have hmem : line ∈ lines.filter (·.IsInstruction target) := by
    rw [hinstructions]
    exact List.mem_append_left _ hline
  obtain ⟨hmem, hdecide⟩ := List.mem_filter.mp hmem
  have hinstruction := of_decide_eq_true hdecide
  rcases h.known line hmem hinstruction.1 with hdirective | hcall | hload
  · exact absurd hinstruction hdirective.not_isInstruction
  · exact absurd hcall.2 (hbefore line hline)
  · exact hload

theorem exitStatus_listingOf (target : Target) (lines : List Line) :
    (listingOf target lines).exitStatus = [] ∨ IsDigitRun (listingOf target lines).exitStatus := by
  rw [listingOf]
  cases hlast : lastLoad? target target.argumentRegister lines with
  | none => exact Or.inl rfl
  | some digits =>
      obtain ⟨-, line, -, -, ⟨-, -, -, _, _, -, -, hread⟩, -⟩ :=
        (lastLoad?_eq_some_iff (by simp)).mp hlast
      exact Or.inr (isDigitRun_of_readImmediate hread).2

end Assembly

namespace Target

open Assembly

variable {target : Target} {registers : Bytes → Option Nat} {loads : List Line}

/-- The instructions that run when the program is started at its entry label: those from the line of
the label on, as the checker reads them. Directives between them are passed over, so the section
that the label or an instruction stands in is left out of account. -/
def codeFromEntry (target : Target) (lines : List Line) : List Line :=
  (lines.dropWhile fun line => target.entry ∉ line.labels).filter (·.IsInstruction target)

/-- The entry label stands before every instruction. -/
def EntryFirst (target : Target) (lines : List Line) : Prop :=
  ∀ line ∈ lines.takeWhile (fun line => target.entry ∉ line.labels), ¬ line.IsInstruction target

/-- What a register holds after lines that load registers. -/
def valueAfter (target : Target) (registers : Bytes → Option Nat) (loads : List Line)
    (register : Bytes) : Option Nat :=
  ((lastLoad? target register loads).map target.dialect.numeral).or
    (registers (upperCase register))

theorem effect?_of_loads {line : Line} {register digits : Bytes}
    (h : line.Loads target register digits) :
    ∃ name, upperCase name = upperCase register ∧
      target.effect? line = some (.load name (target.dialect.numeral digits)) := by
  obtain ⟨-, htrap, hmove, name, operand, hoperands, hname, hread⟩ := h
  obtain ⟨hdrop, hdigits⟩ := isDigitRun_of_readImmediate hread
  refine ⟨name, hname, ?_⟩
  rw [effect?, if_neg htrap, if_pos hmove, hoperands]
  dsimp only
  rw [operandValue?, hdrop]
  dsimp only
  rw [if_pos ⟨hdigits.1, List.all_eq_true.mpr hdigits.2⟩]
  rfl

/-- Lines that load registers leave in each register what was loaded into it last. -/
theorem firstCall?_loads_append
    (hloads : ∀ line ∈ loads, ∃ register ∈ [target.numberRegister, target.argumentRegister],
      ∃ digits, line.Loads target register digits)
    (registers : Bytes → Option Nat) (rest : List Line) :
    ∃ final : Bytes → Option Nat,
      target.firstCall? registers (loads ++ rest) = target.firstCall? final rest ∧
      ∀ register, final (upperCase register) = target.valueAfter registers loads register := by
  induction loads generalizing registers with
  | nil => exact ⟨registers, rfl, fun _ => rfl⟩
  | cons line loads ih =>
      obtain ⟨⟨register, hmem, digits, hline⟩, hloads⟩ := List.forall_mem_cons.mp hloads
      obtain ⟨name, hname, heffect⟩ := effect?_of_loads hline
      obtain ⟨final, hrun, hfinal⟩ := ih hloads
        (Function.update registers (upperCase register) (some (target.dialect.numeral digits)))
      refine ⟨final, ?_, ?_⟩
      · rw [List.cons_append, firstCall?, heffect]
        dsimp only
        rw [hname, hrun]
      · intro other
        rw [hfinal, valueAfter, valueAfter, lastLoad?_cons, Line.loaded?_of_loads hmem hline]
        -- A load that comes later decides; without one it is this line, or the start.
        cases lastLoad? target other loads with
        | some later => rfl
        | none =>
            by_cases hsame : upperCase register = upperCase other
            · simp [hsame]
            · simp [hsame, Function.update_of_ne (Ne.symm hsame)]

theorem firstCall?_trap {trap : Line} (htrap : trap.mnemonic = mnemonicOf target.trap) :
    target.firstCall? registers [trap] =
      if trap.operands = (words target.trap).tail then
        (registers (upperCase target.numberRegister)).bind fun number =>
          (registers (upperCase target.argumentRegister)).map fun argument => ⟨number, argument⟩
      else none := by
  rw [firstCall?, effect?, if_pos htrap]
  by_cases hoperands : trap.operands = (words target.trap).tail
  · rw [if_pos hoperands, if_pos hoperands]
    cases registers (upperCase target.numberRegister) with
    | none => rfl
    | some number =>
        cases registers (upperCase target.argumentRegister) with
        | none => rfl
        | some argument => rfl
  · rw [if_neg hoperands, if_neg hoperands]

theorem filter_eq_append_codeFromEntry (target : Target) (lines : List Line) :
    lines.filter (·.IsInstruction target) =
      (lines.takeWhile fun line => target.entry ∉ line.labels).filter (·.IsInstruction target) ++
        target.codeFromEntry lines := by
  rw [codeFromEntry, ← List.filter_append, List.takeWhile_append_dropWhile]

theorem EntryFirst.codeFromEntry_eq {lines : List Line} (h : target.EntryFirst lines) :
    target.codeFromEntry lines = lines.filter (·.IsInstruction target) := by
  have hnone : (lines.takeWhile fun line => target.entry ∉ line.labels).filter
      (·.IsInstruction target) = [] := by
    rw [List.filter_eq_nil_iff]
    intro line hline
    simpa using h line hline
  rw [target.filter_eq_append_codeFromEntry lines, hnone, List.nil_append]

/-- What is loaded last from the entry label on is what the whole text loads last. -/
theorem lastLoad?_of_codeFromEntry {lines : List Line} {register digits : Bytes}
    (h : lastLoad? target register (target.codeFromEntry lines) = some digits) :
    lastLoad? target register lines = some digits := by
  rw [← lastLoad?_filter_isInstruction, target.filter_eq_append_codeFromEntry, lastLoad?_append, h,
    Option.some_or]

/-- A run that does not depend on what the registers hold at its start has loaded both of them. -/
theorem forall_firstCall?_eq_iff {number argument : Nat} {trap : Line}
    (hloads : ∀ line ∈ loads, ∃ register ∈ [target.numberRegister, target.argumentRegister],
      ∃ digits, line.Loads target register digits)
    (htrap : trap.mnemonic = mnemonicOf target.trap) :
    (∀ registers, target.firstCall? registers (loads ++ [trap]) = some ⟨number, argument⟩) ↔
      (lastLoad? target target.numberRegister loads).map target.dialect.numeral = some number ∧
      (lastLoad? target target.argumentRegister loads).map target.dialect.numeral =
        some argument ∧
      trap.operands = (words target.trap).tail := by
  have hrun : ∀ registers, target.firstCall? registers (loads ++ [trap]) =
      if trap.operands = (words target.trap).tail then
        (target.valueAfter registers loads target.numberRegister).bind fun number =>
          (target.valueAfter registers loads target.argumentRegister).map fun argument =>
            ⟨number, argument⟩
      else none := by
    intro registers
    obtain ⟨final, hrun, hfinal⟩ := firstCall?_loads_append hloads registers [trap]
    rw [hrun, firstCall?_trap htrap, hfinal, hfinal]
  constructor
  · intro hcall
    -- Registers that hold nothing at the start show what the loads alone give.
    have hempty := hcall fun _ => none
    rw [hrun] at hempty
    by_cases hoperands : trap.operands = (words target.trap).tail
    · rw [if_pos hoperands, valueAfter, valueAfter, Option.or_none, Option.or_none,
        Option.bind_eq_some_iff] at hempty
      obtain ⟨_, hnumber, hempty⟩ := hempty
      obtain ⟨_, hargument, heq⟩ := Option.map_eq_some_iff.mp hempty
      cases heq
      exact ⟨hnumber, hargument, hoperands⟩
    · rw [if_neg hoperands] at hempty
      cases hempty
  · rintro ⟨hnumber, hargument, hoperands⟩ registers
    rw [hrun, if_pos hoperands, valueAfter, valueAfter, hnumber, hargument]
    rfl

/-- From the entry label on there is nothing, or what ends with the system call. -/
theorem codeFromEntry_cases {lines : List Line} {trap : Line}
    (h : lines.filter (·.IsInstruction target) = loads ++ [trap]) :
    target.codeFromEntry lines = [] ∨
      ∃ rest, target.codeFromEntry lines = rest ++ [trap] ∧ ∀ line ∈ rest, line ∈ loads := by
  rw [target.filter_eq_append_codeFromEntry] at h
  rcases List.eq_nil_or_concat (target.codeFromEntry lines) with hnil | ⟨rest, last, hcode⟩
  · exact Or.inl hnil
  · rw [List.concat_eq_append] at hcode
    rw [hcode, ← List.append_assoc] at h
    obtain ⟨rfl, hlast⟩ := List.append_inj' h rfl
    cases hlast
    exact Or.inr ⟨rest, hcode, fun line hline => List.mem_append_right _ hline⟩

/-- The code from the entry label on makes the exit call with the status that the whole text shows
exactly when it is right by itself. -/
theorem forall_firstCall?_codeFromEntry_iff {lines : List Line} {trap : Line}
    (hinstructions : lines.filter (·.IsInstruction target) = loads ++ [trap])
    (hloads : ∀ line ∈ loads, ∃ register ∈ [target.numberRegister, target.argumentRegister],
      ∃ digits, line.Loads target register digits)
    (htrap : trap.mnemonic = mnemonicOf target.trap) :
    (∀ registers, target.firstCall? registers (target.codeFromEntry lines) =
        some ⟨target.exitNumber.toNat,
          target.dialect.numeral (listingOf target lines).exitStatus⟩) ↔
      (∃ digits,
        lastLoad? target target.numberRegister (target.codeFromEntry lines) = some digits ∧
          target.dialect.numeral digits = target.exitNumber.toNat) ∧
      (∃ digits,
        lastLoad? target target.argumentRegister (target.codeFromEntry lines) = some digits) ∧
      trap.operands = (words target.trap).tail := by
  have hstatus : ∀ digits,
      lastLoad? target target.argumentRegister (target.codeFromEntry lines) = some digits →
      (listingOf target lines).exitStatus = digits := by
    intro digits hlast
    rw [listingOf, lastLoad?_of_codeFromEntry hlast]
    rfl
  rcases codeFromEntry_cases hinstructions with hnil | ⟨rest, hcode, hrest⟩
  · rw [hnil]
    constructor
    · intro hcall
      cases hcall fun _ => none
    · rintro ⟨⟨_, hlast, -⟩, -⟩
      cases hlast
  · rw [hcode, lastLoad?_concat_trap htrap] at hstatus
    rw [hcode, lastLoad?_concat_trap htrap, lastLoad?_concat_trap htrap,
      forall_firstCall?_eq_iff (fun line hline => hloads line (hrest line hline)) htrap]
    constructor
    · rintro ⟨hnumber, hargument, hoperands⟩
      obtain ⟨digits, hlast, -⟩ := Option.map_eq_some_iff.mp hargument
      exact ⟨Option.map_eq_some_iff.mp hnumber, ⟨digits, hlast⟩, hoperands⟩
    · rintro ⟨hnumber, ⟨digits, hlast⟩, hoperands⟩
      refine ⟨Option.map_eq_some_iff.mpr hnumber, ?_, hoperands⟩
      rw [hlast, hstatus digits hlast, Option.map_some]

end Target

open Assembly Target

/-- **Running an accepted text.** The instructions of a text that passes the check are loads of the
two registers and, at the end, one system call. The run from the entry label makes the exit call
with the status of the listing, whatever the registers held before, exactly when the instructions
from there on load the number of the exit call last into the number register, load the argument
register at all, and end with the operands of the target's system call. Where the label stands
before every instruction these are all the instructions of the listing. -/
theorem check_ok_exits_iff {target : Target} {text : Bytes} {listing : Listing}
    (hcheck : check target text = .ok listing) :
    ∃ lines loads trap, ReadAs target text lines ∧
      listing.instructions = loads ++ [trap] ∧ trap.mnemonic = mnemonicOf target.trap ∧
      (∀ line ∈ loads, ∃ register ∈ [target.numberRegister, target.argumentRegister],
        ∃ digits, line.Loads target register digits) ∧
      (listing.exitStatus = [] ∨ IsDigitRun listing.exitStatus) ∧
      ((∀ registers, target.firstCall? registers (target.codeFromEntry lines) =
          some ⟨target.exitNumber.toNat, target.dialect.numeral listing.exitStatus⟩) ↔
        (∃ digits, IsLastLoad target target.numberRegister (target.codeFromEntry lines) digits ∧
          target.dialect.numeral digits = target.exitNumber.toNat) ∧
        (∃ digits, IsLastLoad target target.argumentRegister (target.codeFromEntry lines) digits) ∧
        trap.operands = (words target.trap).tail) ∧
      (target.EntryFirst lines → target.codeFromEntry lines = listing.instructions) := by
  obtain ⟨lines, hread, hprogram, rfl⟩ := check_eq_ok_iff.mp hcheck
  obtain ⟨loads, trap, hinstructions, htrap, hloads⟩ := hprogram.exists_loads
  have hnumber : target.numberRegister ∈ [target.numberRegister, target.argumentRegister] := by simp
  have hargument : target.argumentRegister ∈ [target.numberRegister, target.argumentRegister] := by
    simp
  refine ⟨lines, loads, trap, hread, hinstructions, htrap, hloads,
    exitStatus_listingOf target lines, ?_, EntryFirst.codeFromEntry_eq⟩
  simp only [← lastLoad?_eq_some_iff hnumber, ← lastLoad?_eq_some_iff hargument]
  exact forall_firstCall?_codeFromEntry_iff hinstructions hloads htrap

/-- A complete program, with a load that does not count before the one that does. -/
theorem check_ok_exits_second_load :
    ∃ text listing lines,
      text = utf8 "global _start\n_start: mov rdi, 1\nmov rax, 60\nmov RDI, 007\nsyscall" ∧
      check .linuxAmd64 text = .ok listing ∧ ReadAs .linuxAmd64 text lines ∧
      ∀ registers, linuxAmd64.firstCall? registers (linuxAmd64.codeFromEntry lines) =
        some ⟨60, 7⟩ := by
  obtain ⟨text, htext⟩ : ∃ text,
      text = utf8 "global _start\n_start: mov rdi, 1\nmov rax, 60\nmov RDI, 007\nsyscall" :=
    ⟨_, rfl⟩
  obtain ⟨lines, hlines⟩ : ∃ lines : List Line, lines =
      [⟨1, [], utf8 "GLOBAL", [utf8 "_start"]⟩,
       ⟨2, [utf8 "_start"], utf8 "MOV", [utf8 "rdi", utf8 "1"]⟩,
       ⟨3, [], utf8 "MOV", [utf8 "rax", utf8 "60"]⟩,
       ⟨4, [], utf8 "MOV", [utf8 "RDI", utf8 "007"]⟩, ⟨5, [], utf8 "SYSCALL", []⟩] := ⟨_, rfl⟩
  have hread : ReadAs .linuxAmd64 text lines := by
    rw [htext, hlines]
    decide
  have hcheck : check .linuxAmd64 text = .ok (listingOf .linuxAmd64 lines) := by
    rw [htext, hlines]
    decide
  obtain ⟨others, loads, trap, hothers, hinstructions, -, -, -, hexits, -⟩ :=
    check_ok_exits_iff hcheck
  obtain rfl := hread.unique hothers
  have htrap : (listingOf .linuxAmd64 others).instructions.getLast? =
      some ⟨5, [], utf8 "SYSCALL", []⟩ := by
    rw [hlines]
    decide
  rw [hinstructions, List.getLast?_concat] at htrap
  cases htrap
  have hnumber := (lastLoad?_eq_some_iff (by decide)).mp
    (show lastLoad? linuxAmd64 linuxAmd64.numberRegister (linuxAmd64.codeFromEntry others) =
      some (utf8 "60") by rw [hlines]; decide)
  have hargument := (lastLoad?_eq_some_iff (by decide)).mp
    (show lastLoad? linuxAmd64 linuxAmd64.argumentRegister (linuxAmd64.codeFromEntry others) =
      some (utf8 "007") by rw [hlines]; decide)
  have hcall := hexits.mpr ⟨⟨_, hnumber, by decide⟩, ⟨_, hargument⟩, by decide⟩
  refine ⟨text, _, others, htext, hcheck, hread, fun registers => (hcall registers).trans ?_⟩
  rw [hlines]
  decide

/-- A text that passes although the run from its entry label makes no call at all: the label stands
behind the system call, neither register is loaded, and the operand of the call is another one. -/
theorem check_accepts_incomplete_program :
    ∃ text listing lines, text = utf8 "    .global _start\n    svc #1\n_start:\n" ∧
      check .linuxArm64 text = .ok listing ∧ ReadAs .linuxArm64 text lines ∧
      ¬ linuxArm64.EntryFirst lines ∧
      (∀ line ∈ lines, ∀ register ∈ [linuxArm64.numberRegister, linuxArm64.argumentRegister],
        ∀ digits, ¬ line.Loads .linuxArm64 register digits) ∧
      listing.exitStatus = [] ∧
      (∀ trap ∈ listing.instructions, trap.operands ≠ (words linuxArm64.trap).tail) ∧
      ∀ registers, linuxArm64.firstCall? registers (linuxArm64.codeFromEntry lines) = none := by
  obtain ⟨text, htext⟩ : ∃ text, text = utf8 "    .global _start\n    svc #1\n_start:\n" := ⟨_, rfl⟩
  obtain ⟨lines, hlines⟩ : ∃ lines : List Line, lines =
      [⟨1, [], utf8 ".GLOBAL", [utf8 "_start"]⟩, ⟨2, [], utf8 "SVC", [utf8 "#1"]⟩,
       ⟨3, [utf8 "_start"], [], []⟩, ⟨4, [], [], []⟩] := ⟨_, rfl⟩
  have hread : ReadAs .linuxArm64 text lines := by
    rw [htext, hlines]
    decide
  have hcheck : check .linuxArm64 text = .ok (listingOf .linuxArm64 lines) := by
    rw [htext, hlines]
    decide
  refine ⟨text, _, lines, htext, hcheck, hread, ?_, ?_, ?_, ?_, ?_⟩
  · rw [hlines, EntryFirst]
    decide
  · intro line hline register hregister
    exact (lastLoad?_eq_none_iff hregister).mp (by rw [hlines]; revert register; decide) line hline
  · rw [hlines]
    decide
  · rw [hlines]
    decide
  · intro registers
    rw [hlines]
    rfl

end ExitLang
