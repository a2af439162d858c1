import ExitLang.Proofs.GeneratedListing
import Mathlib.Data.List.Forall2

/-!
# What the checker accepts

The checker goes through a text line by line with a draft of the listing and then holds the lines
together against the shape of an exit program. The specification here does not mention a draft: it
says which lines there may be, which labels and directives there have to be and where the system
call stands, of the lines as they are read. The two meet in `Draft.after`, the draft that lines
leave when each of them is known to the target.

A line can be of several classes when the mnemonics of a target overlap. A directive is never an
instruction, and the system call is never a load.
-/

namespace ExitLang.Assembly

/-! ### Classes of lines -/

namespace Line

variable (target : Target) (line : Line)

/-- A line that opens with one of the target's two directives. -/
def IsDirective : Prop :=
  line.mnemonic ≠ [] ∧ (line.mnemonic = mnemonicOf target.exportDirective ∨
    line.mnemonic = mnemonicOf target.sectionDirective)

/-- A line that has a mnemonic and is no directive. -/
def IsInstruction : Prop :=
  line.mnemonic ≠ [] ∧ line.mnemonic ≠ mnemonicOf target.exportDirective ∧
    line.mnemonic ≠ mnemonicOf target.sectionDirective

instance : Decidable (line.IsDirective target) := inferInstanceAs (Decidable (_ ∧ _))

instance : Decidable (line.IsInstruction target) := inferInstanceAs (Decidable (_ ∧ _))

def IsTrap : Prop := line.IsInstruction target ∧ line.mnemonic = mnemonicOf target.trap

/-- A line that loads digits into a register, whose name is the same in any case. -/
def Loads (register digits : Bytes) : Prop :=
  line.IsInstruction target ∧ line.mnemonic ≠ mnemonicOf target.trap ∧
    line.mnemonic = mnemonicOf target.move ∧
    ∃ name operand, line.operands = [name, operand] ∧ upperCase name = upperCase register ∧
      readImmediate target operand line.number = .ok digits

/-- A line that the target knows: it has no mnemonic, or it is a directive, the system call or a
load into one of the two registers of a system call. -/
def IsKnown : Prop :=
  line.mnemonic ≠ [] → line.IsDirective target ∨ line.IsTrap target ∨
    ∃ register ∈ [target.numberRegister, target.argumentRegister], ∃ digits,
      line.Loads target register digits

end Line

/-- The lines of a text as they are read, the first with the number one. -/
def ReadAs (target : Target) (text : Bytes) (lines : List Line) : Prop :=
  List.Forall₂ (fun raw line => readLine target raw.1 raw.2 = .ok line)
    ((Bytes.splitOn 0x0A text).zipIdx 1) lines

instance (target : Target) (text : Bytes) (lines : List Line) :
    Decidable (ReadAs target text lines) :=
  inferInstanceAs (Decidable (List.Forall₂ _ _ _))

/-- The shape of an exit program. -/
structure IsExitProgram (target : Target) (lines : List Line) : Prop where
  known : ∀ line ∈ lines, line.IsKnown target
  labels : lines.flatMap Line.labels = [target.entry]
  exported : ∃ line ∈ lines, line.IsDirective target ∧
    line.mnemonic = mnemonicOf target.exportDirective ∧ line.operands = [target.entry]
  trapLast : ∃ before trap, lines.filter (·.IsInstruction target) = before ++ [trap] ∧
    trap.mnemonic = mnemonicOf target.trap ∧
    ∀ line ∈ before, line.mnemonic ≠ mnemonicOf target.trap

/-- The digits of the last line that loads a register. -/
def IsLastLoad (target : Target) (register : Bytes) (lines : List Line) (digits : Bytes) : Prop :=
  ∃ before line after, lines = before ++ line :: after ∧ line.Loads target register digits ∧
    ∀ later ∈ after, ∀ other, ¬ later.Loads target register other

/-! ### One line -/

section Line

variable {target : Target} {line : Line}

theorem Line.IsDirective.not_isInstruction (h : line.IsDirective target) :
    ¬ line.IsInstruction target := by
  rintro ⟨-, hexport, hsection⟩
  exact h.2.elim hexport hsection

theorem Line.classify_eq_directive_iff (hne : line.mnemonic ≠ []) :
    classify target line.mnemonic = .directive ↔ line.IsDirective target := by
  rw [classify, IsDirective]
  grind

theorem Line.classify_eq_trap_iff (hne : line.mnemonic ≠ []) :
    classify target line.mnemonic = .trap ↔ line.IsTrap target := by
  rw [classify, IsTrap, IsInstruction]
  grind

theorem Line.classify_eq_load_iff (hne : line.mnemonic ≠ []) :
    classify target line.mnemonic = .load ↔
      line.IsInstruction target ∧ line.mnemonic ≠ mnemonicOf target.trap ∧
        line.mnemonic = mnemonicOf target.move := by
  rw [classify, IsInstruction]
  grind

theorem readLoad_eq_ok_iff {load : Load} :
    readLoad target line = .ok load ↔
      ∃ register ∈ [target.numberRegister, target.argumentRegister],
        load.register = upperCase register ∧
        ∃ name operand, line.operands = [name, operand] ∧ upperCase name = upperCase register ∧
          readImmediate target operand line.number = .ok load.digits := by
  constructor
  · intro hread
    rw [readLoad] at hread
    split at hread
    · rename_i name operand hoperands
      dsimp only at hread
      split at hread
      · rename_i hname
        cases himmediate : readImmediate target operand line.number with
        | error e =>
            rw [himmediate] at hread
            cases hread
        | ok digits =>
            rw [himmediate] at hread
            cases hread
            rcases hname with hname | hname
            · exact ⟨_, by simp, hname, name, operand, hoperands, hname, himmediate⟩
            · exact ⟨_, by simp, hname, name, operand, hoperands, hname, himmediate⟩
      · cases hread
    · cases hread
  · rintro ⟨register, hmem, hregister, name, operand, hoperands, hname, himmediate⟩
    have hknown : upperCase name = upperCase target.numberRegister ∨
        upperCase name = upperCase target.argumentRegister := by
      rw [hname]
      rcases List.mem_pair.mp hmem with rfl | rfl
      · exact Or.inl rfl
      · exact Or.inr rfl
    rw [readLoad, hoperands]
    dsimp only
    rw [if_pos hknown, himmediate, hname, ← hregister]
    rfl

/-- The load that a line is kept as. -/
def Line.load? (target : Target) (line : Line) : Option Load :=
  if line.mnemonic ≠ [] ∧ classify target line.mnemonic = .load then
    (readLoad target line).toOption
  else none

theorem Line.load?_eq_some_iff {load : Load} :
    line.load? target = some load ↔
      ∃ register ∈ [target.numberRegister, target.argumentRegister],
        load.register = upperCase register ∧ line.Loads target register load.digits := by
  have hoption : (readLoad target line).toOption = some load ↔ readLoad target line = .ok load := by
    cases readLoad target line <;> simp [Except.toOption]
  rw [load?]
  constructor
  · intro hload
    split at hload
    · rename_i hclass
      obtain ⟨hinstruction, htrap, hmove⟩ := (classify_eq_load_iff hclass.1).mp hclass.2
      obtain ⟨register, hmem, hregister, hoperands⟩ := readLoad_eq_ok_iff.mp (hoption.mp hload)
      exact ⟨register, hmem, hregister, hinstruction, htrap, hmove, hoperands⟩
    · cases hload
  · rintro ⟨register, hmem, hregister, hinstruction, htrap, hmove, hoperands⟩
    have hclass := (classify_eq_load_iff hinstruction.1).mpr ⟨hinstruction, htrap, hmove⟩
    rw [if_pos ⟨hinstruction.1, hclass⟩, hoption]
    exact readLoad_eq_ok_iff.mpr ⟨register, hmem, hregister, hoperands⟩

theorem Line.load?_eq_none (h : line.mnemonic ≠ [] → classify target line.mnemonic ≠ .load) :
    line.load? target = none :=
  if_neg fun hclass => h hclass.1 hclass.2

end Line

namespace Draft

variable {target : Target} {line : Line}

/-- The draft after lines that the target knows. -/
def after (target : Target) (draft : Draft) (lines : List Line) : Draft where
  labels := draft.labels ++ lines.flatMap Line.labels
  directives := draft.directives ++ lines.filter (·.IsDirective target)
  instructions := draft.instructions ++ lines.filter (·.IsInstruction target)
  loads := (lines.filterMap (·.load? target)).reverse ++ draft.loads

theorem after_nil (draft : Draft) : draft.after target [] = draft := by
  simp [after]

theorem after_append (draft : Draft) (first second : List Line) :
    (draft.after target first).after target second = draft.after target (first ++ second) := by
  simp [after]

theorem add_of_isKnown (draft : Draft) (h : line.IsKnown target) :
    draft.add target line = .ok (draft.after target [line]) := by
  by_cases hnil : line.mnemonic = []
  · have hdirective : ¬ line.IsDirective target := fun h => h.1 hnil
    have hinstruction : ¬ line.IsInstruction target := fun h => h.1 hnil
    rw [add_labels draft hnil]
    simp [after, hdirective, hinstruction, Line.load?_eq_none fun hne => absurd hnil hne]
  rcases h hnil with hdirective | htrap | ⟨register, hmem, digits, hloads⟩
  · have hclass := (Line.classify_eq_directive_iff hnil).mpr hdirective
    rw [add_directive draft hnil hclass]
    simp [after, hdirective, hdirective.not_isInstruction, Line.load?_eq_none, hclass]
  · have hdirective : ¬ line.IsDirective target := fun h => h.not_isInstruction htrap.1
    have hclass := (Line.classify_eq_trap_iff hnil).mpr htrap
    rw [add_trap draft hnil hclass]
    simp [after, hdirective, htrap.1, Line.load?_eq_none, hclass]
  · have hdirective : ¬ line.IsDirective target := fun h => h.not_isInstruction hloads.1
    have hload : line.load? target = some ⟨upperCase register, digits⟩ :=
      Line.load?_eq_some_iff.mpr ⟨register, hmem, rfl, hloads⟩
    have hclass := (Line.classify_eq_load_iff hnil).mpr ⟨hloads.1, hloads.2.1, hloads.2.2.1⟩
    have hread : readLoad target line = .ok ⟨upperCase register, digits⟩ :=
      readLoad_eq_ok_iff.mpr ⟨register, hmem, rfl, hloads.2.2.2⟩
    rw [add_load draft hnil hclass hread]
    simp [after, hdirective, hloads.1, hload]

theorem isKnown_of_add {draft next : Draft} (h : draft.add target line = .ok next) :
    line.IsKnown target := by
  intro hnil
  rw [add] at h
  dsimp only at h
  rw [if_neg hnil] at h
  cases hclass : classify target line.mnemonic with
  | directive => exact Or.inl ((Line.classify_eq_directive_iff hnil).mp hclass)
  | trap => exact Or.inr (Or.inl ((Line.classify_eq_trap_iff hnil).mp hclass))
  | load =>
      obtain ⟨hinstruction, htrap, hmove⟩ := (Line.classify_eq_load_iff hnil).mp hclass
      cases hread : readLoad target line with
      | error e => simp [hclass, hread] at h
      | ok load =>
          obtain ⟨register, hmem, -, hoperands⟩ := readLoad_eq_ok_iff.mp hread
          exact Or.inr (Or.inr ⟨register, hmem, _, hinstruction, htrap, hmove, hoperands⟩)
  | unknown => simp [hclass] at h

/-- One line: it has to be known, and what it adds does not depend on the lines before. -/
theorem add_eq_ok_iff {draft next : Draft} :
    draft.add target line = .ok next ↔ line.IsKnown target ∧ next = draft.after target [line] := by
  constructor
  · intro hadd
    have hknown := isKnown_of_add hadd
    exact ⟨hknown, Except.ok.inj (hadd.symm.trans (draft.add_of_isKnown hknown))⟩
  · rintro ⟨hknown, rfl⟩
    exact draft.add_of_isKnown hknown

end Draft

/-! ### All lines -/

section Lines

variable {target : Target}

theorem number_of_readPieces {line result : Line} {pieces : List Bytes}
    (h : readPieces line pieces = .ok result) : result.number = line.number := by
  have hinstruction : ∀ {line : Line} {text : Bytes},
      readInstruction line text = .ok result → result.number = line.number := by
    intro line text hread
    rw [readInstruction] at hread
    split at hread
    · cases hread
    · cases hread
      rfl
  fun_induction readPieces line pieces with
  | case1 line =>
      cases h
      rfl
  | case2 line last hblank =>
      cases h
      rfl
  | case3 line last hblank => exact hinstruction h
  | case4 line piece next more label hlabel => exact hinstruction h
  | case5 line piece next more label hlabel hvalid ih => exact ih h
  | case6 line piece next more label hlabel hvalid => cases h

theorem Draft.addLines_cons_eq_ok_iff {number : Int} {draft final : Draft} {raw : Bytes}
    {raws : List Bytes} :
    addLines target number draft (raw :: raws) = .ok final ↔
      ∃ line next, readLine target raw number = .ok line ∧ draft.add target line = .ok next ∧
        addLines target (number + 1) next raws = .ok final := by
  constructor
  · intro h
    rw [addLines] at h
    split at h
    · cases h
    rename_i line hread
    split at h
    · cases h
    rename_i next hadd
    exact ⟨line, next, hread, hadd, h⟩
  · rintro ⟨line, next, hread, hadd, h⟩
    rw [addLines_cons hread hadd, h]

/-- All lines: each has to be readable and known. -/
theorem Draft.addLines_eq_ok_iff {raws : List Bytes} {first : Nat} {draft final : Draft} :
    Draft.addLines target first draft raws = .ok final ↔
      ∃ lines, List.Forall₂ (fun raw line => readLine target raw.1 raw.2 = .ok line)
          (raws.zipIdx first) lines ∧
        (∀ line ∈ lines, line.IsKnown target) ∧ final = draft.after target lines := by
  induction raws generalizing first draft with
  | nil =>
      rw [addLines, Except.ok.injEq, List.zipIdx_nil]
      constructor
      · rintro rfl
        exact ⟨[], .nil, by simp, by rw [after_nil]⟩
      · rintro ⟨_, ⟨⟩, -, rfl⟩
        rw [after_nil]
  | cons raw raws ih =>
      have hnext : (first : Int) + 1 = ((first + 1 : Nat) : Int) := rfl
      rw [List.zipIdx_cons, addLines_cons_eq_ok_iff, hnext]
      constructor
      · rintro ⟨line, next, hread, hline, hadd⟩
        obtain ⟨hknown, rfl⟩ := add_eq_ok_iff.mp hline
        obtain ⟨lines, hlines, hall, rfl⟩ := ih.mp hadd
        exact ⟨line :: lines, .cons hread hlines, List.forall_mem_cons.mpr ⟨hknown, hall⟩,
          after_append draft [line] lines⟩
      · rintro ⟨_, hforall, hall, rfl⟩
        cases hforall with
        | @cons _ line _ lines hread hlines =>
            obtain ⟨hknown, hall⟩ := List.forall_mem_cons.mp hall
            refine ⟨line, _, hread, draft.add_of_isKnown hknown, ?_⟩
            exact ih.mpr ⟨lines, hlines, hall, (after_append draft [line] lines).symm⟩

theorem number_of_readLine {raw : Bytes} {number : Int} {line : Line}
    (h : readLine target raw number = .ok line) : line.number = number :=
  number_of_readPieces h

variable {text : Bytes} {lines : List Line}

theorem ReadAs.unique {others : List Line} (h : ReadAs target text lines)
    (hothers : ReadAs target text others) : others = lines := by
  refine List.right_unique_forall₂' ?_ hothers h
  intro raw first second hfirst hsecond
  exact Except.ok.inj (hfirst.symm.trans hsecond)

/-- Every line that is read stands in the text at its number. -/
theorem ReadAs.exists_of_mem (h : ReadAs target text lines) {line : Line} (hmem : line ∈ lines) :
    ∃ (index : Nat) (raw : Bytes), (Bytes.splitOn 0x0A text)[index]? = some raw ∧
      line.number = index + 1 ∧ readLine target raw line.number = .ok line := by
  obtain ⟨⟨raw, position⟩, hraw, hread⟩ :
      ∃ raw ∈ (Bytes.splitOn 0x0A text).zipIdx 1, readLine target raw.1 raw.2 = .ok line := by
    rw [ReadAs] at h
    generalize (Bytes.splitOn 0x0A text).zipIdx 1 = raws at h ⊢
    induction h with
    | nil => cases hmem
    | cons hread _ ih =>
        rcases List.mem_cons.mp hmem with rfl | hmem
        · exact ⟨_, List.mem_cons_self, hread⟩
        · obtain ⟨raw, hraw, hread⟩ := ih hmem
          exact ⟨raw, List.mem_cons_of_mem _ hraw, hread⟩
  rw [List.mk_mem_zipIdx_iff_le_and_getElem?_sub] at hraw
  have hnumber := number_of_readLine hread
  refine ⟨position - 1, raw, hraw.2, ?_, hnumber ▸ hread⟩
  omega

theorem ReadAs.pairwise_number (h : ReadAs target text lines) :
    (lines.map Line.number).Pairwise (· < ·) := by
  have hnumbers : ((Bytes.splitOn 0x0A text).zipIdx 1).map (fun raw => (raw.2 : Int)) =
      lines.map Line.number := by
    rw [← List.forall₂_eq_eq_eq, List.forall₂_map_left_iff, List.forall₂_map_right_iff]
    exact h.imp fun _ _ hread => (number_of_readLine hread).symm
  have hcast : (fun raw : Bytes × Nat => (raw.2 : Int)) = Nat.cast ∘ Prod.snd := rfl
  rw [← hnumbers, hcast, ← List.map_map, List.zipIdx_map_snd, List.pairwise_map]
  exact List.Pairwise.imp (fun hlt => Int.ofNat_lt.mpr hlt) (List.pairwise_lt_range' 1)

/-! ### The shape of the whole -/

/-- A property that holds of one element only, and of the last one. -/
theorem countP_eq_one_and_getLast?_iff {α : Type} (p : α → Bool) (list : List α) :
    (list.countP p = 1 ∧ ∃ last, list.getLast? = some last ∧ p last = true) ↔
      ∃ before last, list = before ++ [last] ∧ p last = true ∧ ∀ a ∈ before, ¬ p a = true := by
  constructor
  · rintro ⟨hcount, last, hlast, hp⟩
    obtain ⟨before, rfl⟩ := List.getLast?_eq_some_iff.mp hlast
    rw [List.countP_append, List.countP_singleton, if_pos hp, Nat.add_eq_right,
      List.countP_eq_zero] at hcount
    exact ⟨before, last, rfl, hp, hcount⟩
  · rintro ⟨before, last, rfl, hp, hbefore⟩
    refine ⟨?_, last, List.getLast?_concat, hp⟩
    rw [List.countP_append, List.countP_singleton, if_pos hp, List.countP_eq_zero.mpr hbefore]

theorem Draft.checkShape_eq_ok_iff {draft : Draft} :
    draft.checkShape target = .ok () ↔
      draft.labels = [target.entry] ∧ (∃ line ∈ draft.directives, exportsEntry target line = true) ∧
        ∃ before trap, draft.instructions = before ++ [trap] ∧
          trap.mnemonic = mnemonicOf target.trap ∧
          ∀ line ∈ before, line.mnemonic ≠ mnemonicOf target.trap := by
  have hlast := countP_eq_one_and_getLast?_iff
    (fun line : Line => line.mnemonic == mnemonicOf target.trap) draft.instructions
  simp only [beq_iff_eq] at hlast
  rw [← hlast, ← List.any_eq_true, checkShape]
  by_cases hlabels : draft.labels = [target.entry]
  · cases hexport : draft.directives.any (exportsEntry target) with
    | false => simp [hlabels]
    | true =>
        by_cases hcount :
            draft.instructions.countP (fun line => line.mnemonic == mnemonicOf target.trap) = 1
        · cases hinstructions : draft.instructions.getLast? with
          | none => simp [hlabels, hcount]
          | some last => simp [hlabels, hcount]
        · simp [hlabels, hcount]
  · simp [hlabels]

/-- The digits that a line loads into a register. -/
def Line.loaded? (target : Target) (register : Bytes) (line : Line) : Option Bytes :=
  ((line.load? target).filter (·.register == upperCase register)).map Load.digits

def lastLoad? (target : Target) (register : Bytes) (lines : List Line) : Option Bytes :=
  lines.reverse.findSome? (·.loaded? target register)

section Register

variable {register : Bytes}
  (hregister : register ∈ [target.numberRegister, target.argumentRegister])
include hregister

theorem Line.loaded?_eq_some_iff {line : Line} {digits : Bytes} :
    line.loaded? target register = some digits ↔ line.Loads target register digits := by
  constructor
  · intro hloaded
    rw [loaded?, Option.map_eq_some_iff] at hloaded
    obtain ⟨load, hload, rfl⟩ := hloaded
    obtain ⟨hload, hname⟩ := Option.filter_eq_some_iff.mp hload
    obtain ⟨other, -, hother, hinstruction, htrap, hmove, name, operand, hoperands, hsame, hread⟩ :=
      load?_eq_some_iff.mp hload
    refine ⟨hinstruction, htrap, hmove, name, operand, hoperands, ?_, hread⟩
    rw [hsame, ← hother, eq_of_beq hname]
  · intro hloads
    have hload : line.load? target = some ⟨upperCase register, digits⟩ :=
      load?_eq_some_iff.mpr ⟨register, hregister, rfl, hloads⟩
    simp [loaded?, hload]

theorem lastLoad?_eq_some_iff {digits : Bytes} :
    lastLoad? target register lines = some digits ↔ IsLastLoad target register lines digits := by
  rw [lastLoad?, List.findSome?_eq_some_iff]
  simp only [List.reverse_eq_append_iff, List.reverse_cons, List.append_assoc,
    List.singleton_append, Option.eq_none_iff_forall_ne_some, ne_eq,
    Line.loaded?_eq_some_iff hregister]
  constructor
  · rintro ⟨after, line, before, hlines, hloads, hafter⟩
    refine ⟨before.reverse, line, after.reverse, hlines, hloads, fun later hlater => ?_⟩
    exact hafter later (List.mem_reverse.mp hlater)
  · rintro ⟨before, line, after, hlines, hloads, hafter⟩
    refine ⟨after.reverse, line, before.reverse, by simpa using hlines, hloads, ?_⟩
    intro later hlater
    exact hafter later (List.mem_reverse.mp hlater)

theorem lastLoad?_eq_none_iff :
    lastLoad? target register lines = none ↔
      ∀ line ∈ lines, ∀ digits, ¬ line.Loads target register digits := by
  rw [lastLoad?, List.findSome?_eq_none_iff]
  simp only [List.mem_reverse, Option.eq_none_iff_forall_ne_some, ne_eq,
    Line.loaded?_eq_some_iff hregister]

end Register

theorem Draft.valueOf_after (lines : List Line) (register : Bytes) :
    (Draft.empty.after target lines).valueOf register =
      (lastLoad? target register lines).getD [] := by
  have hfind : ∀ lines : List Line,
      ((lines.filterMap (·.load? target)).find? (·.register == upperCase register)).map
        Load.digits = lines.findSome? (·.loaded? target register) := by
    intro lines
    induction lines with
    | nil => rfl
    | cons line lines ih =>
        rw [List.findSome?_cons, Line.loaded?]
        cases hload : line.load? target with
        | none =>
            rw [List.filterMap_cons_none hload, ih]
            rfl
        | some load =>
            rw [List.filterMap_cons_some hload]
            by_cases hname : load.register = upperCase register
            · simp [hname, Option.filter]
            · rw [List.find?_cons_of_neg (by simpa using hname), ih]
              simp [hname, Option.filter]
  rw [lastLoad?, ← hfind, List.filterMap_reverse, valueOf, after, empty, List.append_nil]
  cases List.find? _ _ <;> rfl

/-- The listing of an exit program. -/
def listingOf (target : Target) (lines : List Line) : Listing where
  labels := lines.flatMap Line.labels
  directives := lines.filter (·.IsDirective target)
  instructions := lines.filter (·.IsInstruction target)
  exitStatus := (lastLoad? target target.argumentRegister lines).getD []

theorem isExitProgram_iff :
    IsExitProgram target lines ↔ (∀ line ∈ lines, line.IsKnown target) ∧
      (Draft.empty.after target lines).checkShape target = .ok () := by
  have hexported : (∃ line ∈ (Draft.empty.after target lines).directives,
        Draft.exportsEntry target line = true) ↔
      ∃ line ∈ lines, line.IsDirective target ∧
        line.mnemonic = mnemonicOf target.exportDirective ∧ line.operands = [target.entry] := by
    simp [Draft.after, Draft.empty, Draft.exportsEntry, and_assoc]
  rw [Draft.checkShape_eq_ok_iff, hexported]
  constructor
  · rintro ⟨hknown, hlabels, hexport, htrap⟩
    exact ⟨hknown, hlabels, hexport, htrap⟩
  · rintro ⟨hknown, hlabels, hexport, htrap⟩
    exact ⟨hknown, hlabels, hexport, htrap⟩

theorem check_eq_ok_iff_draft {text : Bytes} {listing : Listing} :
    check target text = .ok listing ↔
      ∃ draft, Draft.addLines target 1 .empty (Bytes.splitOn 0x0A text) = .ok draft ∧
        draft.checkShape target = .ok () ∧
        listing = ⟨draft.labels, draft.directives, draft.instructions,
          draft.valueOf target.argumentRegister⟩ := by
  rw [check]
  constructor
  · intro hcheck
    split at hcheck
    · cases hcheck
    rename_i draft hdraft
    split at hcheck
    · cases hcheck
    rename_i hshape
    cases hcheck
    exact ⟨draft, hdraft, hshape, rfl⟩
  · rintro ⟨draft, hdraft, hshape, rfl⟩
    rw [hdraft]
    dsimp only
    rw [hshape]

theorem check_eq_ok_iff {text : Bytes} {listing : Listing} :
    check target text = .ok listing ↔
      ∃ lines, ReadAs target text lines ∧ IsExitProgram target lines ∧
        listing = listingOf target lines := by
  have hlisting : ∀ lines : List Line, listingOf target lines =
      ⟨(Draft.empty.after target lines).labels, (Draft.empty.after target lines).directives,
        (Draft.empty.after target lines).instructions,
        (Draft.empty.after target lines).valueOf target.argumentRegister⟩ := by
    intro lines
    rw [Draft.valueOf_after]
    rfl
  rw [check_eq_ok_iff_draft]
  constructor
  · rintro ⟨draft, hdraft, hshape, rfl⟩
    obtain ⟨lines, hread, hknown, rfl⟩ := Draft.addLines_eq_ok_iff.mp hdraft
    exact ⟨lines, hread, isExitProgram_iff.mpr ⟨hknown, hshape⟩, (hlisting lines).symm⟩
  · rintro ⟨lines, hread, hprogram, rfl⟩
    obtain ⟨hknown, hshape⟩ := isExitProgram_iff.mp hprogram
    exact ⟨_, Draft.addLines_eq_ok_iff.mpr ⟨lines, hread, hknown, rfl⟩, hshape, hlisting lines⟩

end Lines

/-- **What the checker accepts.** For every target a text is accepted exactly when its lines can all
be read and have the shape of an exit program. The listing then holds the directives and the
instructions in the order of the text, each with the number of the line it was read from, and as
its status what was last loaded into the argument register, or nothing. -/
theorem check_ok_iff_isExitProgram (target : Target) (text : Bytes) :
    ((∃ listing, check target text = .ok listing) ↔
      ∃ lines, ReadAs target text lines ∧ IsExitProgram target lines) ∧
    ∀ listing lines, check target text = .ok listing → ReadAs target text lines →
      listing.labels = [target.entry] ∧
      listing.directives = lines.filter (·.IsDirective target) ∧
      listing.instructions = lines.filter (·.IsInstruction target) ∧
      (listing.directives.map Line.number).Pairwise (· < ·) ∧
      (listing.instructions.map Line.number).Pairwise (· < ·) ∧
      (∀ line ∈ listing.directives ++ listing.instructions, ∃ (index : Nat) (raw : Bytes),
        (Bytes.splitOn 0x0A text)[index]? = some raw ∧ line.number = index + 1 ∧
          readLine target raw line.number = .ok line) ∧
      (IsLastLoad target target.argumentRegister lines listing.exitStatus ∨
        listing.exitStatus = [] ∧
          ∀ line ∈ lines, ∀ digits, ¬ line.Loads target target.argumentRegister digits) := by
  have hargument : target.argumentRegister ∈ [target.numberRegister, target.argumentRegister] := by
    simp
  constructor
  · constructor
    · rintro ⟨listing, hcheck⟩
      obtain ⟨lines, hread, hprogram, -⟩ := check_eq_ok_iff.mp hcheck
      exact ⟨lines, hread, hprogram⟩
    · rintro ⟨lines, hread, hprogram⟩
      exact ⟨_, check_eq_ok_iff.mpr ⟨lines, hread, hprogram, rfl⟩⟩
  intro listing lines hcheck hread
  obtain ⟨others, hothers, hprogram, rfl⟩ := check_eq_ok_iff.mp hcheck
  obtain rfl := hread.unique hothers
  refine ⟨hprogram.labels, rfl, rfl, ?_, ?_, ?_, ?_⟩
  · exact hread.pairwise_number.sublist (List.filter_sublist.map Line.number)
  · exact hread.pairwise_number.sublist (List.filter_sublist.map Line.number)
  · intro line hmem
    rcases List.mem_append.mp hmem with hmem | hmem
    · exact hread.exists_of_mem (List.mem_of_mem_filter hmem)
    · exact hread.exists_of_mem (List.mem_of_mem_filter hmem)
  · cases hload : lastLoad? target target.argumentRegister others with
    | none =>
        refine Or.inr ⟨?_, (lastLoad?_eq_none_iff hargument).mp hload⟩
        rw [listingOf, hload]
        rfl
    | some digits =>
        left
        rw [listingOf, hload]
        exact (lastLoad?_eq_some_iff hargument).mp hload

/-- The label may stand before an instruction, and of two loads the second counts. -/
theorem check_ok_second_load :
    ∃ text listing lines,
      text = utf8 "_start: MOV Rdi 1 ; first\nglobal _start\n\tmov ,rdi,,007\nsyscall" ∧
      check .linuxAmd64 text = .ok listing ∧ ReadAs .linuxAmd64 text lines ∧
      listing.exitStatus = utf8 "007" ∧
      IsLastLoad .linuxAmd64 (utf8 "rdi") lines (utf8 "007") ∧
      listing.instructions.map Line.number = [1, 3, 4] := by
  obtain ⟨text, htext⟩ : ∃ text,
      text = utf8 "_start: MOV Rdi 1 ; first\nglobal _start\n\tmov ,rdi,,007\nsyscall" := ⟨_, rfl⟩
  have hcheck : check .linuxAmd64 text = .ok
      ⟨[utf8 "_start"], [⟨2, [], utf8 "GLOBAL", [utf8 "_start"]⟩],
       [⟨1, [utf8 "_start"], utf8 "MOV", [utf8 "Rdi", utf8 "1"]⟩,
        ⟨3, [], utf8 "MOV", [utf8 "rdi", utf8 "007"]⟩, ⟨4, [], utf8 "SYSCALL", []⟩],
       utf8 "007"⟩ := by
    rw [htext]
    decide
  obtain ⟨hiff, hlisting⟩ := check_ok_iff_isExitProgram .linuxAmd64 text
  obtain ⟨lines, hread, -⟩ := hiff.mp ⟨_, hcheck⟩
  obtain ⟨-, -, -, -, -, -, hstatus⟩ := hlisting _ lines hcheck hread
  have hload := hstatus.resolve_right fun hnone => absurd hnone.1 (by decide)
  exact ⟨text, _, lines, htext, hcheck, hread, rfl, hload, by decide⟩

end ExitLang.Assembly
