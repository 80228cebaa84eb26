import LittleComputer.Proofs.Program.Binding

/-!
# Growing programs

Instructions enter a program one by one, at the end, and stay at the index that they enter at.
Their fields have passed their checks: registers, immediates, labels and conditions can be no others
by their types, and the vector of a trap is looked up when the instruction is made.
-/

namespace LittleComputer

/-!
# Fields of instructions
-/

inductive IsValidField (traps : Traps) : String × Value -> Prop where
  | register {name : String} {n : Int} :
      name ∈ ["dest", "src1", "src2", "src", "reg"] -> 0 ≤ n -> n ≤ 7 ->
      IsValidField traps (name, .int n)
  | immediate {n : Int} : -16 ≤ n -> n ≤ 15 -> IsValidField traps ("imm", .int n)
  | label {text : String} : text ≠ "" -> IsValidField traps ("label", .text text)
  | condition {text : String} :
      text ∈ Condition.allTexts -> IsValidField traps ("condition", .text text)
  | vector {n : Int} : traps.contains (.int n) = true -> IsValidField traps ("vector", .int n)

namespace Instruction

def IsWellFormed (traps : Traps) (i : Instruction) : Prop :=
  ∀ field ∈ (Candidate.instruction i).namedFields, IsValidField traps field

end Instruction

section IsValidField

variable {traps : Traps}

theorem isValidField_register {name : String} (h : name ∈ ["dest", "src1", "src2", "src", "reg"])
    (register : Register) : IsValidField traps (name, .int register.val) :=
  .register h (Int.natCast_nonneg _) (by omega)

theorem isValidField_immediate (imm : Immediate) : IsValidField traps ("imm", .int imm.value) :=
  .immediate imm.le_value imm.value_le

theorem isValidField_label (label : LabelName) : IsValidField traps ("label", .text label.name) :=
  .label label.name_ne_empty

theorem isValidField_condition (condition : Condition) :
    IsValidField traps ("condition", .text condition.text) := by
  rcases condition with ⟨negative, zero, positive⟩
  apply IsValidField.condition
  cases negative <;> cases zero <;> cases positive <;> decide

namespace Instruction

/-- Only the vector of a trap could be wrong. -/
theorem isWellFormed_iff {i : Instruction} :
    i.IsWellFormed traps ↔ ∀ n : Int, i = .trap n -> traps.contains (.int n) = true := by
  constructor
  · rintro h n rfl
    have hfield := h _ (List.mem_singleton_self _)
    generalize hname : ("vector", Value.int n) = field at hfield
    cases hfield with
    | register hmem _ _ =>
        rcases Prod.mk.inj hname with ⟨rfl, -⟩
        simp at hmem
    | immediate _ _ | label _ | condition _ => exact absurd (Prod.mk.inj hname).left (by decide)
    | vector hcontains =>
        cases (Prod.mk.inj hname).right
        exact hcontains
  · intro h
    unfold IsWellFormed Candidate.namedFields
    cases i with
    | addRegister dest src1 src2 | andRegister dest src1 src2 =>
        simp only [List.forall_mem_cons]
        exact ⟨isValidField_register (by decide) dest, isValidField_register (by decide) src1,
          isValidField_register (by decide) src2, nofun⟩
    | addImmediate dest src1 imm | andImmediate dest src1 imm =>
        simp only [List.forall_mem_cons]
        exact ⟨isValidField_register (by decide) dest, isValidField_register (by decide) src1,
          isValidField_immediate imm, nofun⟩
    | not dest src =>
        simp only [List.forall_mem_cons]
        exact ⟨isValidField_register (by decide) dest, isValidField_register (by decide) src,
          nofun⟩
    | branch condition label =>
        simp only [List.forall_mem_cons]
        exact ⟨isValidField_condition condition, isValidField_label label, nofun⟩
    | load register label | loadIndirect register label | store register label
    | storeIndirect register label =>
        simp only [List.forall_mem_cons]
        exact ⟨isValidField_register (by decide) register, isValidField_label label, nofun⟩
    | trap vector =>
        simp only [List.forall_mem_cons]
        exact ⟨.vector (h vector rfl), nofun⟩

theorem IsWellFormed.mono {i : Instruction} (h : i.IsWellFormed traps) {later : Traps}
    (hlater : ∀ key : Key, traps.contains key = true -> later.contains key = true) :
    i.IsWellFormed later := by
  rw [isWellFormed_iff] at h ⊢
  intro n hn
  exact hlater _ (h n hn)

end Instruction
end IsValidField

/-!
# Constructors
-/

namespace Candidate

theorem ofThreeRegisters_eq_ok {α : Type} {make : Register -> Register -> Register -> α}
    {dest src1 src2 : Value} {made : α} (h : ofThreeRegisters make dest src1 src2 = .ok made) :
    ∃ dest src1 src2 : Register, made = make dest src1 src2 := by
  rcases exists_of_bind_ok h with ⟨dest, -, h⟩
  rcases exists_of_bind_ok h with ⟨src1, -, h⟩
  rcases exists_of_bind_ok h with ⟨src2, -, h⟩
  cases h
  exact ⟨dest, src1, src2, rfl⟩

theorem ofRegistersImmediate_eq_ok {α : Type} {make : Register -> Register -> Immediate -> α}
    {dest src1 imm : Value} {made : α} (h : ofRegistersImmediate make dest src1 imm = .ok made) :
    ∃ (dest src1 : Register) (imm : Immediate), made = make dest src1 imm := by
  rcases exists_of_bind_ok h with ⟨dest, -, h⟩
  rcases exists_of_bind_ok h with ⟨src1, -, h⟩
  rcases exists_of_bind_ok h with ⟨imm, -, h⟩
  cases h
  exact ⟨dest, src1, imm, rfl⟩

theorem ofRegisterLabel_eq_ok {α : Type} {make : Register -> LabelName -> α}
    {register label : Value} {made : α} (h : ofRegisterLabel make register label = .ok made) :
    ∃ (register : Register) (label : LabelName), made = make register label := by
  rcases exists_of_bind_ok h with ⟨register, -, h⟩
  rcases exists_of_bind_ok h with ⟨label, -, h⟩
  cases h
  exact ⟨register, label, rfl⟩

end Candidate

namespace Instruction

theorem ofTwoRegisters_eq_ok {dest src : Value} {i : Instruction}
    (h : ofTwoRegisters dest src = .ok i) : ∃ dest src : Register, i = .not dest src := by
  rcases exists_of_bind_ok h with ⟨dest, -, h⟩
  rcases exists_of_bind_ok h with ⟨src, -, h⟩
  cases h
  exact ⟨dest, src, rfl⟩

theorem ofConditionLabel_eq_ok {condition label : Value} {i : Instruction}
    (h : ofConditionLabel condition label = .ok i) :
    ∃ (condition : Condition) (label : LabelName), i = .branch condition label := by
  rcases exists_of_bind_ok h with ⟨condition, -, h⟩
  rcases exists_of_bind_ok h with ⟨label, -, h⟩
  cases h
  exact ⟨condition, label, rfl⟩

theorem ofVector_eq_ok {traps : Traps} {vector : Value} {i : Instruction}
    (h : ofVector traps vector = .ok i) :
    ∃ n : Int, i = .trap n ∧ traps.contains (.int n) = true := by
  unfold ofVector at h
  split at h
  · split at h
    · next hcontains =>
        cases h
        exact ⟨_, rfl, hcontains⟩
    · cases h
  · cases h

end Instruction

/-!
# Instructions that are made
-/

section Made

variable {traps : Traps} {i : Instruction}

theorem Instruction.isWellFormed_of_ne_trap (h : ∀ n : Int, i ≠ .trap n) : i.IsWellFormed traps :=
  Instruction.isWellFormed_iff.mpr fun n hn => absurd hn (h n)

theorem Instruction.isWellFormed_of_ofVector {vector : Value}
    (h : Instruction.ofVector traps vector = .ok i) : i.IsWellFormed traps := by
  rcases Instruction.ofVector_eq_ok h with ⟨n, rfl, hcontains⟩
  rw [Instruction.isWellFormed_iff]
  rintro m ⟨⟩
  exact hcontains

namespace Statement

theorem arithmetic_eq_ok {withRegister : Register -> Register -> Register -> Instruction}
    {withImmediate : Register -> Register -> Immediate -> Instruction} {dest src1 src2 : Value}
    (h : arithmetic withRegister withImmediate dest src1 src2 = .ok i) :
    (∃ dest src1 src2 : Register, i = withRegister dest src1 src2) ∨
      ∃ (dest src1 : Register) (imm : Immediate), i = withImmediate dest src1 imm := by
  rcases exists_of_bind_ok h with ⟨source, -, h⟩
  rcases exists_of_bind_ok h with ⟨dest, -, h⟩
  rcases exists_of_bind_ok h with ⟨src1, -, h⟩
  split at h
  · split at h
    · exact Or.inl (Candidate.ofThreeRegisters_eq_ok h)
    · exact Or.inr (Candidate.ofRegistersImmediate_eq_ok h)
  · exact Or.inr (Candidate.ofRegistersImmediate_eq_ok h)

theorem registerAndLabel_eq_ok {make : Register -> LabelName -> Instruction}
    {register label : Value} (h : registerAndLabel make register label = .ok i) :
    ∃ (register : Register) (label : LabelName), i = make register label := by
  rcases exists_of_bind_ok h with ⟨register, -, h⟩
  exact Candidate.ofRegisterLabel_eq_ok h

theorem isWellFormed_of_instruction? {statement : Statement}
    (h : statement.instruction? traps = some (.ok i)) : i.IsWellFormed traps := by
  cases statement with
  | orig _ | label _ | fill _ _ => cases h
  | add dest src1 src2 | and dest src1 src2 =>
      rcases arithmetic_eq_ok (Option.some.inj h) with ⟨_, _, _, rfl⟩ | ⟨_, _, _, rfl⟩ <;>
        exact Instruction.isWellFormed_of_ne_trap nofun
  | not dest src =>
      rcases exists_of_bind_ok (Option.some.inj h) with ⟨dest, -, h⟩
      rcases exists_of_bind_ok h with ⟨src, -, h⟩
      rcases Instruction.ofTwoRegisters_eq_ok h with ⟨_, _, rfl⟩
      exact Instruction.isWellFormed_of_ne_trap nofun
  | br condition target =>
      rcases Instruction.ofConditionLabel_eq_ok (Option.some.inj h) with ⟨_, _, rfl⟩
      exact Instruction.isWellFormed_of_ne_trap nofun
  | ld register label | ldi register label | st register label | sti register label =>
      rcases registerAndLabel_eq_ok (Option.some.inj h) with ⟨_, _, rfl⟩
      exact Instruction.isWellFormed_of_ne_trap nofun
  | ldr dest base offset | str src base offset => cases h
  | trap vector => exact Instruction.isWellFormed_of_ofVector (Option.some.inj h)
  | halt => exact Instruction.isWellFormed_of_ofVector (Option.some.inj h)

end Statement

namespace Candidate

theorem map_instruction_eq_ok {made : Except ConfigurationError Instruction}
    (h : some (made.map instruction) = some (.ok (instruction i))) : made = .ok i := by
  cases made with
  | error error => cases h
  | ok other =>
      cases h
      rfl

theorem isWellFormed_of_build? {form : Form} {fields : List Value}
    (h : build? traps form fields = some (.ok (instruction i))) : i.IsWellFormed traps := by
  unfold build? at h
  split at h
  -- The forms of instructions, in order.
  · rcases ofThreeRegisters_eq_ok (map_instruction_eq_ok h) with ⟨_, _, _, rfl⟩
    exact Instruction.isWellFormed_of_ne_trap nofun
  · rcases ofRegistersImmediate_eq_ok (map_instruction_eq_ok h) with ⟨_, _, _, rfl⟩
    exact Instruction.isWellFormed_of_ne_trap nofun
  · rcases ofThreeRegisters_eq_ok (map_instruction_eq_ok h) with ⟨_, _, _, rfl⟩
    exact Instruction.isWellFormed_of_ne_trap nofun
  · rcases ofRegistersImmediate_eq_ok (map_instruction_eq_ok h) with ⟨_, _, _, rfl⟩
    exact Instruction.isWellFormed_of_ne_trap nofun
  · rcases Instruction.ofTwoRegisters_eq_ok (map_instruction_eq_ok h) with ⟨_, _, rfl⟩
    exact Instruction.isWellFormed_of_ne_trap nofun
  · rcases Instruction.ofConditionLabel_eq_ok (map_instruction_eq_ok h) with ⟨_, _, rfl⟩
    exact Instruction.isWellFormed_of_ne_trap nofun
  iterate 4
    · rcases ofRegisterLabel_eq_ok (map_instruction_eq_ok h) with ⟨_, _, rfl⟩
      exact Instruction.isWellFormed_of_ne_trap nofun
  · exact Instruction.isWellFormed_of_ofVector (map_instruction_eq_ok h)
  -- The shared shapes are no instructions.
  · rcases ofThreeRegisters_eq_ok (Option.some.inj h) with ⟨_, _, _, hmade⟩
    cases hmade
  · rcases ofRegistersImmediate_eq_ok (Option.some.inj h) with ⟨_, _, _, hmade⟩
    cases hmade
  · rcases ofRegisterLabel_eq_ok (Option.some.inj h) with ⟨_, _, hmade⟩
    cases hmade
  · cases h
  · cases h

end Candidate
end Made

/-!
# Programs
-/

namespace Program

def push (program : Program) (i : Instruction) : Program :=
  { program with instructions := program.instructions.push i }

/-- Instructions have been added at the end, all of them well-formed. -/
def Grows (traps : Traps) (program after : Program) : Prop :=
  ∃ added : List Instruction,
    after.instructions.toList = program.instructions.toList ++ added ∧
      ∀ i ∈ added, i.IsWellFormed traps

section Grows

variable {traps : Traps} {program after : Program}

theorem Grows.of_eq (h : after.instructions = program.instructions) : Grows traps program after := by
  refine ⟨[], ?_, nofun⟩
  rw [h, List.append_nil]

theorem grows_push {i : Instruction} (h : i.IsWellFormed traps) :
    Grows traps program (program.push i) := by
  refine ⟨[i], Array.toList_push, ?_⟩
  intro other hother
  cases List.mem_singleton.mp hother
  exact h

theorem Grows.trans {last : Program} (hfirst : Grows traps program after)
    (hlast : Grows traps after last) : Grows traps program last := by
  rcases hfirst with ⟨added, hadded, hvalid⟩
  rcases hlast with ⟨more, hmore, hothers⟩
  refine ⟨added ++ more, ?_, ?_⟩
  · rw [hmore, hadded, List.append_assoc]
  · intro i hi
    rcases List.mem_append.mp hi with hi | hi
    · exact hvalid i hi
    · exact hothers i hi

theorem Grows.mono (h : Grows traps program after) {later : Traps}
    (hlater : ∀ key : Key, traps.contains key = true -> later.contains key = true) :
    Grows later program after := by
  rcases h with ⟨added, hadded, hvalid⟩
  exact ⟨added, hadded, fun i hi => (hvalid i hi).mono hlater⟩

end Grows

/-!
# Operations
-/

theorem append_cases (program : Program) (candidate : Candidate) :
    (∃ error : ConfigurationError, program.append candidate = (.error error, program)) ∨
      ∃ i : Instruction, candidate = .instruction i ∧
        program.append candidate = (.ok program.size, program.push i) := by
  unfold append
  split
  · exact Or.inl ⟨_, rfl⟩
  · split
    · exact Or.inr ⟨_, rfl, rfl⟩
    · exact Or.inl ⟨_, rfl⟩

theorem perform_cases {traps : Traps} {statement : Statement}
    {reading : Except ConfigurationError Instruction}
    (h : statement.instruction? traps = some reading) (program : Program) :
    (∃ error : ConfigurationError, program.perform traps statement = (.error error, program)) ∨
      ∃ i : Instruction, reading = .ok i ∧
        program.perform traps statement = (.ok (some program.size), program.push i) := by
  unfold perform
  rw [h]
  cases reading with
  | error error => exact Or.inl ⟨error, rfl⟩
  | ok i =>
      rcases program.append_cases (.instruction i) with ⟨error, happend⟩ | ⟨other, hother, happend⟩
      · dsimp only
        rw [happend]
        exact Or.inl ⟨error, rfl⟩
      · cases hother
        dsimp only
        rw [happend]
        exact Or.inr ⟨i, rfl, rfl⟩

theorem perform_cases_of_no_instruction {traps : Traps} {statement : Statement}
    (h : statement.instruction? traps = none) (program : Program) :
    (∃ error : ConfigurationError, program.perform traps statement = (.error error, program)) ∨
      ∃ after : Program, after.instructions = program.instructions ∧
        program.perform traps statement = (.ok none, after) := by
  have hbound (name : Value) (binding : Binding) (after : Program)
      (hbind : program.bind name binding = .ok after) :
      after.instructions = program.instructions := by
    rcases bind_eq_ok hbind with ⟨-, n, -, rfl⟩
    rfl
  unfold perform
  rw [h]
  cases statement with
  | orig given =>
      dsimp only
      rw [setOrigin_eq]
      cases address given with
      | error error => exact Or.inl ⟨error, rfl⟩
      | ok n => exact Or.inr ⟨{ program with origin := some n }, rfl, rfl⟩
  | label name =>
      dsimp only [Statement.binding?]
      cases hbind : program.bind name .position with
      | error error => exact Or.inl ⟨error, rfl⟩
      | ok after => exact Or.inr ⟨after, hbound _ _ _ hbind, rfl⟩
  | fill name value =>
      dsimp only [Statement.binding?]
      cases hbind : program.bind name (.constant value) with
      | error error => exact Or.inl ⟨error, rfl⟩
      | ok after => exact Or.inr ⟨after, hbound _ _ _ hbind, rfl⟩
  | _ => cases h

end Program

end LittleComputer
