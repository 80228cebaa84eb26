import LittleComputer.Failure
import LittleComputer.Proofs.Program.Binding

/-!
# Refusals of statements

A refused statement leaves the program as it was.  Its caller is told of the refusal, unless there is
no message: the refusal shows an integer of too many digits, or an argument was not even of the sort
that is asked for.  A frozen program with frozen labels refuses all statements but those that set the
origin.
-/

namespace LittleComputer

/-- A refusal that its caller sees as such. -/
def ConfigurationError.IsTold (error : ConfigurationError) : Prop :=
  Failure.ofConfiguration error = .configuration error

def TellsRefusals {α : Type} (result : Except ConfigurationError α) : Prop :=
  FailsOnly ConfigurationError.IsTold result

/-!
# Operands
-/

section Operands

variable {given : Value} (hgiven : given.isWritable = true)
include hgiven

theorem tellsRefusals_register : TellsRefusals (Register.ofValue given) := by
  unfold Register.ofValue
  split
  · split
    · exact failsOnly_ok _
    · exact failsOnly_error (if_pos hgiven)
  · exact failsOnly_error (if_pos hgiven)

theorem tellsRefusals_immediate : TellsRefusals (Immediate.ofValue given) := by
  unfold Immediate.ofValue
  split
  · split
    · exact failsOnly_ok _
    · exact failsOnly_error (if_pos hgiven)
  · exact failsOnly_error (if_pos hgiven)

theorem tellsRefusals_labelName : TellsRefusals (LabelName.ofValue given) := by
  unfold LabelName.ofValue
  split
  · split
    · exact failsOnly_ok _
    · exact failsOnly_error rfl
  · exact failsOnly_error (if_pos hgiven)

theorem tellsRefusals_vector (traps : Traps) :
    TellsRefusals (Instruction.ofVector traps given) := by
  unfold Instruction.ofVector
  split
  · split
    · exact failsOnly_ok _
    · exact failsOnly_error (if_pos hgiven)
  · exact failsOnly_error (if_pos hgiven)

theorem isWritable_of_registerArgument {value : Value} (h : given.registerArgument = .ok value) :
    value.isWritable = true := by
  unfold Value.registerArgument at h
  split at h
  · split at h
    · cases h
      exact (Bool.and_eq_true_iff.mp (Bool.and_eq_true_iff.mp hgiven).left).right
    · cases h
  · cases h
    exact hgiven

theorem tellsRefusals_registerArgument : TellsRefusals given.registerArgument := by
  unfold Value.registerArgument
  split
  · split
    · exact failsOnly_ok _
    · exact failsOnly_error (if_pos (Bool.and_eq_true_iff.mp hgiven).right)
  · exact failsOnly_ok _

end Operands

theorem tellsRefusals_condition (written : String) :
    TellsRefusals (Condition.ofValue (.text written)) := by
  unfold Condition.ofValue
  dsimp only
  split
  · exact failsOnly_ok _
  · exact failsOnly_error rfl

/-!
# Instructions
-/

section Instructions

variable {dest src1 src2 : Value} (hdest : dest.isWritable = true)
include hdest

theorem tellsRefusals_registerAndLabel (make : Register -> LabelName -> Instruction)
    {label : Value} (hlabel : label.isWritable = true) :
    TellsRefusals (Statement.registerAndLabel make dest label) := by
  apply failsOnly_bind (tellsRefusals_registerArgument hdest)
  intro register hregister
  apply failsOnly_bind
    (tellsRefusals_register (isWritable_of_registerArgument hdest hregister))
  intro register _
  apply failsOnly_bind (tellsRefusals_labelName hlabel)
  intro name _
  exact failsOnly_ok _

variable (hsrc1 : src1.isWritable = true)
include hsrc1

theorem tellsRefusals_twoRegisters : TellsRefusals (Instruction.ofTwoRegisters dest src1) := by
  apply failsOnly_bind (tellsRefusals_register hdest)
  intro first _
  apply failsOnly_bind (tellsRefusals_register hsrc1)
  intro second _
  exact failsOnly_ok _

variable (hsrc2 : src2.isWritable = true)
include hsrc2

theorem tellsRefusals_threeRegisters (make : Register -> Register -> Register -> Instruction) :
    TellsRefusals (Candidate.ofThreeRegisters make dest src1 src2) := by
  apply failsOnly_bind (tellsRefusals_register hdest)
  intro first _
  apply failsOnly_bind (tellsRefusals_register hsrc1)
  intro second _
  apply failsOnly_bind (tellsRefusals_register hsrc2)
  intro third _
  exact failsOnly_ok _

theorem tellsRefusals_registersImmediate
    (make : Register -> Register -> Immediate -> Instruction) :
    TellsRefusals (Candidate.ofRegistersImmediate make dest src1 src2) := by
  apply failsOnly_bind (tellsRefusals_register hdest)
  intro first _
  apply failsOnly_bind (tellsRefusals_register hsrc1)
  intro second _
  apply failsOnly_bind (tellsRefusals_immediate hsrc2)
  intro third _
  exact failsOnly_ok _

omit hdest hsrc1 in
theorem tellsRefusals_sourceOperand : TellsRefusals (Statement.sourceOperand src2) := by
  unfold Statement.sourceOperand
  split
  · exact failsOnly_ok _
  · apply failsOnly_bind (tellsRefusals_immediate hsrc2)
    intro immediate _
    exact failsOnly_ok _

omit hdest hsrc1 in
theorem isWritable_of_sourceOperand {source : Value}
    (h : Statement.sourceOperand src2 = .ok source) : source.isWritable = true := by
  unfold Statement.sourceOperand at h
  split at h
  · cases h
    exact hsrc2
  · rcases exists_of_bind_ok h with ⟨immediate, -, hsource⟩
    cases hsource
    exact Bool.and_eq_true_iff.mpr ⟨Bool.and_eq_true_iff.mpr ⟨rfl, hsrc2⟩, rfl⟩

theorem tellsRefusals_arithmetic (withRegister : Register -> Register -> Register -> Instruction)
    (withImmediate : Register -> Register -> Immediate -> Instruction) :
    TellsRefusals (Statement.arithmetic withRegister withImmediate dest src1 src2) := by
  apply failsOnly_bind (tellsRefusals_sourceOperand hsrc2)
  intro source hsource
  have hwritable := isWritable_of_sourceOperand hsrc2 hsource
  apply failsOnly_bind (tellsRefusals_registerArgument hdest)
  intro first hfirst
  have hfirstWritable := isWritable_of_registerArgument hdest hfirst
  apply failsOnly_bind (tellsRefusals_registerArgument hsrc1)
  intro second hsecond
  have hsecondWritable := isWritable_of_registerArgument hsrc1 hsecond
  split
  · have hvalue := (Bool.and_eq_true_iff.mp (Bool.and_eq_true_iff.mp hwritable).left).right
    split
    · exact tellsRefusals_threeRegisters hfirstWritable hsecondWritable hvalue withRegister
    · exact tellsRefusals_registersImmediate hfirstWritable hsecondWritable hvalue withImmediate
  · exact tellsRefusals_registersImmediate hfirstWritable hsecondWritable hwritable withImmediate

end Instructions

/-!
# Statements
-/

namespace Statement

def arguments : Statement -> List Value
  | orig address => [address]
  | label name => [name]
  | fill name value => [name, value]
  | add dest src1 src2 | and dest src1 src2 => [dest, src1, src2]
  | not dest src => [dest, src]
  | br condition target => [condition, target]
  | ld register target | ldi register target | st register target | sti register target =>
      [register, target]
  | ldr register base offset | str register base offset => [register, base, offset]
  | trap vector => [vector]
  | halt => []

/-- The arguments have numerals where they have integers, a condition is a text, and a constant
counts as an integer. -/
structure IsProper (statement : Statement) : Prop where
  isWritable : ∀ given ∈ statement.arguments, given.isWritable = true
  condition_isText : ∀ condition target : Value, statement = .br condition target ->
    ∃ written : String, condition = .text written
  constant_isInteger : ∀ name value : Value, statement = .fill name value ->
    ∃ n : Int, value.asInt? = some n

theorem tellsRefusals_instruction? {traps : Traps} {statement : Statement}
    (h : statement.IsProper) {reading : Except ConfigurationError Instruction}
    (hreading : statement.instruction? traps = some reading) : TellsRefusals reading := by
  have hwritable := h.isWritable
  cases statement with
  | orig _ | label _ | fill _ _ => cases hreading
  | add dest src1 src2 | and dest src1 src2 =>
      cases hreading
      exact tellsRefusals_arithmetic (hwritable dest (by simp [arguments]))
        (hwritable src1 (by simp [arguments])) (hwritable src2 (by simp [arguments])) _ _
  | not dest src =>
      cases hreading
      have hdest := hwritable dest (by simp [arguments])
      have hsrc := hwritable src (by simp [arguments])
      apply failsOnly_bind (tellsRefusals_registerArgument hdest)
      intro first hfirst
      apply failsOnly_bind (tellsRefusals_registerArgument hsrc)
      intro second hsecond
      exact tellsRefusals_twoRegisters (isWritable_of_registerArgument hdest hfirst)
        (isWritable_of_registerArgument hsrc hsecond)
  | br condition target =>
      cases hreading
      rcases h.condition_isText condition target rfl with ⟨written, rfl⟩
      apply failsOnly_bind (tellsRefusals_condition written)
      intro condition _
      apply failsOnly_bind
        (tellsRefusals_labelName (hwritable target (by simp [arguments])))
      intro name _
      exact failsOnly_ok _
  | ld register target | ldi register target | st register target | sti register target =>
      cases hreading
      exact tellsRefusals_registerAndLabel (hwritable register (by simp [arguments])) _
        (hwritable target (by simp [arguments]))
  | ldr _ _ _ | str _ _ _ =>
      cases hreading
      exact failsOnly_error rfl
  | trap vector =>
      cases hreading
      exact tellsRefusals_vector (hwritable vector (by simp [arguments])) traps
  | halt =>
      cases hreading
      exact tellsRefusals_vector rfl traps

end Statement

/-!
# Frozen programs
-/

theorem Labels.bind_of_frozen {labels : Labels} (h : labels.frozen = true) (name value : Value) :
    labels.bind name value = .error (.frozenLabels name.plain) :=
  if_pos h

theorem Labels.define_of_frozen {labels : Labels} (h : labels.frozen = true) (name value : Value) :
    ∃ error : ConfigurationError, labels.define name value = .error error ∧
      (value.isWritable = true -> (∃ n : Int, value.asInt? = some n) -> error.IsTold) := by
  unfold define
  split
  · exact ⟨_, bind_of_frozen h name value, fun _ _ => rfl⟩
  · exact ⟨_, rfl, fun hwritable _ => if_pos hwritable⟩
  · next hnone =>
      refine ⟨_, rfl, ?_⟩
      rintro - ⟨n, hvalue⟩
      cases value with
      | int _ | bool _ => cases hnone
      | float _ | text _ | null | operand _ _ _ => cases hvalue

namespace Program

variable {program : Program}

theorem append_of_frozen (h : program.frozen = true) (candidate : Candidate) :
    program.append candidate = (.error .frozenProgram, program) :=
  if_pos h

theorem perform_of_frozen (hprogram : program.frozen = true)
    (hlabels : program.labels.frozen = true) (traps : Traps) {statement : Statement}
    (horigin : ∀ address : Value, statement ≠ .orig address) :
    ∃ error : ConfigurationError, program.perform traps statement = (.error error, program) ∧
      (statement.IsProper -> error.IsTold) := by
  unfold perform
  cases hreading : statement.instruction? traps with
  | some reading =>
      cases reading with
      | error error =>
          refine ⟨error, rfl, ?_⟩
          intro hproper
          exact Statement.tellsRefusals_instruction? hproper hreading error rfl
      | ok i =>
          dsimp only
          rw [append_of_frozen hprogram]
          exact ⟨.frozenProgram, rfl, fun _ => rfl⟩
  | none =>
      cases statement with
      | orig address => exact absurd rfl (horigin address)
      | label name =>
          dsimp only [Statement.binding?]
          rw [bind_eq]
          dsimp only [bindLabels]
          rw [Labels.bind_of_frozen hlabels]
          exact ⟨_, rfl, fun _ => rfl⟩
      | fill name value =>
          rcases Labels.define_of_frozen hlabels name value with ⟨error, hdefine, htold⟩
          dsimp only [Statement.binding?]
          rw [bind_eq]
          dsimp only [bindLabels]
          rw [hdefine]
          refine ⟨error, rfl, ?_⟩
          intro hproper
          exact htold (hproper.isWritable value (by simp [Statement.arguments]))
            (hproper.constant_isInteger name value rfl)
      | _ => cases hreading

end Program
end LittleComputer
