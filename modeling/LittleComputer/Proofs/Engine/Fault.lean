import LittleComputer.Proofs.Engine.Step

/-!
# Faults of own executors

An executor that is given an instruction of its own mnemonic knows its form, so it can only miss a
label.  Nothing is assumed of the processor here: one that cannot be asked something makes the step
fail, and that is no fault of the program.
-/

namespace LittleComputer

def Fault.IsOfLabelOrRange (fault : Fault) : Prop :=
  (∃ label : Value, fault.cause = .unboundLabel label) ∨
    ∃ (target : Value) (size : Nat), fault.cause = .outOfRange target size

def ExecutionError.IsOfLabel (error : ExecutionError) : Prop :=
  ∀ fault : Fault, error = .fault fault -> ∃ label : Value, fault.cause = .unboundLabel label

/-- A computation whose only faults are labels that are not bound. -/
def MissesOnlyLabels {α : Type} (result : Except ExecutionError α) : Prop :=
  FailsOnly ExecutionError.IsOfLabel result

def ExecutionError.IsOf (P : Fault -> Prop) (error : ExecutionError) : Prop :=
  ∀ fault : Fault, error = .fault fault -> P fault

def FaultsOnly {α : Type} (P : Fault -> Prop) (result : Except ExecutionError α) : Prop :=
  FailsOnly (ExecutionError.IsOf P) result

/-!
# Reading the machine
-/

section Reading

variable {P : Fault -> Prop}

theorem faultsOnly_access {α : Type} (error : AccessError) :
    FaultsOnly P (.error (.access error) : Except ExecutionError α) := by
  apply failsOnly_error
  intro fault h
  cases h

theorem faultsOnly_integer (value : Value) : FaultsOnly P value.integer := by
  unfold Value.integer
  split
  · exact failsOnly_ok _
  · exact faultsOnly_access _

theorem faultsOnly_fetchRegister (processor : Processor) (register : Register) :
    FaultsOnly P (processor.fetchRegister register) := by
  unfold Processor.fetchRegister
  split
  · exact failsOnly_ok _
  · exact faultsOnly_access _

theorem faultsOnly_fetchCell (processor : Processor) (address : Int) :
    FaultsOnly P (processor.fetchCell address) := by
  unfold Processor.fetchCell
  split
  · exact failsOnly_ok _
  · exact faultsOnly_access _

theorem faultsOnly_resultEffect (processor : Processor) (dest : Register) (value : Int) :
    FaultsOnly P (processor.resultEffect dest value) := by
  unfold Processor.resultEffect
  split
  · exact failsOnly_ok _
  · exact faultsOnly_access _

theorem faultsOnly_cellEffect (processor : Processor) (address value : Int) :
    FaultsOnly P (processor.cellEffect address value) := by
  unfold Processor.cellEffect
  split
  · exact failsOnly_ok _
  · exact faultsOnly_access _

theorem faultsOnly_decideOn (condition : Condition) (flag : Value) :
    FaultsOnly P (condition.decideOn flag) := by
  unfold Condition.decideOn
  split
  · exact failsOnly_ok _
  · exact faultsOnly_access _

theorem faultsOnly_lookUp {traps : Traps} {label : LabelName} {index : Option Value}
    {i : Instruction} (h : P ⟨.unboundLabel (.text label.name), index, i.text traps⟩)
    (labels : Labels) : FaultsOnly P (labels.lookUp traps label index i) := by
  unfold Labels.lookUp
  split
  · exact failsOnly_ok _
  · apply failsOnly_error
    intro fault hfault
    cases hfault
    exact h

end Reading

/-!
# Instructions
-/

def Instruction.BlamedForLabel (i : Instruction) (traps : Traps) (index : Option Value)
    (fault : Fault) : Prop :=
  ∃ name : String, i.label? = some name ∧
    fault = ⟨.unboundLabel (.text name), index, i.text traps⟩

theorem faultsOnly_effect (traps : Traps) (labels : Labels) (processor : Processor)
    (index : Option Value) (i : Instruction) :
    FaultsOnly (i.BlamedForLabel traps index)
      ((Executor.ofInstruction i).effect traps labels processor index i) := by
  cases i with
  | addRegister dest src1 src2 | andRegister dest src1 src2 =>
      refine failsOnly_bind (faultsOnly_fetchRegister processor src1) ?_
      intro left _
      refine failsOnly_bind (faultsOnly_fetchRegister processor src2) ?_
      intro right _
      refine failsOnly_bind (faultsOnly_integer left) ?_
      intro m _
      refine failsOnly_bind (faultsOnly_integer right) ?_
      intro n _
      exact faultsOnly_resultEffect processor dest _
  | addImmediate dest src1 imm | andImmediate dest src1 imm =>
      refine failsOnly_bind (faultsOnly_fetchRegister processor src1) ?_
      intro left _
      refine failsOnly_bind (faultsOnly_integer left) ?_
      intro m _
      exact faultsOnly_resultEffect processor dest _
  | not dest src =>
      refine failsOnly_bind (faultsOnly_fetchRegister processor src) ?_
      intro value _
      refine failsOnly_bind (faultsOnly_integer value) ?_
      intro n _
      exact faultsOnly_resultEffect processor dest _
  | branch condition label =>
      refine failsOnly_bind (faultsOnly_lookUp ⟨label.name, rfl, rfl⟩ labels) ?_
      intro target _
      refine failsOnly_bind (faultsOnly_decideOn condition processor.flag) ?_
      intro isTaken _
      exact failsOnly_ok _
  | load dest label =>
      refine failsOnly_bind (faultsOnly_lookUp ⟨label.name, rfl, rfl⟩ labels) ?_
      intro value _
      refine failsOnly_bind (faultsOnly_integer value) ?_
      intro n _
      exact faultsOnly_resultEffect processor dest n
  | loadIndirect dest label =>
      refine failsOnly_bind (faultsOnly_lookUp ⟨label.name, rfl, rfl⟩ labels) ?_
      intro address _
      refine failsOnly_bind (faultsOnly_integer address) ?_
      intro m _
      refine failsOnly_bind (faultsOnly_fetchCell processor m) ?_
      intro value _
      refine failsOnly_bind (faultsOnly_integer value) ?_
      intro n _
      exact faultsOnly_resultEffect processor dest n
  | store src label =>
      refine failsOnly_bind (faultsOnly_lookUp ⟨label.name, rfl, rfl⟩ labels) ?_
      intro old _
      refine failsOnly_bind (faultsOnly_fetchRegister processor src) ?_
      intro value _
      refine failsOnly_bind (faultsOnly_integer value) ?_
      intro n _
      exact failsOnly_ok _
  | storeIndirect src label =>
      refine failsOnly_bind (faultsOnly_lookUp ⟨label.name, rfl, rfl⟩ labels) ?_
      intro address _
      refine failsOnly_bind (faultsOnly_fetchRegister processor src) ?_
      intro value _
      refine failsOnly_bind (faultsOnly_integer address) ?_
      intro m _
      refine failsOnly_bind (faultsOnly_integer value) ?_
      intro n _
      exact faultsOnly_cellEffect processor m n
  | trap vector => exact failsOnly_ok _

theorem missesOnlyLabels_effect (traps : Traps) (labels : Labels) (processor : Processor)
    (index : Option Value) (i : Instruction) :
    MissesOnlyLabels ((Executor.ofInstruction i).effect traps labels processor index i) := by
  intro error herror fault hfault
  rcases faultsOnly_effect traps labels processor index i error herror fault hfault with
    ⟨name, -, rfl⟩
  exact ⟨.text name, rfl⟩

theorem Executor.blames_of_effect {executor : Executor} {traps : Traps} {labels : Labels}
    {processor : Processor} {index : Option Value} {i : Instruction} {fault : Fault}
    (h : executor.effect traps labels processor index i = .error (.fault fault)) :
    fault = ⟨.unsupportedForm i.form.name, index, i.text traps⟩ ∨
      i.BlamedForLabel traps index fault := by
  by_cases hown : executor = ofInstruction i
  · rw [hown] at h
    exact Or.inr (faultsOnly_effect traps labels processor index i _ h fault rfl)
  · rw [effect_of_ne_ofInstruction hown] at h
    cases h
    exact Or.inl rfl

namespace Engine

/-!
# Steps
-/

def MissesLabelOrRange (engine : Engine) : Prop :=
  ∀ fault : Fault, engine.run.fault = some fault -> fault.IsOfLabelOrRange

theorem missesLabelOrRange_create (processor : Processor) (program : Program) :
    (create processor program).MissesLabelOrRange := by
  intro fault h
  cases h

theorem isOfLabelOrRange_outOfRangeFault (traps : Traps) (engine : Engine) :
    (outOfRangeFault traps engine).IsOfLabelOrRange := by
  refine Or.inr ⟨engine.run.index, engine.program.size, ?_⟩
  unfold outOfRangeFault
  split <;> rfl

theorem isOfLabelOrRange_of_effect {isa : Isa} {engine : Engine} {i : Instruction}
    (hisa : isa.CarriesOut i) {fault : Fault} (h : engine.effect isa i = .error (.fault fault)) :
    fault.IsOfLabelOrRange := by
  rcases hisa with ⟨definition, hdefinition, hexecutor⟩
  unfold effect at h
  rw [hdefinition] at h
  simp only [hexecutor] at h
  exact Or.inl (missesOnlyLabels_effect _ _ _ _ i _ h fault rfl)

theorem isOfLabelOrRange_of_abort {engine : Engine} {fault other : Fault}
    (hfault : fault.IsOfLabelOrRange) (h : (engine.abort fault).1.fault? = some other) :
    other.IsOfLabelOrRange := by
  cases h
  exact hfault

theorem missesLabelOrRange_abort {engine : Engine} {fault : Fault}
    (hfault : fault.IsOfLabelOrRange) : (engine.abort fault).2.MissesLabelOrRange := by
  intro other h
  cases h
  exact hfault

/-- What a step answers as a fault, when every instruction is carried out by its own executor.  An
engine may have a fault already, which it then repeats. -/
theorem isOfLabelOrRange_of_step {isa : Isa} {engine : Engine}
    (hisa : isa.Supports engine.program) (hengine : engine.MissesLabelOrRange) {fault : Fault}
    (h : (engine.step isa).1.fault? = some fault) : fault.IsOfLabelOrRange := by
  have hends := step_ends isa engine
  generalize engine.step isa = result at hends h
  cases hends with
  | repeatedFault hearlier =>
      cases h
      exact hengine fault hearlier
  | repeatedHalt _ _ => cases h
  | failed _ _ => cases h
  | outOfRange _ _ =>
      exact isOfLabelOrRange_of_abort (isOfLabelOrRange_outOfRangeFault isa.traps engine) h
  | faulted _ hfetch heffect =>
      have hcarries := hisa _ (Program.mem_of_fetch_ok hfetch)
      exact isOfLabelOrRange_of_abort (isOfLabelOrRange_of_effect hcarries heffect) h
  | performed _ _ _ =>
      dsimp only at h
      split at h <;> cases h

theorem missesLabelOrRange_next {isa : Isa} {engine : Engine}
    (hisa : isa.Supports engine.program) (hengine : engine.MissesLabelOrRange) :
    (engine.next isa).MissesLabelOrRange := by
  unfold next
  have hends := step_ends isa engine
  generalize engine.step isa = result at hends ⊢
  cases hends with
  | repeatedFault _ | repeatedHalt _ _ | failed _ _ => exact hengine
  | outOfRange _ _ =>
      exact missesLabelOrRange_abort (isOfLabelOrRange_outOfRangeFault isa.traps engine)
  | faulted _ hfetch heffect =>
      have hcarries := hisa _ (Program.mem_of_fetch_ok hfetch)
      exact missesLabelOrRange_abort (isOfLabelOrRange_of_effect hcarries heffect)
  | performed _ _ _ => exact hengine

theorem not_failed_of_step {isa : Isa} {engine : Engine} (hisa : isa.Supports engine.program)
    (hwhole : engine.IsWhole) (error : AccessError) : (engine.step isa).1 ≠ .failed error := by
  by_cases hrunning : engine.IsRunning
  · rw [step_of_running hisa hwhole hrunning]
    intro h
    split at h
    · cases h
    · split at h
      · cases h
      · dsimp only at h
        split at h <;> cases h
  · have hends := step_ends isa engine
    generalize engine.step isa = result at hends ⊢
    intro h
    cases hends with
    | repeatedFault _ | repeatedHalt _ _ => cases h
    | failed _ hruns | outOfRange hruns _ | faulted hruns _ _ | performed hruns _ _ =>
        exact hrunning hruns

/-!
# Runs with the same definitions
-/

/-- The engines reached by steps while the given definitions are the active ones. -/
inductive Reaches (definitions : Table String Definition) (engine : Engine) : Engine -> Prop where
  | start : Reaches definitions engine engine
  | step {earlier : Engine} (isa : Isa) :
      Reaches definitions engine earlier -> isa.definitions = definitions ->
      Reaches definitions engine (earlier.next isa)

section Reaches

variable {definitions : Table String Definition} {engine last : Engine}

theorem instructions_of_reaches (h : Reaches definitions engine last) :
    last.program.instructions = engine.program.instructions := by
  induction h with
  | start => rfl
  | @step earlier isa _ _ ih =>
      rw [← ih]
      exact instructions_next isa earlier

theorem supports_of_reaches (hreaches : Reaches definitions engine last)
    {isa loaded : Isa} (hsupports : loaded.Supports engine.program)
    (hloaded : loaded.definitions = definitions) (hisa : isa.definitions = definitions) :
    isa.Supports last.program := by
  intro i hi
  rw [instructions_of_reaches hreaches] at hi
  rcases hsupports i hi with ⟨definition, hdefinition, hexecutor⟩
  refine ⟨definition, ?_, hexecutor⟩
  unfold Isa.definition? at hdefinition ⊢
  rw [hisa, ← hloaded]
  exact hdefinition

theorem missesLabelOrRange_of_reaches (hreaches : Reaches definitions engine last)
    {loaded : Isa} (hsupports : loaded.Supports engine.program)
    (hloaded : loaded.definitions = definitions) (h : engine.MissesLabelOrRange) :
    last.MissesLabelOrRange := by
  induction hreaches with
  | start => exact h
  | @step earlier isa hreaches hisa ih =>
      have hearlier := supports_of_reaches hreaches hsupports hloaded hisa
      exact missesLabelOrRange_next hearlier ih

theorem isWhole_of_reaches (hreaches : Reaches definitions engine last) (h : engine.IsWhole) :
    last.IsWhole := by
  induction hreaches with
  | start => exact h
  | step isa _ _ ih => exact isWhole_next ih isa

end Reaches

end Engine
end LittleComputer
