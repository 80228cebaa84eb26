import LittleComputer.Engine
import LittleComputer.Proofs.Outcome
import LittleComputer.Proofs.Processor.Contents
import Mathlib.Logic.Function.Iterate

/-!
# Steps of an engine

What an instruction does to a whole processor over integer labels is a plain function of their
contents, `Instruction.outcome?`, which fails only for want of a label.  If every instruction of the
program is carried out by its own executor, this function says all that a step can do, by
`step_of_running`.  For all other engines, `step_ends` lists the ways in which a step can end.  Later
modules open neither `Engine.step` nor `Executor.effect`.
-/

namespace LittleComputer

/-!
# Labels that stand for integers
-/

namespace Labels

def AreIntegers (labels : Labels) : Prop :=
  ∀ (name value : Value), labels.get? name = some value -> value.IsInteger

theorem resolve?_of_areIntegers {labels : Labels} (h : labels.AreIntegers) (name : Value) :
    labels.resolve? name = labels.get? name := by
  unfold resolve?
  cases hget : labels.get? name with
  | none => rfl
  | some value =>
      have hne : value ≠ .null := Value.ne_null_of_isInteger (h name value hget)
      simp [Option.filter, hne]

/-- What is done with a looked up label is done with its entry, if it has one. -/
theorem lookUp_bind {labels : Labels} (h : labels.AreIntegers) (traps : Traps) (label : LabelName)
    (index : Option Value) (i : Instruction) {α : Type}
    (next : Value -> Except ExecutionError α) :
    (labels.lookUp traps label index i >>= next) =
      match labels.get? (.text label.name) with
      | some value => next value
      | none =>
          .error (.fault ⟨.unboundLabel (.text label.name), index, i.text traps⟩) := by
  unfold lookUp
  rw [resolve?_of_areIntegers h]
  cases labels.get? (.text label.name) <;> rfl

theorem get?_store (labels : Labels) (name other : Value) (value : Int) :
    (labels.store name value).get? other =
      if labels.contains name = true ∧ name.equals other = true then
        some (.int (Word.signed value))
      else labels.get? other := by
  unfold store
  by_cases hbound : labels.contains name = true
  · rw [if_pos hbound, get?_insert]
    simp only [hbound, true_and]
  · have hcond : ¬(labels.contains name = true ∧ name.equals other = true) := by
      intro hboth
      exact hbound hboth.left
    rw [if_neg hbound, if_neg hcond]

theorem areIntegers_empty : empty.AreIntegers := by
  intro name value hget
  cases hget

theorem areIntegers_insert {labels : Labels} (h : labels.AreIntegers) (name : Value)
    (value : Int) : (labels.insert name value).AreIntegers := by
  intro other found hget
  rw [get?_insert] at hget
  split at hget
  · cases hget
    exact Value.isInteger_int _
  · exact h other found hget

theorem areIntegers_store {labels : Labels} (h : labels.AreIntegers) (name : Value)
    (value : Int) : (labels.store name value).AreIntegers := by
  unfold store
  split
  · exact areIntegers_insert h name value
  · exact h

end Labels

/-!
# The outcome of an instruction
-/

def Executor.ofInstruction : Instruction -> Executor
  | .addRegister _ _ _ | .addImmediate _ _ _ => add
  | .andRegister _ _ _ | .andImmediate _ _ _ => and
  | .not _ _ => not
  | .branch _ _ => br
  | .load _ _ => ld
  | .loadIndirect _ _ => ldi
  | .store _ _ => st
  | .storeIndirect _ _ => sti
  | .trap _ => trap

theorem Executor.mnemonic_ofInstruction (i : Instruction) :
    (ofInstruction i).mnemonic = i.mnemonic := by
  cases i <;> rfl

namespace Instruction

/-- The effect of an instruction, unless it names a label that is not bound. -/
def outcome? (traps : Traps) (labels : Labels) (processor : Processor) :
    Instruction -> Option Effect
  | addRegister dest src1 src2 =>
      some (.result dest (processor.registerValue src1 + processor.registerValue src2))
  | addImmediate dest src1 imm => some (.result dest (processor.registerValue src1 + imm.value))
  | andRegister dest src1 src2 =>
      some (.result dest
        (Word.conjunction (processor.registerValue src1) (processor.registerValue src2)))
  | andImmediate dest src1 imm =>
      some (.result dest (Word.conjunction (processor.registerValue src1) imm.value))
  | not dest src => some (.result dest (Word.complement (processor.registerValue src)))
  | branch condition label =>
      (labels.get? (.text label.name)).map fun target =>
        if condition.admits processor.flagValue then .jump target else .proceed
  | load dest label =>
      (labels.get? (.text label.name)).map fun value => .result dest value.toInt
  | loadIndirect dest label =>
      (labels.get? (.text label.name)).map fun address =>
        .result dest (processor.cellValue (Processor.cell address.toInt))
  | store src label =>
      (labels.get? (.text label.name)).map fun _ => .label label (processor.registerValue src)
  | storeIndirect src label =>
      (labels.get? (.text label.name)).map fun address =>
        .cell address.toInt (processor.registerValue src)
  | trap vector => some (if traps.halts vector then .halt else .proceed)

theorem outcome?_eq_none_iff {traps : Traps} {labels : Labels} {processor : Processor}
    {i : Instruction} :
    i.outcome? traps labels processor = none ↔
      ∃ name : String, i.label? = some name ∧ labels.get? (.text name) = none := by
  cases i with
  | addRegister dest src1 src2 | addImmediate dest src1 imm | andRegister dest src1 src2
  | andImmediate dest src1 imm | not dest src | trap vector => simp [outcome?, label?]
  | branch condition label | load dest label | loadIndirect dest label | store src label
  | storeIndirect src label => simp [outcome?, label?]

def unboundFault (traps : Traps) (index : Option Value) (i : Instruction) : Fault :=
  ⟨.unboundLabel (.text (i.label?.getD "")), index, i.text traps⟩

end Instruction

/-!
# Executors decide on the outcome
-/

namespace Executor

section Effect

variable {processor : Processor} {labels : Labels}
  (hwhole : processor.IsWhole) (hlabels : labels.AreIntegers)
include hwhole hlabels

/-- The own executor of an instruction decides on its outcome, and the only thing that can go wrong
is a label that is not bound. -/
theorem effect_ofInstruction (traps : Traps) (index : Option Value) (i : Instruction) :
    (ofInstruction i).effect traps labels processor index i =
      match i.outcome? traps labels processor with
      | some effect => .ok effect
      | none => .error (.fault (i.unboundFault traps index)) := by
  cases i with
  | addRegister dest src1 src2 =>
      rcases Processor.fetchRegister_of_isWhole hwhole src1 with ⟨left, hleft, hleftInt⟩
      rcases Processor.fetchRegister_of_isWhole hwhole src2 with ⟨right, hright, hrightInt⟩
      simp only [ofInstruction, effect, hleft, hright, ok_bind, hleftInt, hrightInt,
        Processor.resultEffect_of_isWhole hwhole, Instruction.outcome?]
  | addImmediate dest src1 imm =>
      rcases Processor.fetchRegister_of_isWhole hwhole src1 with ⟨left, hleft, hleftInt⟩
      simp only [ofInstruction, effect, hleft, ok_bind, hleftInt,
        Processor.resultEffect_of_isWhole hwhole, Instruction.outcome?]
  | andRegister dest src1 src2 =>
      rcases Processor.fetchRegister_of_isWhole hwhole src1 with ⟨left, hleft, hleftInt⟩
      rcases Processor.fetchRegister_of_isWhole hwhole src2 with ⟨right, hright, hrightInt⟩
      simp only [ofInstruction, effect, hleft, hright, ok_bind, hleftInt, hrightInt,
        Processor.resultEffect_of_isWhole hwhole, Instruction.outcome?]
  | andImmediate dest src1 imm =>
      rcases Processor.fetchRegister_of_isWhole hwhole src1 with ⟨left, hleft, hleftInt⟩
      simp only [ofInstruction, effect, hleft, ok_bind, hleftInt,
        Processor.resultEffect_of_isWhole hwhole, Instruction.outcome?]
  | not dest src =>
      rcases Processor.fetchRegister_of_isWhole hwhole src with ⟨value, hvalue, hvalueInt⟩
      simp only [ofInstruction, effect, hvalue, ok_bind, hvalueInt,
        Processor.resultEffect_of_isWhole hwhole, Instruction.outcome?]
  | branch condition label =>
      simp only [ofInstruction, effect, Labels.lookUp_bind hlabels, Instruction.outcome?]
      cases hget : labels.get? (.text label.name) with
      | none => rfl
      | some target =>
          simp only [Processor.decideOn_of_isWhole hwhole, ok_bind, Option.map_some]
          rfl
  | load dest label =>
      simp only [ofInstruction, effect, Labels.lookUp_bind hlabels, Instruction.outcome?]
      cases hget : labels.get? (.text label.name) with
      | none => rfl
      | some value =>
          have hvalue := Value.integer_of_isInteger (hlabels _ value hget)
          simp only [hvalue, ok_bind, Processor.resultEffect_of_isWhole hwhole, Option.map_some]
  | loadIndirect dest label =>
      simp only [ofInstruction, effect, Labels.lookUp_bind hlabels, Instruction.outcome?]
      cases hget : labels.get? (.text label.name) with
      | none => rfl
      | some address =>
          have haddress := Value.integer_of_isInteger (hlabels _ address hget)
          rcases Processor.fetchCell_of_isWhole hwhole address.toInt with ⟨value, hvalue, hvalueInt⟩
          simp only [haddress, hvalue, hvalueInt, ok_bind,
            Processor.resultEffect_of_isWhole hwhole, Option.map_some]
  | store src label =>
      rcases Processor.fetchRegister_of_isWhole hwhole src with ⟨value, hvalue, hvalueInt⟩
      simp only [ofInstruction, effect, Labels.lookUp_bind hlabels, Instruction.outcome?]
      cases hget : labels.get? (.text label.name) with
      | none => rfl
      | some old =>
          simp only [hvalue, hvalueInt, ok_bind, Option.map_some]
          rfl
  | storeIndirect src label =>
      rcases Processor.fetchRegister_of_isWhole hwhole src with ⟨value, hvalue, hvalueInt⟩
      simp only [ofInstruction, effect, Labels.lookUp_bind hlabels, Instruction.outcome?]
      cases hget : labels.get? (.text label.name) with
      | none => rfl
      | some address =>
          have haddress := Value.integer_of_isInteger (hlabels _ address hget)
          simp only [hvalue, hvalueInt, haddress, ok_bind,
            Processor.cellEffect_of_isWhole hwhole, Option.map_some]
  | trap vector => rfl

end Effect

/-- An executor is at a loss for the form of any instruction that it is not the own executor of. -/
theorem effect_of_ne_ofInstruction {executor : Executor} {i : Instruction}
    (h : executor ≠ ofInstruction i) (traps : Traps) (labels : Labels) (processor : Processor)
    (index : Option Value) :
    executor.effect traps labels processor index i =
      .error (unsupported i.form.name (i.text traps) index) := by
  unfold Executor.effect
  split <;> first
    | rfl
    | exact absurd rfl h

end Executor

namespace Isa

/-- An instruction has an active definition, by which its own executor carries it out. -/
def CarriesOut (isa : Isa) (i : Instruction) : Prop :=
  ∃ definition : Definition,
    isa.definition? i = some definition ∧ definition.executor = .ofInstruction i

def Supports (isa : Isa) (program : Program) : Prop :=
  ∀ i ∈ program.instructions, isa.CarriesOut i

end Isa

namespace Program

theorem mem_of_fetch?_some {program : Program} {index : Int} {i : Instruction}
    (h : program.fetch? index = some i) : i ∈ program.instructions := by
  unfold fetch? at h
  split at h
  · exact Array.mem_of_getElem? h
  · cases h

theorem mem_of_fetch_ok {program : Program} {index : Value} {i : Instruction}
    (h : program.fetch index = .ok i) : i ∈ program.instructions := by
  unfold fetch at h
  split at h
  · split at h
    · next hfetch =>
        cases h
        exact mem_of_fetch?_some hfetch
    · cases h
  · split at h
    · split at h <;> cases h
    · cases h

theorem fetch_of_isInteger (program : Program) {index : Value} (h : index.IsInteger) :
    program.fetch index =
      match program.fetch? index.toInt with
      | some i => .ok i
      | none => .error .outOfRange := by
  have hindex := Value.asInt?_of_isInteger h
  unfold fetch
  cases hfetch : program.fetch? index.toInt with
  | none => simp only [hindex, hfetch]
  | some i => simp only [hindex, hfetch]

theorem fetch_natCast (program : Program) (place : Nat) :
    program.fetch (.int place) =
      match program.instructions[place]? with
      | some i => .ok i
      | none => .error .outOfRange := by
  rw [fetch_of_isInteger program (Value.isInteger_int place), Value.toInt_int]
  unfold fetch?
  rw [if_pos (Int.natCast_nonneg place)]
  rfl

theorem fetch_congr {program other : Program} (h : program.instructions = other.instructions)
    (index : Value) : program.fetch index = other.fetch index := by
  unfold fetch fetch? size
  rw [h]

theorem fetch_eq_of_equals (program : Program) {v w : Value} (hv : v.IsInteger)
    (hw : w.IsInteger) (h : v.equals w = true) : program.fetch v = program.fetch w := by
  have heq := (Value.equals_iff_of_isInteger hv hw).mp h
  rw [fetch_of_isInteger program hv, fetch_of_isInteger program hw, heq]

end Program

namespace Engine

/-!
# One step
-/

def next (isa : Isa) (engine : Engine) : Engine :=
  (engine.step isa).2

def IsRunning (engine : Engine) : Prop :=
  engine.run.fault = none ∧ engine.run.halted = false

inductive Ends (isa : Isa) (engine : Engine) : Event × Engine -> Prop where
  | repeatedFault {fault : Fault} :
      engine.run.fault = some fault -> Ends isa engine (.repeatedFault fault, engine)
  | repeatedHalt :
      engine.run.fault = none -> engine.run.halted = true ->
      Ends isa engine (.repeatedHalt, engine)
  | failed (error : AccessError) :
      engine.IsRunning -> Ends isa engine (.failed error, engine)
  | outOfRange :
      engine.IsRunning -> engine.program.fetch engine.run.index = .error .outOfRange ->
      Ends isa engine (engine.abort (outOfRangeFault isa.traps engine))
  | faulted {i : Instruction} {fault : Fault} :
      engine.IsRunning -> engine.program.fetch engine.run.index = .ok i ->
      engine.effect isa i = .error (.fault fault) -> Ends isa engine (engine.abort fault)
  | performed {i : Instruction} {effect : Effect} :
      engine.IsRunning -> engine.program.fetch engine.run.index = .ok i ->
      engine.effect isa i = .ok effect ->
      Ends isa engine (if effect.halts then .halted else .executed, engine.perform i effect)

theorem step_ends (isa : Isa) (engine : Engine) : Ends isa engine (engine.step isa) := by
  unfold step
  cases hfault : engine.run.fault with
  | some fault => exact .repeatedFault hfault
  | none =>
      by_cases hhalted : engine.run.halted = true
      · simp only [if_pos hhalted]
        exact .repeatedHalt hfault hhalted
      · simp only [if_neg hhalted]
        have hrunning : engine.IsRunning := ⟨hfault, Bool.eq_false_iff.mpr hhalted⟩
        cases hfetch : engine.program.fetch engine.run.index with
        | error error =>
            cases error with
            | outOfRange => exact .outOfRange hrunning hfetch
            | wrongType => exact .failed _ hrunning
        | ok i =>
            simp only []
            cases heffect : engine.effect isa i with
            | error error =>
                cases error with
                | fault fault => exact .faulted hrunning hfetch heffect
                | access error => exact .failed _ hrunning
            | ok effect => exact .performed hrunning hfetch heffect

inductive Moves (isa : Isa) (engine : Engine) : Engine -> Prop where
  | stays : Moves isa engine engine
  | aborted (fault : Fault) : Moves isa engine (engine.abort fault).2
  | performed {i : Instruction} {effect : Effect} :
      engine.IsRunning -> engine.program.fetch engine.run.index = .ok i ->
      engine.effect isa i = .ok effect -> Moves isa engine (engine.perform i effect)

theorem next_moves (isa : Isa) (engine : Engine) : Moves isa engine (engine.next isa) := by
  unfold next
  have hends := step_ends isa engine
  generalize engine.step isa = result at hends ⊢
  cases hends with
  | repeatedFault _ | repeatedHalt _ _ | failed _ _ => exact .stays
  | outOfRange _ _ | faulted _ _ _ => exact .aborted _
  | performed hrunning hfetch heffect => exact .performed hrunning hfetch heffect

theorem next_of_not_running (isa : Isa) {engine : Engine} (h : ¬engine.IsRunning) :
    engine.next isa = engine := by
  unfold next
  have hends := step_ends isa engine
  generalize engine.step isa = result at hends ⊢
  cases hends with
  | repeatedFault _ => rfl
  | repeatedHalt _ _ => rfl
  | failed _ _ => rfl
  | outOfRange hrunning _ | faulted hrunning _ _ | performed hrunning _ _ =>
      exact absurd hrunning h

theorem instructions_next (isa : Isa) (engine : Engine) :
    (engine.next isa).program.instructions = engine.program.instructions := by
  have hmoves := next_moves isa engine
  generalize engine.next isa = after at hmoves ⊢
  cases hmoves <;> rfl

/-!
# Steps of whole engines
-/

/-- Integers stand wherever an instruction may read one. -/
structure IsWhole (engine : Engine) : Prop where
  processor_isWhole : engine.processor.IsWhole
  labels_areIntegers : engine.program.labels.AreIntegers
  index_isInteger : engine.run.index.IsInteger

theorem isWhole_create {processor : Processor} {program : Program}
    (hprocessor : processor.IsWhole) (hlabels : program.labels.AreIntegers) :
    (create processor program).IsWhole :=
  ⟨hprocessor, hlabels, Value.isInteger_int 0⟩

theorem effect_of_carriesOut {isa : Isa} {i : Instruction} (hisa : isa.CarriesOut i)
    {engine : Engine} (hwhole : engine.IsWhole) :
    engine.effect isa i =
      match i.outcome? isa.traps engine.program.labels engine.processor with
      | some effect => .ok effect
      | none => .error (.fault (i.unboundFault isa.traps (some engine.run.index))) := by
  rcases hisa with ⟨definition, hdefinition, hexecutor⟩
  unfold effect
  rw [hdefinition]
  show definition.executor.effect _ _ _ _ _ = _
  rw [hexecutor]
  exact Executor.effect_ofInstruction hwhole.processor_isWhole hwhole.labels_areIntegers _ _ i

theorem effect_of_not_carriesOut {isa : Isa} {i : Instruction} (hisa : ¬isa.CarriesOut i)
    (engine : Engine) :
    ∃ cause : FaultCause,
      (cause = .unknownInstruction i.mnemonic ∨ cause = .unsupportedForm i.form.name) ∧
        engine.effect isa i =
          .error (.fault ⟨cause, some engine.run.index, i.text isa.traps⟩) := by
  unfold effect
  cases hdefinition : isa.definition? i with
  | none => exact ⟨_, Or.inl rfl, rfl⟩
  | some definition =>
      have hne : definition.executor ≠ .ofInstruction i := by
        intro hexecutor
        exact hisa ⟨definition, hdefinition, hexecutor⟩
      refine ⟨_, Or.inr rfl, ?_⟩
      exact Executor.effect_of_ne_ofInstruction hne _ _ _ _

theorem outcome?_of_effect {isa : Isa} {engine : Engine} (hwhole : engine.IsWhole)
    {i : Instruction} {effect : Effect} (h : engine.effect isa i = .ok effect) :
    i.outcome? isa.traps engine.program.labels engine.processor = some effect := by
  by_cases hisa : isa.CarriesOut i
  · rw [effect_of_carriesOut hisa hwhole] at h
    split at h
    · next houtcome =>
        cases h
        exact houtcome
    · cases h
  · rcases effect_of_not_carriesOut hisa engine with ⟨cause, -, heffect⟩
    rw [heffect] at h
    cases h

/-- All that a step of a running engine can do: it finds no instruction, or no label, or the
instruction has its outcome. -/
theorem step_of_running {isa : Isa} {engine : Engine} (hisa : isa.Supports engine.program)
    (hwhole : engine.IsWhole) (hrunning : engine.IsRunning) :
    engine.step isa =
      match engine.program.fetch? engine.run.index.toInt with
      | none => engine.abort (outOfRangeFault isa.traps engine)
      | some i =>
          match i.outcome? isa.traps engine.program.labels engine.processor with
          | none => engine.abort (i.unboundFault isa.traps (some engine.run.index))
          | some effect =>
              (if effect.halts then .halted else .executed, engine.perform i effect) := by
  rcases hrunning with ⟨hfault, hhalted⟩
  have hgoesOn : ¬engine.run.halted = true := by
    rw [hhalted]
    exact Bool.false_ne_true
  unfold step
  rw [hfault]
  simp only [if_neg hgoesOn, Program.fetch_of_isInteger engine.program hwhole.index_isInteger]
  cases hfetch : engine.program.fetch? engine.run.index.toInt with
  | none => rfl
  | some i =>
      have hcarries := hisa i (Program.mem_of_fetch?_some hfetch)
      simp only [effect_of_carriesOut hcarries hwhole]
      cases i.outcome? isa.traps engine.program.labels engine.processor with
      | none => rfl
      | some effect => rfl

/-!
# What a step keeps
-/

theorem isInteger_of_outcome?_target {traps : Traps} {labels : Labels} {processor : Processor}
    (hlabels : labels.AreIntegers) {i : Instruction} {effect : Effect} {target : Value}
    (houtcome : i.outcome? traps labels processor = some effect)
    (htarget : effect.target? = some target) : target.IsInteger := by
  cases i with
  | branch condition label =>
      rcases Option.map_eq_some_iff.mp houtcome with ⟨value, hget, rfl⟩
      split at htarget
      · cases htarget
        exact hlabels _ _ hget
      · cases htarget
  | load dest label | loadIndirect dest label | store src label | storeIndirect src label =>
      rcases Option.map_eq_some_iff.mp houtcome with ⟨value, -, rfl⟩
      cases htarget
  | addRegister dest src1 src2 | addImmediate dest src1 imm | andRegister dest src1 src2
  | andImmediate dest src1 imm | not dest src =>
      cases houtcome
      cases htarget
  | trap vector =>
      cases houtcome
      split at htarget <;> cases htarget

theorem isInteger_following {index : Value} (h : index.IsInteger) :
    (following index).IsInteger := by
  unfold following
  rw [Value.asInt?_of_isInteger h]
  exact Value.isInteger_int _

theorem isWhole_onProcessor {processor : Processor} (h : processor.IsWhole) (effect : Effect) :
    (effect.onProcessor processor).IsWhole := by
  cases effect with
  | result dest value => exact Processor.isWhole_putResult h dest value
  | cell address value => exact Processor.isWhole_write h address value
  | label name value | jump target | proceed | halt => exact h

theorem areIntegers_onLabels {labels : Labels} (h : labels.AreIntegers) (effect : Effect) :
    (effect.onLabels labels).AreIntegers := by
  cases effect with
  | label name value => exact Labels.areIntegers_store h _ value
  | result dest value | cell address value | jump target | proceed | halt => exact h

theorem isWhole_perform {traps : Traps} {engine : Engine} (h : engine.IsWhole) {i : Instruction}
    {effect : Effect}
    (houtcome : i.outcome? traps engine.program.labels engine.processor = some effect) :
    (engine.perform i effect).IsWhole where
  processor_isWhole := isWhole_onProcessor h.processor_isWhole effect
  labels_areIntegers := areIntegers_onLabels h.labels_areIntegers effect
  index_isInteger := by
    show (if effect.halts then engine.run.index
      else effect.target?.getD (following engine.run.index)).IsInteger
    split
    · exact h.index_isInteger
    · cases htarget : effect.target? with
      | none => exact isInteger_following h.index_isInteger
      | some target =>
          exact isInteger_of_outcome?_target h.labels_areIntegers houtcome htarget

theorem isWhole_next {engine : Engine} (h : engine.IsWhole) (isa : Isa) :
    (engine.next isa).IsWhole := by
  have hmoves := next_moves isa engine
  generalize engine.next isa = after at hmoves ⊢
  cases hmoves with
  | stays | aborted _ => exact ⟨h.processor_isWhole, h.labels_areIntegers, h.index_isInteger⟩
  | performed _ _ heffect => exact isWhole_perform h (outcome?_of_effect h heffect)

/-!
# Any number of steps
-/

theorem instructions_iterate_next (isa : Isa) (engine : Engine) (n : Nat) :
    ((next isa)^[n] engine).program.instructions = engine.program.instructions := by
  induction n with
  | zero => rfl
  | succ n ih =>
      rw [Function.iterate_succ_apply', instructions_next]
      exact ih

theorem supports_iterate_next {isa : Isa} {engine : Engine} (h : isa.Supports engine.program)
    (n : Nat) : isa.Supports ((next isa)^[n] engine).program := by
  intro i hi
  rw [instructions_iterate_next] at hi
  exact h i hi

end Engine
end LittleComputer
