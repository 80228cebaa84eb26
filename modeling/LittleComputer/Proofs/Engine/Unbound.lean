import LittleComputer.Proofs.Engine.Atomicity
import LittleComputer.Proofs.Engine.Effects
import LittleComputer.Proofs.Program.NamedLabels

/-!
# Labels that are not bound

No call changes which names are bound, since a store writes to bound names only and a reset puts back
the labels of the start.  So a step misses a label exactly if the instruction at hand names one that
was not bound at the start, and the label of any such fault is among the unbound labels that the
program is known to name beforehand.
-/

namespace LittleComputer

namespace Labels

theorem keys_onLabels (labels : Labels) (effect : Effect) :
    (effect.onLabels labels).table.keys = labels.table.keys := by
  cases effect with
  | label name value => exact keys_store labels _ value
  | result dest value | cell address value | jump target | proceed | halt => rfl

theorem contains_congr {labels other : Labels} (h : labels.table.keys = other.table.keys)
    (name : Value) : labels.contains name = other.contains name := by
  rw [Bool.eq_iff_iff]
  unfold contains
  rw [Table.contains_iff, Table.contains_iff, h]

theorem contains_eq_false_iff {labels : Labels} {name : Value} :
    labels.contains name = false ↔ labels.get? name = none := by
  show (labels.table.get? ⟨name⟩).isSome = false ↔ labels.table.get? ⟨name⟩ = none
  rw [Option.isSome_eq_false_iff, Option.isNone_iff_eq_none]

end Labels

theorem Instruction.cause_unboundFault {i : Instruction} {name : String} (h : i.label? = some name)
    (traps : Traps) (index : Option Value) :
    (i.unboundFault traps index).cause = .unboundLabel (.text name) := by
  show FaultCause.unboundLabel (.text (i.label?.getD "")) = _
  rw [h]
  rfl

namespace Engine

def MissesLabel (event : Event) (label : Value) : Prop :=
  ∃ fault : Fault, event = .faulted fault ∧ fault.cause = .unboundLabel label

/-!
# One step
-/

theorem cause_outOfRangeFault (traps : Traps) (engine : Engine) :
    (outOfRangeFault traps engine).cause = .outOfRange engine.run.index engine.program.size := by
  unfold outOfRangeFault
  split <;> rfl

theorem exists_label_of_effect {isa : Isa} {engine : Engine} (hwhole : engine.IsWhole)
    {i : Instruction} (hisa : isa.CarriesOut i) {fault : Fault}
    (h : engine.effect isa i = .error (.fault fault)) :
    ∃ name : String, i.label? = some name ∧
      engine.program.labels.contains (.text name) = false ∧
        fault.cause = .unboundLabel (.text name) := by
  rw [effect_of_carriesOut hisa hwhole] at h
  split at h
  · cases h
  · next hnone =>
      cases h
      rcases Instruction.outcome?_eq_none_iff.mp hnone with ⟨name, hname, hget⟩
      exact ⟨name, hname, Labels.contains_eq_false_iff.mpr hget,
        Instruction.cause_unboundFault hname isa.traps _⟩

/-- An instruction misses a label exactly if its own executor carries it out and the label that it
names is not bound. -/
theorem unboundLabel_of_effect_iff {isa : Isa} {engine : Engine} (hwhole : engine.IsWhole)
    {i : Instruction} {label : Value} :
    (∃ fault : Fault, engine.effect isa i = .error (.fault fault) ∧
      fault.cause = .unboundLabel label) ↔
    isa.CarriesOut i ∧ ∃ name : String, i.label? = some name ∧ label = .text name ∧
      engine.program.labels.contains (.text name) = false := by
  constructor
  · rintro ⟨fault, hfault, hcause⟩
    by_cases hisa : isa.CarriesOut i
    · rcases exists_label_of_effect hwhole hisa hfault with ⟨name, hname, hunbound, hother⟩
      rw [hother] at hcause
      cases hcause
      exact ⟨hisa, name, hname, rfl, hunbound⟩
    · rcases effect_of_not_carriesOut hisa engine with ⟨cause, hother, heffect⟩
      rw [heffect] at hfault
      cases hfault
      rcases hother with rfl | rfl <;> cases hcause
  · rintro ⟨hisa, name, hname, rfl, hunbound⟩
    have hget := Labels.contains_eq_false_iff.mp hunbound
    rw [effect_of_carriesOut hisa hwhole,
      Instruction.outcome?_eq_none_iff.mpr ⟨name, hname, hget⟩]
    exact ⟨_, rfl, Instruction.cause_unboundFault hname isa.traps _⟩

theorem missesLabel_of_step_iff {isa : Isa} {engine : Engine} (hwhole : engine.IsWhole)
    {label : Value} :
    MissesLabel (engine.step isa).1 label ↔
      engine.IsRunning ∧ ∃ (i : Instruction) (name : String),
        engine.program.fetch engine.run.index = .ok i ∧ isa.CarriesOut i ∧
          i.label? = some name ∧ label = .text name ∧
          engine.program.labels.contains (.text name) = false := by
  constructor
  · rintro ⟨fault, hfault, hcause⟩
    have hends := step_ends isa engine
    generalize engine.step isa = result at hends hfault
    cases hends with
    | repeatedFault _ | repeatedHalt _ _ | failed _ _ => cases hfault
    | outOfRange _ _ =>
        cases hfault
        rw [cause_outOfRangeFault] at hcause
        cases hcause
    | @faulted i other hrunning hfetch heffect =>
        cases hfault
        rcases (unboundLabel_of_effect_iff hwhole).mp ⟨fault, heffect, hcause⟩ with
          ⟨hisa, name, hname, hlabel, hunbound⟩
        exact ⟨hrunning, i, name, hfetch, hisa, hname, hlabel, hunbound⟩
    | performed _ _ _ =>
        dsimp only at hfault
        split at hfault <;> cases hfault
  · rintro ⟨⟨hfault, hhalted⟩, i, name, hfetch, hisa, hname, hlabel, hunbound⟩
    rcases (unboundLabel_of_effect_iff hwhole).mpr ⟨hisa, name, hname, hlabel, hunbound⟩ with
      ⟨fault, heffect, hcause⟩
    refine ⟨fault, ?_, hcause⟩
    unfold step
    simp [hfault, hhalted, hfetch, heffect, abort]

/-!
# Names through calls
-/

theorem keys_next (isa : Isa) (engine : Engine) :
    (engine.next isa).program.labels.table.keys = engine.program.labels.table.keys := by
  have hmoves := next_moves isa engine
  generalize engine.next isa = after at hmoves ⊢
  cases hmoves with
  | stays | aborted _ => rfl
  | @performed i effect _ _ _ => exact Labels.keys_onLabels _ effect

/-- An engine on the way through a program: the instructions and the names of the start are there,
and a fault for want of a label is about one that was unbound and named from the start. -/
structure OnTheWay (program : Program) (engine : Engine) : Prop where
  isWhole : engine.IsWhole
  instructions_eq : engine.program.instructions = program.instructions
  keys_eq : engine.program.labels.table.keys = program.labels.table.keys
  initialLabels_eq : engine.run.initialLabels = program.labels.table
  mem_unboundLabels : ∀ (fault : Fault) (label : Value), engine.run.fault = some fault ->
    fault.cause = .unboundLabel label -> ∃ name ∈ program.unboundLabels, label = .text name

section OnTheWay

variable {program : Program}

theorem OnTheWay.create {processor : Processor} (hprocessor : processor.IsWhole)
    (hlabels : program.labels.AreIntegers) : OnTheWay program (create processor program) where
  isWhole := isWhole_create hprocessor hlabels
  instructions_eq := rfl
  keys_eq := rfl
  initialLabels_eq := rfl
  mem_unboundLabels := by
    intro fault label h
    cases h

theorem OnTheWay.mem_of_missesLabel {engine : Engine} (h : OnTheWay program engine)
    {isa : Isa} {label : Value}
    (hmisses : MissesLabel (engine.step isa).1 label) :
    ∃ name ∈ program.unboundLabels, label = .text name := by
  rcases (missesLabel_of_step_iff h.isWhole).mp hmisses with
    ⟨-, i, name, hfetch, -, hname, hlabel, hunbound⟩
  have hmem := Program.mem_of_fetch_ok hfetch
  rw [h.instructions_eq] at hmem
  rw [Labels.contains_congr h.keys_eq] at hunbound
  exact ⟨name, Program.mem_unboundLabels.mpr ⟨⟨i, hmem, hname⟩, hunbound⟩, hlabel⟩

theorem OnTheWay.next {engine : Engine} (h : OnTheWay program engine) (isa : Isa) :
    OnTheWay program (engine.next isa) where
  isWhole := isWhole_next h.isWhole isa
  instructions_eq := by
    rw [instructions_next]
    exact h.instructions_eq
  keys_eq := by
    rw [keys_next]
    exact h.keys_eq
  initialLabels_eq := by
    rw [initialLabels_next]
    exact h.initialLabels_eq
  mem_unboundLabels := by
    intro fault label hfault hcause
    rcases fault_next hfault with hearlier | hnew
    · exact h.mem_unboundLabels fault label hearlier hcause
    · exact h.mem_of_missesLabel ⟨fault, hnew, hcause⟩

theorem OnTheWay.reset (hlabels : program.labels.AreIntegers) {engine : Engine}
    (h : OnTheWay program engine) : OnTheWay program engine.reset where
  isWhole := by
    refine ⟨Processor.isWhole_initial, ?_, Value.isInteger_int 0⟩
    intro name value hget
    have htable : engine.reset.program.labels.table = program.labels.table := h.initialLabels_eq
    apply hlabels name value
    unfold Labels.get? at hget ⊢
    rw [← htable]
    exact hget
  instructions_eq := h.instructions_eq
  keys_eq := congrArg Table.keys h.initialLabels_eq
  initialLabels_eq := h.initialLabels_eq
  mem_unboundLabels := by
    intro fault label hfault
    cases hfault

theorem OnTheWay.after (hlabels : program.labels.AreIntegers) {engine : Engine}
    (h : OnTheWay program engine) (calls : List Call) : OnTheWay program (engine.after calls) := by
  apply holds_after _ _ h
  · intro isa later hlater
    exact hlater.next isa
  · intro _ later hlater
    exact hlater.reset hlabels

end OnTheWay

end Engine
end LittleComputer
