import LittleComputer.Builder
import LittleComputer.Proofs.Engine.Unbound
import LittleComputer.Sheet.Manager

/-!
# Labels missed in executions

Before an execution starts, the labels that the program names and that are not bound are listed.  No
other label can be missed, in the execution or in any later steps, runs and resets of its engine.
-/

namespace LittleComputer
namespace Builder

theorem fault?_of_runAnswer {event : Option Event} {steps : Nat} {fault : Fault}
    (h : runAnswer event steps = .error (.fault fault)) :
    ∃ last : Event, event = some last ∧ last.fault? = some fault := by
  cases event with
  | none => cases h
  | some last =>
      refine ⟨last, rfl, ?_⟩
      cases last with
      | faulted other | repeatedFault other =>
          cases h
          rfl
      | failed error => cases error <;> cases h
      | executed | halted | repeatedHalt => cases h

theorem fault_of_execute {σ : Type} {isa : Isa} {announce : List Record -> σ -> σ}
    {observe : Engine -> Event -> σ -> σ} {limit : Nat} {seen : σ} {builder : Builder}
    {fault : Fault}
    (h : (builder.execute isa announce observe limit seen).1 = .error (.fault fault)) :
    ∃ n : Nat, ((Engine.next isa)^[n]
      (.create builder.processor builder.program.freeze)).run.fault = some fault := by
  unfold execute prepare at h
  by_cases hfrozen : builder.program.frozen = true
  · rw [if_pos hfrozen] at h
    cases h
  · rw [if_neg hfrozen] at h
    dsimp only at h
    cases hvalid : isa.validate builder.program.freeze with
    | some error =>
        rw [hvalid] at h
        cases h
    | none =>
        rw [hvalid] at h
        dsimp only [startRun, runEngine] at h
        rcases fault?_of_runAnswer h with ⟨last, hlast, hfault⟩
        have hnone : ∀ event : Event, none = some event -> event.fault? = none := by
          intro event hevent
          cases hevent
        have hended := Engine.fault_of_drive hnone hlast hfault
        rcases Engine.drive_eq_iterate isa observe limit none _
          (.create builder.processor builder.program.freeze) with ⟨n, hn⟩
        refine ⟨n, ?_⟩
        rw [← hn]
        exact hended

/-- The names that are bound stay the same whatever is asked of an engine.  A step misses a label
exactly if the instruction at hand is carried out by its own executor and names one that was not
bound at the start.  So nothing is missed if all named labels are bound, and what an execution misses
is among the labels listed beforehand, which are the named ones that are not bound, each once, in
order of first use. -/
theorem unbound_labels {processor : Processor} (hprocessor : processor.IsWhole) {program : Program}
    (hlabels : program.labels.AreIntegers) :
    (∀ history : List Engine.Call,
      let engine := (Engine.create processor program).after history
      engine.program.labels.table.keys = program.labels.table.keys ∧
      (∀ (isa : Isa) (label : Value),
        Engine.MissesLabel (engine.step isa).1 label ↔
          engine.IsRunning ∧ ∃ (i : Instruction) (name : String),
            engine.program.fetch engine.run.index = .ok i ∧ isa.CarriesOut i ∧
              i.label? = some name ∧ label = .text name ∧
              program.labels.contains (.text name) = false) ∧
      ((∀ name ∈ program.namedLabels, program.labels.contains (.text name) = true) ->
        ∀ (isa : Isa) (fault : Fault),
          (engine.step isa).1.fault? = some fault ->
          ∀ label : Value, fault.cause ≠ .unboundLabel label)) ∧
    (∀ (run : Option Run) (isa : Isa) (σ : Type) (announce : List Record -> σ -> σ)
        (observe : Engine -> Event -> σ -> σ) (limit : Nat) (seen : σ) (fault : Fault)
        (label : Value),
      (execute isa announce observe limit seen ⟨program, processor, run⟩).1 =
        .error (.fault fault) ->
      fault.cause = .unboundLabel label -> ∃ name ∈ program.unboundLabels, label = .text name) ∧
    (∀ name : String, name ∈ program.unboundLabels ↔
      (∃ i ∈ program.instructions, i.label? = some name) ∧
        program.labels.contains (.text name) = false) ∧
    program.unboundLabels.Pairwise fun name other =>
      firstUse program.instructions.toList name < firstUse program.instructions.toList other := by
  refine ⟨?_, ?_, fun name => Program.mem_unboundLabels, program.pairwise_unboundLabels⟩
  · intro history engine
    have hengine : Engine.OnTheWay program engine :=
      (Engine.OnTheWay.create hprocessor hlabels).after hlabels history
    refine ⟨hengine.keys_eq, ?_, ?_⟩
    · intro isa label
      rw [Engine.missesLabel_of_step_iff hengine.isWhole]
      simp only [Labels.contains_congr hengine.keys_eq]
    · intro hbound isa fault hfault label hcause
      have hafter := hengine.next isa
      rcases hafter.mem_unboundLabels fault label (Engine.fault_of_step hfault) hcause with
        ⟨name, hname, -⟩
      rcases Program.mem_unboundLabels.mp hname with ⟨hnamed, hunbound⟩
      rw [hbound name (Program.mem_namedLabels.mpr hnamed)] at hunbound
      cases hunbound
  · intro run isa σ announce observe limit seen fault label hanswer hcause
    rcases fault_of_execute hanswer with ⟨n, hfault⟩
    have hstart : Engine.OnTheWay program.freeze (.create processor program.freeze) :=
      Engine.OnTheWay.create hprocessor hlabels
    have hend := Engine.holds_iterate (fun isa engine h => h.next isa) isa n hstart
    exact hend.mem_unboundLabels fault label hfault hcause

theorem unbound_labels_load :
    let program : Program :=
      ⟨#[.branch ⟨false, false, false⟩ ⟨"B", by decide⟩, .load 1 ⟨"A", by decide⟩],
        Labels.empty.insert (.text "B") 1, none, true⟩
    let engine := (Engine.create .initial program).after [.step .standard]
    Processor.initial.IsWhole ∧ program.labels.AreIntegers ∧ program.unboundLabels = ["A"] ∧
      Engine.MissesLabel (engine.step .standard).1 (.text "A") := by
  intro program engine
  have hprocessor : Processor.initial.IsWhole := Processor.isWhole_initial
  have hlabels : program.labels.AreIntegers :=
    Labels.areIntegers_insert Labels.areIntegers_empty _ 1
  have hmisses := ((unbound_labels hprocessor hlabels).left [.step .standard]).right.left
    .standard (.text "A")
  refine ⟨hprocessor, hlabels, rfl, hmisses.mpr ⟨⟨rfl, rfl⟩, .load 1 ⟨"A", by decide⟩, "A", ?_⟩⟩
  exact ⟨rfl, ⟨_, rfl, rfl⟩, rfl, rfl, rfl⟩

end Builder
end LittleComputer
