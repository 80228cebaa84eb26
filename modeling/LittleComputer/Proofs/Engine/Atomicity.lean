import LittleComputer.Proofs.Engine.Calls

/-!
# Steps that fault

A step of a whole engine comes to an outcome, whatever executors are bound to the mnemonics: an
executor finds all that it reads, or is at a loss for the form.  A step that faults ends the run and
touches nothing else, and the fault stays until the engine is reset.
-/

namespace LittleComputer

/-- An event that tells what became of the step, as a failed question to the processor does not. -/
def Event.IsOutcome (event : Event) : Prop :=
  ∀ error : AccessError, event ≠ .failed error

namespace Engine

/-!
# Steps come to an outcome
-/

theorem effect_ne_access (isa : Isa) {engine : Engine} (hwhole : engine.IsWhole) (i : Instruction)
    (error : AccessError) : engine.effect isa i ≠ .error (.access error) := by
  intro h
  by_cases hisa : isa.CarriesOut i
  · rw [effect_of_carriesOut hisa hwhole] at h
    split at h <;> cases h
  · rcases effect_of_not_carriesOut hisa engine with ⟨cause, -, heffect⟩
    rw [heffect] at h
    cases h

theorem isOutcome_step (isa : Isa) {engine : Engine} (hwhole : engine.IsWhole) :
    (engine.step isa).1.IsOutcome := by
  unfold step
  rw [Program.fetch_of_isInteger engine.program hwhole.index_isInteger]
  cases engine.run.fault with
  | some fault => simp [Event.IsOutcome]
  | none =>
      by_cases hhalted : engine.run.halted = true
      · simp [hhalted, Event.IsOutcome]
      · cases engine.program.fetch? engine.run.index.toInt with
        | none => simp [hhalted, abort, Event.IsOutcome]
        | some i =>
            cases heffect : engine.effect isa i with
            | error error =>
                cases error with
                | fault fault => simp [hhalted, heffect, abort, Event.IsOutcome]
                | access error => exact absurd heffect (effect_ne_access isa hwhole i error)
            | ok effect =>
                cases hhalts : effect.halts with
                | true => simp [hhalted, heffect, hhalts, Event.IsOutcome]
                | false => simp [hhalted, heffect, hhalts, Event.IsOutcome]

/-!
# Faults stay
-/

theorem step_of_fault {isa : Isa} {engine : Engine} {fault : Fault}
    (h : (engine.step isa).1.fault? = some fault) :
    (engine.run.fault = some fault ∧ engine.step isa = (.repeatedFault fault, engine)) ∨
    engine.IsRunning ∧ engine.step isa = engine.abort fault := by
  have hends := step_ends isa engine
  generalize engine.step isa = result at hends h ⊢
  cases hends with
  | repeatedFault hfault =>
      cases h
      exact Or.inl ⟨hfault, rfl⟩
  | repeatedHalt _ _ | failed _ _ => cases h
  | outOfRange hrunning _ | faulted hrunning _ _ =>
      cases h
      exact Or.inr ⟨hrunning, rfl⟩
  | performed _ _ _ =>
      dsimp only at h
      split at h <;> cases h

theorem fault_of_step {isa : Isa} {engine : Engine} {fault : Fault}
    (h : (engine.step isa).1.fault? = some fault) :
    (engine.next isa).run.fault = some fault := by
  unfold next
  rcases step_of_fault h with ⟨hearlier, hstep⟩ | ⟨-, hstep⟩
  · rw [hstep]
    exact hearlier
  · rw [hstep]
    rfl

theorem fault_next {isa : Isa} {engine : Engine} {fault : Fault}
    (h : (engine.next isa).run.fault = some fault) :
    engine.run.fault = some fault ∨ (engine.step isa).1 = .faulted fault := by
  have hends := step_ends isa engine
  unfold next at h
  generalize engine.step isa = result at hends h ⊢
  cases hends with
  | repeatedFault _ | repeatedHalt _ _ | failed _ _ | performed _ _ _ => exact Or.inl h
  | outOfRange _ _ | faulted _ _ _ =>
      cases h
      exact Or.inr rfl

theorem step_of_faulted {engine : Engine} {fault : Fault} (h : engine.run.fault = some fault)
    (isa : Isa) : engine.step isa = (.repeatedFault fault, engine) := by
  unfold step
  rw [h]

theorem after_of_faulted {engine : Engine} {fault : Fault} (h : engine.run.fault = some fault)
    {calls : List Call} (hreset : Call.reset ∉ calls) : engine.after calls = engine := by
  apply holds_after (P := fun later => later = engine)
  · rintro isa later rfl
    unfold next
    rw [step_of_faulted h]
  · intro hmem
    exact absurd hmem hreset
  · rfl

theorem fault?_of_isExecuted {event : Event} (h : event.isExecuted = true) :
    event.fault? = none := by
  cases event <;> first
    | rfl
    | cases h

theorem fault_of_drive {σ : Type} {isa : Isa}
    {observe : Engine -> Event -> σ -> σ} {limit : Nat} {last : Option Event} {seen : σ}
    {engine : Engine} (hlast : ∀ event : Event, last = some event -> event.fault? = none)
    {event : Event} {fault : Fault}
    (h : (drive isa observe limit last seen engine).1.1 = some event)
    (hfault : event.fault? = some fault) :
    (drive isa observe limit last seen engine).2.run.fault = some fault := by
  induction limit generalizing last seen engine with
  | zero =>
      rw [hlast event h] at hfault
      cases hfault
  | succ limit ih =>
      unfold drive at h ⊢
      rcases hstep : engine.step isa with ⟨answer, later⟩
      simp only [hstep] at h ⊢
      by_cases hexecuted : answer.isExecuted = true
      · rw [if_pos hexecuted] at h ⊢
        apply ih _ h
        rintro other ⟨⟩
        exact fault?_of_isExecuted hexecuted
      · rw [if_neg hexecuted] at h ⊢
        cases h
        have hended : (engine.step isa).1.fault? = some fault ->
            (engine.next isa).run.fault = some fault := fault_of_step
        unfold next at hended
        rw [hstep] at hended
        exact hended hfault

/-- A step of an engine comes to an outcome.  If that is a fault, the run has ended with it and all
else is as before the step, or it had ended with it before and nothing has changed at all; and every
further step, after any calls but a reset, answers the same fault and changes nothing. -/
theorem faulted_step_keeps_state (isa : Isa) {engine : Engine} (hwhole : engine.IsWhole) :
    (engine.step isa).1.IsOutcome ∧
      ∀ fault : Fault, (engine.step isa).1.fault? = some fault ->
        let stopped := engine.next isa
        (engine.run.fault = none -> stopped =
          { engine with run := { engine.run with halted := true, fault := some fault } }) ∧
        (engine.run.fault ≠ none -> stopped = engine) ∧
        (∀ (calls : List Call) (isa : Isa), Call.reset ∉ calls ->
          (stopped.after calls).step isa = (.repeatedFault fault, stopped)) ∧
        stopped.reset.IsRunning := by
  constructor
  · exact isOutcome_step isa hwhole
  · intro fault hfault stopped
    have hstopped : stopped.run.fault = some fault := fault_of_step hfault
    refine ⟨?_, ?_, ?_, rfl, rfl⟩
    · intro hnone
      show engine.next isa = _
      unfold next
      rcases step_of_fault hfault with ⟨hearlier, -⟩ | ⟨-, hstep⟩
      · rw [hnone] at hearlier
        cases hearlier
      · rw [hstep]
        rfl
    · intro hsome
      show engine.next isa = engine
      unfold next
      rcases step_of_fault hfault with ⟨-, hstep⟩ | ⟨hrunning, -⟩
      · rw [hstep]
      · exact absurd hrunning.left hsome
    · intro calls isa hreset
      rw [after_of_faulted hstopped hreset]
      exact step_of_faulted hstopped isa

theorem faulted_step_keeps_state_store :
    let isa := Isa.bare.activate [⟨"ST", "", [["reg", "label"]], .add⟩]
    let labels := Labels.empty.insert (.text "A") 5
    let engine := create .initial ⟨#[.store 1 ⟨"A", by decide⟩], labels, none, true⟩
    let fault : Fault := ⟨.unsupportedForm "Store", some (.int 0), "ST R1, A"⟩
    engine.IsWhole ∧ (engine.step isa).1.fault? = some fault ∧
      engine.next isa =
        { engine with run := { engine.run with halted := true, fault := some fault } } := by
  intro isa labels engine fault
  have hlabels : labels.AreIntegers := Labels.areIntegers_insert Labels.areIntegers_empty _ 5
  have hwhole : engine.IsWhole := isWhole_create Processor.isWhole_initial hlabels
  have hfault : (engine.step isa).1.fault? = some fault := by
    decide +kernel
  have hkeeps := (faulted_step_keeps_state isa hwhole).right fault hfault
  exact ⟨hwhole, hfault, hkeeps.left rfl⟩

end Engine
end LittleComputer
