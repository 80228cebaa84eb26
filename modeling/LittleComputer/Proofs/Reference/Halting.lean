import LittleComputer.Proofs.Engine.Running
import LittleComputer.Proofs.Reference.Execution
import LittleComputer.Proofs.Reference.Simulation

/-!
# Runs to a halt

If the reference machine comes to a halt, then an engine that represents it runs to its end without
a fault, in no more steps, and represents the halted machine there.
-/

namespace LittleComputer

theorem Event.isExecuted_of_isHalt {event : Event} (h : event.isHalt = true) :
    event.isExecuted = false := by
  cases event with
  | halted | repeatedHalt => rfl
  | executed | faulted _ | repeatedFault _ | failed _ => cases h

namespace Builder

theorem runAnswer_of_isHalt {event : Event} (h : event.isHalt = true) (steps : Nat) :
    runAnswer (some event) steps = .ok steps := by
  cases event with
  | halted | repeatedHalt => rfl
  | executed | faulted _ | repeatedFault _ | failed _ => cases h

theorem prepare_of_open {builder : Builder} (hopen : builder.program.frozen = false) :
    builder.prepare Isa.standard =
      (.ok (), { builder with program := builder.program.freeze }) := by
  have hvalid : Isa.standard.validate builder.program.freeze = none :=
    Isa.validate_eq_none_iff.mpr fun i _ => Isa.objection?_of_standard rfl i
  unfold Builder.prepare
  simp only [hopen, hvalid]
  rfl

end Builder

namespace Reference

section Halting

variable {isa : Isa} {code : List Instruction} {engine : Engine} {machine : Machine}

theorem eq_executed_of_reports {event : Event} (h : Reports event .running) :
    event = .executed := by
  cases event with
  | executed => rfl
  | halted | repeatedHalt => cases h
  | faulted _ | repeatedFault _ | failed _ => exact h.elim

theorem isHalt_of_reports {event : Event} (h : Reports event .halted) : event.isHalt = true := by
  cases event with
  | halted | repeatedHalt => rfl
  | executed => cases h
  | faulted _ | repeatedFault _ | failed _ => exact h.elim

theorem iterate_step_of_stopped (code : List Instruction) (halts : Int -> Bool) (n : Nat)
    (h : machine.status ≠ .running) : (Machine.step code halts)^[n] machine = machine :=
  Function.iterate_fixed (Machine.step_of_stopped code halts h) n

/-- By induction on the steps of the machine, of which the engine takes one at a time. -/
theorem exists_runsTo_of_halted (hisa : isa.Supports engine.program)
    (h : Represents code engine machine) (hrunning : machine.status = .running) {n : Nat}
    (hhalted : ((Machine.step code isa.traps.halts)^[n] machine).status = .halted) :
    ∃ (count : Nat) (event : Event) (last : Engine), count ≤ n ∧ event.isHalt = true ∧
      Engine.RunsTo isa count engine event last ∧
      Represents code last ((Machine.step code isa.traps.halts)^[n] machine) := by
  induction n generalizing engine machine with
  | zero =>
      rw [Function.iterate_zero_apply, hrunning] at hhalted
      cases hhalted
  | succ n ih =>
      rw [Function.iterate_succ_apply] at hhalted ⊢
      rcases represents_step hisa h with ⟨hnext, hreports⟩
      by_cases hgoesOn : (machine.step code isa.traps.halts).status = .running
      · have hexecuted : (engine.step isa).1.isExecuted = true := by
          rw [hgoesOn] at hreports
          rw [eq_executed_of_reports hreports]
          rfl
        rcases ih (Engine.supports_iterate_next hisa 1) hnext hgoesOn hhalted with
          ⟨count, event, last, hcount, hevent, hruns, hlast⟩
        exact ⟨count + 1, event, last, Nat.succ_le_succ hcount, hevent, .goesOn hexecuted hruns,
          hlast⟩
      · rw [iterate_step_of_stopped code _ n hgoesOn] at hhalted ⊢
        rw [hhalted] at hreports
        have hevent := isHalt_of_reports hreports
        exact ⟨1, _, _, Nat.le_add_left 1 n, hevent, .ends (Event.isExecuted_of_isHalt hevent), hnext⟩

theorem execute_of_reaches {builder : Builder} (hopen : builder.program.frozen = false)
    (hprocessor : builder.processor.IsWhole) (hlabels : AreWords builder.program.labels)
    {limit : Nat} {last : Machine}
    (hreaches : Machine.Reaches builder.program.instructions.toList Isa.standard.traps.halts limit
      (.ofState builder.processor builder.program.labels) last)
    (hhalted : last.status = .halted) :
    ∃ (steps : Nat) (after : Engine),
      (∀ larger : Nat, limit ≤ larger ->
        builder.execute .standard (fun _ seen => seen) (fun _ _ seen => seen) larger () =
          (.ok steps, (), ⟨after.program, after.processor, some after.run⟩)) ∧
      Represents builder.program.instructions.toList after last := by
  have hisa : Isa.standard.Supports builder.program.freeze := fun i _ =>
    Isa.carriesOut_of_standard rfl i
  have hstart : Represents builder.program.instructions.toList
      (.create builder.processor builder.program.freeze)
      (.ofState builder.processor builder.program.labels) :=
    @represents_create builder.processor builder.program.freeze hprocessor hlabels
  rcases hreaches with ⟨n, hn, rfl⟩
  rcases exists_runsTo_of_halted hisa hstart rfl hhalted with
    ⟨count, event, after, hcount, hevent, hruns, hafter⟩
  refine ⟨after.run.steps, after, ?_, hafter⟩
  intro larger hlarger
  rcases Engine.drive_of_runsTo hruns (fun _ _ seen => seen)
    (Nat.le_trans hcount (Nat.le_trans hn hlarger)) none () with ⟨found, hdrive⟩
  unfold Builder.execute
  simp only [Builder.prepare_of_open hopen]
  show (match Engine.drive Isa.standard (fun _ _ seen => seen) larger none ()
      (Engine.create builder.processor builder.program.freeze) with
    | ((event, seen), ⟨processor, program, run⟩) =>
        (Builder.runAnswer event run.steps, seen, Builder.mk program processor (some run))) = _
  rw [hdrive]
  exact Prod.ext (Builder.runAnswer_of_isHalt hevent _) rfl

end Halting

end Reference
end LittleComputer
