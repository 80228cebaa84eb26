import LittleComputer.Proofs.Engine.Calls
import LittleComputer.Proofs.Engine.Effects

/-!
# Restarts

What a reset puts back does not depend on what was done before it: a reset after a call comes to the
reset before it.  So an engine that is reset after any history is the engine that would be created
afresh, with a new processor and the labels of its creation, and shows the same ever after.
-/

namespace LittleComputer

theorem Labels.restore_onLabels (labels : Labels) (effect : Effect) (table : Table Key Value) :
    (effect.onLabels labels).restore table = labels.restore table := by
  unfold restore
  rw [frozen_onLabels]

namespace Engine

theorem reset_create (processor : Processor) (program : Program) :
    (create processor program).reset = create .initial program := rfl

theorem reset_reset (engine : Engine) : engine.reset.reset = engine.reset := rfl

theorem reset_next (isa : Isa) (engine : Engine) : (engine.next isa).reset = engine.reset := by
  have hmoves := next_moves isa engine
  generalize engine.next isa = after at hmoves ⊢
  cases hmoves with
  | stays | aborted _ => rfl
  | @performed i effect _ _ _ =>
      have hlabels :=
        Labels.restore_onLabels engine.program.labels effect engine.run.initialLabels
      simp only [reset, perform, advance, hlabels]

theorem reset_after (calls : List Call) (engine : Engine) :
    (engine.after calls).reset = engine.reset := by
  apply holds_after (P := fun later => later.reset = engine.reset)
  · intro isa later h
    rw [reset_next, h]
  · intro _ later h
    rw [reset_reset, h]
  · rfl

/-- After any calls, a reset brings the processor back to its initial state and the labels to what
they were when the engine was created.  From then on, all calls show what they show of a new engine
over the initial processor and those labels. -/
theorem reset_restarts (processor : Processor) (program : Program) (history later : List Call) :
    let engine := ((create processor program).after history).reset
    engine.processor = .initial ∧
      engine.program.labels.entries = program.labels.entries ∧
      observations later engine = observations later (create .initial program) := by
  intro engine
  have hengine : engine = create .initial program := by
    show ((create processor program).after history).reset = _
    rw [reset_after, reset_create]
  rw [hengine]
  exact ⟨rfl, rfl, rfl⟩

end Engine
end LittleComputer
