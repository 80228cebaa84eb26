import LittleComputer.Builder
import LittleComputer.Proofs.Engine.Calls
import LittleComputer.Proofs.Source.Labels

/-!
# Calls of builders

A builder is driven by calls, each of which finds the instruction set as it is at the time.  An
execution is its start and the steps that follow.
-/

namespace LittleComputer
namespace Builder

inductive Call where
  | perform (statement : Statement)
  | append (candidate : Candidate)
  | assemble (verbose : Bool) (text : String)
  | writeMemory (address value : Value)
  | start
  | step
  | reset

def begin (isa : Isa) (builder : Builder) : Builder :=
  match builder.prepare isa with
  | (.ok (), builder) => builder.startRun
  | (.error _, builder) => builder

def stepEngine (isa : Isa) (builder : Builder) : Builder :=
  (builder.onEngine (Engine.step isa)).2

def after (isa : Isa) (call : Call) (builder : Builder) : Builder :=
  match call with
  | .perform statement => (builder.onProgram (Program.perform isa.traps statement)).2
  | .append candidate => (builder.onProgram fun program => program.append candidate).2
  | .assemble verbose text =>
      (builder.onProgram fun program =>
        match Source.assemble isa.traps verbose text program with
        | (error, assembly) => (error, assembly.program)).2
  | .writeMemory address value => (builder.writeMemory address value).2
  | .start => builder.begin isa
  | .step => builder.stepEngine isa
  | .reset => (builder.onEngine fun engine => ((), engine.reset)).2

/-- Builders as their users come by them. -/
inductive Reachable : Builder -> Prop where
  | create (processor : Processor) : Reachable (ofProcessor processor)
  | call {builder : Builder} (isa : Isa) (call : Call) :
      Reachable builder -> Reachable (builder.after isa call)

/-!
# What calls do
-/

theorem onProgram_snd {α : Type} (change : Program -> α × Program) (builder : Builder) :
    (builder.onProgram change).2 = { builder with program := (change builder.program).2 } := rfl

theorem onEngine_of_run {α : Type} (change : Engine -> α × Engine) {builder : Builder} {run : Run}
    (h : builder.run = some run) :
    (builder.onEngine change).2 =
      let engine := (change ⟨builder.processor, builder.program, run⟩).2
      ⟨engine.program, engine.processor, some engine.run⟩ := by
  rcases builder with ⟨program, processor, _⟩
  cases h
  rfl

theorem stepEngine_of_run (isa : Isa) {builder : Builder} {run : Run} (h : builder.run = some run) :
    builder.stepEngine isa =
      let engine := Engine.next isa ⟨builder.processor, builder.program, run⟩
      ⟨engine.program, engine.processor, some engine.run⟩ :=
  onEngine_of_run _ h

theorem onEngine_of_no_run {α : Type} (change : Engine -> α × Engine) {builder : Builder}
    (h : builder.run = none) : (builder.onEngine change).2 = builder := by
  rcases builder with ⟨program, processor, _⟩
  cases h
  rfl

theorem writeMemory_eq (address value : Value) (builder : Builder) :
    (builder.writeMemory address value).2 = builder ∨ ∃ n content : Int,
      (builder.writeMemory address value).2 =
        { builder with processor := builder.processor.write n content } := by
  unfold writeMemory
  split
  · exact Or.inl rfl
  · exact Or.inl rfl
  · next n content _ _ =>
      split
      · exact Or.inr ⟨n, content, rfl⟩
      · exact Or.inl rfl

inductive BeginEnds (isa : Isa) (builder : Builder) : Builder -> Prop where
  | refused : builder.program.frozen = true -> BeginEnds isa builder builder
  | invalid {error : ValidationError} :
      builder.program.frozen = false -> isa.validate builder.program.freeze = some error ->
      BeginEnds isa builder { builder with program := builder.program.freeze }
  | started :
      builder.program.frozen = false -> isa.validate builder.program.freeze = none ->
      BeginEnds isa builder
        { builder with
          program := builder.program.freeze
          run := some (.start builder.program.labels.table) }

theorem begin_ends (isa : Isa) (builder : Builder) : BeginEnds isa builder (builder.begin isa) := by
  unfold begin prepare
  by_cases hfrozen : builder.program.frozen = true
  · rw [if_pos hfrozen]
    exact .refused hfrozen
  · rw [if_neg hfrozen]
    dsimp only
    cases hvalid : isa.validate builder.program.freeze with
    | some error => exact .invalid (Bool.eq_false_iff.mpr hfrozen) hvalid
    | none => exact .started (Bool.eq_false_iff.mpr hfrozen) hvalid

/-- The ways in which a call can end.  Without a run, steps and resets do nothing. -/
inductive CallEnds (isa : Isa) (builder : Builder) : Call -> Builder -> Prop where
  | idle {call : Call} : CallEnds isa builder call builder
  | edited {call : Call} {program : Program} :
      Program.Edits builder.program program ->
      CallEnds isa builder call { builder with program := program }
  | written {call : Call} (address value : Int) :
      CallEnds isa builder call
        { builder with processor := builder.processor.write address value }
  | begun {later : Builder} : BeginEnds isa builder later -> CallEnds isa builder .start later
  | stepped {run : Run} {engine : Engine} :
      builder.run = some run ->
      engine = Engine.next isa ⟨builder.processor, builder.program, run⟩ ->
      CallEnds isa builder .step ⟨engine.program, engine.processor, some engine.run⟩
  | restarted {run : Run} {engine : Engine} :
      builder.run = some run ->
      engine = Engine.reset ⟨builder.processor, builder.program, run⟩ ->
      CallEnds isa builder .reset ⟨engine.program, engine.processor, some engine.run⟩

theorem after_ends (isa : Isa) (call : Call) (builder : Builder) :
    CallEnds isa builder call (builder.after isa call) := by
  cases call with
  | perform statement => exact .edited (Program.edits_perform isa.traps statement builder.program)
  | append candidate => exact .edited (builder.program.append_edits candidate).right
  | assemble verbose text =>
      exact .edited (Source.edits_assemble isa.traps verbose text builder.program)
  | writeMemory address value =>
      show CallEnds isa builder _ (builder.writeMemory address value).2
      rcases writeMemory_eq address value builder with heq | ⟨n, content, heq⟩
      · rw [heq]
        exact .idle
      · rw [heq]
        exact .written n content
  | start => exact .begun (begin_ends isa builder)
  | step =>
      show CallEnds isa builder _ (builder.stepEngine isa)
      cases hrun : builder.run with
      | none =>
          rw [stepEngine, onEngine_of_no_run _ hrun]
          exact .idle
      | some run =>
          rw [stepEngine_of_run isa hrun]
          exact .stepped hrun rfl
  | reset =>
      show CallEnds isa builder _ (builder.onEngine fun engine => ((), engine.reset)).2
      cases hrun : builder.run with
      | none =>
          rw [onEngine_of_no_run _ hrun]
          exact .idle
      | some run =>
          rw [onEngine_of_run _ hrun]
          exact .restarted hrun rfl

/-!
# Executions
-/

theorem iterate_stepEngine (isa : Isa) (n : Nat) (program : Program)
    (processor : Processor) (run : Run) :
    (stepEngine isa)^[n] ⟨program, processor, some run⟩ =
      let engine := (Engine.next isa)^[n]
        ⟨processor, program, run⟩
      ⟨engine.program, engine.processor, some engine.run⟩ := by
  induction n with
  | zero => rfl
  | succ n ih =>
      rw [Function.iterate_succ_apply', Function.iterate_succ_apply', ih]
      rfl

/-- An execution comes to what its start and a number of steps come to. -/
theorem execute_eq_steps {σ : Type} (isa : Isa)
    (announce : List Record -> σ -> σ) (observe : Engine -> Event -> σ -> σ) (limit : Nat)
    (seen : σ) (builder : Builder) :
    ∃ n : Nat, (builder.execute isa announce observe limit seen).2.2 =
      (after isa .step)^[n] (builder.after isa .start) := by
  show ∃ n : Nat, _ = (stepEngine isa)^[n] (builder.begin isa)
  unfold execute begin
  rcases builder.prepare isa with ⟨answer, prepared⟩
  cases answer with
  | error failure => exact ⟨0, rfl⟩
  | ok _ =>
      rcases prepared with ⟨program, processor, run⟩
      dsimp only [startRun, runEngine]
      rcases Engine.drive_eq_iterate isa observe limit none
        (announce (startRecords ⟨program, processor, run⟩) seen)
        ⟨processor, program, .start program.labels.table⟩ with ⟨n, hn⟩
      refine ⟨n, ?_⟩
      rw [iterate_stepEngine, ← hn]

/-!
# Instructions
-/

theorem instructions_begin (isa : Isa) (builder : Builder) :
    (builder.begin isa).program.instructions = builder.program.instructions := by
  have hends := begin_ends isa builder
  generalize builder.begin isa = begun at hends ⊢
  cases hends <;> rfl

theorem instructions_runEngine {σ : Type} (isa : Isa)
    (observe : Engine -> Event -> σ -> σ) (limit : Nat) (seen : σ) (builder : Builder) :
    (builder.runEngine isa observe limit seen).2.2.program.instructions =
      builder.program.instructions := by
  rcases builder with ⟨program, processor, run⟩
  cases run with
  | none => rfl
  | some run => exact Engine.instructions_drive isa observe limit none seen _

theorem instructions_execute {σ : Type} (isa : Isa)
    (announce : List Record -> σ -> σ) (observe : Engine -> Event -> σ -> σ) (limit : Nat)
    (seen : σ) (builder : Builder) :
    (builder.execute isa announce observe limit seen).2.2.program.instructions =
      builder.program.instructions := by
  have hbegin := builder.instructions_begin isa
  unfold execute
  unfold begin at hbegin
  generalize builder.prepare isa = result at hbegin ⊢
  rcases result with ⟨answer, prepared⟩
  cases answer with
  | error failure => exact hbegin
  | ok _ => exact (instructions_runEngine isa observe limit _ _).trans hbegin

end Builder
end LittleComputer
