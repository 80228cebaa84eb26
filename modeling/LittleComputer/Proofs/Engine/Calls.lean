import LittleComputer.Proofs.Engine.Step

/-!
# Calls of engines

An engine is driven by steps, runs and resets, each of which finds the instruction set as it is at the
time.  A run is a number of steps, so what every step and every reset keeps is kept through any
history of calls, by `holds_after`.
-/

namespace LittleComputer
namespace Engine

/-- A run is broken off after the given number of steps. -/
inductive Call where
  | step (isa : Isa)
  | run (isa : Isa) (limit : Nat)
  | reset

def call (engine : Engine) : Call -> Option Event × Engine
  | .step isa =>
      match engine.step isa with
      | (event, engine) => (some event, engine)
  | .run isa limit =>
      match engine.drive isa (fun _ _ seen => seen) limit none () with
      | ((event, _), engine) => (event, engine)
  | .reset => (none, engine.reset)

def after (calls : List Call) (engine : Engine) : Engine :=
  calls.foldl (fun engine call => (engine.call call).2) engine

theorem after_cons (call : Call) (rest : List Call) (engine : Engine) :
    engine.after (call :: rest) = (engine.call call).2.after rest := rfl

def observations : List Call -> Engine -> List (Option Event × Engine)
  | [], _ => []
  | call :: rest, engine => engine.call call :: observations rest (engine.call call).2

/-!
# A run is a number of steps
-/

theorem drive_eq_iterate {σ : Type} (isa : Isa) (observe : Engine -> Event -> σ -> σ)
    (limit : Nat) (last : Option Event) (seen : σ) (engine : Engine) :
    ∃ n : Nat, (drive isa observe limit last seen engine).2 = (next isa)^[n] engine := by
  induction limit generalizing last seen engine with
  | zero => exact ⟨0, rfl⟩
  | succ limit ih =>
      have hnext : (engine.step isa).2 = engine.next isa := rfl
      unfold drive
      rcases hstep : engine.step isa with ⟨event, later⟩
      rw [hstep] at hnext
      dsimp only at hnext ⊢
      split
      · rcases ih (some event) (observe later event seen) later with ⟨n, hn⟩
        refine ⟨n + 1, ?_⟩
        rw [hn, Function.iterate_succ_apply, hnext]
      · refine ⟨1, ?_⟩
        rw [Function.iterate_one, hnext]

/-- An engine that is driven does not depend on what is observed of it. -/
theorem drive_observe {σ τ : Type} (isa : Isa) (observe : Engine -> Event -> σ -> σ)
    (other : Engine -> Event -> τ -> τ) (limit : Nat) (last : Option Event) (seen : σ)
    (otherSeen : τ) (engine : Engine) :
    (drive isa observe limit last seen engine).1.1 =
      (drive isa other limit last otherSeen engine).1.1 ∧
    (drive isa observe limit last seen engine).2 =
      (drive isa other limit last otherSeen engine).2 := by
  induction limit generalizing last seen otherSeen engine with
  | zero => exact ⟨rfl, rfl⟩
  | succ limit ih =>
      rcases hstep : engine.step isa with ⟨event, next⟩
      simp only [drive, hstep]
      split
      · exact ih _ _ _ next
      · exact ⟨rfl, rfl⟩

/-!
# What calls keep
-/

section Keeping

variable {P : Engine -> Prop}
  (hstep : ∀ (isa : Isa) (engine : Engine), P engine -> P (engine.next isa))
include hstep

theorem holds_iterate (isa : Isa) (n : Nat) {engine : Engine} (h : P engine) :
    P ((next isa)^[n] engine) := by
  induction n with
  | zero => exact h
  | succ n ih =>
      rw [Function.iterate_succ_apply']
      exact hstep isa _ ih

theorem holds_call {call : Call}
    (hreset : call = .reset -> ∀ engine : Engine, P engine -> P engine.reset) {engine : Engine}
    (h : P engine) : P (engine.call call).2 := by
  cases call with
  | step isa => exact hstep isa engine h
  | run isa limit =>
      rcases drive_eq_iterate isa (fun _ _ seen => seen) limit none () engine with ⟨n, hn⟩
      show P (drive isa (fun _ _ seen => seen) limit none () engine).2
      rw [hn]
      exact holds_iterate hstep isa n h
  | reset => exact hreset rfl engine h

/-- Resets need to keep only what calls with a reset among them are to keep. -/
theorem holds_after {calls : List Call}
    (hreset : Call.reset ∈ calls -> ∀ engine : Engine, P engine -> P engine.reset)
    {engine : Engine} (h : P engine) : P (engine.after calls) := by
  induction calls generalizing engine with
  | nil => exact h
  | cons call rest ih =>
      rw [after_cons]
      apply ih
      · intro hmem
        exact hreset (List.mem_cons_of_mem call hmem)
      · apply holds_call hstep _ h
        rintro rfl
        exact hreset (List.mem_cons_self ..)

end Keeping

theorem instructions_drive {σ : Type} (isa : Isa) (observe : Engine -> Event -> σ -> σ)
    (limit : Nat) (last : Option Event) (seen : σ) (engine : Engine) :
    (drive isa observe limit last seen engine).2.program.instructions =
      engine.program.instructions := by
  rcases drive_eq_iterate isa observe limit last seen engine with ⟨n, hn⟩
  rw [hn]
  exact instructions_iterate_next isa engine n

end Engine
end LittleComputer
