import LittleComputer.Proofs.Engine.Calls

/-!
# The trail of an engine

The trail lists the instructions that were carried out since the engine was created or last reset,
each with its index.  What every step and every reset keeps of an engine together with its trail is
kept through any history of calls, by `holds_trailFrom`.
-/

namespace LittleComputer
namespace Engine

def performed? (isa : Isa) (engine : Engine) : Option (Value × Instruction) :=
  if (engine.step isa).1.isPerformed then
    (engine.program.fetch engine.run.index).toOption.map fun i => (engine.run.index, i)
  else none

def performedWithin (isa : Isa) : Nat -> Engine -> List (Value × Instruction)
  | 0, _ => []
  | limit + 1, engine =>
      (engine.performed? isa).toList ++
        if (engine.step isa).1.isExecuted then
          performedWithin isa limit (engine.next isa)
        else []

def extendTrail (seen : List (Value × Instruction)) (engine : Engine) :
    Call -> List (Value × Instruction)
  | .step isa => seen ++ (engine.performed? isa).toList
  | .run isa limit => seen ++ engine.performedWithin isa limit
  | .reset => []

def trailFrom (seen : List (Value × Instruction)) : List Call -> Engine ->
    List (Value × Instruction)
  | [], _ => seen
  | call :: rest, engine => trailFrom (engine.extendTrail seen call) rest (engine.call call).2

/-- The instructions that were carried out in a history of calls since its last reset. -/
def trail (calls : List Call) (engine : Engine) : List (Value × Instruction) :=
  engine.trailFrom [] calls

def Call.isa? : Call -> Option Isa
  | step isa | run isa _ => some isa
  | reset => none

/-!
# What calls keep of an engine and its trail
-/

section Keeping

variable {Q : Isa -> Prop} {P : List (Value × Instruction) -> Engine -> Prop}
  (hstep : ∀ (isa : Isa) (seen : List (Value × Instruction)) (engine : Engine), Q isa ->
    P seen engine -> P (seen ++ (engine.performed? isa).toList) (engine.next isa))
include hstep

theorem holds_performedWithin {isa : Isa} (hisa : Q isa) {limit : Nat} {last : Option Event}
    {seen : List (Value × Instruction)} {engine : Engine} (h : P seen engine) :
    P (seen ++ engine.performedWithin isa limit)
      (drive isa (fun _ _ seen => seen) limit last () engine).2 := by
  induction limit generalizing last seen engine with
  | zero =>
      show P (seen ++ []) engine
      rw [List.append_nil]
      exact h
  | succ limit ih =>
      unfold drive performedWithin
      have hnext := hstep isa seen engine hisa h
      unfold next at hnext ⊢
      rcases hevent : engine.step isa with ⟨event, later⟩
      simp only [hevent] at hnext ⊢
      by_cases hgoesOn : event.isExecuted = true
      · simp only [if_pos hgoesOn]
        rw [← List.append_assoc]
        exact ih hnext
      · simp only [if_neg hgoesOn]
        rw [List.append_nil]
        exact hnext

theorem holds_trailFrom
    (hreset : ∀ (seen : List (Value × Instruction)) (engine : Engine),
      P seen engine -> P [] engine.reset)
    {calls : List Call}
    (hcalls : ∀ call ∈ calls, ∀ isa : Isa, call.isa? = some isa -> Q isa)
    {seen : List (Value × Instruction)} {engine : Engine} (h : P seen engine) :
    P (engine.trailFrom seen calls) (engine.after calls) := by
  induction calls generalizing seen engine with
  | nil => exact h
  | cons call rest ih =>
      have hcall := hcalls call (List.mem_cons_self ..)
      rw [after_cons]
      apply ih
      · intro other hother
        exact hcalls other (List.mem_cons_of_mem call hother)
      · cases call with
        | step isa => exact hstep isa seen engine (hcall isa rfl) h
        | run isa limit => exact holds_performedWithin hstep (hcall isa rfl) h
        | reset => exact hreset seen engine h

end Keeping

/-!
# One step and the trail
-/

theorem performed?_of_performed {isa : Isa} {engine : Engine} {i : Instruction} {effect : Effect}
    (hstep : engine.step isa =
      (if effect.halts then .halted else .executed, engine.perform i effect))
    (hfetch : engine.program.fetch engine.run.index = .ok i) :
    engine.performed? isa = some (engine.run.index, i) := by
  unfold performed?
  rw [hstep, hfetch]
  cases effect.halts <;> rfl

theorem append_performed?_of_not_performed {isa : Isa} {engine : Engine}
    (h : (engine.step isa).1.isPerformed = false) (seen : List (Value × Instruction)) :
    seen ++ (engine.performed? isa).toList = seen := by
  have hnone : engine.performed? isa = none := by
    unfold performed?
    rw [h]
    rfl
  rw [hnone]
  exact List.append_nil seen

theorem fetch_of_mem_performed? {isa : Isa} {engine : Engine} {entry : Value × Instruction}
    (h : entry ∈ (engine.performed? isa).toList) :
    entry.1 = engine.run.index ∧ engine.program.fetch engine.run.index = .ok entry.2 := by
  rw [Option.mem_toList] at h
  unfold performed? at h
  split at h
  · cases hfetch : engine.program.fetch engine.run.index with
    | error error =>
        rw [hfetch] at h
        cases h
    | ok i =>
        rw [hfetch] at h
        cases h
        exact ⟨rfl, rfl⟩
  · cases h

/-- An engine remembers what it carried out last. -/
theorem previous_next {isa : Isa} {seen : List (Value × Instruction)} {engine : Engine}
    (h : engine.run.previous = seen.getLast?) :
    (engine.next isa).run.previous = (seen ++ (engine.performed? isa).toList).getLast? := by
  have hsame : (engine.step isa).1.isPerformed = false ->
      seen ++ (engine.performed? isa).toList = seen := by
    intro hevent
    exact append_performed?_of_not_performed hevent seen
  have hends := step_ends isa engine
  unfold next
  generalize hresult : engine.step isa = result at hends hsame ⊢
  cases hends with
  | repeatedFault _ | repeatedHalt _ _ | failed _ _ | outOfRange _ _ | faulted _ _ _ =>
      rw [hsame rfl]
      exact h
  | performed _ hfetch _ =>
      rw [performed?_of_performed hresult hfetch]
      exact List.getLast?_concat.symm

end Engine
end LittleComputer
