import LittleComputer.Builder
import LittleComputer.Proofs.Engine.Halting

/-!
# Runs and steps

A run that comes to its end is a number of steps that go on and one that does not, by `RunsTo`.  Any
number of steps can be taken before it: the run then comes to the same end, and where it has ended
it stays.  Nothing is assumed of the engine that the run begins with.
-/

namespace LittleComputer

namespace Event

def again : Event -> Event
  | halted => repeatedHalt
  | faulted fault => repeatedFault fault
  | event => event

theorem isExecuted_again (event : Event) : event.again.isExecuted = event.isExecuted := by
  cases event <;> rfl

end Event

theorem Builder.runAnswer_again (event : Event) (steps : Nat) :
    runAnswer (some event.again) steps = runAnswer (some event) steps := by
  cases event <;> rfl

namespace Engine

def complete (isa : Isa) (limit : Nat) (engine : Engine) :
    Except Failure Nat × Engine :=
  match engine.call (.run isa limit) with
  | (event, last) => (Builder.runAnswer event last.run.steps, last)

def afterSteps (isa : Isa) (count : Nat) (engine : Engine) : Engine :=
  (next isa)^[count] engine

/-!
# Steps to the end of a run
-/

theorem step_again {isa : Isa} {engine : Engine} (h : (engine.step isa).1.isExecuted = false) :
    (engine.next isa).step isa = ((engine.step isa).1.again, engine.next isa) := by
  have hends := step_ends isa engine
  unfold next
  generalize hresult : engine.step isa = result at hends h ⊢
  cases hends with
  | repeatedFault hfault => exact step_of_faulted hfault isa
  | repeatedHalt hfault hhalted => exact step_of_hasHalted ⟨hhalted, hfault⟩ isa
  | failed error _ => exact hresult
  | outOfRange _ _ | faulted _ _ _ => exact step_of_faulted rfl isa
  | @performed i effect hrunning _ _ =>
      cases hhalts : effect.halts with
      | true =>
          have hhalted : (engine.perform i effect).HasHalted := ⟨hhalts, hrunning.left⟩
          exact step_of_hasHalted hhalted isa
      | false =>
          rw [hhalts] at h
          cases h

section RunsTo

variable {isa : Isa}

/-- The end of a run: how many steps it takes, the event of the last one, and the engine after it. -/
inductive RunsTo (isa : Isa) : Nat -> Engine -> Event -> Engine -> Prop where
  | ends {engine : Engine} :
      (engine.step isa).1.isExecuted = false ->
      RunsTo isa 1 engine (engine.step isa).1 (engine.next isa)
  | goesOn {count : Nat} {engine last : Engine} {event : Event} :
      (engine.step isa).1.isExecuted = true ->
      RunsTo isa count (engine.next isa) event last ->
      RunsTo isa (count + 1) engine event last

variable {count limit : Nat} {engine last : Engine} {event : Event}

theorem drive_of_executed {σ : Type} (observe : Engine -> Event -> σ -> σ)
    (h : (engine.step isa).1.isExecuted = true) (limit : Nat) (before : Option Event)
    (seen : σ) :
    drive isa observe (limit + 1) before seen engine =
      drive isa observe limit (some (engine.step isa).1)
        (observe (engine.next isa) (engine.step isa).1 seen) (engine.next isa) :=
  if_pos h

theorem drive_of_not_executed {σ : Type} (observe : Engine -> Event -> σ -> σ)
    (h : (engine.step isa).1.isExecuted = false) (limit : Nat) (before : Option Event)
    (seen : σ) :
    drive isa observe (limit + 1) before seen engine =
      ((some (engine.step isa).1, observe (engine.next isa) (engine.step isa).1 seen),
        engine.next isa) :=
  if_neg (Bool.eq_false_iff.mp h)

/-- With steps enough, driving an engine comes to the end of the run, whatever is observed. -/
theorem drive_of_runsTo {σ : Type} (h : RunsTo isa count engine event last)
    (observe : Engine -> Event -> σ -> σ) (hlimit : count ≤ limit) (before : Option Event)
    (seen : σ) :
    ∃ found : σ, drive isa observe limit before seen engine =
      ((some event, found), last) := by
  induction h generalizing limit before seen with
  | ends hend =>
      rcases Nat.exists_eq_add_of_le' hlimit with ⟨rest, rfl⟩
      rw [drive_of_not_executed observe hend]
      exact ⟨_, rfl⟩
  | @goesOn count engine last event hexecuted _ ih =>
      rcases Nat.exists_eq_add_of_le' hlimit with ⟨rest, rfl⟩
      rw [← Nat.add_assoc, drive_of_executed observe hexecuted]
      exact ih (Nat.le_add_left count rest) _ _

theorem exists_runsTo_of_drive {before : Option Event}
    (hbefore : ∀ other : Event, before = some other -> other.isExecuted = true)
    (hevent : (drive isa (fun _ _ seen => seen) limit before () engine).1.1 = some event)
    (hend : event.isExecuted = false) :
    ∃ count ≤ limit, RunsTo isa count engine event
      (drive isa (fun _ _ seen => seen) limit before () engine).2 := by
  induction limit generalizing before engine with
  | zero =>
      have hexecuted := hbefore event hevent
      rw [hend] at hexecuted
      cases hexecuted
  | succ limit ih =>
      cases hexecuted : (engine.step isa).1.isExecuted with
      | true =>
          rw [drive_of_executed _ hexecuted] at hevent ⊢
          have hnext : ∀ other : Event, some (engine.step isa).1 = some other ->
              other.isExecuted = true := by
            rintro other ⟨⟩
            exact hexecuted
          rcases ih hnext hevent with ⟨count, hcount, hruns⟩
          exact ⟨count + 1, Nat.succ_le_succ hcount, .goesOn hexecuted hruns⟩
      | false =>
          rw [drive_of_not_executed _ hexecuted] at hevent ⊢
          cases hevent
          exact ⟨1, Nat.le_add_left 1 limit, .ends hend⟩

theorem exists_runsTo_of_finishes (h : engine.Finishes (.run isa limit) event) :
    ∃ count ≤ limit, RunsTo isa count engine event
      (engine.call (.run isa limit)).2 := by
  refine exists_runsTo_of_drive ?_ h.left h.right
  intro other hother
  cases hother

theorem complete_of_runsTo (h : RunsTo isa count engine event last) (hlimit : count ≤ limit) :
    engine.complete isa limit =
      (Builder.runAnswer (some event) last.run.steps, last) := by
  rcases drive_of_runsTo h (fun _ _ seen => seen) hlimit none () with ⟨found, hdrive⟩
  unfold complete call
  simp only [hdrive]

/-!
# Steps before a run
-/

theorem RunsTo.again (h : RunsTo isa count engine event last) :
    RunsTo isa 1 last event.again last := by
  induction h with
  | @ends engine hend =>
      have hagain := step_again hend
      have hstays : (engine.next isa).next isa = engine.next isa := by
        rw [next, hagain]
      have hlast := @RunsTo.ends isa (engine.next isa)
      rw [hstays, hagain] at hlast
      exact hlast ((Event.isExecuted_again _).trans hend)
  | goesOn _ _ ih => exact ih

/-- A step takes a run closer to its end, or reports the end again. -/
theorem RunsTo.afterStep (h : RunsTo isa count engine event last) :
    ∃ (rest : Nat) (answer : Event), rest ≤ count ∧
      RunsTo isa rest (engine.next isa) answer last ∧
        ∀ steps : Nat,
          Builder.runAnswer (some answer) steps = Builder.runAnswer (some event) steps := by
  cases h with
  | ends hend =>
      exact ⟨1, _, Nat.le_refl 1, (RunsTo.ends hend).again, Builder.runAnswer_again _⟩
  | goesOn _ hrest => exact ⟨_, event, Nat.le_succ _, hrest, fun _ => rfl⟩

theorem RunsTo.afterSteps (h : RunsTo isa count engine event last) (taken : Nat) :
    ∃ (rest : Nat) (answer : Event), rest ≤ count ∧
      RunsTo isa rest (engine.afterSteps isa taken) answer last ∧
        ∀ steps : Nat,
          Builder.runAnswer (some answer) steps = Builder.runAnswer (some event) steps := by
  induction taken with
  | zero => exact ⟨count, event, Nat.le_refl count, h, fun _ => rfl⟩
  | succ taken ih =>
      rcases ih with ⟨rest, answer, hrest, hruns, hanswer⟩
      rcases hruns.afterStep with ⟨left, final, hleft, hfinal, hsame⟩
      refine ⟨left, final, Nat.le_trans hleft hrest, ?_, ?_⟩
      · unfold Engine.afterSteps at hfinal ⊢
        rw [Function.iterate_succ_apply']
        exact hfinal
      · intro steps
        rw [hsame, hanswer]

end RunsTo

/-!
# Counting steps
-/

theorem steps_next {isa : Isa} {seen : List (Value × Instruction)} {engine : Engine}
    (h : engine.run.steps = seen.length) :
    (engine.next isa).run.steps = (seen ++ (engine.performed? isa).toList).length := by
  have hsame : (engine.step isa).1.isPerformed = false ->
      seen ++ (engine.performed? isa).toList = seen := by
    intro hevent
    exact append_performed?_of_not_performed hevent seen
  have hends := step_ends isa engine
  unfold next
  generalize hresult : engine.step isa = result at hends hsame ⊢
  cases hends with
  | repeatedFault _ | repeatedHalt _ _ | failed _ _ | outOfRange _ _ | faulted _ _ _ =>
      rw [hsame rfl]
      exact h
  | performed _ hfetch _ =>
      rw [performed?_of_performed hresult hfetch, List.length_append, ← h]
      rfl

theorem steps_after (processor : Processor) (program : Program) (calls : List Call) :
    ((create processor program).after calls).run.steps =
      ((create processor program).trail calls).length := by
  refine holds_trailFrom (Q := fun _ => True)
    (P := fun seen engine => engine.run.steps = seen.length) ?_ ?_ ?_ rfl
  · intro isa seen engine _ h
    exact steps_next h
  · intro seen engine h
    rfl
  · intro call _ isa _
    trivial

/-- A run that comes to its end answers the same, and leaves the very same engine, whatever number
of steps is taken before it, and however often it is repeated.  Its step count, which is the answer
unless it ended with a failure, is that of the instructions carried out since the engine was created
or last reset.  It answers this as well if it is observed. -/
theorem complete_after_steps {isa : Isa} {limit : Nat} {engine : Engine}
    {event : Event} (h : engine.Finishes (.run isa limit) event) :
    let result := engine.complete isa limit
    (∀ taken larger : Nat, limit ≤ larger ->
      (engine.afterSteps isa taken).complete isa larger = result) ∧
    (∀ larger : Nat, 0 < larger -> result.2.complete isa larger = result) ∧
    (∀ (processor : Processor) (program : Program) (calls : List Call),
      engine = (create processor program).after calls ->
      result.2.run.steps =
        ((create processor program).trail (calls ++ [.run isa limit])).length) ∧
    (result.1 = .ok result.2.run.steps ∨ ∃ failure : Failure,
      Builder.eventFailure? event = some failure ∧ result.1 = .error failure) ∧
    ∀ (observe : Engine -> Event -> Array Record -> Array Record) (log : Array Record),
      ∃ later : Array Record,
        Builder.runEngine isa observe limit log
            ⟨engine.program, engine.processor, some engine.run⟩ =
          (result.1, later, ⟨result.2.program, result.2.processor, some result.2.run⟩) := by
  intro result
  rcases exists_runsTo_of_finishes h with ⟨count, hcount, hruns⟩
  have hresult : result = _ := complete_of_runsTo hruns hcount
  refine ⟨?_, ?_, ?_, ?_, ?_⟩
  · intro taken larger hlarger
    rcases hruns.afterSteps taken with ⟨rest, answer, hrest, hlater, hsame⟩
    rw [hresult, ← hsame]
    exact complete_of_runsTo hlater (Nat.le_trans hrest (Nat.le_trans hcount hlarger))
  · intro larger hlarger
    rw [hresult, complete_of_runsTo hruns.again hlarger, Builder.runAnswer_again]
  · intro processor program calls hengine
    rw [← steps_after, after, List.foldl_append]
    show _ = ((((create processor program).after calls).call _).2).run.steps
    rw [← hengine]
    rfl
  · rw [hresult]
    cases event with
    | halted | repeatedHalt => exact Or.inl rfl
    | faulted fault | repeatedFault fault | failed error => exact Or.inr ⟨_, rfl, rfl⟩
    | executed => cases h.right
  · intro observe log
    rcases drive_of_runsTo hruns observe hcount none log with ⟨later, hdrive⟩
    refine ⟨later, ?_⟩
    unfold Builder.runEngine
    simp only [hdrive, hresult]

theorem complete_after_steps_beyond :
    let isa := Isa.bare.activate [⟨"NOT", "", [["reg", "reg"]], .not⟩,
      ⟨"TRAP", "", [["trapvect8"]], .trap⟩]
    let engine := create .initial ⟨#[.not 1 2, .trap 25], .empty, none, true⟩
    engine.Finishes (.run isa 2) .halted ∧
      (engine.afterSteps isa 5).complete isa 2 = engine.complete isa 2 ∧
      (engine.complete isa 2).2.run.steps = (engine.trail [.run isa 2]).length := by
  intro isa engine
  have hfinishes : engine.Finishes (.run isa 2) .halted := by
    refine ⟨?_, rfl⟩
    decide +kernel
  have hagrees := complete_after_steps hfinishes
  exact ⟨hfinishes, hagrees.left 5 2 (Nat.le_refl 2), hagrees.right.right.left _ _ [] rfl⟩

end Engine
end LittleComputer
