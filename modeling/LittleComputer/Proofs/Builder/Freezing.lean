import LittleComputer.Proofs.Builder.Position
import LittleComputer.Proofs.Engine.LastStore
import LittleComputer.Proofs.Engine.Unbound
import LittleComputer.Proofs.Program.Refusals

/-!
# Frozen builders

The first execution freezes the program and its labels for good, whether the program is then found
invalid, halts or ends with a fault.  After it, no call adds an instruction or binds a label, and
none executes the program again.  What labels stand for is changed by stores and by resets only.
-/

namespace LittleComputer

theorem Engine.program_frozen_next (isa : Isa) (engine : Engine) :
    (engine.next isa).program.frozen = engine.program.frozen := by
  have hmoves := next_moves isa engine
  generalize engine.next isa = after at hmoves ⊢
  cases hmoves <;> rfl

namespace Builder

def afterAll (calls : List (Isa × Call)) (builder : Builder) : Builder :=
  calls.foldl (fun builder call => builder.after call.1 call.2) builder

/-!
# Builders that have not executed
-/

theorem frozen_eq_of_reachable {builder : Builder} (h : Reachable builder) :
    builder.program.labels.frozen = builder.program.frozen := by
  induction h with
  | create processor => rfl
  | @call builder isa call _ ih =>
      have hends := after_ends isa call builder
      generalize builder.after isa call = later at hends ⊢
      cases hends with
      | idle => exact ih
      | edited hedits =>
          rw [hedits.frozen_eq.left, hedits.frozen_eq.right]
          exact ih
      | written _ _ => exact ih
      | begun hbegin =>
          cases hbegin with
          | refused _ => exact ih
          | invalid _ _ | started _ _ => rfl
      | stepped _ hengine =>
          rw [hengine, Engine.frozen_next, Engine.program_frozen_next]
          exact ih
      | restarted _ hengine =>
          rw [hengine]
          exact ih

theorem run_eq_none_of_reachable {builder : Builder} (h : Reachable builder)
    (hopen : builder.program.frozen = false) : builder.run = none := by
  rcases runsFrozen_of_reachable h with hrun | hfrozen
  · exact hrun
  · rw [frozen_eq_of_reachable h, hopen] at hfrozen
    cases hfrozen

/-!
# What stays the same
-/

/-- A builder whose program was frozen with the instructions and the labels of an earlier one. -/
structure FrozenSince (first builder : Builder) : Prop where
  program_frozen : builder.program.frozen = true
  labels_frozen : builder.program.labels.frozen = true
  instructions_eq : builder.program.instructions = first.program.instructions
  keys_eq : builder.program.labels.table.keys = first.program.labels.table.keys
  initialLabels_eq : ∀ run : Run, builder.run = some run ->
    run.initialLabels = first.program.labels.table

section FrozenSince

variable {first builder : Builder}

theorem frozenSince_begin (isa : Isa) (hopen : first.program.frozen = false)
    (hrun : first.run = none) : FrozenSince first (first.begin isa) := by
  have hends := begin_ends isa first
  generalize first.begin isa = begun at hends ⊢
  cases hends with
  | refused hfrozen =>
      rw [hopen] at hfrozen
      cases hfrozen
  | invalid _ _ =>
      refine ⟨rfl, rfl, rfl, rfl, ?_⟩
      intro run hsome
      have hnone : some run = none := hsome.symm.trans hrun
      cases hnone
  | started _ _ =>
      refine ⟨rfl, rfl, rfl, rfl, ?_⟩
      rintro run ⟨⟩
      rfl

theorem FrozenSince.after (h : FrozenSince first builder) (isa : Isa) (call : Call) :
    FrozenSince first (builder.after isa call) := by
  have hends := after_ends isa call builder
  generalize builder.after isa call = later at hends ⊢
  cases hends with
  | idle => exact h
  | edited hedits =>
      rcases hedits.of_frozen h.program_frozen h.labels_frozen with ⟨hinstructions, hlabels⟩
      constructor
      · exact hedits.frozen_eq.left.trans h.program_frozen
      · exact hedits.frozen_eq.right.trans h.labels_frozen
      · exact hinstructions.trans h.instructions_eq
      · rw [hlabels]
        exact h.keys_eq
      · exact h.initialLabels_eq
  | written _ _ =>
      exact ⟨h.program_frozen, h.labels_frozen, h.instructions_eq, h.keys_eq, h.initialLabels_eq⟩
  | begun hbegin =>
      cases hbegin with
      | refused _ => exact h
      | invalid hopen _ | started hopen _ =>
          rw [h.program_frozen] at hopen
          cases hopen
  | @stepped run engine hrun hengine =>
      subst hengine
      constructor
      · exact (Engine.program_frozen_next isa _).trans h.program_frozen
      · exact (Engine.frozen_next isa _).trans h.labels_frozen
      · exact (Engine.instructions_next isa _).trans h.instructions_eq
      · exact (Engine.keys_next isa _).trans h.keys_eq
      · rintro later ⟨⟩
        rw [Engine.initialLabels_next]
        exact h.initialLabels_eq run hrun
  | @restarted run engine hrun hengine =>
      subst hengine
      constructor
      · exact h.program_frozen
      · exact h.labels_frozen
      · exact h.instructions_eq
      · exact congrArg Table.keys (h.initialLabels_eq run hrun)
      · rintro later ⟨⟩
        exact h.initialLabels_eq run hrun

theorem FrozenSince.afterAll (h : FrozenSince first builder) (calls : List (Isa × Call)) :
    FrozenSince first (builder.afterAll calls) := by
  induction calls generalizing builder with
  | nil => exact h
  | cons call rest ih => exact ih (h.after call.1 call.2)

/-!
# What still changes
-/

variable {isa : Isa} {call : Call}

/-- Labels change only by resets and steps of the engine. -/
theorem FrozenSince.labels_after (h : FrozenSince first builder) (isa : Isa)
    (hreset : call ≠ .reset) :
    (builder.after isa call).program.labels = builder.program.labels ∨
      ∃ run : Run, call = .step ∧ builder.run = some run ∧
        let engine : Engine := ⟨builder.processor, builder.program, run⟩
        (builder.after isa call).program.labels = (engine.next isa).program.labels := by
  have hends := after_ends isa call builder
  generalize builder.after isa call = later at hends ⊢
  cases hends with
  | idle => exact Or.inl rfl
  | edited hedits => exact Or.inl (hedits.of_frozen h.program_frozen h.labels_frozen).right
  | written _ _ => exact Or.inl rfl
  | begun hbegin =>
      cases hbegin with
      | refused _ => exact Or.inl rfl
      | invalid hopen _ | started hopen _ =>
          rw [h.program_frozen] at hopen
          cases hopen
  | @stepped run engine hrun hengine =>
      right
      refine ⟨run, rfl, hrun, ?_⟩
      rw [hengine]
  | restarted _ _ => exact absurd rfl hreset

theorem FrozenSince.labels_after_of_not_stores (h : FrozenSince first builder)
    (hreset : call ≠ .reset) (hstores : ∀ label : String, ¬call.Stores isa builder label) :
    (builder.after isa call).program.labels = builder.program.labels := by
  rcases h.labels_after isa hreset with heq | ⟨run, rfl, hrun, heq⟩
  · exact heq
  · rw [heq]
    apply Engine.labels_next_of_not_executes
    intro src name hexecutes
    exact hstores name.name ⟨run, src, name, hrun, rfl, hexecutes⟩

theorem FrozenSince.get?_after_of_not_stores (h : FrozenSince first builder)
    (hreset : call ≠ .reset) {label : String} (hstores : ¬call.Stores isa builder label) :
    (builder.after isa call).program.labels.get? (.text label) =
      builder.program.labels.get? (.text label) := by
  rcases h.labels_after isa hreset with heq | ⟨run, rfl, hrun, heq⟩
  · rw [heq]
  · rw [heq]
    apply Engine.get?_next_of_not_executes
    intro src name hname hexecutes
    exact hstores ⟨run, src, name, hrun, hname, hexecutes⟩

end FrozenSince

/-!
# Executions
-/

section Execution

variable {σ : Type} (isa : Isa) (announce : List Record -> σ -> σ)
  (observe : Engine -> Event -> σ -> σ) (limit : Nat) (seen : σ) {builder : Builder}

theorem execute_of_frozen (h : builder.program.frozen = true) :
    builder.execute isa announce observe limit seen =
      (.error (.configuration .alreadyExecuted), seen, builder) := by
  unfold execute prepare
  rw [if_pos h]

theorem execute_of_invalid (hopen : builder.program.frozen = false) {error : ValidationError}
    (h : isa.validate builder.program.freeze = some error) :
    builder.execute isa announce observe limit seen =
      (.error (.validation error), seen, { builder with program := builder.program.freeze }) := by
  unfold execute prepare
  rw [if_neg (Bool.eq_false_iff.mp hopen)]
  dsimp only
  rw [h]

end Execution

theorem iterate_after (isa : Isa) (call : Call) (n : Nat) (builder : Builder) :
    (after isa call)^[n] builder = builder.afterAll (List.replicate n (isa, call)) := by
  induction n generalizing builder with
  | zero => rfl
  | succ n ih =>
      rw [Function.iterate_succ_apply, ih]
      rfl

/-- The first execution of a builder is its start and a number of steps, and if the program is
invalid, nothing but the freezing is left of it.  From the start on, whatever calls follow, the
instructions and the names of the labels stay as they are.  Everything that would add an instruction
or bind a label is refused, as is another execution, and nothing changes by that.  Labels change
their values only by resets and by the stores that steps carry out. -/
theorem execution_freezes {builder : Builder} (hreachable : Reachable builder)
    (hopen : builder.program.frozen = false) (isa : Isa) :
    (∀ (σ : Type) (announce : List Record -> σ -> σ) (observe : Engine -> Event -> σ -> σ)
        (limit : Nat) (seen : σ),
      let result := builder.execute isa announce observe limit seen
      (∃ n : Nat, result.2.2 =
        (builder.after isa .start).afterAll (List.replicate n (isa, .step))) ∧
      ∀ error : ValidationError, isa.validate builder.program.freeze = some error ->
        result = (.error (.validation error), seen,
          { builder with program := builder.program.freeze })) ∧
    ∀ calls : List (Isa × Call),
      let later := (builder.after isa .start).afterAll calls
      later.program.instructions = builder.program.instructions ∧
      later.program.labels.table.keys = builder.program.labels.table.keys ∧
      (∀ candidate : Candidate,
        later.program.append candidate = (.error .frozenProgram, later.program)) ∧
      (∀ (traps : Traps) (statement : Statement),
        (∀ address : Value, statement ≠ .orig address) ->
        ∃ error : ConfigurationError,
          later.program.perform traps statement = (.error error, later.program) ∧
            (statement.IsProper -> error.IsTold)) ∧
      (∀ (σ : Type) (current : Isa) (announce : List Record -> σ -> σ)
          (observe : Engine -> Event -> σ -> σ) (limit : Nat) (seen : σ),
        later.execute current announce observe limit seen =
          (.error (.configuration .alreadyExecuted), seen, later)) ∧
      ∀ (current : Isa) (call : Call),
        let after := (later.after current call).program.labels
        (after ≠ later.program.labels ->
          call = .reset ∨ ∃ label : String, call.Stores current later label) ∧
        ∀ label : String, after.get? (.text label) ≠ later.program.labels.get? (.text label) ->
          call = .reset ∨ call.Stores current later label := by
  constructor
  · intro σ announce observe limit seen result
    constructor
    · rcases execute_eq_steps isa announce observe limit seen builder with ⟨n, hn⟩
      refine ⟨n, ?_⟩
      rw [← iterate_after]
      exact hn
    · intro error herror
      exact execute_of_invalid isa announce observe limit seen hopen herror
  · intro calls later
    have hlater : FrozenSince builder later :=
      (frozenSince_begin isa hopen (run_eq_none_of_reachable hreachable hopen)).afterAll calls
    refine ⟨hlater.instructions_eq, hlater.keys_eq, ?_, ?_, ?_, ?_⟩
    · exact Program.append_of_frozen hlater.program_frozen
    · intro traps statement horigin
      exact Program.perform_of_frozen hlater.program_frozen hlater.labels_frozen traps horigin
    · intro σ current announce observe limit seen
      exact execute_of_frozen current announce observe limit seen hlater.program_frozen
    · intro current call after
      constructor
      · intro hchanged
        by_contra hother
        rcases not_or.mp hother with ⟨hreset, hstores⟩
        exact hchanged (hlater.labels_after_of_not_stores hreset (not_exists.mp hstores))
      · intro label hchanged
        by_contra hother
        rcases not_or.mp hother with ⟨hreset, hstores⟩
        exact hchanged (hlater.get?_after_of_not_stores hreset hstores)

theorem execution_freezes_invalid :
    let builder := (ofProcessor .initial).after .bare (.perform .halt)
    let calls : List (Isa × Call) := [(.bare, .perform (.label (.text "A"))), (.bare, .reset)]
    Reachable builder ∧ builder.program.frozen = false ∧
      (∃ error : ValidationError,
        builder.execute .bare (fun _ seen => seen) (fun _ _ seen => seen) 1 () =
            (.error (.validation error), (), { builder with program := builder.program.freeze })) ∧
      ((builder.after .bare .start).afterAll calls).program.labels.table.keys =
        builder.program.labels.table.keys := by
  intro builder calls
  have hreachable : Reachable builder := .call .bare _ (.create .initial)
  have hinvalid : (Isa.bare.validate builder.program.freeze).isSome = true := by
    decide
  rcases Option.isSome_iff_exists.mp hinvalid with ⟨error, herror⟩
  rcases execution_freezes hreachable rfl .bare with ⟨hexecute, hlater⟩
  refine ⟨hreachable, rfl, ⟨error, ?_⟩, (hlater calls).right.left⟩
  exact (hexecute Unit (fun _ seen => seen) (fun _ _ seen => seen) 1 ()).right error herror

end Builder
end LittleComputer
