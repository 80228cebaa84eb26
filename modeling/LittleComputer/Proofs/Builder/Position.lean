import LittleComputer.Proofs.Builder.Calls
import LittleComputer.Proofs.Engine.Effects

/-!
# Position labels in the life of a builder

A label that a builder is given as a position keeps the word of that position, through all calls but
those that bind the label again or carry out a store to it.  A run starts from labels that are frozen
by then, so putting back its first labels does not bring an earlier value up again.
-/

namespace LittleComputer
namespace Builder

/-!
# Runs have frozen labels
-/

def RunsFrozen (builder : Builder) : Prop :=
  builder.run = none ∨ builder.program.labels.frozen = true

theorem RunsFrozen.labels_frozen {builder : Builder} {run : Run} (h : builder.RunsFrozen)
    (hrun : builder.run = some run) : builder.program.labels.frozen = true := by
  rcases h with hnone | hfrozen
  · rw [hrun] at hnone
    cases hnone
  · exact hfrozen

theorem runsFrozen_after (isa : Isa) (call : Call) {builder : Builder} (h : builder.RunsFrozen) :
    (builder.after isa call).RunsFrozen := by
  have hends := after_ends isa call builder
  generalize builder.after isa call = later at hends ⊢
  cases hends with
  | idle => exact h
  | edited hedits =>
      rcases h with hrun | hfrozen
      · exact Or.inl hrun
      · exact Or.inr (hedits.frozen_eq.right.trans hfrozen)
  | written _ _ => exact h
  | begun hbegin =>
      cases hbegin with
      | refused _ => exact h
      | invalid _ _ | started _ _ => exact Or.inr rfl
  | stepped hrun hengine =>
      right
      rw [hengine, Engine.frozen_next]
      exact h.labels_frozen hrun
  | restarted hrun hengine =>
      right
      rw [hengine]
      exact h.labels_frozen hrun

theorem runsFrozen_of_reachable {builder : Builder} (h : Reachable builder) :
    builder.RunsFrozen := by
  induction h with
  | create processor => exact Or.inl rfl
  | call isa call _ ih => exact runsFrozen_after isa call ih

/-!
# Calls that give a label a value
-/

def Call.Binds (isa : Isa) (builder : Builder) (label : String) (binding : Program.Binding)
    (size : Nat) : Call -> Prop
  | perform statement =>
      builder.program.size = size ∧ ∃ (name : Value) (bound : Program),
        statement.binding? = some (name, binding) ∧ name.equals (.text label) = true ∧
          builder.program.bind name binding = .ok bound
  | assemble verbose text =>
      Source.Declares isa.traps verbose text builder.program label binding size
  | append _ | writeMemory _ _ | start | step | reset => False

def Call.Stores (isa : Isa) (builder : Builder) (label : String) : Call -> Prop
  | step => ∃ (run : Run) (src : Register) (name : LabelName), builder.run = some run ∧
      name.name = label ∧
        Engine.Executes isa ⟨builder.processor, builder.program, run⟩ (.store src name)
  | perform _ | append _ | assemble _ _ | writeMemory _ _ | start | reset => False

/-- Calls lead from a builder to another one, and none of them binds the label again or stores to
it. -/
inductive Leads (label : String) (first : Builder) : Builder -> Prop where
  | none : Leads label first first
  | call {builder : Builder} (isa : Isa) (call : Call) :
      Leads label first builder ->
      (∀ (binding : Program.Binding) (size : Nat), ¬call.Binds isa builder label binding size) ->
      ¬call.Stores isa builder label -> Leads label first (builder.after isa call)

/-!
# The entry of a position label
-/

/-- A label stands for the word of a position, now and after a reset. -/
structure HoldsPosition (label : String) (position : Nat) (builder : Builder) : Prop where
  entry : builder.program.labels.get? (.text label) = some (.int (Word.signed position))
  initial : ∀ run : Run, builder.run = some run ->
    run.initialLabels.get? ⟨.text label⟩ = some (.int (Word.signed position))
  le_size : position ≤ builder.program.size

theorem holdsPosition_of_binds {isa : Isa} {builder : Builder} {call : Call} {label : String}
    {position : Nat} (hruns : builder.RunsFrozen)
    (h : call.Binds isa builder label .position position) :
    HoldsPosition label position (builder.after isa call) := by
  -- A builder that can still bind labels has no run that could have started from other labels.
  have hnoRun (hfrozen : builder.program.labels.frozen = false) : builder.run = none := by
    rcases hruns with hnone | hrefused
    · exact hnone
    · rw [hrefused] at hfrozen
      cases hfrozen
  cases call with
  | perform statement =>
      rcases h with ⟨rfl, name, bound, hbinding, hname, hbind⟩
      have hends := Program.perform_ends isa.traps statement builder.program
      show HoldsPosition label _
        { builder with program := (builder.program.perform isa.traps statement).2 }
      generalize (builder.program.perform isa.traps statement).2 = after at hends ⊢
      cases hends with
      | kept hnone _ _ => exact absurd hbind (hnone name .position bound hbinding)
      | bound hother hafter =>
          rw [hbinding] at hother
          cases hother
          rw [hbind] at hafter
          cases hafter
          rcases Program.bind_eq_ok hbind with ⟨hfrozen, n, hvalue, rfl⟩
          cases hvalue
          constructor
          · show (builder.program.labels.insert name _).get? (.text label) = _
            rw [Labels.get?_insert, if_pos hname]
          · intro run hrun
            rw [hnoRun hfrozen] at hrun
            cases hrun
          · exact Nat.le_refl _
  | assemble verbose text =>
      rcases Source.get?_assemble_of_declares h with ⟨hfrozen, hentry, hsize⟩
      constructor
      · exact hentry
      · intro run hrun
        have hnone : some run = Option.none := hrun.symm.trans (hnoRun hfrozen)
        cases hnone
      · exact hsize
  | append candidate => exact h.elim
  | writeMemory address value => exact h.elim
  | start => exact h.elim
  | step => exact h.elim
  | reset => exact h.elim

theorem HoldsPosition.onProgram {label : String} {position : Nat} {builder : Builder} {α : Type}
    {change : Program -> α × Program} (h : HoldsPosition label position builder)
    (hentry : (change builder.program).2.labels.get? (.text label) =
      builder.program.labels.get? (.text label))
    (hsize : builder.program.size ≤ (change builder.program).2.size) :
    HoldsPosition label position (builder.onProgram change).2 := by
  rw [onProgram_snd]
  constructor
  · exact hentry.trans h.entry
  · exact h.initial
  · exact Nat.le_trans h.le_size hsize

theorem get?_perform_of_not_binds {isa : Isa} {builder : Builder} {statement : Statement}
    {label : String} (h : ∀ (binding : Program.Binding) (size : Nat),
      ¬(Call.perform statement).Binds isa builder label binding size) :
    (builder.program.perform isa.traps statement).2.labels.get? (.text label) =
      builder.program.labels.get? (.text label) ∧
    builder.program.size ≤ (builder.program.perform isa.traps statement).2.size := by
  have hends := Program.perform_ends isa.traps statement builder.program
  generalize (builder.program.perform isa.traps statement).2 = after at hends ⊢
  cases hends with
  | @bound name binding bound hbinding hbind =>
      have hne : ¬(name.equals (.text label) = true) := by
        intro hname
        exact h binding _ ⟨rfl, name, _, hbinding, hname, hbind⟩
      rcases Program.bind_eq_ok hbind with ⟨-, n, -, rfl⟩
      constructor
      · show (builder.program.labels.insert name n).get? (.text label) = _
        rw [Labels.get?_insert, if_neg hne]
      · exact Nat.le_refl _
  | kept _ hlabels hedits =>
      rw [hlabels]
      exact ⟨rfl, hedits.size_le⟩

theorem HoldsPosition.step {label : String} {position : Nat} {builder : Builder} {isa : Isa}
    (h : HoldsPosition label position builder)
    (hstores : ¬(Call.step).Stores isa builder label) :
    HoldsPosition label position (builder.stepEngine isa) := by
  cases hrun : builder.run with
  | none =>
      rw [stepEngine, onEngine_of_no_run _ hrun]
      exact h
  | some run =>
      rw [stepEngine_of_run isa hrun]
      have hentry : (Engine.next isa ⟨builder.processor, builder.program, run⟩).program.labels.get?
          (.text label) = builder.program.labels.get? (.text label) := by
        apply Engine.get?_next_of_not_executes
        intro src name hname hexecutes
        exact hstores ⟨run, src, name, hrun, hname, hexecutes⟩
      constructor
      · dsimp only
        rw [hentry]
        exact h.entry
      · rintro after hafter
        cases hafter
        rw [Engine.initialLabels_next]
        exact h.initial run hrun
      · dsimp only
        unfold Program.size
        rw [Engine.instructions_next]
        exact h.le_size

theorem HoldsPosition.reset {label : String} {position : Nat} {builder : Builder}
    (h : HoldsPosition label position builder) :
    HoldsPosition label position (builder.onEngine fun engine => ((), engine.reset)).2 := by
  cases hrun : builder.run with
  | none =>
      rw [onEngine_of_no_run _ hrun]
      exact h
  | some run =>
      rw [onEngine_of_run _ hrun]
      constructor
      · exact h.initial run hrun
      · intro after hafter
        cases hafter
        exact h.initial run hrun
      · exact h.le_size

theorem HoldsPosition.begin {label : String} {position : Nat} {builder : Builder} (isa : Isa)
    (h : HoldsPosition label position builder) :
    HoldsPosition label position (builder.begin isa) := by
  have hends := begin_ends isa builder
  generalize builder.begin isa = begun at hends ⊢
  cases hends with
  | refused _ => exact h
  | invalid _ _ => exact ⟨h.entry, h.initial, h.le_size⟩
  | started _ _ =>
      constructor
      · exact h.entry
      · intro run hrun
        cases hrun
        exact h.entry
      · exact h.le_size

theorem HoldsPosition.after {label : String} {position : Nat} {builder : Builder} {isa : Isa}
    {call : Call} (h : HoldsPosition label position builder)
    (hbinds : ∀ (binding : Program.Binding) (size : Nat),
      ¬call.Binds isa builder label binding size)
    (hstores : ¬call.Stores isa builder label) :
    HoldsPosition label position (builder.after isa call) := by
  cases call with
  | perform statement =>
      rcases get?_perform_of_not_binds hbinds with ⟨hentry, hsize⟩
      exact h.onProgram hentry hsize
  | append candidate =>
      rcases builder.program.append_edits candidate with ⟨hlabels, hedits⟩
      exact h.onProgram (congrArg (fun labels => labels.get? (.text label)) hlabels) hedits.size_le
  | assemble verbose text =>
      exact h.onProgram (Source.get?_assemble_of_not_declares hbinds)
        (Source.edits_assemble isa.traps verbose text builder.program).size_le
  | writeMemory address value =>
      show HoldsPosition label position (builder.writeMemory address value).2
      rcases writeMemory_eq address value builder with heq | ⟨n, content, heq⟩
      · rw [heq]
        exact h
      · rw [heq]
        exact ⟨h.entry, h.initial, h.le_size⟩
  | start => exact h.begin isa
  | step => exact h.step hstores
  | reset => exact h.reset

/-- A position label keeps its word through all calls that do not bind it again or store to it. -/
theorem holdsPosition_of_leads {first last : Builder} {label : String} {position : Nat}
    (hleads : Leads label first last) (h : HoldsPosition label position first) :
    HoldsPosition label position last := by
  induction hleads with
  | none => exact h
  | call isa call _ hbinds hstores ih => exact ih.after hbinds hstores

end Builder
end LittleComputer
