import LittleComputer.Proofs.Outcome
import LittleComputer.Statement
import Mathlib.Logic.Relation

/-!
# Bindings of labels

A binding succeeds only while the labels are not frozen.  It gives the name the word of its value,
which is the size of the program for a position, and changes nothing else.  All that statements do to
a program comes to edits of it, and what every edit keeps is kept by any number of them.
-/

namespace LittleComputer

namespace Labels

theorem bind_eq_ok {labels bound : Labels} {name value : Value}
    (h : labels.bind name value = .ok bound) :
    labels.frozen = false ∧ ∃ n : Int, value.asInt? = some n ∧ bound = labels.insert name n := by
  unfold bind at h
  split at h
  · cases h
  · next hfrozen =>
      split at h
      · cases h
      · split at h
        · next n hvalue =>
            cases h
            exact ⟨Bool.eq_false_iff.mpr hfrozen, n, hvalue, rfl⟩
        · cases h

theorem bind_of_define_eq_ok {labels bound : Labels} {name value : Value}
    (h : labels.define name value = .ok bound) : labels.bind name value = .ok bound := by
  unfold define at h
  split at h
  · exact h
  · cases h
  · cases h

theorem bind_eq_error {labels : Labels} {name : Value} {n : Int} {error : ConfigurationError}
    (hname : name.isFalsy = false) (h : labels.bind name (.int n) = .error error) :
    labels.frozen = true ∧ error = .frozenLabels name.plain := by
  unfold bind at h
  rw [hname] at h
  by_cases hfrozen : labels.frozen = true
  · rw [if_pos hfrozen] at h
    cases h
    exact ⟨hfrozen, rfl⟩
  · rw [if_neg hfrozen] at h
    cases h

end Labels

theorem LabelName.isFalsy_text (label : LabelName) : (Value.text label.name).isFalsy = false := by
  show label.name.isEmpty = false
  rw [Bool.eq_false_iff, Ne, String.isEmpty_iff]
  exact label.name_ne_empty

namespace Program

/-- The labels after a binding.  Neither the instructions nor the origin matter to them. -/
def bindLabels (labels : Labels) (size : Nat) (name : Value) :
    Binding -> Except ConfigurationError Labels
  | .position => labels.bind name (.int size)
  | .constant value => labels.define name value

theorem bind_eq (program : Program) (name : Value) (binding : Binding) :
    program.bind name binding =
      match bindLabels program.labels program.size name binding with
      | .ok labels => .ok { program with labels := labels }
      | .error error => .error error := by
  cases binding with
  | position =>
      show (program.labels.bind name (.int program.size) >>= _) =
        match program.labels.bind name (.int program.size) with
        | .ok labels => .ok { program with labels := labels }
        | .error error => .error error
      cases program.labels.bind name (.int program.size) <;> rfl
  | constant value =>
      show (program.labels.define name value >>= _) =
        match program.labels.define name value with
        | .ok labels => .ok { program with labels := labels }
        | .error error => .error error
      cases program.labels.define name value <;> rfl

theorem setOrigin_eq (program : Program) (given : Value) :
    program.setOrigin given =
      match address given with
      | .ok n => .ok { program with origin := some n }
      | .error error => .error error := by
  unfold setOrigin
  cases address given <;> rfl

def bindingValue (size : Nat) : Binding -> Value
  | .position => .int size
  | .constant value => value

theorem bindLabels_eq_ok {labels bound : Labels} {size : Nat} {name : Value} {binding : Binding}
    (h : bindLabels labels size name binding = .ok bound) :
    labels.frozen = false ∧ ∃ n : Int, (bindingValue size binding).asInt? = some n ∧
      bound = labels.insert name n := by
  cases binding with
  | position => exact Labels.bind_eq_ok h
  | constant value => exact Labels.bind_eq_ok (Labels.bind_of_define_eq_ok h)

theorem bind_eq_ok {program bound : Program} {name : Value} {binding : Binding}
    (h : program.bind name binding = .ok bound) :
    program.labels.frozen = false ∧
      ∃ n : Int, (bindingValue program.size binding).asInt? = some n ∧
        bound = { program with labels := program.labels.insert name n } := by
  rw [bind_eq] at h
  split at h
  · next labels hlabels =>
      cases h
      rcases bindLabels_eq_ok hlabels with ⟨hfrozen, n, hvalue, rfl⟩
      exact ⟨hfrozen, n, hvalue, rfl⟩
  · cases h

theorem bind_position_eq_error {program : Program} {name : Value} {error : ConfigurationError}
    (hname : name.isFalsy = false) (h : program.bind name .position = .error error) :
    program.labels.frozen = true ∧ error = .frozenLabels name.plain := by
  rw [bind_eq] at h
  split at h
  · cases h
  · next refusal hrefusal =>
      cases h
      exact Labels.bind_eq_error hname hrefusal

/-!
# Edits
-/

inductive Edit (program : Program) : Program -> Prop where
  | origin (n : Int) : Edit program { program with origin := some n }
  | bound (name : Value) (n : Int) :
      program.labels.frozen = false ->
      Edit program { program with labels := program.labels.insert name n }
  | appended (i : Instruction) :
      program.frozen = false ->
      Edit program { program with instructions := program.instructions.push i }

def Edits : Program -> Program -> Prop :=
  Relation.ReflTransGen Edit

theorem Edits.refl (program : Program) : Edits program program :=
  Relation.ReflTransGen.refl

theorem Edits.trans {first middle last : Program} (hfirst : Edits first middle)
    (hlast : Edits middle last) : Edits first last :=
  Relation.ReflTransGen.trans hfirst hlast

theorem Edit.edits {program after : Program} (h : Edit program after) : Edits program after :=
  Relation.ReflTransGen.single h

theorem Edits.keep {P : Program -> Prop}
    (hedit : ∀ program after : Program, Edit program after -> P program -> P after)
    {first last : Program} (h : Edits first last) (hfirst : P first) : P last := by
  induction h with
  | refl => exact hfirst
  | tail _ hlast ih => exact hedit _ _ hlast ih

theorem Edits.size_le {first last : Program} (h : Edits first last) : first.size ≤ last.size := by
  apply h.keep (P := fun program => first.size ≤ program.size)
  · intro program after hedit hle
    cases hedit with
    | origin n | bound name n _ => exact hle
    | appended i _ =>
        refine Nat.le_trans hle ?_
        show program.instructions.size ≤ (program.instructions.push i).size
        rw [Array.size_push]
        exact Nat.le_succ _
  · exact Nat.le_refl _

theorem Edits.frozen_eq {first last : Program} (h : Edits first last) :
    last.frozen = first.frozen ∧ last.labels.frozen = first.labels.frozen := by
  apply h.keep (P := fun program =>
    program.frozen = first.frozen ∧ program.labels.frozen = first.labels.frozen)
  · intro program after hedit hprogram
    cases hedit <;> exact hprogram
  · exact ⟨rfl, rfl⟩

/-- What is left to a frozen program with frozen labels is another origin. -/
theorem Edits.of_frozen {first last : Program} (h : Edits first last)
    (hprogram : first.frozen = true) (hlabels : first.labels.frozen = true) :
    last.instructions = first.instructions ∧ last.labels = first.labels := by
  have hkept : last.frozen = true ∧ last.labels.frozen = true ∧
      last.instructions = first.instructions ∧ last.labels = first.labels := by
    apply h.keep (P := fun program => program.frozen = true ∧ program.labels.frozen = true ∧
      program.instructions = first.instructions ∧ program.labels = first.labels)
    · rintro program after hedit ⟨hfrozen, hlabelsFrozen, hsame⟩
      cases hedit with
      | origin n => exact ⟨hfrozen, hlabelsFrozen, hsame⟩
      | bound name n hopen =>
          rw [hlabelsFrozen] at hopen
          cases hopen
      | appended i hopen =>
          rw [hfrozen] at hopen
          cases hopen
    · exact ⟨hprogram, hlabels, rfl, rfl⟩
  exact hkept.right.right

theorem edits_bind {program bound : Program} {name : Value} {binding : Binding}
    (h : program.bind name binding = .ok bound) : Edits program bound := by
  rcases bind_eq_ok h with ⟨hfrozen, n, -, rfl⟩
  exact (Edit.bound name n hfrozen).edits

/-!
# Statements
-/

theorem append_edits (program : Program) (candidate : Candidate) :
    (program.append candidate).2.labels = program.labels ∧
      Edits program (program.append candidate).2 := by
  unfold append
  split
  · exact ⟨rfl, .refl program⟩
  · next hfrozen =>
      split
      · exact ⟨rfl, (Edit.appended _ (Bool.eq_false_iff.mpr hfrozen)).edits⟩
      · exact ⟨rfl, .refl program⟩

inductive PerformEnds (program : Program) (statement : Statement) : Program -> Prop where
  | bound {name : Value} {binding : Binding} {bound : Program} :
      statement.binding? = some (name, binding) -> program.bind name binding = .ok bound ->
      PerformEnds program statement bound
  | kept {after : Program} :
      (∀ (name : Value) (binding : Binding) (bound : Program),
        statement.binding? = some (name, binding) -> program.bind name binding ≠ .ok bound) ->
      after.labels = program.labels -> Edits program after ->
      PerformEnds program statement after

theorem PerformEnds.of_refused {program : Program} {statement : Statement} {name : Value}
    {binding : Binding} {error : ConfigurationError}
    (h : statement.binding? = some (name, binding))
    (hbind : program.bind name binding = .error error) : PerformEnds program statement program := by
  refine .kept ?_ rfl (.refl program)
  intro other otherBinding changed hother hchanged
  rw [h] at hother
  cases hother
  rw [hbind] at hchanged
  cases hchanged

theorem PerformEnds.of_binding?_eq_none {program after : Program} {statement : Statement}
    (h : statement.binding? = none) (hlabels : after.labels = program.labels)
    (hedits : Edits program after) : PerformEnds program statement after := by
  refine .kept ?_ hlabels hedits
  intro name binding bound hname
  rw [h] at hname
  cases hname

theorem binding?_of_instruction? {traps : Traps} {statement : Statement}
    {reading : Except ConfigurationError Instruction}
    (h : statement.instruction? traps = some reading) : statement.binding? = none := by
  cases statement with
  | label name => cases h
  | fill name value => cases h
  | _ => rfl

theorem perform_ends (traps : Traps) (statement : Statement) (program : Program) :
    PerformEnds program statement (program.perform traps statement).2 := by
  unfold perform
  cases hreading : statement.instruction? traps with
  | some reading =>
      have hbinding := binding?_of_instruction? hreading
      cases reading with
      | error error => exact .of_binding?_eq_none hbinding rfl (.refl program)
      | ok i =>
          have happend := program.append_edits (.instruction i)
          dsimp only
          generalize program.append (.instruction i) = result at happend ⊢
          rcases result with ⟨answer, after⟩
          cases answer <;> exact .of_binding?_eq_none hbinding happend.left happend.right
  | none =>
      cases statement with
      | orig given =>
          dsimp only
          rw [setOrigin_eq]
          cases address given with
          | error error => exact .of_binding?_eq_none rfl rfl (.refl program)
          | ok n => exact .of_binding?_eq_none rfl rfl (Edit.origin n).edits
      | label name =>
          dsimp only [Statement.binding?]
          cases hbind : program.bind name .position with
          | ok changed => exact .bound rfl hbind
          | error error => exact .of_refused rfl hbind
      | fill name value =>
          dsimp only [Statement.binding?]
          cases hbind : program.bind name (.constant value) with
          | ok changed => exact .bound rfl hbind
          | error error => exact .of_refused rfl hbind
      | _ => cases hreading

theorem edits_perform (traps : Traps) (statement : Statement) (program : Program) :
    Edits program (program.perform traps statement).2 := by
  have hends := perform_ends traps statement program
  generalize (program.perform traps statement).2 = after at hends ⊢
  cases hends with
  | bound _ hbind => exact edits_bind hbind
  | kept _ _ hedits => exact hedits

end Program
end LittleComputer
