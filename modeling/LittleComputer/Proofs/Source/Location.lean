import LittleComputer.Builder
import LittleComputer.Proofs.Source.Layout
import LittleComputer.Proofs.Source.Lines
import LittleComputer.Sheet.Manager

/-!
# Where an assembly fails

A refusal carries the number and the text of the line that was refused, with one exception.  The
label of a line that says nothing else is bound outside the place where refusals get their line, so
frozen labels refuse it without one.
-/

namespace LittleComputer

/-!
# Refusals
-/

namespace Failure

/-- A failure that tells the caller of a refused statement, with or without its line. -/
def IsRefusal : Failure -> Prop
  | configuration _ | parse _ => True
  | _ => False

theorem ofNumeral_not_isRefusal (error : NumeralError) : ¬(ofNumeral error).IsRefusal := by
  cases error <;> exact not_false

theorem ofConfiguration_eq_of_isRefusal {error : ConfigurationError}
    (h : (ofConfiguration error).IsRefusal) : ofConfiguration error = configuration error := by
  unfold ofConfiguration at h ⊢
  split at h
  · exact h.elim
  · exact h.elim
  · exact h.elim
  · exact (ofNumeral_not_isRefusal _ h).elim
  · split at h
    · next hwritable => exact if_pos hwritable
    · exact h.elim

theorem ofParse_eq_of_isRefusal {error : Source.ParseError} (h : (ofParse error).IsRefusal) :
    ofParse error = parse error := by
  unfold ofParse at h ⊢
  split at h
  · exact h.elim
  · next cause _ =>
      split at h
      · rfl
      · next hother =>
          have hcause := ofConfiguration_eq_of_isRefusal h
          exact absurd hcause (hother cause)
  · rfl

end Failure

namespace Source
namespace Assembly

/-!
# Refused lines
-/

theorem failed_of_verdict {locate : LineError -> AssemblyError} {onward : Verdict}
    {result : Option ConfigurationError × Assembly} {error : AssemblyError}
    (honward : ∀ other : AssemblyError, onward ≠ .failed other)
    (h : (verdict locate onward result).1 = .failed error) :
    ∃ cause : LineError, error = locate cause := by
  rcases result with ⟨refusal, assembly⟩
  cases refusal with
  | none => exact absurd h (honward error)
  | some refusal =>
      cases h
      exact ⟨_, rfl⟩

theorem failed_of_enact {locate : LineError -> AssemblyError} {label : Option LabelName}
    {assembly : Assembly} {clause : Clause} {error : AssemblyError}
    (h : (enact locate label assembly clause).1 = .failed error) :
    (clause ≠ .nothing ∧ ∃ cause : LineError, error = locate cause) ∨
      clause = .nothing ∧ ∃ (name : LabelName) (refusal : ConfigurationError),
        label = some name ∧ (assembly.bind name .position).1 = some refusal ∧
          error = .unlocated refusal := by
  have hnext : ∀ other : AssemblyError, Verdict.next ≠ .failed other := by
    intro other h
    cases h
  have hstop : ∀ other : AssemblyError, Verdict.stop ≠ .failed other := by
    intro other h
    cases h
  cases clause with
  | nothing =>
      right
      cases label with
      | none => cases h
      | some name =>
          constructor
          · rfl
          · exists name
            unfold enact bindHere at h
            dsimp only at h
            generalize assembly.bind name .position = result at h ⊢
            rcases result with ⟨refusal, after⟩
            cases refusal with
            | none => cases h
            | some refusal =>
                cases h
                exact ⟨refusal, rfl, rfl, rfl⟩
  | stop =>
      left
      constructor
      · intro hclause
        cases hclause
      · exact failed_of_verdict hstop h
  | origin address =>
      left
      constructor
      · intro hclause
        cases hclause
      · unfold enact at h
        dsimp only at h
        split at h
        · exact failed_of_verdict hnext h
        · cases h
          exact ⟨_, rfl⟩
  | constant value =>
      left
      constructor
      · intro hclause
        cases hclause
      · cases label with
        | none =>
            cases h
            exact ⟨_, rfl⟩
        | some name => exact failed_of_verdict hnext h
  | instruction reading =>
      left
      constructor
      · intro hclause
        cases hclause
      · unfold enact at h
        dsimp only at h
        split at h
        · cases h
          exact ⟨_, rfl⟩
        · split at h
          · cases h
            exact ⟨_, rfl⟩
          · exact failed_of_verdict hnext h

/-- A line of nothing but a label, which no line before it declared. -/
def IsLoneLabel (assembly : Assembly) (raw : List Char) (name : LabelName) : Prop :=
  (∃ word : List Char, IsLine (.label word) raw ∧ readLabel? word = some name) ∧
    assembly.isDeclared (some name) = false

theorem failed_of_line {traps : Traps} {number : Nat} {raw : List Char} {assembly : Assembly}
    {error : AssemblyError} (h : (line traps number raw assembly).1 = .failed error) :
    ((∀ name : LabelName, ¬IsLoneLabel assembly raw name) ∧
      ∃ cause : LineError, error = .located ⟨cause, number, String.ofList raw⟩) ∨
    ∃ (name : LabelName) (refusal : ConfigurationError), IsLoneLabel assembly raw name ∧
      ((assembly.declare (some name)).bind name .position).1 = some refusal ∧
      error = .unlocated refusal := by
  have hends := line_ends traps number raw assembly
  generalize line traps number raw assembly = result at hends h
  cases hends with
  | blank hread => cases h
  | refused cause hrefused =>
      cases h
      left
      constructor
      · rintro name ⟨hlone, hdeclared⟩
        rw [hrefused _ _ (readLine_eq_label_iff.mpr hlone)] at hdeclared
        cases hdeclared
      · exists cause
  | enacted hread hdeclared =>
      rcases failed_of_enact h with ⟨hclause, hcause⟩ | ⟨rfl, name, refusal, rfl, hbind, herror⟩
      · left
        constructor
        · rintro name ⟨hlone, -⟩
          cases hread.symm.trans (readLine_eq_label_iff.mpr hlone)
          exact hclause rfl
        · exact hcause
      · exact Or.inr ⟨name, refusal, ⟨readLine_eq_label_iff.mp hread, hdeclared⟩, hbind, herror⟩

end Assembly

/-!
# Located refusals
-/

namespace Assembly

theorem IsLoneLabel.eq {assembly : Assembly} {raw : List Char} {name other : LabelName}
    (h : IsLoneLabel assembly raw name) (hother : IsLoneLabel assembly raw other) :
    name = other := by
  rcases h with ⟨⟨word, hline, hword⟩, -⟩
  rcases hother with ⟨⟨otherWord, hotherLine, hotherWord⟩, -⟩
  cases (isLine_iff.mp hline).symm.trans (isLine_iff.mp hotherLine)
  exact Option.some.inj (hword.symm.trans hotherWord)

theorem refusal_of_line {traps : Traps} {number : Nat} {raw : List Char} {assembly : Assembly}
    {error : AssemblyError} (h : (line traps number raw assembly).1 = .failed error)
    (hrefusal : (Failure.ofAssembly error).IsRefusal) :
    ((∀ name : LabelName, ¬IsLoneLabel assembly raw name) ∧
      ∃ cause : LineError,
        Failure.ofAssembly error = .parse ⟨cause, number, String.ofList raw⟩) ∨
    assembly.program.labels.frozen = true ∧ ∃ name : LabelName,
      IsLoneLabel assembly raw name ∧
        Failure.ofAssembly error = .configuration (.frozenLabels name.name) := by
  rcases failed_of_line h with ⟨hnone, cause, rfl⟩ | ⟨name, refusal, hlone, hbind, rfl⟩
  · exact Or.inl ⟨hnone, cause, Failure.ofParse_eq_of_isRefusal hrefusal⟩
  · right
    rcases refusal_of_bind_position hbind with ⟨obstacle, rfl⟩ | ⟨hfrozen, rfl⟩
    · exact absurd hrefusal (Failure.ofNumeral_not_isRefusal obstacle)
    · have htold : (Failure.ofConfiguration (.frozenLabels name.name)).IsRefusal := hrefusal
      exact ⟨hfrozen, name, hlone, Failure.ofConfiguration_eq_of_isRefusal htold⟩

end Assembly

open Assembly in
/-- An assembly that is refused is refused at one line, all lines before it having been assembled,
and the refusal is told with the number and the text of that line.  Only a label that stands alone
on its line and is refused by frozen labels is told without them. -/
theorem refusal_located_iff (traps : Traps) (verbose : Bool) (text : String) (program : Program)
    {error : AssemblyError} (h : (assemble traps verbose text program).1 = some error)
    (hrefusal : (Failure.ofAssembly error).IsRefusal) :
    ∃ (before : List (List Char)) (raw : List Char) (after : List (List Char))
      (middle : Assembly),
      Text.lines text.toList = before ++ raw :: after ∧
      GoesOn traps (.start verbose program) before middle ∧
      line traps (before.length + 1) raw middle =
        (.failed error, (assemble traps verbose text program).2) ∧
      ((∃ cause : LineError, Failure.ofAssembly error =
        .parse ⟨cause, before.length + 1, String.ofList raw⟩) ↔
          ¬(program.labels.frozen = true ∧
            ∃ name : LabelName, IsLoneLabel middle raw name)) ∧
      ∀ name : LabelName, program.labels.frozen = true -> IsLoneLabel middle raw name ->
        Failure.ofAssembly error = .configuration (.frozenLabels name.name) := by
  have hends := assemble_ends traps verbose text program
  generalize assemble traps verbose text program = result at hends h ⊢
  cases hends with
  | assembled hgoes => cases h
  | stopped hlines hgoes hline => cases h
  | @refused before after raw middle last error hlines hgoes hline =>
      cases h
      have hfailed : (line traps (before.length + 1) raw middle).1 = .failed error := by
        rw [hline]
      have hfrozen : middle.program.labels.frozen = program.labels.frozen :=
        frozen_of_goesOn hgoes
      refine ⟨before, raw, after, middle, hlines, hgoes, hline, ?_⟩
      rcases refusal_of_line hfailed hrefusal with
        ⟨hnone, cause, hparse⟩ | ⟨hrefused, name, hlone, hconfiguration⟩
      · constructor
        · constructor
          · rintro - ⟨-, name, hlone⟩
            exact hnone name hlone
          · intro _
            exact ⟨cause, hparse⟩
        · intro name _ hlone
          exact absurd hlone (hnone name)
      · rw [hfrozen] at hrefused
        constructor
        · constructor
          · rintro ⟨cause, hparse⟩ -
            rw [hconfiguration] at hparse
            cases hparse
          · intro hnot
            exact absurd ⟨hrefused, name, hlone⟩ hnot
        · intro other _ hother
          rw [hlone.eq hother] at hconfiguration
          exact hconfiguration

theorem refusal_located_iff_operands :
    let text := "NOT R1,R2\n HALT R1 ; no operands"
    let error : AssemblyError :=
      .located ⟨.operandCount 0 "HALT" 1, 2, " HALT R1 ; no operands"⟩
    (assemble .standard false text .empty).1 = some error ∧
      (Failure.ofAssembly error).IsRefusal ∧
      ∃ (before : List (List Char)) (raw : List Char) (after : List (List Char)),
        Text.lines text.toList = before ++ raw :: after ∧
        ∃ cause : LineError, Failure.ofAssembly error =
          .parse ⟨cause, before.length + 1, String.ofList raw⟩ := by
  intro text error
  have hresult : (assemble .standard false text .empty).1 = some error := by
    decide +kernel
  have hrefusal : (Failure.ofAssembly error).IsRefusal := trivial
  rcases refusal_located_iff .standard false text .empty hresult hrefusal with
    ⟨before, raw, after, middle, hlines, -, -, hlocated, -⟩
  refine ⟨hresult, hrefusal, before, raw, after, hlines, hlocated.mpr ?_⟩
  rintro ⟨hfrozen, -⟩
  cases hfrozen

theorem not_located_after_execution :
    let built := (Builder.empty.onProgram (Program.perform Isa.standard.traps .halt)).2
    let executed :=
      (built.execute .standard (fun _ seen => seen) (fun _ _ seen => seen) 1 ()).2.2
    ∃ error : AssemblyError,
      (assemble Isa.standard.traps false "LATE" executed.program).1 = some error ∧
        (Failure.ofAssembly error).IsRefusal ∧
        ∀ located : ParseError, Failure.ofAssembly error ≠ .parse located := by
  intro built executed
  have hresult : (assemble Isa.standard.traps false "LATE" executed.program).1 =
      some (.unlocated (.frozenLabels "LATE")) := by
    decide +kernel
  refine ⟨_, hresult, trivial, ?_⟩
  intro located h
  cases h

end Source
end LittleComputer
