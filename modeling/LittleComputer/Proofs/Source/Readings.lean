import LittleComputer.Proofs.Outcome
import LittleComputer.Source.Assembly

/-!
# Lines that are read alike

What becomes of a line depends on what is read in it.  The number and the text of the line matter to
nothing but the place that a refusal tells.
-/

namespace LittleComputer
namespace Source

/-- Clauses that agree, or instructions that are read alike. -/
inductive ClausesAlike : Except LineError Clause -> Except LineError Clause -> Prop where
  | agree {clause other : Except LineError Clause} :
      Agree clause other -> ClausesAlike clause other
  | instruction {reading other : Except LineError Instruction} :
      Agree reading other -> ClausesAlike (.ok (.instruction reading)) (.ok (.instruction other))

inductive LinesAlike :
    Except LineError (Option Line) -> Except LineError (Option Line) -> Prop where
  | blank : LinesAlike (.ok none) (.ok none)
  | failed (error other : LineError) : LinesAlike (.error error) (.error other)
  | line (label : Option LabelName) {clause other : Except LineError Clause} :
      ClausesAlike clause other ->
      LinesAlike (.ok (some ⟨label, clause⟩)) (.ok (some ⟨label, other⟩))

theorem LinesAlike.refl (reading : Except LineError (Option Line)) :
    LinesAlike reading reading := by
  rcases reading with error | (_ | ⟨label, clause⟩)
  · exact .failed error error
  · exact .blank
  · exact .line label (.agree rfl)

namespace Assembly

/-- Both lines are refused, or the same becomes of what follows; either way they do the same. -/
inductive VerdictsAlike : Verdict × Assembly -> Verdict × Assembly -> Prop where
  | same (result : Verdict × Assembly) : VerdictsAlike result result
  | failed (error other : AssemblyError) (assembly : Assembly) :
      VerdictsAlike (.failed error, assembly) (.failed other, assembly)

def SameOutcome (result other : Option AssemblyError × Assembly) : Prop :=
  (result.1 = none ↔ other.1 = none) ∧ result.2 = other.2

section

variable (locate otherLocate : LineError -> AssemblyError)

theorem verdictsAlike_verdict (onward : Verdict)
    (result : Option ConfigurationError × Assembly) :
    VerdictsAlike (verdict locate onward result) (verdict otherLocate onward result) := by
  rcases result with ⟨refusal, assembly⟩
  cases refusal with
  | none => exact .same _
  | some error => exact .failed _ _ assembly

variable (label : Option LabelName) (assembly : Assembly)

theorem verdictsAlike_instruction {reading other : Except LineError Instruction}
    (h : Agree reading other) :
    VerdictsAlike (enact locate label assembly (.instruction reading))
      (enact otherLocate label assembly (.instruction other)) := by
  unfold enact
  rcases assembly.bindHere label with ⟨refusal, bound⟩
  cases refusal with
  | some error => exact .failed _ _ bound
  | none =>
      cases reading with
      | error error =>
          cases other with
          | error otherError => exact .failed _ _ bound
          | ok j => cases h
      | ok i =>
          cases other with
          | error otherError => cases h
          | ok j =>
              cases h
              exact verdictsAlike_verdict locate otherLocate .next (bound.append i)

theorem verdictsAlike_enact (clause : Clause) :
    VerdictsAlike (enact locate label assembly clause)
      (enact otherLocate label assembly clause) := by
  cases clause with
  | nothing => exact .same _
  | stop => exact verdictsAlike_verdict locate otherLocate .stop _
  | origin address =>
      unfold enact
      dsimp only
      cases assembly.program.setOrigin (.int address) with
      | ok program => exact verdictsAlike_verdict locate otherLocate .next _
      | error error => exact .failed _ _ assembly
  | constant value =>
      cases label with
      | some label => exact verdictsAlike_verdict locate otherLocate .next _
      | none => exact .failed _ _ assembly
  | instruction reading => exact verdictsAlike_instruction locate otherLocate label assembly rfl

end

theorem verdictsAlike_line {traps : Traps} {raw other : List Char}
    (h : LinesAlike (readLine traps raw) (readLine traps other)) (number otherNumber : Nat)
    (assembly : Assembly) :
    VerdictsAlike (line traps number raw assembly) (line traps otherNumber other assembly) := by
  unfold line
  dsimp only
  generalize readLine traps raw = reading at h ⊢
  generalize readLine traps other = otherReading at h ⊢
  cases h with
  | blank => exact .same _
  | failed error otherError => exact .failed _ _ assembly
  | @line label clause otherClause hclauses =>
      dsimp only
      by_cases hdeclared : assembly.isDeclared label = true
      · rw [if_pos hdeclared, if_pos hdeclared]
        exact .failed _ _ assembly
      · rw [if_neg hdeclared, if_neg hdeclared]
        cases hclauses with
        | instruction hagree => exact verdictsAlike_instruction _ _ label _ hagree
        | agree hagree =>
            cases clause with
            | error error =>
                cases otherClause with
                | error otherError => exact .failed _ _ assembly
                | ok other => cases hagree
            | ok clause =>
                cases otherClause with
                | error otherError => cases hagree
                | ok other =>
                    cases hagree
                    exact verdictsAlike_enact _ _ label _ clause

/-- Of two texts whose first lines are read alike, only the rests have to be compared, and that only
if the first lines let the assembly go on. -/
theorem sameOutcome_cons {traps : Traps} {raw other : List Char} {raws others : List (List Char)}
    {number otherNumber : Nat} {assembly : Assembly}
    (hread : LinesAlike (readLine traps raw) (readLine traps other))
    (hrest : ∀ after : Assembly, line traps number raw assembly = (.next, after) ->
      SameOutcome (lines traps (number + 1) raws after) (lines traps (otherNumber + 1) others after)) :
    SameOutcome (lines traps number (raw :: raws) assembly)
      (lines traps otherNumber (other :: others) assembly) := by
  have hline := verdictsAlike_line hread number otherNumber assembly
  unfold lines
  generalize line traps number raw assembly = result at hline hrest ⊢
  generalize line traps otherNumber other assembly = otherResult at hline ⊢
  cases hline with
  | failed error otherError after => exact ⟨by simp, rfl⟩
  | same result =>
      rcases result with ⟨verdict, after⟩
      cases verdict with
      | next => exact hrest after rfl
      | stop | failed error => exact ⟨Iff.rfl, rfl⟩

end Assembly
end Source
end LittleComputer
