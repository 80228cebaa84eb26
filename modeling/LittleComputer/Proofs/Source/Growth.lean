import LittleComputer.Proofs.Source.LabelWords

/-!
# Programs growing by texts

The instructions that a text adds are those that its lines are read as, so their fields have passed
their checks, also when a later line is refused.
-/

namespace LittleComputer
namespace Source
namespace Assembly

theorem instructions_bind (assembly : Assembly) (label : LabelName) (binding : Program.Binding) :
    (assembly.bind label binding).2.program.instructions = assembly.program.instructions := by
  have hends := bind_ends assembly label binding
  generalize assembly.bind label binding = result at hends ⊢
  cases hends <;> rfl

theorem instructions_bindHere (assembly : Assembly) (label : Option LabelName) :
    (assembly.bindHere label).2.program.instructions = assembly.program.instructions := by
  cases label with
  | none => rfl
  | some name => exact assembly.instructions_bind name .position

section Grows

variable {traps : Traps}

theorem grows_append {i : Instruction} (h : i.IsWellFormed traps) (assembly : Assembly) :
    assembly.program.Grows traps (assembly.append i).2.program := by
  unfold append
  rcases assembly.program.append_cases (.instruction i) with ⟨error, happend⟩ | ⟨j, hj, happend⟩
  · dsimp only
    rw [happend]
    exact .of_eq rfl
  · cases hj
    dsimp only
    rw [happend]
    exact Program.grows_push h

theorem grows_enact (locate : LineError -> AssemblyError) (label : Option LabelName)
    (assembly : Assembly) {clause : Clause}
    (h : ∀ i : Instruction, clause = .instruction (.ok i) -> i.IsWellFormed traps) :
    assembly.program.Grows traps (enact locate label assembly clause).2.program := by
  have hbound := assembly.instructions_bindHere label
  cases clause with
  | nothing =>
      unfold enact
      dsimp only
      generalize assembly.bindHere label = result at hbound ⊢
      rcases result with ⟨refusal, after⟩
      cases refusal <;> exact .of_eq hbound
  | stop =>
      unfold enact
      rw [verdict_snd]
      exact .of_eq hbound
  | origin address =>
      unfold enact
      dsimp only
      rw [Program.setOrigin_eq]
      cases Program.address (.int address) with
      | error error => exact .of_eq rfl
      | ok n =>
          dsimp only
          rw [verdict_snd]
          exact .of_eq (instructions_bindHere _ label)
  | constant value =>
      cases label with
      | none => exact .of_eq rfl
      | some name =>
          unfold enact
          dsimp only
          rw [verdict_snd]
          exact .of_eq (assembly.instructions_bind name _)
  | instruction reading =>
      unfold enact
      dsimp only
      generalize assembly.bindHere label = result at hbound ⊢
      rcases result with ⟨refusal, after⟩
      cases refusal with
      | some error => exact .of_eq hbound
      | none =>
          cases reading with
          | error error => exact .of_eq hbound
          | ok i =>
              dsimp only
              rw [verdict_snd]
              exact (Program.Grows.of_eq hbound).trans (grows_append (h i rfl) after)

theorem grows_line (number : Nat) (raw : List Char) (assembly : Assembly) :
    assembly.program.Grows traps (line traps number raw assembly).2.program := by
  have hends := line_ends traps number raw assembly
  generalize line traps number raw assembly = result at hends ⊢
  cases hends with
  | blank _ | refused _ _ => exact .of_eq rfl
  | @enacted label clause hread _ =>
      have hvalid : ∀ i : Instruction, clause = .instruction (.ok i) -> i.IsWellFormed traps := by
        rintro i rfl
        rw [← readWording_wordingOf] at hread
        have hi := (@isRead_of_readWording traps _ (label, .instruction (.ok i)) hread nofun).right
        rw [Instruction.isWellFormed_iff]
        rintro n rfl
        exact hi n rfl
      have hgrows := grows_enact (fun cause => .located ⟨cause, number, String.ofList raw⟩) label
        (assembly.declare label) hvalid
      rw [program_declare] at hgrows
      exact hgrows

theorem grows_lines (number : Nat) (raws : List (List Char)) (assembly : Assembly) :
    assembly.program.Grows traps (lines traps number raws assembly).2.program := by
  induction raws generalizing number assembly with
  | nil => exact .of_eq rfl
  | cons raw rest ih =>
      have hline := @grows_line traps number raw assembly
      unfold lines
      generalize line traps number raw assembly = result at hline ⊢
      rcases result with ⟨verdict, after⟩
      cases verdict with
      | next => exact hline.trans (ih (number + 1) after)
      | stop | failed error => exact hline

end Grows

end Assembly

theorem grows_assemble (traps : Traps) (verbose : Bool) (text : String) (program : Program) :
    program.Grows traps (assemble traps verbose text program).2.program :=
  Assembly.grows_lines 1 (Text.lines text.toList) (.start verbose program)

end Source
end LittleComputer
