import LittleComputer.Proofs.Program.Growth
import LittleComputer.Proofs.Session.Words

/-!
# Operations of builders

An operation is a statement, an instruction to be added, or a write to memory.  It is refused, which
leaves the builder as it was, or it adds one instruction and answers its index, or it adds none.
-/

namespace LittleComputer

/-!
# Commands
-/

namespace Command

def IsOperation : Command -> Prop
  | statement _ | append _ | writeMemory _ _ => True
  | _ => False

def AddsInstruction : Command -> Prop
  | statement (.orig _) | statement (.label _) | statement (.fill _ _) => False
  | statement _ | append _ => True
  | _ => False

/-- An instruction that the command hands over can be built from fields. -/
def OffersBuilt (traps : Traps) : Command -> Prop
  | append (.instruction i) => ∃ (form : Form) (fields : List Value),
      Candidate.build? traps form fields = some (.ok (.instruction i))
  | _ => True

end Command

/-!
# How operations end
-/

theorem Builder.writeMemory_cases (address value : Value) (builder : Builder) :
    (∃ failure : Failure, builder.writeMemory address value = (.error failure, builder)) ∨
      ∃ processor : Processor,
        builder.writeMemory address value = (.ok (), { builder with processor := processor }) := by
  unfold writeMemory
  split
  · exact Or.inl ⟨_, rfl⟩
  · exact Or.inl ⟨_, rfl⟩
  · split
    · exact Or.inr ⟨_, rfl⟩
    · exact Or.inl ⟨_, rfl⟩

theorem Command.addsInstruction_statement {traps : Traps} {statement : Statement} :
    (Command.statement statement).AddsInstruction ↔ statement.instruction? traps ≠ none := by
  cases statement with
  | orig _ | label _ | fill _ _ => exact ⟨False.elim, fun h => h rfl⟩
  | _ => exact ⟨fun _ => Option.some_ne_none _, fun _ => trivial⟩

namespace Session

theorem isa_note (records : List Record) (session : Session) :
    (session.note records).isa = session.isa := by
  unfold note
  split <;> rfl

theorem isa_report (report : Report) (session : Session) :
    (session.report report).2.isa = session.isa := by
  unfold Session.report
  split
  · exact session.isa_note report.records
  · rfl

/-- The ways in which an operation can end. -/
inductive OperationEnds (session : Session) (command : Command) :
    Except Failure Answer × Session -> Prop where
  | refused {failure : Failure} {after : Session} :
      after.builder = session.builder -> after.isa = session.isa ->
      OperationEnds session command (.error failure, after)
  | added {i : Instruction} {after : Session} :
      command.AddsInstruction ->
      (command.OffersBuilt session.isa.traps -> i.IsWellFormed session.isa.traps) ->
      after.builder = { session.builder with program := session.builder.program.push i } ->
      after.isa = session.isa ->
      OperationEnds session command (.ok (.value (.int session.builder.program.size)), after)
  | done {after : Session} :
      ¬command.AddsInstruction ->
      after.builder.program.instructions = session.builder.program.instructions ->
      after.isa = session.isa -> OperationEnds session command (.ok .nothing, after)

theorem perform_ends (statement : Statement) (session : Session) :
    OperationEnds session (.statement statement) (session.perform statement) := by
  have hbuilder := (session.report_eq (session.builder.program.performReport statement)).left
  have hisa := session.isa_report (session.builder.program.performReport statement)
  unfold Session.perform
  generalize session.report _ = result at hbuilder hisa ⊢
  rcases result with ⟨obstacle, after⟩
  cases obstacle with
  | some error => exact .refused hbuilder hisa
  | none =>
      dsimp only at hbuilder hisa
      show OperationEnds session _
        (indexAnswer (after.builder.program.perform after.isa.traps statement).1,
          { after with builder :=
            { after.builder with
              program := (after.builder.program.perform after.isa.traps statement).2 } })
      rw [hbuilder, hisa]
      cases hreading : statement.instruction? session.isa.traps with
      | some reading =>
          have hadds := (@Command.addsInstruction_statement session.isa.traps statement).mpr
            (by rw [hreading]; exact Option.some_ne_none _)
          rcases Program.perform_cases hreading session.builder.program with
            ⟨error, hperform⟩ | ⟨i, rfl, hperform⟩
          · rw [hperform]
            exact .refused rfl rfl
          · rw [hperform]
            exact .added hadds (fun _ => Statement.isWellFormed_of_instruction? hreading) rfl rfl
      | none =>
          have hadds : ¬(Command.statement statement).AddsInstruction := by
            rw [@Command.addsInstruction_statement session.isa.traps statement, hreading]
            exact fun h => h rfl
          rcases Program.perform_cases_of_no_instruction hreading session.builder.program with
            ⟨error, hperform⟩ | ⟨changed, hinstructions, hperform⟩
          · rw [hperform]
            exact .refused rfl rfl
          · rw [hperform]
            exact .done hadds hinstructions rfl

theorem operation_ends (limit : Nat) {command : Command} (h : command.IsOperation)
    (session : Session) : OperationEnds session command (session.apply limit command) := by
  cases command with
  | statement statement => exact session.perform_ends statement
  | append candidate =>
      show OperationEnds session _
        (indexAnswer ((session.builder.program.append candidate).1.map some),
          { session with builder :=
            { session.builder with program := (session.builder.program.append candidate).2 } })
      rcases session.builder.program.append_cases candidate with
        ⟨error, happend⟩ | ⟨i, rfl, happend⟩
      · rw [happend]
        exact .refused rfl rfl
      · rw [happend]
        refine .added trivial ?_ rfl rfl
        rintro ⟨form, fields, hbuild⟩
        exact Candidate.isWellFormed_of_build? hbuild
  | writeMemory address value =>
      show OperationEnds session _
        ((session.builder.writeMemory address value).1.map fun _ => .nothing,
          { session with builder := (session.builder.writeMemory address value).2 })
      rcases session.builder.writeMemory_cases address value with
        ⟨failure, hwrite⟩ | ⟨processor, hwrite⟩
      · rw [hwrite]
        exact .refused rfl rfl
      · rw [hwrite]
        exact .done id rfl rfl
  | _ => exact h.elim

end Session
end LittleComputer
