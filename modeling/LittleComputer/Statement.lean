import LittleComputer.Program

/-!
# Statements

The statements that a program is built from, with loosely typed arguments.  A statement either binds
a label, or sets the origin, or adds an instruction.  Base and offset addressing has statements that
are always refused.
-/

namespace LittleComputer

inductive Statement where
  | orig (address : Value)
  | label (name : Value)
  | fill (name value : Value)
  | add (dest src1 src2 : Value)
  | and (dest src1 src2 : Value)
  | not (dest src : Value)
  | br (condition target : Value)
  | ld (dest source : Value)
  | ldi (dest source : Value)
  | st (src target : Value)
  | sti (src target : Value)
  | ldr (dest base offset : Value)
  | str (src base offset : Value)
  | trap (vector : Value)
  | halt
  deriving DecidableEq

namespace Statement

/-- The last operand of an addition or a conjunction: an operand stands for itself, and a bare value
is an immediate. -/
def sourceOperand (given : Value) : Except ConfigurationError Value :=
  match given with
  | .operand _ _ _ => .ok given
  | value => value.immediateOperand

/-- The last operand decides between the two forms, and is looked at first. -/
def arithmetic (withRegister : Register -> Register -> Register -> Instruction)
    (withImmediate : Register -> Register -> Immediate -> Instruction) (dest src1 src2 : Value) :
    Except ConfigurationError Instruction := do
  let source ← sourceOperand src2
  let dest ← dest.registerArgument
  let src1 ← src1.registerArgument
  match source with
  | .operand kind value _ =>
      if kind = .text "reg" then Candidate.ofThreeRegisters withRegister dest src1 value
      else Candidate.ofRegistersImmediate withImmediate dest src1 value
  | value => Candidate.ofRegistersImmediate withImmediate dest src1 value

def registerAndLabel (make : Register -> LabelName -> Instruction) (register label : Value) :
    Except ConfigurationError Instruction := do
  let register ← register.registerArgument
  Candidate.ofRegisterLabel make register label

def instruction? (traps : Traps) : Statement -> Option (Except ConfigurationError Instruction)
  | orig _ | label _ | fill _ _ => none
  | add dest src1 src2 => some (arithmetic .addRegister .addImmediate dest src1 src2)
  | and dest src1 src2 => some (arithmetic .andRegister .andImmediate dest src1 src2)
  | not dest src => some do
      let dest ← dest.registerArgument
      let src ← src.registerArgument
      Instruction.ofTwoRegisters dest src
  | br condition target => some (Instruction.ofConditionLabel condition target)
  | ld dest source => some (registerAndLabel .load dest source)
  | ldi dest source => some (registerAndLabel .loadIndirect dest source)
  | st src target => some (registerAndLabel .store src target)
  | sti src target => some (registerAndLabel .storeIndirect src target)
  | ldr _ _ _ => some (.error (.baseOffsetAddressing "LDR"))
  | str _ _ _ => some (.error (.baseOffsetAddressing "STR"))
  | trap vector => some (Instruction.ofVector traps vector)
  | halt => some (Instruction.ofVector traps (.int Trap.haltVector))

def binding? : Statement -> Option (Value × Program.Binding)
  | label name => some (name, .position)
  | fill name value => some (name, .constant value)
  | _ => none

end Statement

namespace Program

def perform (traps : Traps) (statement : Statement) (program : Program) :
    Except ConfigurationError (Option Nat) × Program :=
  match statement.instruction? traps with
  | some (.ok i) =>
    match program.append (.instruction i) with
    | (.ok index, program) => (.ok (some index), program)
    | (.error error, program) => (.error error, program)
  | some (.error error) => (.error error, program)
  | none =>
    let changed :=
      match statement, statement.binding? with
      | .orig given, _ => program.setOrigin given
      | _, some (name, binding) => program.bind name binding
      | _, none => .ok program
    match changed with
    | .ok changed => (.ok none, changed)
    | .error error => (.error error, program)

def performReport (statement : Statement) (program : Program) : Report :=
  match statement.binding? with
  | some (name, binding) => program.bindReport name binding
  | none => .silent

end Program
end LittleComputer
