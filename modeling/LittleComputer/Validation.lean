import LittleComputer.Isa

/-!
# Validation

A program is valid if every instruction has an active definition that lists the layout of its
operands.  The first instruction without one is reported.
-/

namespace LittleComputer

inductive ValidationCause where
  | unknownInstruction (mnemonic : String)
  | unsupportedOperands (mnemonic : String) (layout : Layout)
  deriving DecidableEq

structure ValidationError where
  cause : ValidationCause
  index : Nat
  text : String
  deriving DecidableEq

namespace Layout

def describe (layout : Layout) : String :=
  let joined := String.intercalate ", " layout
  if joined.isEmpty then "(none)" else joined

end Layout

namespace ValidationError

def message (error : ValidationError) : String :=
  match error.cause with
  | .unknownInstruction mnemonic => "Unknown instruction: " ++ mnemonic
  | .unsupportedOperands mnemonic layout =>
      mnemonic ++ " does not support operands " ++ Layout.describe layout ++ " in this sheet"

end ValidationError

namespace Isa

def objection? (isa : Isa) (instruction : Instruction) : Option ValidationCause :=
  match isa.definition? instruction with
  | none => some (.unknownInstruction instruction.mnemonic)
  | some definition =>
      if instruction.layout ∈ definition.layouts then none
      else some (.unsupportedOperands instruction.mnemonic instruction.layout)

def validateFrom (isa : Isa) (index : Nat) : List Instruction -> Option ValidationError
  | [] => none
  | instruction :: rest =>
      match isa.objection? instruction with
      | some cause => some ⟨cause, index, instruction.text isa.traps⟩
      | none => isa.validateFrom (index + 1) rest

def validate (isa : Isa) (program : Program) : Option ValidationError :=
  isa.validateFrom 0 program.instructions.toList

end Isa
end LittleComputer
