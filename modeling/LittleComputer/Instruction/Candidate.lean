import LittleComputer.Instruction.Basic

/-!
# Candidates for instructions

What may be offered in the place of an instruction: an instruction, one of the shapes that several
instructions share, the form without operands, or any other value.  Only instructions can enter a
program.
-/

namespace LittleComputer

inductive Candidate where
  | instruction (i : Instruction)
  | threeRegister (dest src1 src2 : Register)
  | registerImmediate (dest src1 : Register) (imm : Immediate)
  | registerLabel (register : Register) (label : LabelName)
  | bare
  | value (v : Value)

namespace Candidate

/-! ## Construction -/

def ofThreeRegisters {α : Type} (make : Register -> Register -> Register -> α)
    (dest src1 src2 : Value) : Except ConfigurationError α := do
  let dest ← Register.ofValue dest
  let src1 ← Register.ofValue src1
  let src2 ← Register.ofValue src2
  return make dest src1 src2

def ofRegistersImmediate {α : Type} (make : Register -> Register -> Immediate -> α)
    (dest src1 imm : Value) : Except ConfigurationError α := do
  let dest ← Register.ofValue dest
  let src1 ← Register.ofValue src1
  let imm ← Immediate.ofValue imm
  return make dest src1 imm

def ofRegisterLabel {α : Type} (make : Register -> LabelName -> α)
    (register label : Value) : Except ConfigurationError α := do
  let register ← Register.ofValue register
  let label ← LabelName.ofValue label
  return make register label

end Candidate

namespace Instruction

def ofTwoRegisters (dest src : Value) : Except ConfigurationError Instruction := do
  let dest ← Register.ofValue dest
  let src ← Register.ofValue src
  return .not dest src

def ofConditionLabel (condition label : Value) : Except ConfigurationError Instruction := do
  let condition ← Condition.ofValue condition
  let label ← LabelName.ofValue label
  return .branch condition label

def ofVector (traps : Traps) (vector : Value) : Except ConfigurationError Instruction :=
  match vector with
  | .int n =>
      if traps.contains (.int n) then .ok (.trap n) else .error (.unsupportedTrap vector)
  | _ => .error (.unsupportedTrap vector)

end Instruction

namespace Candidate

/-- Builds a form from its fields, checking them from left to right.  Nothing is built from a wrong
number of fields. -/
def build? (traps : Traps) : Form -> List Value -> Option (Except ConfigurationError Candidate)
  | .addRegister, [dest, src1, src2] =>
      some ((ofThreeRegisters Instruction.addRegister dest src1 src2).map instruction)
  | .addImmediate, [dest, src1, imm] =>
      some ((ofRegistersImmediate Instruction.addImmediate dest src1 imm).map instruction)
  | .andRegister, [dest, src1, src2] =>
      some ((ofThreeRegisters Instruction.andRegister dest src1 src2).map instruction)
  | .andImmediate, [dest, src1, imm] =>
      some ((ofRegistersImmediate Instruction.andImmediate dest src1 imm).map instruction)
  | .not, [dest, src] => some ((Instruction.ofTwoRegisters dest src).map instruction)
  | .branch, [condition, label] =>
      some ((Instruction.ofConditionLabel condition label).map instruction)
  | .load, [register, label] =>
      some ((ofRegisterLabel Instruction.load register label).map instruction)
  | .loadIndirect, [register, label] =>
      some ((ofRegisterLabel Instruction.loadIndirect register label).map instruction)
  | .store, [register, label] =>
      some ((ofRegisterLabel Instruction.store register label).map instruction)
  | .storeIndirect, [register, label] =>
      some ((ofRegisterLabel Instruction.storeIndirect register label).map instruction)
  | .trap, [vector] => some ((Instruction.ofVector traps vector).map instruction)
  | .threeRegister, [dest, src1, src2] => some (ofThreeRegisters threeRegister dest src1 src2)
  | .registerImmediate, [dest, src1, imm] =>
      some (ofRegistersImmediate registerImmediate dest src1 imm)
  | .registerLabel, [register, label] => some (ofRegisterLabel registerLabel register label)
  | .bare, [] => some (.ok bare)
  | _, _ => none

/-! ## Description -/

def form? : Candidate -> Option Form
  | instruction i => some i.form
  | threeRegister _ _ _ => some .threeRegister
  | registerImmediate _ _ _ => some .registerImmediate
  | registerLabel _ _ => some .registerLabel
  | bare => some .bare
  | value _ => none

def sortName : Value -> String
  | .int _ => "int"
  | .float _ => "float"
  | .bool _ => "bool"
  | .text _ => "str"
  | .null => "NoneType"
  | .operand _ _ _ => "Operand"

def formName : Candidate -> String
  | value v => sortName v
  | candidate => (candidate.form?.map Form.name).getD ""

def mnemonic (candidate : Candidate) : String :=
  (candidate.form?.map Form.mnemonic).getD ""

def text (traps : Traps) : Candidate -> String
  | instruction i => i.text traps
  | threeRegister dest src1 src2 => Instruction.threeRegisterText "" dest src1 src2
  | registerImmediate dest src1 imm => Instruction.registerImmediateText "" dest src1 imm
  | registerLabel register label => Instruction.registerLabelText "" register label
  | bare => "Instruction()"
  | value v => v.plain

def namedFields : Candidate -> List (String × Value)
  | instruction (.addRegister dest src1 src2) | instruction (.andRegister dest src1 src2)
  | threeRegister dest src1 src2 =>
      [("dest", .int dest.val), ("src1", .int src1.val), ("src2", .int src2.val)]
  | instruction (.addImmediate dest src1 imm) | instruction (.andImmediate dest src1 imm)
  | registerImmediate dest src1 imm =>
      [("dest", .int dest.val), ("src1", .int src1.val), ("imm", .int imm.value)]
  | instruction (.not dest src) => [("dest", .int dest.val), ("src", .int src.val)]
  | instruction (.branch condition label) =>
      [("condition", .text condition.text), ("label", .text label.name)]
  | instruction (.load register label) | instruction (.loadIndirect register label)
  | instruction (.store register label) | instruction (.storeIndirect register label)
  | registerLabel register label => [("reg", .int register.val), ("label", .text label.name)]
  | instruction (.trap vector) => [("vector", .int vector)]
  | bare | value _ => []

def quoted : Candidate -> String
  | value v => v.quoted
  | candidate =>
      let fields := candidate.namedFields.map fun field => field.1 ++ "=" ++ field.2.quoted
      candidate.formName ++ "(" ++ String.intercalate ", " fields ++ ")"

/-- Candidates are equal if they have the same form and the same fields.  Two bare forms have
nothing to be equal by. -/
def equals : Candidate -> Candidate -> Bool
  | instruction i, instruction j => i = j
  | threeRegister dest src1 src2, threeRegister dest' src1' src2' =>
      dest = dest' ∧ src1 = src1' ∧ src2 = src2'
  | registerImmediate dest src1 imm, registerImmediate dest' src1' imm' =>
      dest = dest' ∧ src1 = src1' ∧ imm = imm'
  | registerLabel register label, registerLabel register' label' =>
      register = register' ∧ label = label'
  | value v, value w => v.equals w
  | _, _ => false

end Candidate
end LittleComputer
