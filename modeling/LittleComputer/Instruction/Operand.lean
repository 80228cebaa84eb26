import LittleComputer.ConfigurationError

/-!
# Operands

The fields of instructions: registers, immediates of five bits, and names of labels.  Each type
holds valid operands only; `ofValue` decides whether a loosely typed argument is one.
-/

namespace LittleComputer

/-! ## Registers -/

abbrev Register := Fin 8

namespace Register

def ofValue (given : Value) : Except ConfigurationError Register :=
  match given with
  | .int n =>
      if h : 0 ≤ n ∧ n < 8 then .ok ⟨n.toNat, by omega⟩ else .error (.invalidRegister given)
  | _ => .error (.invalidRegister given)

def text (register : Register) : String :=
  "R" ++ toString register.val

end Register

/-! ## Immediates -/

structure Immediate where
  value : Int
  le_value : -16 ≤ value
  value_le : value ≤ 15
  deriving DecidableEq

namespace Immediate

def ofValue (given : Value) : Except ConfigurationError Immediate :=
  match given with
  | .int n =>
      if h : -16 ≤ n ∧ n ≤ 15 then .ok ⟨n, h.1, h.2⟩ else .error (.immediateOutOfRange given)
  | _ => .error (.immediateOutOfRange given)

def text (immediate : Immediate) : String :=
  "#" ++ toString immediate.value

end Immediate

/-! ## Label names -/

structure LabelName where
  name : String
  name_ne_empty : name ≠ ""
  deriving DecidableEq

namespace LabelName

def ofValue (given : Value) : Except ConfigurationError LabelName :=
  match given with
  | .text s => if h : s ≠ "" then .ok ⟨s, h⟩ else .error (.invalidLabel given)
  | _ => .error (.invalidLabel given)

end LabelName

/-! ## Operands as arguments -/

namespace Value

def registerOperand (given : Value) : Except ConfigurationError Value := do
  let register ← Register.ofValue given
  return operand (text "reg") given (text register.text)

def immediateOperand (given : Value) : Except ConfigurationError Value := do
  let immediate ← Immediate.ofValue given
  return operand (text "imm") given (text immediate.text)

/-- What an argument in the place of a register names: an operand must be of the register kind, and
any other value stands for itself. -/
def registerArgument (given : Value) : Except ConfigurationError Value :=
  match given with
  | operand kind value written =>
      if kind = text "reg" then .ok value else .error (.expectedRegister written)
  | value => .ok value

end Value
end LittleComputer
