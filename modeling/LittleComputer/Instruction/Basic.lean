import LittleComputer.Condition
import LittleComputer.Instruction.Operand
import LittleComputer.Trap

/-!
# Instructions

The eleven instructions of the machine.  Labels are kept by name and looked up when the instruction
is executed.  Each instruction has a form, which fixes its mnemonic and the kinds of its operands.
-/

namespace LittleComputer

inductive Instruction where
  | addRegister (dest src1 src2 : Register)
  | addImmediate (dest src1 : Register) (imm : Immediate)
  | andRegister (dest src1 src2 : Register)
  | andImmediate (dest src1 : Register) (imm : Immediate)
  | not (dest src : Register)
  | branch (condition : Condition) (label : LabelName)
  | load (dest : Register) (label : LabelName)
  | loadIndirect (dest : Register) (label : LabelName)
  | store (src : Register) (label : LabelName)
  | storeIndirect (src : Register) (label : LabelName)
  | trap (vector : Int)
  deriving DecidableEq

/-! ## Forms -/

abbrev Layout := List String

/-- The forms of instructions, with the three shapes that several of them share and the form that
has no operands at all. -/
inductive Form where
  | addRegister
  | addImmediate
  | andRegister
  | andImmediate
  | not
  | branch
  | load
  | loadIndirect
  | store
  | storeIndirect
  | trap
  | threeRegister
  | registerImmediate
  | registerLabel
  | bare
  deriving DecidableEq

namespace Form

def all : List Form :=
  [addRegister, addImmediate, andRegister, andImmediate, not, branch, load, loadIndirect, store,
    storeIndirect, trap, threeRegister, registerImmediate, registerLabel, bare]

def name : Form -> String
  | addRegister => "AddReg"
  | addImmediate => "AddImm"
  | andRegister => "AndReg"
  | andImmediate => "AndImm"
  | not => "Not"
  | branch => "Branch"
  | load => "Load"
  | loadIndirect => "LoadIndirect"
  | store => "Store"
  | storeIndirect => "StoreIndirect"
  | trap => "Trap"
  | threeRegister => "_ThreeRegister"
  | registerImmediate => "_RegisterImmediate"
  | registerLabel => "_RegisterLabel"
  | bare => "Instruction"

def ofName? (name : String) : Option Form :=
  all.find? fun form => form.name = name

/-- The word that opens the text of an instruction; shared shapes have none. -/
def mnemonic : Form -> String
  | addRegister | addImmediate => "ADD"
  | andRegister | andImmediate => "AND"
  | not => "NOT"
  | branch => "BR"
  | load => "LD"
  | loadIndirect => "LDI"
  | store => "ST"
  | storeIndirect => "STI"
  | trap => "TRAP"
  | threeRegister | registerImmediate | registerLabel | bare => ""

def layout? : Form -> Option Layout
  | addRegister | andRegister | threeRegister => some ["reg", "reg", "reg"]
  | addImmediate | andImmediate | registerImmediate => some ["reg", "reg", "imm5"]
  | not => some ["reg", "reg"]
  | branch => some ["label"]
  | load | loadIndirect | store | storeIndirect | registerLabel => some ["reg", "label"]
  | trap => some ["trapvect8"]
  | bare => none

end Form

namespace Instruction

def form : Instruction -> Form
  | addRegister _ _ _ => .addRegister
  | addImmediate _ _ _ => .addImmediate
  | andRegister _ _ _ => .andRegister
  | andImmediate _ _ _ => .andImmediate
  | not _ _ => .not
  | branch _ _ => .branch
  | load _ _ => .load
  | loadIndirect _ _ => .loadIndirect
  | store _ _ => .store
  | storeIndirect _ _ => .storeIndirect
  | trap _ => .trap

def mnemonic (instruction : Instruction) : String :=
  instruction.form.mnemonic

def layout : Instruction -> Layout
  | addRegister _ _ _ | andRegister _ _ _ => ["reg", "reg", "reg"]
  | addImmediate _ _ _ | andImmediate _ _ _ => ["reg", "reg", "imm5"]
  | not _ _ => ["reg", "reg"]
  | branch _ _ => ["label"]
  | load _ _ | loadIndirect _ _ | store _ _ | storeIndirect _ _ => ["reg", "label"]
  | trap _ => ["trapvect8"]

def label? : Instruction -> Option String
  | branch _ label | load _ label | loadIndirect _ label | store _ label
  | storeIndirect _ label => some label.name
  | _ => none

/-! ## Text -/

def threeRegisterText (mnemonic : String) (dest src1 src2 : Register) : String :=
  mnemonic ++ " " ++ dest.text ++ ", " ++ src1.text ++ ", " ++ src2.text

def registerImmediateText (mnemonic : String) (dest src1 : Register) (imm : Immediate) : String :=
  mnemonic ++ " " ++ dest.text ++ ", " ++ src1.text ++ ", " ++ imm.text

def registerLabelText (mnemonic : String) (register : Register) (label : LabelName) : String :=
  mnemonic ++ " " ++ register.text ++ ", " ++ label.name

def text (traps : Traps) : Instruction -> String
  | addRegister dest src1 src2 => threeRegisterText "ADD" dest src1 src2
  | addImmediate dest src1 imm => registerImmediateText "ADD" dest src1 imm
  | andRegister dest src1 src2 => threeRegisterText "AND" dest src1 src2
  | andImmediate dest src1 imm => registerImmediateText "AND" dest src1 imm
  | not dest src => "NOT " ++ dest.text ++ ", " ++ src.text
  | branch condition label => "BR" ++ condition.text ++ " " ++ label.name
  | load dest label => registerLabelText "LD" dest label
  | loadIndirect dest label => registerLabelText "LDI" dest label
  | store src label => registerLabelText "ST" src label
  | storeIndirect src label => registerLabelText "STI" src label
  | trap vector => "TRAP " ++ traps.operandText vector

end Instruction
end LittleComputer
