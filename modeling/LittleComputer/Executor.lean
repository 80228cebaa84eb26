import LittleComputer.Fault
import LittleComputer.Program
import LittleComputer.Processor

/-!
# Executors

An executor carries out the instructions of one mnemonic.  It first decides on an effect, which can
fail, and only then is the effect performed, which cannot.  So an instruction that fails has changed
nothing.
-/

namespace LittleComputer

inductive Effect where
  | result (dest : Register) (value : Int)
  | label (name : LabelName) (value : Int)
  | cell (address value : Int)
  | jump (target : Value)
  | proceed
  | halt
  deriving DecidableEq

namespace Effect

def onProcessor (processor : Processor) : Effect -> Processor
  | result dest value => processor.putResult dest value
  | cell address value => processor.write address value
  | _ => processor

def onLabels (labels : Labels) : Effect -> Labels
  | label name value => labels.store (.text name.name) value
  | _ => labels

def target? : Effect -> Option Value
  | jump target => some target
  | _ => none

def halts : Effect -> Bool
  | halt => true
  | _ => false

end Effect

/-- Why an executor decides on no effect: a fault of the program, or something that the processor
cannot be asked. -/
inductive ExecutionError where
  | fault (fault : Fault)
  | access (error : AccessError)
  deriving DecidableEq

/-- The executors that come with the machine.  Any of them can be registered for any mnemonic; one
that a user writes is out of scope. -/
inductive Executor where
  | add
  | and
  | not
  | br
  | ld
  | ldi
  | st
  | sti
  | trap
  deriving DecidableEq

/-! ## Reading the machine -/

def Value.integer (value : Value) : Except ExecutionError Int :=
  match value.asInt? with
  | some n => .ok n
  | none => .error (.access .wrongType)

namespace Processor

def fetchRegister (processor : Processor) (register : Register) : Except ExecutionError Value :=
  match processor.registers[register.val]? with
  | some value => .ok value
  | none => .error (.access .outOfBounds)

def fetchCell (processor : Processor) (address : Int) : Except ExecutionError Value :=
  match processor.read? address with
  | some value => .ok value
  | none => .error (.access .outOfBounds)

def resultEffect (processor : Processor) (dest : Register) (value : Int) :
    Except ExecutionError Effect :=
  if dest.val < processor.registers.size then .ok (.result dest value)
  else .error (.access .outOfBounds)

def cellEffect (processor : Processor) (address value : Int) : Except ExecutionError Effect :=
  if processor.hasCell address then .ok (.cell address value)
  else .error (.access .outOfBounds)

end Processor

def Condition.decideOn (condition : Condition) (flag : Value) : Except ExecutionError Bool :=
  match condition.admits? flag with
  | some isTaken => .ok isTaken
  | none => .error (.access .wrongType)

def Labels.lookUp (traps : Traps) (labels : Labels) (label : LabelName) (index : Option Value)
    (instruction : Instruction) : Except ExecutionError Value :=
  match labels.resolve? (.text label.name) with
  | some value => .ok value
  | none =>
      .error (.fault ⟨.unboundLabel (.text label.name), index, instruction.text traps⟩)

/-! ## Deciding on an effect -/

namespace Executor

def all : List Executor :=
  [add, and, not, br, ld, ldi, st, sti, trap]

def mnemonic : Executor -> String
  | add => "ADD"
  | and => "AND"
  | not => "NOT"
  | br => "BR"
  | ld => "LD"
  | ldi => "LDI"
  | st => "ST"
  | sti => "STI"
  | trap => "TRAP"

def unsupported (form text : String) (index : Option Value) : ExecutionError :=
  .fault ⟨.unsupportedForm form, index, text⟩

/-- The effect of an instruction, which stands at an index unless it stands alone.  The form is
tested first, then the label is looked up, then registers and memory are read, and then values are
computed with. -/
def effect (traps : Traps) (labels : Labels) (processor : Processor) (index : Option Value) :
    Executor -> Instruction -> Except ExecutionError Effect
  | add, .addRegister dest src1 src2 => do
      let left ← processor.fetchRegister src1
      let right ← processor.fetchRegister src2
      processor.resultEffect dest ((← left.integer) + (← right.integer))
  | add, .addImmediate dest src1 imm => do
      let left ← processor.fetchRegister src1
      processor.resultEffect dest ((← left.integer) + imm.value)
  | and, .andRegister dest src1 src2 => do
      let left ← processor.fetchRegister src1
      let right ← processor.fetchRegister src2
      processor.resultEffect dest (Word.conjunction (← left.integer) (← right.integer))
  | and, .andImmediate dest src1 imm => do
      let left ← processor.fetchRegister src1
      processor.resultEffect dest (Word.conjunction (← left.integer) imm.value)
  | not, .not dest src => do
      let value ← processor.fetchRegister src
      processor.resultEffect dest (Word.complement (← value.integer))
  | br, .branch condition label => do
      let target ← labels.lookUp traps label index (Instruction.branch condition label)
      return if ← condition.decideOn processor.flag then .jump target else .proceed
  | ld, .load dest label => do
      let value ← labels.lookUp traps label index (Instruction.load dest label)
      processor.resultEffect dest (← value.integer)
  | ldi, .loadIndirect dest label => do
      let address ← labels.lookUp traps label index (Instruction.loadIndirect dest label)
      let value ← processor.fetchCell (← address.integer)
      processor.resultEffect dest (← value.integer)
  | st, .store src label => do
      let _ ← labels.lookUp traps label index (Instruction.store src label)
      let value ← processor.fetchRegister src
      return .label label (← value.integer)
  | sti, .storeIndirect src label => do
      let address ← labels.lookUp traps label index (Instruction.storeIndirect src label)
      let value ← processor.fetchRegister src
      processor.cellEffect (← address.integer) (← value.integer)
  | trap, .trap vector => return if traps.halts vector then .halt else .proceed
  | _, instruction =>
      .error (unsupported instruction.form.name (instruction.text traps) index)

def candidateEffect (traps : Traps) (labels : Labels) (processor : Processor)
    (index : Option Value) (executor : Executor) : Candidate -> Except ExecutionError Effect
  | .instruction i => executor.effect traps labels processor index i
  | other => .error (unsupported other.formName (other.text traps) index)

end Executor
end LittleComputer
