import LittleComputer.Instruction.Operand
import LittleComputer.Word

/-!
# The processor

Registers, memory cells and the flag, which is the last result and gives branches their sign.
Everything that is written is wrapped to a word; what a processor is created with is kept as given,
even if it is no integer.  A processor has eight registers and 65536 cells, unless it was created
with other numbers of them.
-/

namespace LittleComputer

structure Processor where
  registers : Array Value
  memory : Array Value
  flag : Value
  deriving DecidableEq

/-- Why the processor cannot be asked something: for want of a register or a cell, or because a
value is no integer where one is needed. -/
inductive AccessError where
  | outOfBounds
  | wrongType
  deriving DecidableEq

namespace Processor

def registerCount : Nat :=
  8

def memorySize : Nat :=
  0x10000

def initial : Processor where
  registers := .replicate registerCount (.int 0)
  memory := .replicate memorySize (.int 0)
  flag := .int 0

instance : Inhabited Processor :=
  ⟨initial⟩

/-- A processor with the given contents.  Without registers or without memory it is the initial
one. -/
def ofContents (registers memory : Array Value) (flag : Value) : Processor :=
  if registers.isEmpty || memory.isEmpty then initial else ⟨registers, memory, flag⟩

/-! ## Registers -/

/-- The place of an index in a row of the given size; a negative index counts from the end. -/
def place? (size : Nat) (index : Int) : Option Nat :=
  if 0 ≤ index then
    if index < size then some index.toNat else none
  else if -size ≤ index then some (index + size).toNat
  else none

def register? (processor : Processor) (index : Int) : Option Value :=
  (place? processor.registers.size index).bind fun place => processor.registers[place]?

def setRegister? (processor : Processor) (index value : Int) : Option Processor :=
  match place? processor.registers.size index with
  | some place =>
      some { processor with
        registers := processor.registers.setIfInBounds place (.int (Word.signed value)) }
  | none => none

def putResult (processor : Processor) (dest : Register) (value : Int) : Processor :=
  { processor with
    registers := processor.registers.setIfInBounds dest.val (.int (Word.signed value))
    flag := .int (Word.signed value) }

/-! ## Memory -/

def cell (address : Int) : Nat :=
  (Word.unsigned address).toNat

def read? (processor : Processor) (address : Int) : Option Value :=
  processor.memory[cell address]?

/-- Writes to a cell; an address without a cell is not written to. -/
def write (processor : Processor) (address value : Int) : Processor :=
  { processor with
    memory := processor.memory.setIfInBounds (cell address) (.int (Word.signed value)) }

def hasCell (processor : Processor) (address : Int) : Bool :=
  cell address < processor.memory.size

theorem cell_lt (address : Int) : cell address < memorySize := by
  have hnonneg := Word.unsigned_nonneg address
  have hlt := Word.unsigned_lt address
  unfold cell memorySize
  omega

theorem memory_size_write (processor : Processor) (address value : Int) :
    (processor.write address value).memory.size = processor.memory.size := by
  simp [write]

theorem read?_write {processor : Processor} {address : Int} (h : processor.hasCell address)
    (value other : Int) :
    (processor.write address value).read? other =
      if cell address = cell other then some (.int (Word.signed value))
      else processor.read? other := by
  have hlt : cell address < processor.memory.size := by simpa [hasCell] using h
  simp only [read?, write, Array.getElem?_setIfInBounds, hlt, if_true]

/-- Writes cells from left to right up to the first address without a cell, and tells whether there
was none. -/
def load (processor : Processor) : List (Int × Int) -> Processor × Bool
  | [] => (processor, true)
  | (address, value) :: rest =>
      if processor.hasCell address then (processor.write address value).load rest
      else (processor, false)

end Processor
end LittleComputer
