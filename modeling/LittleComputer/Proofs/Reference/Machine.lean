import LittleComputer.Instruction.Basic
import Mathlib.Logic.Function.Basic

/-!
# The reference machine

A machine of sixteen-bit words that executes the same instructions: eight registers, a memory that
is addressed by words, and a table of labels, all of them holding words.  Results set the sign, and
nothing else does.  A label stands for its word in `LD`, for its unsigned address in `LDI` and
`STI`, and for its signed value as an index in `BR`.
-/

namespace LittleComputer
namespace Reference

inductive Sign where
  | negative
  | zero
  | positive
  deriving DecidableEq

/-- Whether a machine goes on, and if not, what stopped it. -/
inductive Status where
  | running
  | halted
  | unboundLabel (name : String)
  | outOfRange (target : Int) (size : Nat)
  deriving DecidableEq

structure Machine where
  registers : Register -> BitVec 16
  memory : BitVec 16 -> BitVec 16
  labels : String -> Option (BitVec 16)
  sign : Sign
  index : Int
  status : Status

/-!
# Conditions
-/

def Sign.ofInt (n : Int) : Sign :=
  if n < 0 then negative else if n = 0 then zero else positive

def names (condition : Condition) : Sign -> Bool
  | .negative => condition.negative
  | .zero => condition.zero
  | .positive => condition.positive

def isTaken (condition : Condition) (sign : Sign) : Bool :=
  condition = ⟨false, false, false⟩ || names condition sign

def immediateWord (imm : Immediate) : BitVec 16 :=
  (BitVec.ofInt 5 imm.value).signExtend 16

namespace Machine

/-!
# Executing an instruction
-/

def advance (machine : Machine) : Machine :=
  { machine with index := machine.index + 1 }

def withResult (machine : Machine) (dest : Register) (word : BitVec 16) : Machine :=
  { machine with
    registers := Function.update machine.registers dest word
    sign := .ofInt word.toInt
    index := machine.index + 1 }

def onLabel (machine : Machine) (label : LabelName) (next : BitVec 16 -> Machine) : Machine :=
  match machine.labels label.name with
  | some word => next word
  | none => { machine with status := .unboundLabel label.name }

theorem onLabel_of_some {machine : Machine} {label : LabelName} {word : BitVec 16}
    (h : machine.labels label.name = some word) (next : BitVec 16 -> Machine) :
    machine.onLabel label next = next word := by
  unfold onLabel
  rw [h]

theorem onLabel_of_none {machine : Machine} {label : LabelName}
    (h : machine.labels label.name = none) (next : BitVec 16 -> Machine) :
    machine.onLabel label next = { machine with status := .unboundLabel label.name } := by
  unfold onLabel
  rw [h]

def execute (halts : Int -> Bool) (machine : Machine) : Instruction -> Machine
  | .addRegister dest src1 src2 =>
      machine.withResult dest (machine.registers src1 + machine.registers src2)
  | .addImmediate dest src1 imm =>
      machine.withResult dest (machine.registers src1 + immediateWord imm)
  | .andRegister dest src1 src2 =>
      machine.withResult dest (machine.registers src1 &&& machine.registers src2)
  | .andImmediate dest src1 imm =>
      machine.withResult dest (machine.registers src1 &&& immediateWord imm)
  | .not dest src => machine.withResult dest (~~~machine.registers src)
  | .branch condition label =>
      machine.onLabel label fun target =>
        if isTaken condition machine.sign then { machine with index := target.toInt }
        else machine.advance
  | .load dest label => machine.onLabel label fun word => machine.withResult dest word
  | .loadIndirect dest label =>
      machine.onLabel label fun address => machine.withResult dest (machine.memory address)
  | .store src label =>
      machine.onLabel label fun _ =>
        { machine with
          labels := Function.update machine.labels label.name (some (machine.registers src))
          index := machine.index + 1 }
  | .storeIndirect src label =>
      machine.onLabel label fun address =>
        { machine with
          memory := Function.update machine.memory address (machine.registers src)
          index := machine.index + 1 }
  | .trap vector =>
      if halts vector then { machine with status := .halted } else machine.advance

/-- The instruction at an index, of which only those from zero on can have one. -/
def fetch? (code : List Instruction) (index : Int) : Option Instruction :=
  if 0 ≤ index then code[index.toNat]? else none

/-- One step; a machine that has stopped stays as it is. -/
def step (code : List Instruction) (halts : Int -> Bool) (machine : Machine) : Machine :=
  match machine.status with
  | .running =>
      match fetch? code machine.index with
      | some i => machine.execute halts i
      | none => { machine with status := .outOfRange machine.index code.length }
  | _ => machine

theorem step_of_running {code : List Instruction} {halts : Int -> Bool} {machine : Machine}
    (h : machine.status = .running) :
    machine.step code halts =
      match fetch? code machine.index with
      | some i => machine.execute halts i
      | none => { machine with status := .outOfRange machine.index code.length } := by
  unfold step
  rw [h]

theorem step_of_stopped (code : List Instruction) (halts : Int -> Bool) {machine : Machine}
    (h : machine.status ≠ .running) : machine.step code halts = machine := by
  unfold step
  cases hstatus : machine.status with
  | running => exact absurd hstatus h
  | halted | unboundLabel name | outOfRange target size => rfl

end Machine
end Reference
end LittleComputer
