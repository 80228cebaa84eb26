import LittleComputer.Executor
import LittleComputer.Proofs.Word.BitVector

/-!
# Contents of a processor

A processor is whole if it has its eight registers and its 65536 cells and if integers of any size
stand in all of them and in the flag.  A whole processor can always be read, so its contents are
given by plain integers: `registerValue`, `cellValue` and `flagValue`.  This module says how the two
kinds of writes change them.
-/

namespace LittleComputer

namespace Value

/-- The integer that a value counts as; a value of another sort is read as zero. -/
def toInt (value : Value) : Int :=
  value.asInt?.getD 0

def IsInteger (value : Value) : Prop :=
  value.asInt?.isSome = true

theorem isInteger_int (n : Int) : (int n).IsInteger := rfl

theorem toInt_int (n : Int) : (int n).toInt = n := rfl

theorem asInt?_of_isInteger {value : Value} (h : value.IsInteger) :
    value.asInt? = some value.toInt := by
  rcases Option.isSome_iff_exists.mp h with ⟨n, hn⟩
  rw [toInt, hn]
  rfl

theorem integer_of_isInteger {value : Value} (h : value.IsInteger) :
    value.integer = .ok value.toInt := by
  unfold integer
  rw [asInt?_of_isInteger h]

theorem ofSameSign?_of_isInteger {value : Value} (h : value.IsInteger) :
    value.ofSameSign? = some value.toInt := by
  cases value with
  | int n => rfl
  | bool b => rfl
  | float x => cases h
  | text s => cases h
  | null => cases h
  | operand kind value written => cases h

theorem ne_null_of_isInteger {value : Value} (h : value.IsInteger) : value ≠ .null := by
  intro hnull
  rw [hnull] at h
  cases h

theorem canonical_of_isInteger {value : Value} (h : value.IsInteger) :
    value.canonical = .int value.toInt := by
  cases value with
  | int n | bool b => rfl
  | float x | text s | null | operand kind value written => cases h

theorem equals_iff_of_isInteger {v w : Value} (hv : v.IsInteger) (hw : w.IsInteger) :
    v.equals w = true ↔ v.toInt = w.toInt := by
  rw [equals_iff, canonical_of_isInteger hv, canonical_of_isInteger hw]
  simp [isReflexive]

end Value

namespace Processor

structure IsWhole (processor : Processor) : Prop where
  registers_size : processor.registers.size = registerCount
  memory_size : processor.memory.size = memorySize
  register_isInteger : ∀ (place : Nat) (value : Value),
    processor.registers[place]? = some value -> value.IsInteger
  cell_isInteger : ∀ (place : Nat) (value : Value),
    processor.memory[place]? = some value -> value.IsInteger
  flag_isInteger : processor.flag.IsInteger

def registerValue (processor : Processor) (register : Register) : Int :=
  (processor.registers[register.val]?.getD .null).toInt

def cellValue (processor : Processor) (place : Nat) : Int :=
  (processor.memory[place]?.getD .null).toInt

def flagValue (processor : Processor) : Int :=
  processor.flag.toInt

/-!
# Reading
-/

section Reading

variable {processor : Processor} (hwhole : processor.IsWhole)
include hwhole

theorem fetchRegister_of_isWhole (register : Register) :
    ∃ value, processor.fetchRegister register = .ok value ∧
      value.integer = .ok (processor.registerValue register) := by
  have hlt : register.val < processor.registers.size := by
    rw [hwhole.registers_size]
    exact register.isLt
  have hget : processor.registers[register.val]? = some processor.registers[register.val] :=
    Array.getElem?_eq_getElem hlt
  exists processor.registers[register.val]
  constructor
  · unfold fetchRegister
    rw [hget]
  · unfold registerValue
    rw [hget]
    exact Value.integer_of_isInteger (hwhole.register_isInteger _ _ hget)

theorem hasCell_of_isWhole (address : Int) : processor.hasCell address = true := by
  unfold hasCell
  rw [hwhole.memory_size]
  exact decide_eq_true (cell_lt address)

theorem fetchCell_of_isWhole (address : Int) :
    ∃ value, processor.fetchCell address = .ok value ∧
      value.integer = .ok (processor.cellValue (cell address)) := by
  have hlt : cell address < processor.memory.size := by
    rw [hwhole.memory_size]
    exact cell_lt address
  have hget : processor.memory[cell address]? = some processor.memory[cell address] :=
    Array.getElem?_eq_getElem hlt
  exists processor.memory[cell address]
  constructor
  · unfold fetchCell read?
    rw [hget]
  · unfold cellValue
    rw [hget]
    exact Value.integer_of_isInteger (hwhole.cell_isInteger _ _ hget)

theorem resultEffect_of_isWhole (dest : Register) (value : Int) :
    processor.resultEffect dest value = .ok (.result dest value) := by
  have hlt : dest.val < processor.registers.size := by
    rw [hwhole.registers_size]
    exact dest.isLt
  exact if_pos hlt

theorem cellEffect_of_isWhole (address value : Int) :
    processor.cellEffect address value = .ok (.cell address value) :=
  if_pos (hasCell_of_isWhole hwhole address)

theorem decideOn_of_isWhole (condition : Condition) :
    condition.decideOn processor.flag = .ok (condition.admits processor.flagValue) := by
  unfold Condition.decideOn Condition.admits?
  by_cases hempty : condition.letters.isEmpty = true
  · have hadmits : condition.admits processor.flagValue = true := by
      unfold Condition.admits Condition.lettersAdmit
      rw [hempty, Bool.true_or]
    rw [if_pos hempty, hadmits]
  · rw [if_neg hempty, Value.ofSameSign?_of_isInteger hwhole.flag_isInteger]
    rfl

end Reading

/-!
# Writing
-/

theorem registerValue_putResult {processor : Processor} (hwhole : processor.IsWhole)
    (dest other : Register) (value : Int) :
    (processor.putResult dest value).registerValue other =
      if dest = other then Word.signed value else processor.registerValue other := by
  have hlt : dest.val < processor.registers.size := by
    rw [hwhole.registers_size]
    exact dest.isLt
  unfold registerValue putResult
  by_cases heq : dest = other
  · subst heq
    rw [if_pos rfl, Array.getElem?_setIfInBounds_self_of_lt hlt]
    rfl
  · have hne : dest.val ≠ other.val := by
      intro hval
      exact heq (Fin.ext hval)
    rw [if_neg heq, Array.getElem?_setIfInBounds_ne hne]

theorem cellValue_write {processor : Processor} (hwhole : processor.IsWhole)
    (address value : Int) (place : Nat) :
    (processor.write address value).cellValue place =
      if cell address = place then Word.signed value else processor.cellValue place := by
  have hlt : cell address < processor.memory.size := by
    rw [hwhole.memory_size]
    exact cell_lt address
  unfold cellValue write
  by_cases heq : cell address = place
  · subst heq
    rw [if_pos rfl, Array.getElem?_setIfInBounds_self_of_lt hlt]
    rfl
  · rw [if_neg heq, Array.getElem?_setIfInBounds_ne heq]

theorem isInteger_setIfInBounds {row : Array Value}
    (hrow : ∀ (place : Nat) (value : Value), row[place]? = some value -> value.IsInteger)
    (target : Nat) (n : Int) (place : Nat) (value : Value)
    (hget : (row.setIfInBounds target (.int n))[place]? = some value) : value.IsInteger := by
  rw [Array.getElem?_setIfInBounds] at hget
  split at hget
  · split at hget
    · cases hget
      exact Value.isInteger_int n
    · cases hget
  · exact hrow place value hget

theorem isWhole_putResult {processor : Processor} (hwhole : processor.IsWhole)
    (dest : Register) (value : Int) : (processor.putResult dest value).IsWhole where
  registers_size := by
    rw [← hwhole.registers_size]
    exact Array.size_setIfInBounds
  memory_size := hwhole.memory_size
  register_isInteger := isInteger_setIfInBounds hwhole.register_isInteger _ _
  cell_isInteger := hwhole.cell_isInteger
  flag_isInteger := Value.isInteger_int _

theorem isWhole_write {processor : Processor} (hwhole : processor.IsWhole)
    (address value : Int) : (processor.write address value).IsWhole where
  registers_size := hwhole.registers_size
  memory_size := by
    rw [memory_size_write]
    exact hwhole.memory_size
  register_isInteger := hwhole.register_isInteger
  cell_isInteger := isInteger_setIfInBounds hwhole.cell_isInteger _ _
  flag_isInteger := hwhole.flag_isInteger

theorem isInteger_replicate (size : Nat) (n : Int) (place : Nat) (value : Value)
    (hget : (Array.replicate size (Value.int n))[place]? = some value) : value.IsInteger := by
  rw [Array.getElem?_replicate] at hget
  split at hget
  · cases hget
    exact Value.isInteger_int n
  · cases hget

theorem isWhole_initial : initial.IsWhole where
  registers_size := Array.size_replicate
  memory_size := Array.size_replicate
  register_isInteger := isInteger_replicate registerCount 0
  cell_isInteger := isInteger_replicate memorySize 0
  flag_isInteger := Value.isInteger_int 0

end Processor
end LittleComputer
