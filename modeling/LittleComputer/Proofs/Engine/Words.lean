import LittleComputer.Proofs.Engine.Calls
import LittleComputer.Proofs.Engine.Effects
import LittleComputer.Proofs.Program.Binding

/-!
# Words in processors, labels and engines

Whatever integer is written, a processor and a table of labels hold words.  Values come into them in
few ways: into a register, into a register and the flag, into a cell, and into the entry of a label.
The steps of an engine go three of these ways, whatever executors they find.
-/

namespace LittleComputer

def Value.IsWord (value : Value) : Prop :=
  ∃ n : Int, value = .int n ∧ -0x8000 ≤ n ∧ n ≤ 0x7fff

theorem Value.isWord_signed (n : Int) : (Value.int (Word.signed n)).IsWord :=
  ⟨Word.signed n, rfl, Word.le_signed n, Word.signed_le n⟩

theorem Value.isWord_zero : (Value.int 0).IsWord :=
  Value.isWord_signed 0

/-!
# Tables of labels
-/

theorem Entries.mem_insert {κ α : Type} [BEq κ] {key : κ} {value : α} {entry : κ × α}
    {entries : List (κ × α)} (h : entry ∈ insert key value entries) :
    entry.2 = value ∨ entry ∈ entries := by
  induction entries with
  | nil =>
      left
      rw [List.mem_singleton.mp h]
  | cons first rest ih =>
      unfold insert at h
      split at h
      · rcases List.mem_cons.mp h with heq | hrest
        · left
          rw [heq]
        · exact Or.inr (List.mem_cons_of_mem first hrest)
      · rcases List.mem_cons.mp h with heq | hrest
        · right
          rw [heq]
          exact List.mem_cons_self ..
        · rcases ih hrest with hvalue | hmem
          · exact Or.inl hvalue
          · exact Or.inr (List.mem_cons_of_mem first hmem)

namespace Table

def HoldsWords (table : Table Key Value) : Prop :=
  ∀ entry ∈ table.entries, entry.2.IsWord

theorem holdsWords_empty : (∅ : Table Key Value).HoldsWords := by
  intro entry hentry
  cases hentry

theorem HoldsWords.insert {table : Table Key Value} (h : table.HoldsWords) (name : Key)
    {value : Value} (hvalue : value.IsWord) : (table.insert name value).HoldsWords := by
  intro entry hentry
  rcases Entries.mem_insert hentry with heq | hmem
  · rw [heq]
    exact hvalue
  · exact h entry hmem

theorem HoldsWords.foldl_insert {table : Table Key Value} (h : table.HoldsWords)
    {pairs : List (Key × Value)} (hpairs : ∀ pair ∈ pairs, pair.2.IsWord) :
    (pairs.foldl (fun table pair => table.insert pair.1 pair.2) table).HoldsWords := by
  induction pairs generalizing table with
  | nil => exact h
  | cons first rest ih =>
      apply ih (h.insert first.1 (hpairs first (List.mem_cons_self ..)))
      intro pair hpair
      exact hpairs pair (List.mem_cons_of_mem first hpair)

theorem holdsWords_ofList {pairs : List (Key × Value)} (hpairs : ∀ pair ∈ pairs, pair.2.IsWord) :
    (ofList pairs).HoldsWords :=
  holdsWords_empty.foldl_insert hpairs

end Table

theorem Labels.holdsWords_insert {labels : Labels} (h : labels.table.HoldsWords) (name : Value)
    (n : Int) : (labels.insert name n).table.HoldsWords :=
  h.insert ⟨name⟩ (Value.isWord_signed n)

theorem Labels.holdsWords_store {labels : Labels} (h : labels.table.HoldsWords) (name : Value)
    (n : Int) : (labels.store name n).table.HoldsWords := by
  unfold store
  split
  · exact holdsWords_insert h name n
  · exact h

theorem Program.Edits.holdsWords {program after : Program} (hedits : Edits program after)
    (h : program.labels.table.HoldsWords) : after.labels.table.HoldsWords := by
  apply hedits.keep (P := fun program => program.labels.table.HoldsWords)
  · intro program after hedit h
    cases hedit with
    | origin n | appended i _ => exact h
    | bound name n _ => exact Labels.holdsWords_insert h name n
  · exact h

/-!
# Processors
-/

namespace Processor

structure HoldsWords (processor : Processor) : Prop where
  registers_size : processor.registers.size = registerCount
  memory_size : processor.memory.size = memorySize
  register_isWord : ∀ value ∈ processor.registers, value.IsWord
  cell_isWord : ∀ value ∈ processor.memory, value.IsWord
  flag_isWord : processor.flag.IsWord

theorem isWord_of_mem_setIfInBounds {row : Array Value}
    (hrow : ∀ value ∈ row, value.IsWord) (place : Nat) (n : Int) :
    ∀ value ∈ row.setIfInBounds place (.int (Word.signed n)), value.IsWord := by
  intro value hvalue
  rcases Array.mem_or_eq_of_mem_setIfInBounds hvalue with hmem | heq
  · exact hrow value hmem
  · rw [heq]
    exact Value.isWord_signed n

theorem isWord_of_mem_replicate {size : Nat} {value : Value}
    (h : value ∈ Array.replicate size (Value.int 0)) : value.IsWord := by
  rw [(Array.mem_replicate.mp h).right]
  exact Value.isWord_zero

theorem holdsWords_initial : initial.HoldsWords where
  registers_size := Array.size_replicate
  memory_size := Array.size_replicate
  register_isWord := fun _ => isWord_of_mem_replicate
  cell_isWord := fun _ => isWord_of_mem_replicate
  flag_isWord := Value.isWord_zero

section HoldsWords

variable {processor : Processor} (h : processor.HoldsWords)
include h

theorem HoldsWords.putResult (dest : Register) (value : Int) :
    (processor.putResult dest value).HoldsWords where
  registers_size := Array.size_setIfInBounds.trans h.registers_size
  memory_size := h.memory_size
  register_isWord := isWord_of_mem_setIfInBounds h.register_isWord _ value
  cell_isWord := h.cell_isWord
  flag_isWord := Value.isWord_signed value

theorem HoldsWords.setRegister? {index value : Int} {after : Processor}
    (hset : processor.setRegister? index value = some after) : after.HoldsWords := by
  unfold Processor.setRegister? at hset
  split at hset
  · cases hset
    exact {
      registers_size := Array.size_setIfInBounds.trans h.registers_size
      memory_size := h.memory_size
      register_isWord := isWord_of_mem_setIfInBounds h.register_isWord _ value
      cell_isWord := h.cell_isWord
      flag_isWord := h.flag_isWord }
  · cases hset

theorem HoldsWords.write (address value : Int) : (processor.write address value).HoldsWords where
  registers_size := h.registers_size
  memory_size := (memory_size_write processor address value).trans h.memory_size
  register_isWord := h.register_isWord
  cell_isWord := isWord_of_mem_setIfInBounds h.cell_isWord _ value
  flag_isWord := h.flag_isWord

theorem HoldsWords.load (cells : List (Int × Int)) : (processor.load cells).1.HoldsWords := by
  induction cells generalizing processor with
  | nil => exact h
  | cons first rest ih =>
      unfold Processor.load
      split
      · exact ih (h.write first.1 first.2)
      · exact h

end HoldsWords

end Processor

/-!
# Engines
-/

namespace Engine

structure HoldsWords (engine : Engine) : Prop where
  processor : engine.processor.HoldsWords
  labels : engine.program.labels.table.HoldsWords
  initialLabels : engine.run.initialLabels.HoldsWords

section HoldsWords

variable {engine : Engine} (h : engine.HoldsWords)
include h

theorem HoldsWords.perform (i : Instruction) (effect : Effect) :
    (engine.perform i effect).HoldsWords := by
  cases effect with
  | result dest value => exact ⟨h.processor.putResult dest value, h.labels, h.initialLabels⟩
  | label name value =>
      exact ⟨h.processor, Labels.holdsWords_store h.labels _ value, h.initialLabels⟩
  | cell address value => exact ⟨h.processor.write address value, h.labels, h.initialLabels⟩
  | jump target | proceed | halt => exact ⟨h.processor, h.labels, h.initialLabels⟩

theorem HoldsWords.next (isa : Isa) : (engine.next isa).HoldsWords := by
  have hmoves := next_moves isa engine
  generalize engine.next isa = after at hmoves ⊢
  cases hmoves with
  | stays | aborted _ => exact ⟨h.processor, h.labels, h.initialLabels⟩
  | @performed i effect _ _ _ => exact h.perform i effect

theorem HoldsWords.drive {σ : Type} (isa : Isa) (observe : Engine -> Event -> σ -> σ)
    (limit : Nat) (last : Option Event) (seen : σ) :
    (engine.drive isa observe limit last seen).2.HoldsWords := by
  rcases drive_eq_iterate isa observe limit last seen engine with ⟨n, hn⟩
  rw [hn]
  apply holds_iterate _ isa n h
  intro isa engine h
  exact h.next isa

theorem HoldsWords.reset : engine.reset.HoldsWords :=
  ⟨Processor.holdsWords_initial, h.initialLabels, h.initialLabels⟩

end HoldsWords

end Engine
end LittleComputer
