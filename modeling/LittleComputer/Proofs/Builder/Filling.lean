import LittleComputer.Builder
import LittleComputer.Proofs.Engine.Words

/-!
# Filling memory

Memory can be filled with integers of any size before a program is executed.  Each of them is
wrapped to a word in the cell of its address, and all other cells stay as they were.
-/

namespace LittleComputer

theorem Value.IsWord.isInteger {value : Value} (h : value.IsWord) : value.IsInteger := by
  rcases h with ⟨n, rfl, -, -⟩
  exact isInteger_int n

namespace Processor

section HoldsWords

variable {processor : Processor} (h : processor.HoldsWords)
include h

theorem HoldsWords.isWhole : processor.IsWhole where
  registers_size := h.registers_size
  memory_size := h.memory_size
  register_isInteger _ _ hget := (h.register_isWord _ (Array.mem_of_getElem? hget)).isInteger
  cell_isInteger _ _ hget := (h.cell_isWord _ (Array.mem_of_getElem? hget)).isInteger
  flag_isInteger := h.flag_isWord.isInteger

theorem HoldsWords.getElem?_memory {place : Nat} (hplace : place < 0x10000) :
    processor.memory[place]? =
      some (.int (Word.bits (processor.cellValue place)).toInt) := by
  have hlt : place < processor.memory.size := by
    rw [h.memory_size]
    exact hplace
  have hget : processor.memory[place]? = some processor.memory[place] :=
    Array.getElem?_eq_getElem hlt
  rcases h.cell_isWord _ (Array.getElem_mem hlt) with ⟨n, hn, hlow, hhigh⟩
  rw [hn] at hget
  have hvalue : processor.cellValue place = n := by
    unfold cellValue
    rw [hget]
    rfl
  rw [hget, hvalue, Word.toInt_bits_of_mem hlow hhigh]

end HoldsWords

end Processor

/-!
# Images
-/

namespace Cells

/-- Integers of any size, each at the address of a cell. -/
def IsImage (memory : Cells) : Prop :=
  ∀ pair ∈ memory.pairs,
    (∃ address : Int, pair.1 = .int address ∧ 0 ≤ address ∧ address < 0x10000) ∧
      pair.2.IsInteger

/-- The integer given for a place, or zero if none is. -/
def given (memory : Cells) (place : Nat) : Int :=
  ((memory.get? (.int place)).map Value.toInt).getD 0

end Cells

/-!
# Writing the cells of an image
-/

namespace Builder

theorem writeMemory_of_isInteger {builder : Builder} (h : builder.processor.IsWhole)
    {address : Int} (hlow : 0 ≤ address) (hhigh : address < 0x10000) {content : Value}
    (hcontent : content.IsInteger) :
    builder.writeMemory (.int address) content =
      (.ok (), { builder with processor := builder.processor.write address content.toInt }) := by
  have haddress : Program.address (.int address) = .ok address :=
    if_pos ⟨hlow, hhigh⟩
  unfold writeMemory
  simp only [haddress, Value.asInt?_of_isInteger hcontent, Processor.hasCell_of_isWhole h, if_true]
  rfl

theorem cell_of_mem {address : Int} (hlow : 0 ≤ address) (hhigh : address < 0x10000) :
    Processor.cell address = address.toNat := by
  unfold Processor.cell Word.unsigned Word.modulus
  omega

structure Filled (entries : List (Key × Value)) (before after : Processor) : Prop where
  holdsWords : after.HoldsWords
  registers_eq : after.registers = before.registers
  flag_eq : after.flag = before.flag
  cell_eq : ∀ place : Nat, after.cellValue place =
    ((Entries.get? entries (.int place)).map fun content => Word.signed content.toInt).getD
      (before.cellValue place)

theorem get?_cons (key other : Key) (content : Value) (rest : List (Key × Value)) :
    Entries.get? ((key, content) :: rest) other =
      if key == other then some content else Entries.get? rest other := by
  unfold Entries.get?
  rw [List.find?_cons]
  cases key == other <;> rfl

theorem get?_of_distinct {key : Key} {content : Value} {rest : List (Key × Value)}
    (h : Entries.Distinct ((key, content) :: rest)) : Entries.get? rest key = none := by
  have hfind : rest.find? (fun entry => entry.1 == key) = none := by
    apply List.find?_eq_none.mpr
    intro entry hentry hequal
    have hne := (List.pairwise_cons.mp h).left entry.1 (List.mem_map_of_mem hentry)
    rw [BEq.symm hequal] at hne
    cases hne
  unfold Entries.get?
  rw [hfind]
  rfl

theorem Filled.cons {address : Int} {content : Value} {rest : List (Key × Value)}
    {before after : Processor} (hbefore : before.IsWhole)
    (hlow : 0 ≤ address) (hhigh : address < 0x10000)
    (hdistinct : Entries.Distinct ((.int address, content) :: rest))
    (h : Filled rest (before.write address content.toInt) after) :
    Filled ((.int address, content) :: rest) before after where
  holdsWords := h.holdsWords
  registers_eq := h.registers_eq
  flag_eq := h.flag_eq
  cell_eq place := by
    rw [h.cell_eq, Processor.cellValue_write hbefore, cell_of_mem hlow hhigh, get?_cons,
      Key.int_beq_int]
    by_cases hplace : address.toNat = place
    · have haddress : address = place := by
        omega
      -- No later entry has this address.
      rw [← haddress, get?_of_distinct hdistinct, if_pos hplace, if_pos (decide_eq_true rfl)]
      rfl
    · have haddress : address ≠ place := by
        omega
      rw [if_neg hplace, decide_eq_false haddress]
      rfl

theorem writeCells_of_isImage {entries : List (Key × Value)} (hdistinct : Entries.Distinct entries)
    (hentries : ∀ entry ∈ entries,
      (∃ address : Int, entry.1.value = .int address ∧ 0 ≤ address ∧ address < 0x10000) ∧
        entry.2.IsInteger)
    {builder : Builder} (h : builder.processor.HoldsWords) :
    ∃ after : Processor,
      builder.writeCells (entries.map fun entry => (entry.1.value, entry.2)) =
        (.ok (), { builder with processor := after }) ∧
      Filled entries builder.processor after := by
  induction entries generalizing builder with
  | nil => exact ⟨builder.processor, rfl, h, rfl, rfl, fun _ => rfl⟩
  | cons entry rest ih =>
      rcases entry with ⟨⟨key⟩, content⟩
      rcases hentries _ (List.mem_cons_self ..) with ⟨⟨address, rfl, hlow, hhigh⟩, hcontent⟩
      let written : Builder :=
        { builder with processor := builder.processor.write address content.toInt }
      have hrest : ∀ entry ∈ rest, _ := fun entry hentry =>
        hentries entry (List.mem_cons_of_mem _ hentry)
      have hwritten : written.processor.HoldsWords := h.write address content.toInt
      rcases ih (List.pairwise_cons.mp hdistinct).right hrest hwritten with ⟨after, hcells, hfilled⟩
      refine ⟨after, ?_, hfilled.cons h.isWhole hlow hhigh hdistinct⟩
      rw [List.map_cons, writeCells, writeMemory_of_isInteger h.isWhole hlow hhigh hcontent]
      exact hcells

end Builder

end LittleComputer
