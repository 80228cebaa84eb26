import LittleComputer.Proofs.Word.Wrapping
import LittleComputer.Session.Basic
import Mathlib.Data.List.Nodup
import Mathlib.Data.List.Perm.Basic

/-!
# Seeding memory

Contents are written from left to right, each to the cell of its address.  Addresses that are
different but have the same residue modulo 65536 share a cell, which the last of them decides on.
So all that counts of the order is the order of the contents of one cell.
-/

namespace LittleComputer

/-!
# Contents for one cell
-/

namespace Cells

def ofIntegers (cells : List (Int × Int)) : Cells :=
  ofPairs (cells.map fun cell => (.int cell.1, .int cell.2))

/-- The contents for the cell of a place, with their addresses. -/
def givenFor (place : Nat) (cells : List (Int × Int)) : List (Int × Int) :=
  cells.filter fun cell => cell.1 ≡ place [ZMOD 0x10000]

def lastGiven? (place : Nat) (cells : List (Int × Int)) : Option Int :=
  (givenFor place cells).getLast?.map Prod.snd

theorem integers_ofIntegers {cells : List (Int × Int)} (h : (cells.map Prod.fst).Nodup) :
    integers (ofIntegers cells).pairs = (cells, true) := by
  have hdistinct : Entries.Distinct (cells.map fun cell => (Key.int cell.1, Value.int cell.2)) := by
    unfold Entries.Distinct
    rw [List.map_map]
    refine List.pairwise_map.mpr ((List.pairwise_map.mp h).imp ?_)
    intro cell other hne
    exact (Key.int_beq_int cell.1 other.1).trans (decide_eq_false hne)
  have hpairs : (ofIntegers cells).pairs = cells.map fun cell => (.int cell.1, .int cell.2) := by
    have hofList : ofIntegers cells =
        Table.ofList (cells.map fun cell => (Key.int cell.1, Value.int cell.2)) :=
      congrArg Table.ofList List.map_map
    unfold pairs
    rw [hofList, Table.entries_ofList hdistinct, List.map_map]
    rfl
  rw [hpairs]
  clear h hdistinct hpairs
  induction cells with
  | nil => rfl
  | cons cell rest ih => simp [integers, ih, Value.asInt?]

theorem lastGiven?_cons (place : Nat) (cell : Int × Int) (rest : List (Int × Int)) :
    lastGiven? place (cell :: rest) =
      (lastGiven? place rest).or
        (if cell.1 ≡ place [ZMOD 0x10000] then some cell.2 else none) := by
  unfold lastGiven? givenFor
  by_cases hcell : cell.1 ≡ place [ZMOD 0x10000]
  · rw [List.filter_cons, if_pos (decide_eq_true hcell), if_pos hcell, List.getLast?_cons]
    cases (rest.filter fun cell => cell.1 ≡ place [ZMOD 0x10000]).getLast? <;> rfl
  · rw [List.filter_cons, if_neg (by simpa using hcell), if_neg hcell, Option.or_none]

theorem givenFor_of_perm {cells other : List (Int × Int)} (hperm : other.Perm cells)
    (h : cells.Pairwise fun a b => ¬a.1 ≡ b.1 [ZMOD 0x10000]) (place : Nat) :
    givenFor place other = givenFor place cells := by
  have hsame : (givenFor place other).Perm (givenFor place cells) := hperm.filter _
  have hapart : (givenFor place cells).Pairwise fun a b => ¬a.1 ≡ b.1 [ZMOD 0x10000] := h.filter _
  have hhere : ∀ cell ∈ givenFor place cells, cell.1 ≡ place [ZMOD 0x10000] := by
    intro cell hcell
    exact of_decide_eq_true (List.mem_filter.mp hcell).right
  rcases hcells : givenFor place cells with _ | ⟨first, _ | ⟨second, rest⟩⟩
  · rw [hcells] at hsame
    exact hsame.eq_nil
  · rw [hcells] at hsame
    exact List.perm_singleton.mp hsame
  · rw [hcells] at hapart hhere
    have hfirst := hhere first (by simp)
    have hsecond := hhere second (by simp)
    exact absurd (hfirst.trans hsecond.symm) (List.rel_of_pairwise_cons hapart (by simp))

end Cells

/-!
# Writing them
-/

namespace Processor

theorem cell_eq_iff_modEq {place : Nat} (hplace : place < memorySize) (address : Int) :
    cell address = place ↔ address ≡ place [ZMOD 0x10000] := by
  have hself : cell place = place := by
    have hword : Word.unsigned place = place :=
      Word.unsigned_eq_self (Int.natCast_nonneg place) (by unfold memorySize at hplace; omega)
    exact congrArg Int.toNat hword
  have hsame := @cell_eq_iff address place
  rw [hself] at hsame
  exact hsame

section Load

variable {processor : Processor} (hmemory : processor.memory.size = memorySize)
include hmemory

theorem getElem?_memory_write {place : Nat} (hplace : place < memorySize) (address value : Int) :
    (processor.write address value).memory[place]? =
      if address ≡ place [ZMOD 0x10000] then some (.int (Word.signed value))
      else processor.memory[place]? := by
  have hcell : cell address < processor.memory.size := by
    rw [hmemory]
    exact cell_lt address
  simp only [write, Array.getElem?_setIfInBounds, cell_eq_iff_modEq hplace, hcell, if_true]

theorem load_cons (address value : Int) (rest : List (Int × Int)) :
    processor.load ((address, value) :: rest) = (processor.write address value).load rest := by
  have hcell : processor.hasCell address = true := by
    unfold hasCell
    rw [hmemory]
    exact decide_eq_true (cell_lt address)
  exact if_pos hcell

theorem load_keeps (cells : List (Int × Int)) :
    (processor.load cells).2 = true ∧ (processor.load cells).1.registers = processor.registers ∧
      (processor.load cells).1.flag = processor.flag ∧
        (processor.load cells).1.memory.size = memorySize := by
  induction cells generalizing processor with
  | nil => exact ⟨rfl, rfl, rfl, hmemory⟩
  | cons cell rest ih =>
      rw [load_cons hmemory]
      exact ih ((memory_size_write processor cell.1 cell.2).trans hmemory)

theorem getElem?_memory_load {place : Nat} (hplace : place < memorySize)
    (cells : List (Int × Int)) :
    (processor.load cells).1.memory[place]? =
      match Cells.lastGiven? place cells with
      | some content => some (.int (Word.signed content))
      | none => processor.memory[place]? := by
  induction cells generalizing processor with
  | nil => rfl
  | cons cell rest ih =>
      rw [load_cons hmemory, ih ((memory_size_write processor cell.1 cell.2).trans hmemory),
        Cells.lastGiven?_cons, getElem?_memory_write hmemory hplace]
      cases Cells.lastGiven? place rest with
      | some content => rfl
      | none => by_cases hcell : cell.1 ≡ place [ZMOD 0x10000] <;> simp [hcell]

/-- What counts of a sequence are the contents for each cell, in their order. -/
theorem load_eq_of_givenFor {cells other : List (Int × Int)}
    (h : ∀ place : Nat, Cells.givenFor place other = Cells.givenFor place cells) :
    processor.load other = processor.load cells := by
  rcases load_keeps hmemory cells with ⟨hwhole, hregisters, hflag, hsize⟩
  rcases load_keeps hmemory other with ⟨hotherWhole, hotherRegisters, hotherFlag, hotherSize⟩
  have hcells : (processor.load other).1.memory = (processor.load cells).1.memory := by
    apply Array.ext_getElem?
    intro place
    by_cases hplace : place < memorySize
    · have hlast : Cells.lastGiven? place other = Cells.lastGiven? place cells := by
        unfold Cells.lastGiven?
        rw [h place]
      rw [getElem?_memory_load hmemory hplace, getElem?_memory_load hmemory hplace, hlast]
    · rw [Array.getElem?_eq_none (by omega), Array.getElem?_eq_none (by omega)]
  generalize processor.load cells = result at *
  generalize processor.load other = otherResult at *
  rcases result with ⟨⟨registers, memory, flag⟩, isWhole⟩
  rcases otherResult with ⟨⟨otherRegisters, otherMemory, otherFlag⟩, otherIsWhole⟩
  simp_all

end Load

end Processor

/-!
# The command
-/

namespace Session

theorem processorAnswer_load {processor : Processor}
    (hmemory : processor.memory.size = Processor.memorySize) {cells : List (Int × Int)}
    (h : (cells.map Prod.fst).Nodup) :
    processorAnswer (.load (Cells.ofIntegers cells)) processor =
      (.ok .nothing, (processor.load cells).1) := by
  have hwhole := (Processor.load_keeps hmemory cells).left
  unfold processorAnswer loadCells
  dsimp only
  rw [Cells.integers_ofIntegers h]
  generalize processor.load cells = result at hwhole ⊢
  rcases result with ⟨after, isWhole⟩
  cases hwhole
  rfl

/-- A processor with all its cells can be seeded with integers at pairwise different addresses, of
any size.  Afterwards a cell holds the word of the last content whose address has the residue of the
cell, or what it held before if there is none, and is read at every address with that residue.
Nothing else has changed.  A sequence with the same contents for each cell, in the same order, seeds
alike; so does any sequence with the same contents in another order if no two addresses have one
residue. -/
theorem seeding_last_wins {processor : Processor}
    (hmemory : processor.memory.size = Processor.memorySize) {cells : List (Int × Int)}
    (hdistinct : (cells.map Prod.fst).Nodup) :
    let seeded := processorAnswer (.load (Cells.ofIntegers cells)) processor
    (∃ answer : Answer, seeded.1 = .ok answer) ∧
    seeded.2.registers = processor.registers ∧ seeded.2.flag = processor.flag ∧
    seeded.2.memory.size = Processor.memorySize ∧
    (∀ place < Processor.memorySize, seeded.2.memory[place]? =
      match Cells.lastGiven? place cells with
      | some content => some (.int (Word.signed content))
      | none => processor.memory[place]?) ∧
    (∀ place < Processor.memorySize, ∀ address : Int, address ≡ place [ZMOD 0x10000] ->
      seeded.2.read? address = seeded.2.memory[place]?) ∧
    (∀ other : List (Int × Int), (other.map Prod.fst).Nodup ->
      (∀ place : Nat, Cells.givenFor place other = Cells.givenFor place cells) ->
      processorAnswer (.load (Cells.ofIntegers other)) processor = seeded) ∧
    ∀ other : List (Int × Int), other.Perm cells ->
      (cells.Pairwise fun a b => ¬a.1 ≡ b.1 [ZMOD 0x10000]) ->
      processorAnswer (.load (Cells.ofIntegers other)) processor = seeded := by
  intro seeded
  have hseeded : seeded = (.ok .nothing, (processor.load cells).1) :=
    processorAnswer_load hmemory hdistinct
  have hsame : ∀ other : List (Int × Int), (other.map Prod.fst).Nodup ->
      (∀ place : Nat, Cells.givenFor place other = Cells.givenFor place cells) ->
      processorAnswer (.load (Cells.ofIntegers other)) processor = seeded := by
    intro other hother hgiven
    rw [hseeded, processorAnswer_load hmemory hother,
      Processor.load_eq_of_givenFor hmemory hgiven]
  rcases Processor.load_keeps hmemory cells with ⟨-, hregisters, hflag, hsize⟩
  refine ⟨⟨.nothing, ?_⟩, ?_, ?_, ?_, ?_, ?_, hsame, ?_⟩
  · rw [hseeded]
  · rw [hseeded]
    exact hregisters
  · rw [hseeded]
    exact hflag
  · rw [hseeded]
    exact hsize
  · intro place hplace
    rw [hseeded]
    exact Processor.getElem?_memory_load hmemory hplace cells
  · intro place hplace address haddress
    unfold Processor.read?
    rw [(Processor.cell_eq_iff_modEq hplace address).mpr haddress]
  · intro other hperm hapart
    apply hsame
    · exact (hperm.map Prod.fst).nodup_iff.mpr hdistinct
    · exact Cells.givenFor_of_perm hperm hapart

theorem seeding_last_wins_alias :
    let cells : List (Int × Int) := [(-1, 70000), (65539, -40000), (65535, 5)]
    Processor.initial.memory.size = Processor.memorySize ∧ (cells.map Prod.fst).Nodup ∧
      (processorAnswer (.load (Cells.ofIntegers cells)) .initial).2.read? (-65537) =
        some (.int 5) ∧
      (processorAnswer (.load (Cells.ofIntegers cells)) .initial).2.read? 3 =
        some (.int 25536) := by
  intro cells
  have hmemory : Processor.initial.memory.size = Processor.memorySize := Array.size_replicate
  have hdistinct : (cells.map Prod.fst).Nodup := by
    decide
  have hfirst : Cells.lastGiven? 65535 cells = some 5 := by
    decide
  have hsecond : Cells.lastGiven? 3 cells = some (-40000) := by
    decide
  rcases seeding_last_wins hmemory hdistinct with ⟨-, -, -, -, hcells, hread, -, -⟩
  refine ⟨hmemory, hdistinct, ?_, ?_⟩
  · rw [hread 65535 (by decide) (-65537) (by decide), hcells 65535 (by decide), hfirst]
    rfl
  · rw [hread 3 (by decide) 3 (by decide), hcells 3 (by decide), hsecond]
    rfl

end Session
end LittleComputer
