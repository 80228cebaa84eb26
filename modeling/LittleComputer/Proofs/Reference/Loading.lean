import LittleComputer.Proofs.Builder.Filling
import LittleComputer.Proofs.Reference.Halting
import LittleComputer.Proofs.Session.Words

/-!
# Texts that are run on filled memory

The reference machine of such a run starts with the words that memory was filled with, with zero in
all registers, and with the words of the labels.  If it comes to a halt, the run is successful and
leaves the memory of the halted machine.
-/

namespace LittleComputer

/-!
# Labels
-/

theorem Labels.get?_of_entries_eq {labels : Labels} {bindings : List (String × Int)}
    (h : labels.entries = bindings.map fun binding => (.text binding.1, .int binding.2))
    (name : String) : labels.get? (.text name) = (bindings.lookup name).map Value.int := by
  show Entries.get? labels.table.entries (.text name) = _
  unfold entries at h
  generalize labels.table.entries = entries at h
  induction bindings generalizing entries with
  | nil =>
      rw [List.map_eq_nil_iff.mp h]
      rfl
  | cons binding rest ih =>
      rcases List.map_eq_cons_iff.mp h with ⟨⟨⟨key⟩, value⟩, others, rfl, hfirst, hothers⟩
      cases hfirst
      have hkey : (Key.text binding.1 == Key.text name) = decide (binding.1 = name) :=
        Key.text_beq_text binding.1 name
      rw [← Key.text, Builder.get?_cons, ih others hothers, List.lookup_cons, hkey]
      by_cases hname : binding.1 = name
      · rw [decide_eq_true hname, if_pos rfl, beq_iff_eq.mpr hname.symm]
        rfl
      · rw [decide_eq_false hname, if_neg Bool.false_ne_true,
          beq_eq_false_iff_ne.mpr (Ne.symm hname)]

theorem Labels.areWords_of_holdsWords {labels : Labels} (h : labels.table.HoldsWords) :
    Reference.AreWords labels := by
  intro name value hget
  rcases Option.map_eq_some_iff.mp hget with ⟨entry, hentry, rfl⟩
  have hword := h entry (List.mem_of_find?_eq_some hentry)
  refine ⟨hword.isInteger, ?_⟩
  rcases hword with ⟨n, hn, hbounds⟩
  rw [hn]
  exact hbounds

namespace Reference

/-!
# The start of a run
-/

/-- A text is assembled without an error to given instructions, and its labels to given words. -/
structure Assembles (text : String) (code : List Instruction) (labels : List (String × Int)) :
    Prop where
  accepted : (Source.assemble Isa.standard.traps false text .empty).1 = none
  isOpen : (Source.assemble Isa.standard.traps false text .empty).2.program.frozen = false
  code_eq :
    (Source.assemble Isa.standard.traps false text .empty).2.program.instructions.toList = code
  labels_eq :
    (Source.assemble Isa.standard.traps false text .empty).2.program.labels.entries =
      labels.map fun label => (.text label.1, .int label.2)

theorem assembles_of_lines {text : String} {rows : List (List Char)} {code : List Instruction}
    {labels : List (String × Int)} (hrows : Text.lines text.toList = rows)
    (h : let assembled :=
        Source.Assembly.lines Isa.standard.traps 1 rows (.start false .empty)
      assembled.1 = none ∧ assembled.2.program.frozen = false ∧
        assembled.2.program.instructions.toList = code ∧
        assembled.2.program.labels.entries =
          labels.map fun label => (.text label.1, .int label.2)) :
    Assembles text code labels := by
  subst hrows
  exact ⟨h.left, h.right.left, h.right.right.left, h.right.right.right⟩

abbrev standardHalts : Int -> Bool :=
  Isa.standard.traps.halts

def Machine.loaded (labels : List (String × Int)) (memory : Cells) : Machine where
  registers _ := 0
  memory address := Word.bits (memory.given address.toNat)
  labels name := (labels.lookup name).map Word.bits
  sign := .zero
  index := 0
  status := .running

theorem toInt_getElem?_replicate (size place : Nat) :
    ((Array.replicate size (Value.int 0))[place]?.getD .null).toInt = 0 := by
  rw [Array.getElem?_replicate]
  split <;> rfl

theorem bits_cellValue_of_filled {memory : Cells} {processor : Processor}
    (h : Builder.Filled memory.entries .initial processor) (place : Nat) :
    Word.bits (processor.cellValue place) = Word.bits (memory.given place) := by
  have hinitial : Processor.initial.cellValue place = 0 :=
    toInt_getElem?_replicate Processor.memorySize place
  rw [h.cell_eq, hinitial]
  show _ = Word.bits (((Entries.get? memory.entries (.int place)).map Value.toInt).getD 0)
  cases Entries.get? memory.entries (.int place) with
  | none => rfl
  | some content => exact Word.bits_signed content.toInt

theorem ofState_of_filled {memory : Cells} {processor : Processor}
    (h : Builder.Filled memory.entries .initial processor) {labels : Labels}
    {bindings : List (String × Int)}
    (hlabels : labels.entries = bindings.map fun binding => (.text binding.1, .int binding.2)) :
    Machine.ofState processor labels = .loaded bindings memory := by
  have hregisters (register : Register) : processor.registerValue register = 0 := by
    unfold Processor.registerValue
    rw [h.registers_eq]
    exact toInt_getElem?_replicate Processor.registerCount register.val
  have hnames (name : String) :
      (labels.get? (.text name)).map (fun value => Word.bits value.toInt) =
        (bindings.lookup name).map Word.bits := by
    rw [Labels.get?_of_entries_eq hlabels, Option.map_map]
    rfl
  have hsign : Sign.ofInt processor.flagValue = .zero := by
    unfold Processor.flagValue
    rw [h.flag_eq]
    rfl
  unfold Machine.ofState Machine.loaded
  simp only [hregisters, bits_cellValue_of_filled h, hnames, hsign]
  rfl

/-!
# Running a text
-/

section RunText

variable {text : String} {code : List Instruction} {labels : List (String × Int)}
  (htext : Assembles text code labels) {memory : Cells} (hmemory : memory.IsImage)
  {limit : Nat} {last : Machine}
  (hreaches : Machine.Reaches code standardHalts limit (.loaded labels memory) last)
  (hhalted : last.status = .halted)
include htext hmemory hreaches hhalted

theorem runText_of_reaches :
    ∃ builder : Builder,
      (∀ larger : Nat, limit ≤ larger ->
        Builder.runText Isa.standard larger text memory = (.ok (), builder)) ∧
      ∀ address : BitVec 16,
        builder.processor.memory[address.toNat]? = some (.int (last.memory address).toInt) := by
  rcases htext with ⟨haccepted, hopen, hcode, hlabels⟩
  have hwords : (Builder.mk (Source.assemble Isa.standard.traps false text .empty).2.program
      .initial none).HoldsWords :=
    (Builder.holdsWords_ofProcessor Processor.holdsWords_initial).after Isa.standard
      (.assemble false text)
  -- What is assembled is kept as it is: no more is needed than what `htext` says of it.
  generalize hassembled : Source.assemble Isa.standard.traps false text .empty = assembled
    at haccepted hopen hcode hlabels hwords
  rcases assembled with ⟨error, ⟨program, declared, verbose, log⟩⟩
  cases haccepted
  have hentries : ∀ entry ∈ memory.entries, _ := fun entry hentry =>
    hmemory (entry.1.value, entry.2) (List.mem_map_of_mem hentry)
  rcases Builder.writeCells_of_isImage memory.distinct hentries hwords.processor with
    ⟨processor, hcells, hfilled⟩
  let filled : Builder := ⟨program, processor, none⟩
  rw [← hcode, ← ofState_of_filled hfilled hlabels] at hreaches
  rcases @execute_of_reaches filled hopen hfilled.holdsWords.isWhole
    (Labels.areWords_of_holdsWords hwords.labels) limit last hreaches hhalted with
    ⟨steps, after, hexecute, hrepresents⟩
  refine ⟨⟨after.program, after.processor, some after.run⟩, ?_, ?_⟩
  · intro larger hlarger
    have hcells : (Builder.mk program .initial none).writeCells memory.pairs =
        (.ok (), filled) := hcells
    have hempty : Builder.empty = ⟨.empty, .initial, none⟩ := rfl
    unfold Builder.runText
    simp only [hassembled, hempty, hcells, hexecute larger hlarger]
  · intro address
    have hfilledWords : filled.HoldsWords :=
      ⟨hfilled.holdsWords, hwords.labels, fun _ hrun => by cases hrun⟩
    have hafter : (filled.execute .standard (fun _ seen => seen) (fun _ _ seen => seen) limit
        ()).2.2.HoldsWords :=
      hfilledWords.execute .standard _ _ limit ()
    rw [hexecute limit (Nat.le_refl limit)] at hafter
    rw [hafter.processor.getElem?_memory address.isLt, hrepresents.memory]

theorem runText_of_output {output : BitVec 16} {n : Nat} (hn : n < 0x8000)
    (houtput : last.memory =
      Function.update (Machine.loaded labels memory).memory output (BitVec.ofNat 16 n)) :
    ∃ builder : Builder,
      (∀ larger : Nat, limit ≤ larger ->
        Builder.runText Isa.standard larger text memory = (.ok (), builder)) ∧
      ∀ place : Nat, place < 0x10000 -> builder.processor.memory[place]? =
        some (.int (if place = output.toNat then (n : Int)
          else Word.signed (memory.given place))) := by
  rcases runText_of_reaches htext hmemory hreaches hhalted with ⟨builder, hrun, hcells⟩
  refine ⟨builder, hrun, ?_⟩
  intro place hplace
  have hcell := hcells (BitVec.ofNat 16 place)
  rw [BitVec.toNat_ofNat, Nat.mod_eq_of_lt hplace, houtput] at hcell
  rw [hcell]
  by_cases heq : place = output.toNat
  · have haddress : BitVec.ofNat 16 place = output := by
      rw [heq, BitVec.ofNat_toNat, BitVec.setWidth_eq]
    rw [if_pos heq, haddress, Function.update_self, ← Word.bits_natCast,
      Word.toInt_bits_of_mem (by omega) (by omega)]
  · have haddress : BitVec.ofNat 16 place ≠ output := by
      intro h
      apply heq
      rw [← h, BitVec.toNat_ofNat, Nat.mod_eq_of_lt hplace]
    rw [if_neg heq, Function.update_of_ne haddress, Word.signed_eq_toInt_bits]
    show some (Value.int (Word.bits (memory.given (BitVec.ofNat 16 place).toNat)).toInt) = _
    rw [BitVec.toNat_ofNat, Nat.mod_eq_of_lt hplace]

end RunText

end Reference
end LittleComputer
