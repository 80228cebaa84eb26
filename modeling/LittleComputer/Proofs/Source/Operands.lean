import LittleComputer.Proofs.Outcome
import LittleComputer.Proofs.Source.Reserved
import Mathlib.Tactic.IntervalCases

/-!
# Operands as they are written

Each operand of an instruction is written as one word, and that word is read as the same operand.
For the operand of a trap this takes a registry whose operands are words that differ by more than
the case of their letters.
-/

namespace LittleComputer
namespace Source

/-!
# Registers, immediates and conditions
-/

theorem isField_register (register : Register) :
    Text.IsField isDelimiter register.text.toList := by
  revert register
  decide +kernel

theorem registerOperand_text (register : Register) :
    registerOperand register.text.toList = .ok register := by
  unfold registerOperand
  rw [readRegister?_text]

theorem isField_immediate (imm : Immediate) : Text.IsField isDelimiter imm.text.toList := by
  rcases imm with ⟨n, hlow, hhigh⟩
  unfold Immediate.text
  dsimp only
  interval_cases n <;> decide +kernel

theorem readRegister?_immediate (imm : Immediate) : readRegister? imm.text.toList = none := by
  rcases imm with ⟨n, hlow, hhigh⟩
  unfold Immediate.text
  dsimp only
  interval_cases n <;> rfl

theorem numberOperand_immediate (imm : Immediate) :
    numberOperand imm.text.toList = .ok imm.value := by
  rcases imm with ⟨n, hlow, hhigh⟩
  unfold Immediate.text
  dsimp only
  interval_cases n <;> rfl

theorem immediateOperand_text (imm : Immediate) : immediateOperand imm.text.toList = .ok imm := by
  unfold immediateOperand Immediate.ofValue
  rw [numberOperand_immediate, ok_bind]
  dsimp only
  rw [dif_pos ⟨imm.le_value, imm.value_le⟩]
  rfl

theorem conditionOperand_letters (condition : Condition) :
    conditionOperand condition.letters = .ok condition := by
  rcases condition with ⟨negative, zero, positive⟩
  cases negative <;> cases zero <;> cases positive <;> rfl

theorem labelOperand_name {label : LabelName} (h : IsFree label.name.toList) :
    labelOperand label.name.toList = .ok label := by
  unfold labelOperand
  rw [readLabel?_of_isFree h]

end Source

/-!
# Traps
-/

def Trap.lookupWord (trap : Trap) : List Char :=
  Text.lower trap.operand.plain.toList

namespace Traps

def IsIndexed (traps : Traps) : Prop :=
  ∀ entry ∈ traps.entries, ∃ n : Int, entry.1 = .int n ∧ entry.2.vector = .int n

/-- The traps can be told from each other by their operands, which are words of a line. -/
structure IsReadable (traps : Traps) : Prop where
  isIndexed : traps.IsIndexed
  operand_isField : ∀ trap ∈ traps.values, ∃ operand : String,
    trap.operand = .text operand ∧ Text.IsField Source.isDelimiter operand.toList
  operands_distinct : traps.values.Pairwise fun a b => a.lookupWord ≠ b.lookupWord

theorem IsIndexed.empty : (∅ : Traps).IsIndexed := by
  intro entry h
  cases h

theorem IsIndexed.register {traps : Traps} (h : traps.IsIndexed) {trap : Trap} {n : Int}
    (hvector : trap.vector = .int n) : (traps.register trap).IsIndexed := by
  rcases traps with ⟨entries, hdistinct⟩
  show ∀ entry ∈ Entries.insert ⟨trap.vector⟩ trap entries, _
  have hentries : ∀ entry ∈ entries, ∃ n : Int, entry.1 = .int n ∧ entry.2.vector = .int n := h
  clear h hdistinct
  rw [hvector]
  induction entries with
  | nil =>
      intro entry hentry
      cases List.mem_singleton.mp hentry
      exact ⟨n, rfl, hvector⟩
  | cons first rest ih =>
      rcases hentries first (List.mem_cons_self ..) with ⟨m, hkey, hfirst⟩
      have hrest := fun entry hentry => hentries entry (List.mem_cons_of_mem first hentry)
      intro entry hentry
      unfold Entries.insert at hentry
      split at hentry
      · next hsame =>
          rcases List.mem_cons.mp hentry with rfl | hentry
          · have hm : m = n := by
              rw [hkey] at hsame
              exact of_decide_eq_true ((Key.int_beq_int m n).symm.trans hsame)
            exact ⟨m, hkey, hm ▸ hvector⟩
          · exact hrest entry hentry
      · rcases List.mem_cons.mp hentry with rfl | hentry
        · exact ⟨m, hkey, hfirst⟩
        · exact ih hrest entry hentry

theorem IsIndexed.of_get? {traps : Traps} (h : traps.IsIndexed) {n : Int} {trap : Trap}
    (hget : traps.get? (.int n) = some trap) : trap ∈ traps.values ∧ trap.vector = .int n := by
  rcases Option.map_eq_some_iff.mp hget with ⟨entry, hfind, rfl⟩
  have hmem := List.mem_of_find?_eq_some hfind
  rcases h entry hmem with ⟨m, hkey, hvector⟩
  have hsame : (entry.1 == Key.int n) = true :=
    List.find?_some (p := fun entry : Key × Trap => entry.1 == Key.int n) hfind
  rw [hkey, Key.int_beq_int, decide_eq_true_eq] at hsame
  exact ⟨List.mem_map_of_mem hmem, hsame ▸ hvector⟩

theorem firstOfOperand_of_mem {traps : List Trap}
    (htexts : ∀ trap ∈ traps, ∃ operand : String, trap.operand = .text operand)
    (hdistinct : traps.Pairwise fun a b => a.lookupWord ≠ b.lookupWord) {trap : Trap}
    (hmem : trap ∈ traps) : firstOfOperand trap.lookupWord traps = .ok (some trap) := by
  induction traps with
  | nil => cases hmem
  | cons first rest ih =>
      rcases htexts first (List.mem_cons_self ..) with ⟨operand, hoperand⟩
      have hword : Text.lower operand.toList = first.lookupWord := by
        unfold Trap.lookupWord
        rw [hoperand]
        rfl
      unfold firstOfOperand
      rw [hoperand]
      dsimp only
      rw [hword]
      rcases List.mem_cons.mp hmem with rfl | hrest
      · exact if_pos rfl
      · rw [if_neg (List.rel_of_pairwise_cons hdistinct hrest)]
        exact ih (fun other hother => htexts other (List.mem_cons_of_mem _ hother))
          hdistinct.of_cons hrest

variable {traps : Traps} {n : Int}

/-- The operand written for a vector is a word, and the trap found by it has that vector. -/
theorem IsReadable.operandText (h : traps.IsReadable) (hn : traps.contains (.int n) = true) :
    Text.IsField Source.isDelimiter (traps.operandText n).toList ∧
      ∃ trap : Trap, traps.ofOperand (traps.operandText n).toList = .ok (some trap) ∧
        trap.vector = .int n := by
  rcases Option.isSome_iff_exists.mp hn with ⟨trap, hget⟩
  rcases h.isIndexed.of_get? hget with ⟨hmem, hvector⟩
  rcases h.operand_isField trap hmem with ⟨operand, hoperand, hfield⟩
  have htext : traps.operandText n = operand := by
    unfold Traps.operandText
    rw [hget, Option.map_some, hoperand]
    rfl
  have hword : Text.lower (Text.strip operand.toList) = trap.lookupWord := by
    unfold Trap.lookupWord
    rw [Text.strip_field (hfield.imp Source.isDelimiter_of_isBlank), hoperand]
    rfl
  have htexts : ∀ trap ∈ traps.values, ∃ operand : String, trap.operand = .text operand := by
    intro other hother
    rcases h.operand_isField other hother with ⟨operand, hother, -⟩
    exact ⟨operand, hother⟩
  rw [htext]
  refine ⟨hfield, trap, ?_, hvector⟩
  unfold ofOperand
  rw [hword]
  exact firstOfOperand_of_mem htexts h.operands_distinct hmem

theorem IsReadable.readOperation_trap (h : traps.IsReadable)
    (hn : traps.contains (.int n) = true) :
    Source.readOperation traps .trap [(traps.operandText n).toList] = .ok (.trap n) := by
  rcases (h.operandText hn).right with ⟨trap, hfound, hvector⟩
  unfold Source.readOperation Instruction.ofVector
  dsimp only
  rw [hfound]
  dsimp only
  rw [hvector]
  dsimp only
  rw [if_pos hn]
  rfl

end Traps
end LittleComputer
