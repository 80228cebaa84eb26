import LittleComputer.Program
import Mathlib.Data.List.Induction

/-!
# Labels that a program names

The labels that instructions name are collected in order of first use, each of them once.  The order
is told by `firstUse`, the index of the first instruction that names a label.
-/

namespace LittleComputer

def firstUse (code : List Instruction) (name : String) : Nat :=
  code.findIdx fun i => i.label? = some name

def namedBy (code : List Instruction) : List String :=
  (code.filterMap Instruction.label?).foldl Program.addNew []

theorem namedBy_append (code : List Instruction) (i : Instruction) :
    namedBy (code ++ [i]) =
      match i.label? with
      | some name => Program.addNew (namedBy code) name
      | none => namedBy code := by
  unfold namedBy
  rw [List.filterMap_append, List.foldl_append]
  cases hlabel : i.label? with
  | none => simp [hlabel]
  | some name => simp [hlabel]

theorem mem_addNew {names : List String} {name other : String} :
    other ∈ Program.addNew names name ↔ other ∈ names ∨ other = name := by
  unfold Program.addNew
  split
  · next hcontains =>
      have hmem : name ∈ names := List.contains_iff_mem.mp hcontains
      constructor
      · exact Or.inl
      · rintro (hother | rfl)
        · exact hother
        · exact hmem
  · simp

theorem mem_namedBy {code : List Instruction} {name : String} :
    name ∈ namedBy code ↔ ∃ i ∈ code, i.label? = some name := by
  induction code using List.reverseRecOn with
  | nil => simp [namedBy]
  | append_singleton code i ih =>
      rw [namedBy_append]
      cases hlabel : i.label? with
      | none => simp [ih, hlabel]
      | some label => simp [mem_addNew, ih, hlabel, eq_comm]

theorem firstUse_lt_length_iff {code : List Instruction} {name : String} :
    firstUse code name < code.length ↔ name ∈ namedBy code := by
  unfold firstUse
  rw [List.findIdx_lt_length, mem_namedBy]
  simp

theorem firstUse_append_of_mem {code : List Instruction} {name : String}
    (h : name ∈ namedBy code) (i : Instruction) :
    firstUse (code ++ [i]) name = firstUse code name := by
  have hlt := firstUse_lt_length_iff.mpr h
  unfold firstUse at hlt ⊢
  rw [List.findIdx_append, if_pos hlt]

theorem firstUse_append_of_not_mem {code : List Instruction} {name : String}
    (h : name ∉ namedBy code) {i : Instruction} (hi : i.label? = some name) :
    firstUse (code ++ [i]) name = code.length := by
  have hlt : ¬firstUse code name < code.length := fun hlt => h (firstUse_lt_length_iff.mp hlt)
  unfold firstUse at hlt ⊢
  rw [List.findIdx_append, if_neg hlt]
  simp [hi]

theorem pairwise_namedBy (code : List Instruction) :
    (namedBy code).Pairwise fun name other => firstUse code name < firstUse code other := by
  induction code using List.reverseRecOn with
  | nil => exact .nil
  | append_singleton code i ih =>
      -- An instruction at the end changes no first use of the labels named before it.
      have hkept : (namedBy code).Pairwise fun name other =>
          firstUse (code ++ [i]) name < firstUse (code ++ [i]) other := by
        refine ih.imp_of_mem ?_
        intro name other hname hother hlt
        rw [firstUse_append_of_mem hname, firstUse_append_of_mem hother]
        exact hlt
      rw [namedBy_append]
      cases hlabel : i.label? with
      | none => exact hkept
      | some label =>
          show (Program.addNew (namedBy code) label).Pairwise _
          unfold Program.addNew
          split
          · exact hkept
          · next hcontains =>
              have hnew : label ∉ namedBy code := by
                intro hmem
                exact hcontains (List.contains_iff_mem.mpr hmem)
              rw [List.pairwise_append]
              refine ⟨hkept, List.pairwise_singleton _ _, ?_⟩
              intro name hname other hother
              rw [List.mem_singleton.mp hother, firstUse_append_of_mem hname,
                firstUse_append_of_not_mem hnew hlabel]
              exact firstUse_lt_length_iff.mpr hname

namespace Program

theorem mem_namedLabels {program : Program} {name : String} :
    name ∈ program.namedLabels ↔ ∃ i ∈ program.instructions, i.label? = some name := by
  show name ∈ namedBy program.instructions.toList ↔ _
  rw [mem_namedBy]
  simp only [Array.mem_toList_iff]

theorem mem_unboundLabels {program : Program} {name : String} :
    name ∈ program.unboundLabels ↔
      (∃ i ∈ program.instructions, i.label? = some name) ∧
        program.labels.contains (.text name) = false := by
  unfold unboundLabels
  rw [List.mem_filter, mem_namedLabels, Bool.not_eq_true']

/-- The labels that are missing stand in order of first use, each once. -/
theorem pairwise_unboundLabels (program : Program) :
    program.unboundLabels.Pairwise fun name other =>
      firstUse program.instructions.toList name < firstUse program.instructions.toList other :=
  (pairwise_namedBy program.instructions.toList).filter _

end Program
end LittleComputer
