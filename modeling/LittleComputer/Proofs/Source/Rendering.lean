import LittleComputer.Proofs.Program.Binding
import LittleComputer.Proofs.Source.Operands
import LittleComputer.Source.Assembly
import Mathlib.Data.List.TakeWhile

/-!
# Instructions as lines of assembly

The text of an instruction is an opening word, a blank, and operands with a comma and a blank
between them.  A line of that form is taken apart into the same words, so an assembly of the texts
of instructions gives the instructions back.
-/

namespace LittleComputer

/-!
# Words of an instruction
-/

namespace Source

def Keyword.word : Keyword -> List Char
  | directive d => d.name.toList
  | operation o => o.name.toList
  | branch letters => 'B' :: 'R' :: letters

def written (opening : List Char) (operands : List (List Char)) : List Char :=
  opening ++ ' ' :: [',', ' '].intercalate operands

/-- What a line can be written of: an opening word, and at least one operand that is a word. -/
structure AreWords (opening : List Char) (operands : List (List Char)) : Prop where
  opening_isField : Text.IsField isDelimiter opening
  operands_ne_nil : operands ≠ []
  operand_isField : ∀ word ∈ operands, Text.IsField isDelimiter word

end Source

namespace Instruction

def keyword : Instruction -> Source.Keyword
  | addRegister _ _ _ | addImmediate _ _ _ => .operation .add
  | andRegister _ _ _ | andImmediate _ _ _ => .operation .and
  | not _ _ => .operation .not
  | branch condition _ => .branch condition.letters
  | load _ _ => .operation .ld
  | loadIndirect _ _ => .operation .ldi
  | store _ _ => .operation .st
  | storeIndirect _ _ => .operation .sti
  | trap _ => .operation .trap

def operands (traps : Traps) : Instruction -> List (List Char)
  | addRegister dest src1 src2 | andRegister dest src1 src2 =>
      [dest.text.toList, src1.text.toList, src2.text.toList]
  | addImmediate dest src1 imm | andImmediate dest src1 imm =>
      [dest.text.toList, src1.text.toList, imm.text.toList]
  | not dest src => [dest.text.toList, src.text.toList]
  | branch _ label => [label.name.toList]
  | load register label | loadIndirect register label | store register label
  | storeIndirect register label => [register.text.toList, label.name.toList]
  | trap vector => [(traps.operandText vector).toList]

theorem toList_text (traps : Traps) (i : Instruction) :
    (i.text traps).toList = Source.written i.keyword.word (i.operands traps) := by
  cases i <;>
    simp [text, threeRegisterText, registerImmediateText, registerLabelText, keyword, operands,
      Source.Keyword.word, Source.Operation.name, Condition.text, Source.written,
      List.intercalate_cons_cons]

theorem keyword_eq (i : Instruction) :
    (∃ operation : Source.Operation, i.keyword = .operation operation) ∨
      ∃ condition : Condition, i.keyword = .branch condition.letters := by
  cases i with
  | branch condition label => exact Or.inr ⟨condition, rfl⟩
  | _ => exact Or.inl ⟨_, rfl⟩

theorem isField_keyword (i : Instruction) :
    Text.IsField Source.isDelimiter i.keyword.word := by
  rcases i.keyword_eq with ⟨operation, hkeyword⟩ | ⟨condition, hkeyword⟩
  · rw [hkeyword]
    cases operation <;> decide +kernel
  · rw [hkeyword]
    rcases condition with ⟨negative, zero, positive⟩
    cases negative <;> cases zero <;> cases positive <;> decide +kernel

theorem read?_keyword (i : Instruction) :
    Source.Keyword.read? i.keyword.word = some i.keyword := by
  rcases i.keyword_eq with ⟨operation, hkeyword⟩ | ⟨condition, hkeyword⟩
  · rw [hkeyword]
    cases operation <;> rfl
  · rw [hkeyword]
    rcases condition with ⟨negative, zero, positive⟩
    cases negative <;> cases zero <;> cases positive <;> rfl

/-- An instruction that can be written with the given traps: its label is free and its vector is
that of a trap. -/
structure IsReadable (traps : Traps) (i : Instruction) : Prop where
  isFree : ∀ name : String, i.label? = some name -> Source.IsFree name.toList
  contains : ∀ vector : Int, i = .trap vector -> traps.contains (.int vector) = true

theorem isField_operands {traps : Traps} (htraps : traps.IsReadable) {i : Instruction}
    (h : i.IsReadable traps) : ∀ word ∈ i.operands traps, Text.IsField Source.isDelimiter word := by
  have hlabel : ∀ label : LabelName, i.label? = some label.name ->
      Text.IsField Source.isDelimiter label.name.toList := by
    intro label hi
    exact Source.isField_of_isIdentifier (h.isFree label.name hi).isIdentifier
  cases i with
  | addRegister dest src1 src2 | andRegister dest src1 src2 =>
      simp [operands, Source.isField_register]
  | addImmediate dest src1 imm | andImmediate dest src1 imm =>
      simp [operands, Source.isField_register, Source.isField_immediate]
  | not dest src => simp [operands, Source.isField_register]
  | branch condition label => simp [operands, hlabel label rfl]
  | load register label | loadIndirect register label | store register label
  | storeIndirect register label =>
      simp [operands, Source.isField_register, hlabel label rfl]
  | trap vector => simp [operands, (htraps.operandText (h.contains vector rfl)).left]

theorem areWords {traps : Traps} (htraps : traps.IsReadable) {i : Instruction}
    (h : i.IsReadable traps) : Source.AreWords i.keyword.word (i.operands traps) where
  opening_isField := i.isField_keyword
  operands_ne_nil := by
    cases i <;> exact List.cons_ne_nil _ _
  operand_isField := isField_operands htraps h

end Instruction

namespace Source

/-!
# Lines of words
-/

def readKeyword (traps : Traps) (isLabelled : Bool) (keyword : Keyword)
    (operands : List (List Char)) : Except LineError Clause :=
  match keyword with
  | .directive directive => readDirective isLabelled directive operands
  | .operation operation => .ok (.instruction (readOperation traps operation operands))
  | .branch letters => .ok (.instruction (readBranch letters operands))

section

variable {opening : List Char} {operands : List (List Char)} (h : AreWords opening operands)
include h

theorem mem_written {c : Char} (hc : c ∈ written opening operands) :
    c = ' ' ∨ c = ',' ∨ isDelimiter c = false := by
  unfold written at hc
  rcases List.mem_append.mp hc with hc | hc
  · exact Or.inr (Or.inr (h.opening_isField.not_isSeparator c hc))
  · rcases List.mem_cons.mp hc with rfl | hc
    · exact Or.inl rfl
    · rcases Text.mem_intercalate hc with hc | ⟨word, hword, hc⟩
      · rcases List.mem_cons.mp hc with rfl | hc
        · exact Or.inr (Or.inl rfl)
        · exact Or.inl (List.mem_singleton.mp hc)
      · exact Or.inr (Or.inr ((h.operand_isField word hword).not_isSeparator c hc))

theorem isField_written : Text.IsField Text.isLineBreak (written opening operands) := by
  constructor
  · intro hnil
    exact h.opening_isField.ne_nil (List.append_eq_nil_iff.mp hnil).left
  · intro c hc
    rcases mem_written h hc with rfl | rfl | hdelimiter
    · rfl
    · rfl
    · by_contra hbreak
      rw [Bool.not_eq_false] at hbreak
      rw [isDelimiter_of_isBlank c (Text.isBlank_of_isLineBreak hbreak)] at hdelimiter
      cases hdelimiter

theorem isEmpty_written : (written opening operands).isEmpty = false := by
  rw [List.isEmpty_eq_false_iff]
  exact (isField_written h).ne_nil

theorem code_written : code (written opening operands) = written opening operands := by
  have huncommented : (written opening operands).takeWhile (· != ';') =
      written opening operands := by
    refine List.takeWhile_eq_self_iff.mpr ?_
    intro c hc
    rw [bne_iff_ne]
    rcases mem_written h hc with rfl | rfl | hdelimiter
    · decide
    · decide
    · rintro rfl
      cases hdelimiter
  rcases Text.exists_intercalate_eq_append [',', ' '] h.operands_ne_nil with
    ⟨before, last, hlast, hjoined⟩
  have hend : written opening operands = (opening ++ ' ' :: before) ++ last := by
    unfold written
    rw [hjoined, List.append_assoc]
    rfl
  unfold code
  rw [huncommented]
  exact Text.strip_eq_self (h.opening_isField.imp isDelimiter_of_isBlank)
    ((h.operand_isField last hlast).imp isDelimiter_of_isBlank) rfl hend

theorem firstWord_written :
    Text.firstWord (written opening operands) =
      (opening, Text.stripStart ([',', ' '].intercalate operands)) :=
  Text.firstWord_append (h.opening_isField.imp isDelimiter_of_isBlank).not_isSeparator rfl _

theorem operandWords_written :
    operandWords (Text.stripStart ([',', ' '].intercalate operands)) = operands := by
  unfold operandWords
  rw [Text.fields_stripStart fun c => isOperandSeparator_of_isBlank]
  refine Text.fields_intercalate (List.cons_ne_nil _ _) ?_ ?_
  · intro c hc
    rcases List.mem_cons.mp hc with rfl | hblank
    · rfl
    · cases List.mem_singleton.mp hblank
      rfl
  · intro word hword
    exact (h.operand_isField word hword).imp fun c => isDelimiter_of_isOperandSeparator

variable {keyword : Keyword} (hkeyword : Keyword.read? opening = some keyword)
include hkeyword

theorem readClause_written (traps : Traps) (isLabelled : Bool) :
    readClause traps isLabelled (written opening operands) =
      readKeyword traps isLabelled keyword operands := by
  unfold readClause
  rw [isEmpty_written h, firstWord_written h]
  dsimp only
  rw [operandWords_written h, hkeyword]
  cases keyword <;> rfl

theorem readLine_written (traps : Traps) :
    readLine traps (written opening operands) =
      .ok (some ⟨none, readKeyword traps false keyword operands⟩) := by
  unfold readLine
  rw [code_written h]
  dsimp only
  rw [isEmpty_written h, firstWord_written h]
  dsimp only
  rw [hkeyword, readClause_written h hkeyword]
  rfl

end

/-!
# Instructions
-/

section

variable {traps : Traps}

theorem readBranch_written (condition : Condition) {label : LabelName}
    (h : IsFree label.name.toList) :
    readBranch condition.letters [label.name.toList] = .ok (.branch condition label) := by
  unfold readBranch
  dsimp only
  rw [labelOperand_name h, ok_bind, conditionOperand_letters, ok_bind]
  rfl

theorem arithmetic_registers (withRegister : Register -> Register -> Register -> Instruction)
    (withImmediate : Register -> Register -> Immediate -> Instruction)
    (dest src1 src2 : Register) :
    arithmetic withRegister withImmediate dest.text.toList src1.text.toList src2.text.toList =
      .ok (withRegister dest src1 src2) := by
  unfold arithmetic
  rw [registerOperand_text, ok_bind, registerOperand_text, ok_bind, readRegister?_text]
  rfl

theorem arithmetic_immediate (withRegister : Register -> Register -> Register -> Instruction)
    (withImmediate : Register -> Register -> Immediate -> Instruction)
    (dest src1 : Register) (imm : Immediate) :
    arithmetic withRegister withImmediate dest.text.toList src1.text.toList imm.text.toList =
      .ok (withImmediate dest src1 imm) := by
  unfold arithmetic
  rw [registerOperand_text, ok_bind, registerOperand_text, ok_bind, readRegister?_immediate]
  dsimp only
  rw [immediateOperand_text, ok_bind]
  rfl

theorem registerAndLabel_written (make : Register -> LabelName -> Instruction)
    (register : Register) {label : LabelName} (h : IsFree label.name.toList) :
    registerAndLabel make register.text.toList label.name.toList = .ok (make register label) := by
  unfold registerAndLabel
  rw [registerOperand_text, ok_bind, labelOperand_name h, ok_bind]
  rfl

def Gives (traps : Traps) (operands : List (List Char)) (i : Instruction) : Keyword -> Prop
  | .directive _ => False
  | .operation operation => readOperation traps operation operands = .ok i
  | .branch letters => readBranch letters operands = .ok i

theorem readKeyword_of_gives (isLabelled : Bool) {operands : List (List Char)} {i : Instruction}
    {keyword : Keyword} (h : Gives traps operands i keyword) :
    readKeyword traps isLabelled keyword operands = .ok (.instruction (.ok i)) := by
  cases keyword with
  | directive d => exact h.elim
  | operation o =>
      have hread : readOperation traps o operands = .ok i := h
      exact hread ▸ rfl
  | branch letters =>
      have hread : readBranch letters operands = .ok i := h
      exact hread ▸ rfl

theorem gives_operands (htraps : traps.IsReadable) {i : Instruction} (h : i.IsReadable traps) :
    Gives traps (i.operands traps) i i.keyword := by
  have hlabel : ∀ label : LabelName, i.label? = some label.name -> IsFree label.name.toList :=
    fun label => h.isFree label.name
  cases i with
  | addRegister dest src1 src2 => exact arithmetic_registers _ _ dest src1 src2
  | addImmediate dest src1 imm => exact arithmetic_immediate _ _ dest src1 imm
  | andRegister dest src1 src2 => exact arithmetic_registers _ _ dest src1 src2
  | andImmediate dest src1 imm => exact arithmetic_immediate _ _ dest src1 imm
  | not dest src =>
      show readOperation traps .not [dest.text.toList, src.text.toList] = .ok (.not dest src)
      unfold readOperation
      dsimp only
      rw [registerOperand_text, ok_bind, registerOperand_text, ok_bind]
      rfl
  | branch condition label => exact readBranch_written condition (hlabel label rfl)
  | load register label => exact registerAndLabel_written .load register (hlabel label rfl)
  | loadIndirect register label =>
      exact registerAndLabel_written .loadIndirect register (hlabel label rfl)
  | store register label => exact registerAndLabel_written .store register (hlabel label rfl)
  | storeIndirect register label =>
      exact registerAndLabel_written .storeIndirect register (hlabel label rfl)
  | trap vector => exact htraps.readOperation_trap (h.contains vector rfl)

theorem readLine_text (htraps : traps.IsReadable) {i : Instruction} (h : i.IsReadable traps) :
    readLine traps (i.text traps).toList = .ok (some ⟨none, .ok (.instruction (.ok i))⟩) := by
  rw [i.toList_text traps, readLine_written (Instruction.areWords htraps h) i.read?_keyword,
    readKeyword_of_gives false (gives_operands htraps h)]

end

/-!
# Texts of instructions
-/

namespace Assembly

variable {traps : Traps}

theorem line_text (htraps : traps.IsReadable) {i : Instruction} (h : i.IsReadable traps)
    (number : Nat) {assembly : Assembly} (hfrozen : assembly.program.frozen = false) :
    line traps number (i.text traps).toList assembly =
      (.next, { assembly with program :=
        { assembly.program with instructions := assembly.program.instructions.push i } }) := by
  unfold line
  rw [readLine_text htraps h]
  unfold enact bindHere declare isDeclared append Program.append
  dsimp only
  rw [hfrozen]
  rfl

/-- An assembly of the texts of instructions adds the instructions, in order. -/
theorem lines_texts (htraps : traps.IsReadable) {code : List Instruction}
    (h : ∀ i ∈ code, i.IsReadable traps) (number : Nat) {assembly : Assembly}
    (hfrozen : assembly.program.frozen = false) :
    lines traps number (code.map fun i => (i.text traps).toList) assembly =
      (none, { assembly with program :=
        { assembly.program with
          instructions := assembly.program.instructions ++ code.toArray } }) := by
  induction code generalizing number assembly with
  | nil =>
      rw [Array.append_empty]
      rfl
  | cons i rest ih =>
      rw [List.map_cons]
      unfold lines
      rw [line_text htraps (h i (List.mem_cons_self ..)) number hfrozen]
      refine (ih (fun j hj => h j (List.mem_cons_of_mem _ hj)) (number + 1) ?_).trans ?_
      · exact hfrozen
      · simp

end Assembly

theorem lines_join_texts {traps : Traps} (htraps : traps.IsReadable) {code : List Instruction}
    (h : ∀ i ∈ code, i.IsReadable traps) :
    Text.lines ("\n".intercalate (code.map (Instruction.text traps))).toList =
      code.map fun i => (i.text traps).toList := by
  rw [String.toList_intercalate, List.map_map]
  refine Text.lines_intercalate ?_
  intro row hrow
  rcases List.mem_map.mp hrow with ⟨i, hi, rfl⟩
  show Text.IsField Text.isLineBreak (i.text traps).toList
  rw [i.toList_text traps]
  exact isField_written (Instruction.areWords htraps (h i hi))

/-- The texts of instructions, one on each line, are assembled into exactly these instructions, with
no label bound and no origin. -/
theorem assemble_texts {traps : Traps} (htraps : traps.IsReadable) (verbose : Bool)
    {code : List Instruction}
    (hvectors : ∀ vector : Int, .trap vector ∈ code -> traps.contains (.int vector) = true)
    (hlabels : ∀ i ∈ code, ∀ name : String, i.label? = some name -> IsFree name.toList) :
    let text := "\n".intercalate (code.map (Instruction.text traps))
    let result := assemble traps verbose text .empty
    result.1 = none ∧ result.2.program.instructions.toList = code ∧
      result.2.program.labels = .empty ∧ result.2.program.origin = none := by
  intro text result
  have hreadable : ∀ i ∈ code, i.IsReadable traps := by
    intro i hi
    constructor
    · exact hlabels i hi
    · rintro vector rfl
      exact hvectors vector hi
  have hresult : result = (none, { Assembly.start verbose .empty with program :=
      { Program.empty with instructions := #[] ++ code.toArray } }) := by
    show Assembly.lines traps 1 (Text.lines text.toList) (.start verbose .empty) = _
    rw [lines_join_texts htraps hreadable]
    exact Assembly.lines_texts htraps hreadable 1 rfl
  rw [hresult]
  refine ⟨rfl, ?_, rfl, rfl⟩
  simp

theorem assemble_texts_lookalikes :
    let out : Trap := ⟨.int 37, .text "OUT", .text "R1", .text "", .bool false⟩
    let traps := Traps.standard.register out
    let code : List Instruction :=
      [.addImmediate 0 1 ⟨-16, by decide, by decide⟩, .branch ⟨true, false, true⟩ ⟨"b1", by decide⟩,
        .store 7 ⟨"R8", by decide⟩, .branch ⟨false, false, false⟩ ⟨"BRA", by decide⟩, .trap 37,
        .trap 25]
    let text := "ADD R0, R1, #-16\nBRnp b1\nST R7, R8\nBR BRA\nTRAP R1\nTRAP x25"
    "\n".intercalate (code.map (Instruction.text traps)) = text ∧
      (assemble traps false text .empty).2.program.instructions.toList = code := by
  intro out traps code text
  have htraps : traps.IsReadable := by
    constructor
    · exact (Traps.IsIndexed.empty.register rfl).register rfl
    · intro trap htrap
      have hvalues : traps.values = [.halt, out] := rfl
      rw [hvalues] at htrap
      rcases List.mem_cons.mp htrap with rfl | htrap
      · exact ⟨"x25", rfl, by decide⟩
      · cases List.mem_singleton.mp htrap
        exact ⟨"R1", rfl, by decide⟩
    · decide +kernel
  have htext : "\n".intercalate (code.map (Instruction.text traps)) = text := by
    decide +kernel
  have hvectors : ∀ vector : Int, .trap vector ∈ code -> traps.contains (.int vector) = true := by
    intro vector hvector
    simp only [code, List.mem_cons, reduceCtorEq, Instruction.trap.injEq, List.not_mem_nil,
      false_or, or_false] at hvector
    rcases hvector with rfl | rfl <;> decide +kernel
  have hlabels : ∀ i ∈ code, ∀ name : String, i.label? = some name -> IsFree name.toList := by
    decide +kernel
  have hassembled := assemble_texts htraps false hvectors hlabels
  rw [htext] at hassembled
  exact ⟨htext, hassembled.right.left⟩

end Source
end LittleComputer
