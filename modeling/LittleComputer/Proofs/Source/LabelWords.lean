import LittleComputer.Proofs.Program.Growth
import LittleComputer.Proofs.Source.Meaning
import LittleComputer.Proofs.Source.Reserved

/-!
# Words in the places of labels

A label stands in front of a line, or as an operand of a branch, a load or a store.  The word there
is read with its colon, if it has one, and a reserved word with a colon is not known for one.  So the
labels of an accepted text are no reserved words, except for those that are written with a colon.
-/

namespace LittleComputer
namespace Source

def IsReserved (name : List Char) : Prop :=
  IsKeyword (name.map Char.toUpper) ∨ IsRegisterName (name.map Char.toUpper)

instance : DecidablePred IsReserved :=
  fun name =>
    inferInstanceAs
      (Decidable (IsKeyword (name.map Char.toUpper) ∨ IsRegisterName (name.map Char.toUpper)))

theorem isFree_iff {name : List Char} :
    IsFree name ↔ isIdentifier name = true ∧ ¬IsReserved name := by
  constructor
  · intro h
    exact ⟨h.isIdentifier, not_or.mpr ⟨h.not_isKeyword, h.not_isRegisterName⟩⟩
  · rintro ⟨hidentifier, hreserved⟩
    rcases not_or.mp hreserved with ⟨hkeyword, hregister⟩
    exact ⟨hidentifier, hkeyword, hregister⟩

/-!
# Labels as they are spelled
-/

theorem colon_not_mem_of_isKeyword {word : List Char} (h : IsKeyword word) : ':' ∉ word := by
  rcases h with ⟨o, -, rfl⟩ | ⟨d, -, rfl⟩ | ⟨hopening, hletters⟩
  · cases o <;> decide
  · cases d <;> decide
  · intro hmem
    rw [← List.take_append_drop 2 word, hopening] at hmem
    rcases List.mem_append.mp hmem with hmem | hmem
    · revert hmem
      decide
    · have hsign := List.all_eq_true.mp hletters ':' hmem
      revert hsign
      decide

theorem colon_not_mem_of_isRegisterName {word : List Char} (h : IsRegisterName word) :
    ':' ∉ word := by
  rcases h with ⟨register, rfl⟩
  revert register
  decide +kernel

theorem reads_colon {name : List Char} (h : isIdentifier name = true) :
    Keyword.read? (name ++ [':']) = none ∧ readRegister? (name ++ [':']) = none := by
  have hmem : ':' ∈ (name ++ [':']).map Char.toUpper :=
    List.mem_map_of_mem (f := Char.toUpper) (List.mem_append_right name (List.mem_singleton_self ':'))
  have hascii : ∀ c ∈ name ++ [':'], c.toNat < 0x80 := by
    intro c hc
    rcases List.mem_append.mp hc with hc | hc
    · exact ascii_of_isIdentifier h c hc
    · cases List.mem_singleton.mp hc
      decide
  rw [← Option.not_isSome_iff_eq_none, ← Option.not_isSome_iff_eq_none]
  constructor
  · intro hkeyword
    exact colon_not_mem_of_isKeyword ((read?_isSome_iff hascii).mp hkeyword) hmem
  · intro hregister
    exact colon_not_mem_of_isRegisterName (readRegister?_isSome_iff.mp hregister) hmem

theorem readLabel?_colon {label : LabelName} (h : isIdentifier label.name.toList = true) :
    readLabel? (label.name.toList ++ [':']) = some label := by
  rcases reads_colon h with ⟨hkeyword, hregister⟩
  have hdrop : dropColon (label.name.toList ++ [':']) = label.name.toList := by
    unfold dropColon
    rw [List.getLast?_concat, if_pos rfl, List.dropLast_concat]
  unfold readLabel?
  dsimp only
  rw [hdrop, h, hkeyword, hregister]
  simp [label.name_ne_empty]

/-- A label is spelled with a colon after its name, or without one if the name is free. -/
theorem readLabel?_eq_some_iff {word : List Char} {label : LabelName} :
    readLabel? word = some label ↔
      word = label.name.toList ++ [':'] ∧ isIdentifier label.name.toList = true ∨
        word = label.name.toList ∧ IsFree word := by
  constructor
  · intro h
    unfold readLabel? at h
    dsimp only at h
    split at h
    · next hread =>
        simp only [Bool.and_eq_true, Option.isNone_iff_eq_none] at hread
        rcases hread with ⟨⟨hidentifier, hkeyword⟩, hregister⟩
        split at h
        · cases h
          dsimp only
          rw [String.toList_ofList]
          unfold dropColon at hidentifier ⊢
          split at hidentifier
          · next hlast =>
              left
              rw [if_pos hlast]
              exact ⟨(List.dropLast_append_getLast? ':' hlast).symm, hidentifier⟩
          · next hlast =>
              right
              rw [if_neg hlast]
              refine ⟨rfl, hidentifier, ?_, ?_⟩
              · rw [← read?_isSome_iff (ascii_of_isIdentifier hidentifier), hkeyword]
                exact Bool.false_ne_true
              · rw [← readRegister?_isSome_iff, hregister]
                exact Bool.false_ne_true
        · cases h
    · cases h
  · rintro (⟨rfl, hidentifier⟩ | ⟨rfl, hfree⟩)
    · exact readLabel?_colon hidentifier
    · exact readLabel?_of_isFree hfree

/-!
# The places of labels
-/

def labelOperands : Keyword -> List (List Char) -> List (List Char)
  | .branch _, [label] => [label]
  | .operation .ld, [_, label] | .operation .ldi, [_, label] | .operation .st, [_, label]
  | .operation .sti, [_, label] => [label]
  | _, _ => []

def labelWordsAfter (keyword : List Char) (operands : List (List Char)) : List (List Char) :=
  match Keyword.read? keyword with
  | some keyword => labelOperands keyword operands
  | none => []

def Wording.labelWords : Wording -> List (List Char)
  | .nothing => []
  | .label word => [word]
  | .statement front keyword operands => front.toList ++ labelWordsAfter keyword operands

def spelled? (word : List Char) : Option String :=
  (readLabel? word).map LabelName.name

def Saying.labels (saying : Saying) : List String :=
  (saying.1.map LabelName.name).toList ++ (saying.2.instruction?.bind Instruction.label?).toList

theorem spelled?_of_labelOperand {word : List Char} {label : LabelName}
    (h : labelOperand word = .ok label) : spelled? word = some label.name := by
  unfold labelOperand at h
  unfold spelled?
  split at h
  · next hread =>
      cases h
      rw [hread]
      rfl
  · cases h

/-- An instruction as it is read from a keyword and its operands: the operands in the places of
labels spell the label that it names, and its vector is that of a trap. -/
structure IsRead (traps : Traps) (keyword : Keyword) (words : List (List Char))
    (i : Instruction) : Prop where
  spelled : (labelOperands keyword words).map spelled? = i.label?.toList.map some
  contains : ∀ n : Int, i = .trap n -> traps.contains (.int n) = true

theorem arithmetic_eq_ok {withRegister : Register -> Register -> Register -> Instruction}
    {withImmediate : Register -> Register -> Immediate -> Instruction}
    {dest src1 src2 : List Char} {i : Instruction}
    (h : arithmetic withRegister withImmediate dest src1 src2 = .ok i) :
    (∃ dest src1 src2 : Register, i = withRegister dest src1 src2) ∨
      ∃ (dest src1 : Register) (imm : Immediate), i = withImmediate dest src1 imm := by
  rcases exists_of_bind_ok h with ⟨dest, -, h⟩
  rcases exists_of_bind_ok h with ⟨src1, -, h⟩
  split at h
  · cases h
    exact Or.inl ⟨_, _, _, rfl⟩
  · rcases exists_of_bind_ok h with ⟨imm, -, h⟩
    cases h
    exact Or.inr ⟨_, _, _, rfl⟩

theorem registerAndLabel_eq_ok {make : Register -> LabelName -> Instruction}
    {register label : List Char} {i : Instruction}
    (h : registerAndLabel make register label = .ok i) :
    ∃ (register : Register) (name : LabelName), spelled? label = some name.name ∧
      i = make register name := by
  rcases exists_of_bind_ok h with ⟨register, -, h⟩
  rcases exists_of_bind_ok h with ⟨name, hname, h⟩
  cases h
  exact ⟨register, name, spelled?_of_labelOperand hname, rfl⟩

theorem not_baseOffset_eq_ok {mnemonic : String} {register base offset : List Char}
    {i : Instruction} : baseOffset mnemonic register base offset ≠ .ok i := by
  intro h
  rcases exists_of_bind_ok h with ⟨register, -, h⟩
  rcases exists_of_bind_ok h with ⟨base, -, h⟩
  rcases exists_of_bind_ok h with ⟨offset, -, h⟩
  cases h

theorem vector_eq_ok {traps : Traps} {vector : Value} {i : Instruction}
    (h : (Instruction.ofVector traps vector).mapError LineError.configuration = .ok i) :
    ∃ n : Int, i = .trap n ∧ traps.contains (.int n) = true := by
  cases hvector : Instruction.ofVector traps vector with
  | error error =>
      rw [hvector] at h
      cases h
  | ok made =>
      rw [hvector] at h
      cases h
      exact Instruction.ofVector_eq_ok hvector

section IsRead

variable {traps : Traps} {words : List (List Char)} {i : Instruction}

theorem IsRead.label {keyword : Keyword} {word : List Char} {label : LabelName}
    (hplaces : labelOperands keyword words = [word]) (hspelled : spelled? word = some label.name)
    (hlabel : i.label? = some label.name) : IsRead traps keyword words i := by
  constructor
  · rw [hplaces, hlabel]
    simp [hspelled]
  · rintro n rfl
    cases hlabel

theorem isRead_of_readBranch {letters : List Char} (h : readBranch letters words = .ok i) :
    IsRead traps (.branch letters) words i := by
  unfold readBranch at h
  split at h
  · rcases exists_of_bind_ok h with ⟨name, hname, h⟩
    rcases exists_of_bind_ok h with ⟨condition, -, h⟩
    cases h
    exact .label rfl (spelled?_of_labelOperand hname) rfl
  · cases h

theorem isRead_of_readOperation {operation : Operation}
    (h : readOperation traps operation words = .ok i) :
    IsRead traps (.operation operation) words i := by
  unfold readOperation at h
  dsimp only at h
  split at h
  -- Additions and conjunctions come to one of two instructions, neither of which names a label.
  · rcases arithmetic_eq_ok h with ⟨_, _, _, rfl⟩ | ⟨_, _, _, rfl⟩ <;> exact ⟨rfl, nofun⟩
  · rcases arithmetic_eq_ok h with ⟨_, _, _, rfl⟩ | ⟨_, _, _, rfl⟩ <;> exact ⟨rfl, nofun⟩
  · rcases exists_of_bind_ok h with ⟨dest, -, h⟩
    rcases exists_of_bind_ok h with ⟨src, -, h⟩
    cases h
    exact ⟨rfl, nofun⟩
  · rcases registerAndLabel_eq_ok h with ⟨register, name, hspelled, rfl⟩
    exact .label rfl hspelled rfl
  · rcases registerAndLabel_eq_ok h with ⟨register, name, hspelled, rfl⟩
    exact .label rfl hspelled rfl
  · rcases registerAndLabel_eq_ok h with ⟨register, name, hspelled, rfl⟩
    exact .label rfl hspelled rfl
  · rcases registerAndLabel_eq_ok h with ⟨register, name, hspelled, rfl⟩
    exact .label rfl hspelled rfl
  · exact absurd h not_baseOffset_eq_ok
  · exact absurd h not_baseOffset_eq_ok
  · split at h
    · rcases vector_eq_ok h with ⟨n, rfl, hcontains⟩
      exact ⟨rfl, fun m hm => Instruction.trap.inj hm ▸ hcontains⟩
    · cases h
    · cases h
  · rcases vector_eq_ok h with ⟨n, rfl, hcontains⟩
    exact ⟨rfl, fun m hm => Instruction.trap.inj hm ▸ hcontains⟩
  all_goals cases h

end IsRead

/-!
# Lines
-/

theorem isRead_of_readStatement {traps : Traps} {isLabelled : Bool} {keyword : List Char}
    {operands : List (List Char)} {clause : Clause}
    (h : readStatement traps isLabelled keyword operands = .ok clause)
    (hclause : ∀ error : LineError, clause ≠ .instruction (.error error)) :
    (labelWordsAfter keyword operands).map spelled? =
        (clause.instruction?.bind Instruction.label?).toList.map some ∧
      ∀ n : Int, clause.instruction? = some (.trap n) -> traps.contains (.int n) = true := by
  unfold readStatement at h
  unfold labelWordsAfter
  generalize Keyword.read? keyword = known at h ⊢
  rcases known with _ | (directive | operation | letters)
  · cases h
  · have hnone : clause.instruction? = none := by
      cases clause with
      | instruction reading => exact (isOfDirective_of_readDirective h).elim
      | _ => rfl
    rw [hnone]
    exact ⟨rfl, nofun⟩
  · cases h
    cases hoperation : readOperation traps operation operands with
    | error error => exact absurd (congrArg Clause.instruction hoperation) (hclause error)
    | ok i =>
        have hi := isRead_of_readOperation hoperation
        exact ⟨hi.spelled, fun n hn => hi.contains n (Option.some.inj hn)⟩
  · cases h
    cases hbranch : readBranch letters operands with
    | error error => exact absurd (congrArg Clause.instruction hbranch) (hclause error)
    | ok i =>
        have hi := @isRead_of_readBranch traps _ _ _ hbranch
        exact ⟨hi.spelled, fun n hn => hi.contains n (Option.some.inj hn)⟩

theorem isRead_of_readWording {traps : Traps} {wording : Wording} {saying : Saying}
    (h : readWording traps wording = .ok (some ⟨saying.1, .ok saying.2⟩))
    (hclause : ∀ error : LineError, saying.2 ≠ .instruction (.error error)) :
    wording.labelWords.map spelled? = saying.labels.map some ∧
      ∀ n : Int, saying.2.instruction? = some (.trap n) -> traps.contains (.int n) = true := by
  rcases saying with ⟨label, clause⟩
  unfold Saying.labels
  dsimp only at h hclause ⊢
  rcases wording with _ | word | ⟨_ | word, keyword, operands⟩
  · cases h
  · rcases readLabelled_eq_ok h with ⟨name, hname, hline⟩
    rcases Line.mk.inj hline with ⟨rfl, hread⟩
    cases hread
    refine ⟨?_, nofun⟩
    simp [Wording.labelWords, spelled?, hname, Clause.instruction?]
  · rcases Line.mk.inj (Option.some.inj (Except.ok.inj h)) with ⟨rfl, hread⟩
    exact isRead_of_readStatement hread hclause
  · rcases readLabelled_eq_ok h with ⟨name, hname, hline⟩
    rcases Line.mk.inj hline with ⟨rfl, hread⟩
    rcases isRead_of_readStatement hread.symm hclause with ⟨hspelled, hcontains⟩
    refine ⟨?_, hcontains⟩
    simp [Wording.labelWords, hspelled, spelled?, hname]

/-!
# Labels of a text
-/

theorem contains_iff_mem_names {said : List Saying} {program : Program}
    (h : Saying.IsMeantBy said program) (name : String) :
    program.labels.contains (.text name) = true ↔ name ∈ Saying.names said := by
  have hkeys : program.labels.table.keys.map Key.value = (Saying.names said).map Value.text := by
    rw [← Saying.map_fst_bindings, ← h.entries_eq]
    unfold Labels.entries Table.keys
    rw [List.map_map, List.map_map]
    rfl
  unfold Labels.contains
  rw [Table.contains_iff]
  constructor
  · rintro ⟨⟨value⟩, hmem, hequals⟩
    have hvalue : value ∈ (Saying.names said).map Value.text := by
      rw [← hkeys]
      exact List.mem_map_of_mem (f := Key.value) hmem
    rcases List.mem_map.mp hvalue with ⟨other, hother, rfl⟩
    have hsame : other = name := of_decide_eq_true ((Key.text_beq_text other name).symm.trans hequals)
    exact hsame ▸ hother
  · intro hname
    have hvalue : Value.text name ∈ program.labels.table.keys.map Key.value := by
      rw [hkeys]
      exact List.mem_map_of_mem hname
    rcases List.mem_map.mp hvalue with ⟨key, hmem, hkey⟩
    refine ⟨key, hmem, ?_⟩
    rcases key with ⟨value⟩
    cases hkey
    exact (Key.text_beq_text name name).trans (decide_eq_true rfl)

/-- A name is that of a label which is bound in a program or named by one of its instructions. -/
def IsLabelOf (program : Program) (name : String) : Prop :=
  program.labels.contains (.text name) = true ∨ ∃ i ∈ program.instructions, i.label? = some name

theorem isLabelOf_iff {said : List Saying} {program : Program} (h : Saying.IsMeantBy said program)
    (name : String) : IsLabelOf program name ↔ ∃ saying ∈ said, name ∈ saying.labels := by
  have hinstructions : (∃ i ∈ program.instructions, i.label? = some name) ↔
      ∃ saying ∈ said, saying.2.instruction?.bind Instruction.label? = some name := by
    simp only [← Array.mem_toList_iff, h.instructions_eq, Saying.instructions, List.mem_filterMap,
      Option.bind_eq_some_iff]
    constructor
    · rintro ⟨i, ⟨saying, hmem, hi⟩, hname⟩
      exact ⟨saying, hmem, i, hi, hname⟩
    · rintro ⟨saying, hmem, i, hi, hname⟩
      exact ⟨i, ⟨saying, hmem, hi⟩, hname⟩
  unfold IsLabelOf
  rw [contains_iff_mem_names h, hinstructions]
  simp only [Saying.names, Saying.labels, List.mem_filterMap, List.mem_append, Option.mem_toList,
    and_or_left, exists_or]

theorem IsUnderstood.map_spelled? {traps : Traps} {wording : Wording}
    (h : IsUnderstood traps wording) :
    wording.labelWords.map spelled? = ((said? traps wording).elim [] Saying.labels).map some := by
  rcases h with rfl | ⟨saying, hread, hclause⟩
  · rfl
  · rw [said?_of_readWording hread]
    exact (isRead_of_readWording hread hclause).left

theorem isLabelOf_iff_spelled {traps : Traps} {wordings : List Wording} {assembly : Assembly}
    (h : Assembly.Told traps wordings assembly) (name : String) :
    IsLabelOf assembly.program name ↔
      ∃ wording ∈ wordings, ∃ word ∈ wording.labelWords, spelled? word = some name := by
  have hline (wording : Wording) (hwording : wording ∈ wordings) :
      (∃ word ∈ wording.labelWords, spelled? word = some name) ↔
        ∃ saying : Saying, said? traps wording = some saying ∧ name ∈ saying.labels := by
    rw [← List.mem_map, (h.understood wording hwording).map_spelled?]
    cases said? traps wording with
    | none => simp
    | some saying => simp
  rw [isLabelOf_iff h.meant]
  simp only [List.mem_filterMap]
  constructor
  · rintro ⟨saying, ⟨wording, hwording, hsaid⟩, hname⟩
    exact ⟨wording, hwording, (hline wording hwording).mpr ⟨saying, hsaid, hname⟩⟩
  · rintro ⟨wording, hwording, hword⟩
    rcases (hline wording hwording).mp hword with ⟨saying, hsaid, hname⟩
    exact ⟨saying, ⟨wording, hwording, hsaid⟩, hname⟩

theorem spelled?_of_isReserved {word : List Char} {name : String} (h : IsReserved name.toList)
    (hword : spelled? word = some name) : word = name.toList ++ [':'] := by
  rcases Option.map_eq_some_iff.mp hword with ⟨label, hread, rfl⟩
  rcases readLabel?_eq_some_iff.mp hread with ⟨hspelling, -⟩ | ⟨rfl, hfree⟩
  · exact hspelling
  · exact absurd h (isFree_iff.mp hfree).right

theorem eq_of_spelled?_colon {name other : String}
    (h : spelled? (name.toList ++ [':']) = some other) : other = name := by
  rcases Option.map_eq_some_iff.mp h with ⟨label, hread, rfl⟩
  rcases readLabel?_eq_some_iff.mp hread with ⟨hspelling, -⟩ | ⟨-, hfree⟩
  · exact (String.toList_inj.mp (List.append_cancel_right hspelling)).symm
  · have hcolon := isNameChar_of_mem hfree.isIdentifier
      (List.mem_append_right name.toList (List.mem_singleton_self ':'))
    cases hcolon

/-- A reserved word is a label of an accepted text exactly if some line that counts has it in the
place of a label with a colon after it.  Without a colon, it never becomes a label. -/
theorem reserved_label_iff {traps : Traps} {verbose : Bool} {text name : String}
    (h : (assemble traps verbose text .empty).1 = none) (hname : IsReserved name.toList) :
    IsLabelOf (assemble traps verbose text .empty).2.program name ↔
      ∃ wording ∈ heeded traps (wordings text),
        name.toList ++ [':'] ∈ wording.labelWords := by
  have htold := told_of_assemble h
  rw [isLabelOf_iff_spelled htold]
  constructor
  · rintro ⟨wording, hwording, word, hword, hspelled⟩
    rw [spelled?_of_isReserved hname hspelled] at hword
    exact ⟨wording, hwording, hword⟩
  · rintro ⟨wording, hwording, hword⟩
    refine ⟨wording, hwording, _, hword, ?_⟩
    -- The line could be read, so the word was read as some label, and it can be no other.
    have hmem := List.mem_map_of_mem (f := spelled?) hword
    rw [(htold.understood wording hwording).map_spelled?] at hmem
    rcases List.mem_map.mp hmem with ⟨other, -, hspelled⟩
    rw [← hspelled, eq_of_spelled?_colon hspelled.symm]

theorem reserved_label_iff_register :
    let text := " r3: BRnz r3: ; a loop
BR_ .END R4:"
    (assemble .standard false text .empty).1 = none ∧ IsReserved "r3".toList ∧
      IsLabelOf (assemble .standard false text .empty).2.program "r3" ∧
      IsReserved "R4".toList ∧ ¬IsLabelOf (assemble .standard false text .empty).2.program "R4" := by
  intro text
  have haccepted : (assemble .standard false text .empty).1 = none := by
    decide +kernel
  have hsmall : IsReserved "r3".toList := by
    decide +kernel
  have hcapital : IsReserved "R4".toList := by
    decide +kernel
  refine ⟨haccepted, hsmall, (reserved_label_iff haccepted hsmall).mpr ?_, hcapital, ?_⟩
  · decide +kernel
  · rw [reserved_label_iff haccepted hcapital]
    decide +kernel

theorem reserved_labels_of_colons :
    let text := "ADD: BR R3:"
    (assemble .standard false text .empty).1 = none ∧
      IsReserved "ADD".toList ∧
      (assemble .standard false text .empty).2.program.labels.contains (.text "ADD") = true ∧
      IsReserved "R3".toList ∧
      ∃ i ∈ (assemble .standard false text .empty).2.program.instructions, i.label? = some "R3" := by
  decide +kernel

end Source
end LittleComputer
