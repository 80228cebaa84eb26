import LittleComputer.Proofs.Source.Declared
import LittleComputer.Proofs.Source.Labels
import LittleComputer.Proofs.Source.Location

/-!
# What a refused line leaves

The label in front of an instruction is bound before the operands of the instruction are looked at,
so the label stays when the operands are refused.  Any other refused line leaves nothing, as long as
nothing is frozen.
-/

namespace LittleComputer

namespace Failure

theorem isRefusal_of_ofParse {cause : ConfigurationError} {number : Nat} {text : String}
    (h : (ofParse ⟨.configuration cause, number, text⟩).IsRefusal) :
    (ofConfiguration cause).IsRefusal := by
  unfold ofParse at h
  dsimp only at h
  split at h
  · next error herror =>
      rw [herror]
      trivial
  · exact h

end Failure

namespace Source

/-!
# Labels in front of instructions
-/

def Keyword.IsOfInstruction : Keyword -> Prop
  | operation _ | branch _ => True
  | directive _ => False

/-- The line has a label in front of the keyword of an instruction, whatever its operands are. -/
def IsLabelledInstruction (raw : List Char) (label : LabelName) : Prop :=
  ∃ (word keyword : List Char) (operands : List (List Char)) (known : Keyword),
    IsLine (.statement (some word) keyword operands) raw ∧ readLabel? word = some label ∧
      Keyword.read? keyword = some known ∧ known.IsOfInstruction

theorem IsLabelledInstruction.eq {raw : List Char} {label other : LabelName}
    (h : IsLabelledInstruction raw label) (hother : IsLabelledInstruction raw other) :
    label = other := by
  rcases h with ⟨word, keyword, operands, known, hline, hword, -⟩
  rcases hother with ⟨_, _, _, _, hotherLine, hotherWord, -⟩
  cases (isLine_iff.mp hline).symm.trans (isLine_iff.mp hotherLine)
  exact Option.some.inj (hword.symm.trans hotherWord)

theorem readStatement_eq_instruction_iff {traps : Traps} {isLabelled : Bool}
    {keyword : List Char} {operands : List (List Char)} :
    (∃ reading : Except LineError Instruction,
      readStatement traps isLabelled keyword operands = .ok (.instruction reading)) ↔
      ∃ known : Keyword, Keyword.read? keyword = some known ∧ known.IsOfInstruction := by
  unfold readStatement
  cases hread : Keyword.read? keyword with
  | none =>
      constructor
      · rintro ⟨reading, h⟩
        cases h
      · rintro ⟨known, hknown, -⟩
        cases hknown
  | some known =>
      cases known with
      | directive directive =>
          constructor
          · rintro ⟨reading, h⟩
            exact (isOfDirective_of_readDirective h).elim
          · rintro ⟨known, ⟨⟩, hinstruction⟩
            exact hinstruction.elim
      | operation operation => exact ⟨fun _ => ⟨_, rfl, trivial⟩, fun _ => ⟨_, rfl⟩⟩
      | branch letters => exact ⟨fun _ => ⟨_, rfl, trivial⟩, fun _ => ⟨_, rfl⟩⟩

theorem isLabelledInstruction_iff {traps : Traps} {raw : List Char} {label : LabelName} :
    IsLabelledInstruction raw label ↔ ∃ reading : Except LineError Instruction,
      readLine traps raw = .ok (some ⟨some label, .ok (.instruction reading)⟩) := by
  constructor
  · rintro ⟨word, keyword, operands, known, hline, hword, hknown⟩
    rcases (@readStatement_eq_instruction_iff traps true keyword operands).mpr ⟨known, hknown⟩ with
      ⟨reading, hreading⟩
    exists reading
    rw [readLine_of_isLine traps hline]
    simp [readWording, readLabelled, hword, hreading]
  · rintro ⟨reading, h⟩
    rcases label_cases_of_readLine h with
      ⟨word, hword, ⟨-, hclause⟩ | ⟨keyword, operands, hline, hclause⟩⟩
    · cases hclause
    · rcases readStatement_eq_instruction_iff.mp ⟨reading, hclause.symm⟩ with ⟨known, hknown⟩
      exact ⟨word, keyword, operands, known, hline, hword, hknown⟩

namespace Assembly

structure IsOpen (assembly : Assembly) : Prop where
  program : assembly.program.frozen = false
  labels : assembly.program.labels.frozen = false

theorem IsOpen.of_extends {assembly after : Assembly} (h : assembly.IsOpen)
    (hextends : Extends assembly after) : after.IsOpen := by
  rcases hextends.edits.frozen_eq with ⟨hprogram, hlabels⟩
  exact ⟨hprogram.trans h.program, hlabels.trans h.labels⟩

theorem program_of_bind_refused {assembly : Assembly} {label : LabelName}
    {binding : Program.Binding} {refusal : ConfigurationError}
    (h : (assembly.bind label binding).1 = some refusal) :
    (assembly.bind label binding).2.program = assembly.program := by
  have hends := bind_ends assembly label binding
  generalize assembly.bind label binding = result at hends h ⊢
  cases hends with
  | unreportable _ _ _ | refused _ _ _ => rfl
  | bound _ _ => cases h

/-!
# Refused clauses
-/

def keptLabel? (label : Option LabelName) : Clause -> Option LabelName
  | .instruction _ => label
  | _ => none

theorem enter_nothing (program : Program) : Saying.enter program (none, .nothing) = program := by
  simp [Saying.enter, Clause.instruction?, Clause.origin?]

section IsOpen

variable {assembly : Assembly} (h : assembly.IsOpen)
include h

/-- A position is refused only when its report is broken off, and then no refusal is told. -/
theorem IsOpen.not_isRefusal_of_bindHere {label : Option LabelName} {refusal : ConfigurationError}
    (hrefusal : (assembly.bindHere label).1 = some refusal) :
    ¬(Failure.ofConfiguration refusal).IsRefusal := by
  cases label with
  | none => cases hrefusal
  | some name =>
      rcases refusal_of_bind_position hrefusal with ⟨error, rfl⟩ | ⟨hfrozen, -⟩
      · exact Failure.ofNumeral_not_isRefusal error
      · rw [h.labels] at hfrozen
        cases hfrozen

theorem IsOpen.append_fst (i : Instruction) : (assembly.append i).1 = none := by
  unfold append Program.append
  dsimp only
  rw [h.program]
  rfl

variable {number : Nat} {text : String} {label : Option LabelName} {error : AssemblyError}

theorem IsOpen.not_isRefusal_of_verdict {onward : Verdict}
    (honward : ∀ other : AssemblyError, onward ≠ .failed other)
    (herror : (verdict (fun cause => .located ⟨cause, number, text⟩) onward
      (assembly.bindHere label)).1 = .failed error) :
    ¬(Failure.ofAssembly error).IsRefusal := by
  intro hrefusal
  have hbound := @IsOpen.not_isRefusal_of_bindHere assembly h label
  generalize assembly.bindHere label = result at herror hbound
  rcases result with ⟨refusal, after⟩
  cases refusal with
  | none => exact honward error herror
  | some refusal =>
      cases herror
      exact hbound rfl (Failure.isRefusal_of_ofParse hrefusal)

theorem IsOpen.program_of_refused_enact {clause : Clause}
    (herror : (enact (fun cause => .located ⟨cause, number, text⟩) label assembly clause).1 =
      .failed error)
    (hrefusal : (Failure.ofAssembly error).IsRefusal) :
    (enact (fun cause => .located ⟨cause, number, text⟩) label assembly clause).2.program =
      Saying.enter assembly.program (keptLabel? label clause, .nothing) := by
  cases clause with
  | nothing =>
      have hbound := @IsOpen.not_isRefusal_of_bindHere assembly h label
      unfold enact at herror
      dsimp only at herror
      generalize assembly.bindHere label = result at herror hbound
      rcases result with ⟨refusal, after⟩
      cases refusal with
      | none => cases herror
      | some refusal =>
          cases herror
          exact absurd hrefusal (hbound rfl)
  | stop =>
      have honward : ∀ other : AssemblyError, Verdict.stop ≠ .failed other := nofun
      exact absurd hrefusal (h.not_isRefusal_of_verdict honward herror)
  | origin address =>
      unfold enact at herror ⊢
      dsimp only at herror ⊢
      rw [Program.setOrigin_eq] at herror ⊢
      cases haddress : Program.address (.int address) with
      | error refusal => exact (enter_nothing assembly.program).symm
      | ok n =>
          rw [haddress] at herror
          have hset : IsOpen
              { assembly with program := { assembly.program with origin := some n } } :=
            ⟨h.program, h.labels⟩
          have honward : ∀ other : AssemblyError, Verdict.next ≠ .failed other := nofun
          exact absurd hrefusal (hset.not_isRefusal_of_verdict honward herror)
  | constant value =>
      show _ = Saying.enter assembly.program (none, .nothing)
      rw [enter_nothing]
      cases label with
      | none => rfl
      | some name =>
          unfold enact at herror ⊢
          dsimp only at herror ⊢
          rw [verdict_snd]
          have hkept := @program_of_bind_refused assembly name (.constant (.int value))
          generalize assembly.bind name (.constant (.int value)) = result at herror hkept ⊢
          rcases result with ⟨refusal, after⟩
          cases refusal with
          | none => cases herror
          | some refusal => exact hkept rfl
  | instruction reading =>
      have hrefused := @IsOpen.not_isRefusal_of_bindHere assembly h label
      have hbound := @bindHere_of_fst_eq_none assembly label
      have hextends := extends_bindHere assembly label
      unfold enact at herror ⊢
      dsimp only at herror ⊢
      generalize assembly.bindHere label = result at herror hrefused hbound hextends ⊢
      rcases result with ⟨refusal, after⟩
      cases refusal with
      | some refusal =>
          cases herror
          exact absurd (Failure.isRefusal_of_ofParse hrefusal) (hrefused rfl)
      | none =>
          cases reading with
          | error cause => exact (hbound rfl).left
          | ok i =>
              have happend := (h.of_extends hextends).append_fst i
              dsimp only at herror
              generalize after.append i = result at herror happend
              rcases result with ⟨refusal, appended⟩
              cases happend
              cases herror

end IsOpen

/-!
# Refused lines
-/

/-- The programs that a refused line can leave, with the labels declared before it: the label in
front of an instruction is bound to the position of the line, or nothing is done. -/
inductive LineLeaves (raw : List Char) (declared : List String)
    (program : Program) : Program -> Prop where
  | label {label : LabelName} :
      IsLabelledInstruction raw label -> label.name ∉ declared ->
      LineLeaves raw declared program (Saying.enter program (some label, .nothing))
  | nothing :
      (∀ label : LabelName, IsLabelledInstruction raw label -> label.name ∈ declared) ->
      LineLeaves raw declared program program

theorem LineLeaves.keeps {raw : List Char} {declared : List String} {program last : Program}
    (h : LineLeaves raw declared program last) :
    last.instructions = program.instructions ∧ last.origin = program.origin ∧
      (∀ label : LabelName, IsLabelledInstruction raw label -> label.name ∉ declared ->
        last.labels = program.labels.insert (.text label.name) program.size) ∧
      ((∀ label : LabelName, IsLabelledInstruction raw label -> label.name ∈ declared) ->
        last.labels = program.labels) := by
  cases h with
  | @label label hlabel hnew =>
      refine ⟨?_, rfl, ?_, ?_⟩
      · simp [Saying.enter, Clause.instruction?]
      · intro other hother _
        cases hlabel.eq hother
        rfl
      · intro hdeclared
        exact absurd (hdeclared label hlabel) hnew
  | nothing hdeclared =>
      refine ⟨rfl, rfl, ?_, fun _ => rfl⟩
      intro label hlabel hnew
      exact absurd (hdeclared label hlabel) hnew

theorem LineLeaves.of_goesOn {traps : Traps} {verbose : Bool} {start last : Program}
    {before : List (List Char)} {raw : List Char} {middle : Assembly}
    (h : LineLeaves raw middle.declared middle.program last)
    (hgoes : GoesOn traps (.start verbose start) before middle) :
    LineLeaves raw (heads (before.map wordingOf)) middle.program last := by
  have hdeclared (name : String) :
      name ∈ middle.declared ↔ name ∈ heads (before.map wordingOf) := by
    rw [mem_declared_of_goesOn hgoes]
    exact or_iff_left List.not_mem_nil
  cases h with
  | label hlabel hnew =>
      rw [hdeclared] at hnew
      exact .label hlabel hnew
  | nothing hnone =>
      refine .nothing ?_
      intro label hlabel
      exact (hdeclared label.name).mp (hnone label hlabel)

theorem isDeclared_eq_true_iff {assembly : Assembly} {label : LabelName} :
    assembly.isDeclared (some label) = true ↔ label.name ∈ assembly.declared :=
  List.contains_iff_mem

theorem leaves_of_refused_line {traps : Traps} {number : Nat} {raw : List Char}
    {assembly : Assembly} {error : AssemblyError} (h : assembly.IsOpen)
    (herror : (line traps number raw assembly).1 = .failed error)
    (hrefusal : (Failure.ofAssembly error).IsRefusal) :
    LineLeaves raw assembly.declared assembly.program
      (line traps number raw assembly).2.program := by
  have hends := line_ends traps number raw assembly
  generalize line traps number raw assembly = result at hends herror ⊢
  cases hends with
  | blank _ => cases herror
  | refused cause hrefused =>
      refine .nothing ?_
      intro label hlabel
      rcases (@isLabelledInstruction_iff traps raw label).mp hlabel with ⟨reading, hread⟩
      exact isDeclared_eq_true_iff.mp (hrefused _ _ hread)
  | @enacted label clause hread hdeclared =>
      rw [(h.of_extends (extends_declare assembly label)).program_of_refused_enact herror hrefusal,
        program_declare]
      cases hkept : keptLabel? label clause with
      | none =>
          rw [enter_nothing]
          refine .nothing ?_
          intro name hname
          rcases (@isLabelledInstruction_iff traps raw name).mp hname with ⟨reading, hname⟩
          rw [hread] at hname
          cases hname
          cases hkept
      | some name =>
          cases clause with
          | instruction reading =>
              cases hkept
              refine .label (isLabelledInstruction_iff.mpr ⟨reading, hread⟩) ?_
              intro hmem
              rw [isDeclared_eq_true_iff.mpr hmem] at hdeclared
              cases hdeclared
          | _ => cases hkept

end Assembly

/-!
# Refused texts
-/

open Assembly in
/-- A text that is refused leaves what the lines before the refused one come to, and the label of
the refused line if it stands in front of an instruction and was not declared before. -/
theorem leaves_of_refused_text {traps : Traps} {verbose : Bool} {text : String} {program : Program}
    {error : AssemblyError} (hprogram : program.frozen = false)
    (hlabels : program.labels.frozen = false)
    (h : (assemble traps verbose text program).1 = some error)
    (hrefusal : (Failure.ofAssembly error).IsRefusal) :
    ∃ (before : List (List Char)) (raw : List Char) (after : List (List Char)) (cause : LineError),
      Text.lines text.toList = before ++ raw :: after ∧
      Failure.ofAssembly error = .parse ⟨cause, before.length + 1, String.ofList raw⟩ ∧
      ∀ earlier : String, Text.lines earlier.toList = before ->
        (assemble traps verbose earlier program).1 = none ∧
          LineLeaves raw (heads (before.map wordingOf))
            (assemble traps verbose earlier program).2.program
            (assemble traps verbose text program).2.program := by
  have hends := assemble_ends traps verbose text program
  generalize assemble traps verbose text program = result at hends h ⊢
  cases hends with
  | assembled _ | stopped _ _ _ => cases h
  | @refused before after raw middle last error hlines hgoes hline =>
      cases h
      have hopen : middle.IsOpen :=
        IsOpen.of_extends ⟨hprogram, hlabels⟩ (extends_of_goesOn hgoes)
      have hfailed : (line traps (before.length + 1) raw middle).1 = .failed error := by
        rw [hline]
      have hleaves := leaves_of_refused_line hopen hfailed hrefusal
      rw [hline] at hleaves
      rcases refusal_of_line hfailed hrefusal with ⟨-, cause, hparse⟩ | ⟨hfrozen, -⟩
      · refine ⟨before, raw, after, cause, hlines, hparse, ?_⟩
        intro earlier hearlier
        have hassemble : assemble traps verbose earlier program = (none, middle) := by
          have hlast := lines_of_goesOn hgoes []
          rw [List.append_nil] at hlast
          unfold assemble
          rw [hearlier]
          exact hlast
        rw [hassemble]
        exact ⟨rfl, hleaves.of_goesOn hgoes⟩
      · rw [hopen.labels] at hfrozen
        cases hfrozen

end Source
end LittleComputer
