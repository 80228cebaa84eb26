import LittleComputer.Proofs.Source.Readings
import LittleComputer.Proofs.Source.Spelling
import Mathlib.Logic.Relation

/-!
# Texts that are written alike

Two texts are alike if their lines are written of the same words in any layout and in any of the
spellings of the words; lines without words count for nothing.  Texts that are alike are assembled
into the same, or else both refused.
-/

namespace LittleComputer
namespace Source

/-- A keyword with its operands in two spellings.  Operands in the places of labels are spelled in
one way only. -/
structure SameStatement (keyword otherKeyword : List Char) (operands others : List (List Char)) :
    Prop where
  sameKeyword : SameKeyword keyword otherKeyword
  letters : List.Forall₂ SameLetters operands others
  labels : (Keyword.read? keyword).map (labelOperands · operands) =
    (Keyword.read? keyword).map (labelOperands · others)

inductive SameWording : Wording -> Wording -> Prop where
  | nothing : SameWording .nothing .nothing
  | label {word other : List Char} :
      SameLabel word other -> SameWording (.label word) (.label other)
  | plain {keyword otherKeyword : List Char} {operands others : List (List Char)} :
      SameStatement keyword otherKeyword operands others ->
      SameWording (.statement none keyword operands) (.statement none otherKeyword others)
  | labelled {word other keyword otherKeyword : List Char} {operands others : List (List Char)} :
      SameLabel word other -> SameStatement keyword otherKeyword operands others ->
      SameWording (.statement (some word) keyword operands)
        (.statement (some other) otherKeyword others)

/-- Rows that are written of the same, up to blank ones. -/
inductive RowsAlike : List (List Char) -> List (List Char) -> Prop where
  | nil : RowsAlike [] []
  | row {wording otherWording : Wording} {raw other : List Char} {raws others : List (List Char)} :
      IsLine wording raw -> IsLine otherWording other -> SameWording wording otherWording ->
      RowsAlike raws others -> RowsAlike (raw :: raws) (other :: others)
  | blankLeft {raw : List Char} {raws others : List (List Char)} :
      IsLine .nothing raw -> RowsAlike raws others -> RowsAlike (raw :: raws) others
  | blankRight {other : List Char} {raws others : List (List Char)} :
      IsLine .nothing other -> RowsAlike raws others -> RowsAlike raws (other :: others)

def TextsAlike (text other : String) : Prop :=
  RowsAlike (Text.lines text.toList) (Text.lines other.toList)

/-!
# Clauses and lines
-/

theorem SameStatement.clausesAlike {keyword otherKeyword : List Char}
    {operands others : List (List Char)}
    (h : SameStatement keyword otherKeyword operands others) (traps : Traps) (isLabelled : Bool) :
    ClausesAlike (readStatement traps isLabelled keyword operands)
      (readStatement traps isLabelled otherKeyword others) := by
  rcases h with ⟨hkeyword, hletters, hlabels⟩
  have hkeywords := hkeyword.keywordsAlike
  unfold readStatement
  generalize Keyword.read? keyword = known at hkeywords hlabels ⊢
  generalize Keyword.read? otherKeyword = otherKnown at hkeywords ⊢
  cases hkeywords with
  | same known =>
      rcases known with _ | (directive | operation | letters)
      · exact .agree (agree_errors _ _)
      · exact .agree (agree_readDirective isLabelled directive hletters)
      · exact .instruction (agree_readOperation traps ⟨hletters, Option.some.inj hlabels⟩)
      · exact .instruction
          (agree_readBranch (List.Perm.refl _) ⟨hletters, Option.some.inj hlabels⟩)
  | branch hperm =>
      exact .instruction (agree_readBranch hperm ⟨hletters, Option.some.inj hlabels⟩)

theorem SameLabel.linesAlike {word other : List Char} (h : SameLabel word other)
    {clause otherClause : Except LineError Clause} (hclause : ClausesAlike clause otherClause) :
    LinesAlike (readLabelled word clause) (readLabelled other otherClause) := by
  unfold readLabelled
  rw [h.readLabel?_eq]
  cases readLabel? other with
  | some label => exact .line (some label) hclause
  | none => exact .failed _ _

theorem SameWording.linesAlike {wording other : Wording} (h : SameWording wording other)
    (traps : Traps) : LinesAlike (readWording traps wording) (readWording traps other) := by
  cases h with
  | nothing => exact .blank
  | label hlabel => exact hlabel.linesAlike (.agree rfl)
  | plain hstatement => exact .line none (hstatement.clausesAlike traps false)
  | labelled hlabel hstatement => exact hlabel.linesAlike (hstatement.clausesAlike traps true)

namespace Assembly

theorem line_of_blank {traps : Traps} {raw : List Char} (h : IsLine .nothing raw) (number : Nat)
    (assembly : Assembly) : line traps number raw assembly = (.next, assembly) := by
  unfold line
  rw [readLine_of_isLine traps h]
  rfl

/-!
# All lines
-/

theorem sameOutcome_lines {traps : Traps} {raws others : List (List Char)}
    (h : RowsAlike raws others) (number otherNumber : Nat) (assembly : Assembly) :
    SameOutcome (lines traps number raws assembly) (lines traps otherNumber others assembly) := by
  -- Blank rows set the numbers of the lines apart, and only refusals tell a number.
  induction h generalizing number otherNumber assembly with
  | nil => exact ⟨Iff.rfl, rfl⟩
  | blankLeft hraw _ ih =>
      rw [lines, line_of_blank hraw]
      exact ih (number + 1) otherNumber assembly
  | blankRight hother _ ih =>
      rw [lines, line_of_blank hother]
      exact ih number (otherNumber + 1) assembly
  | row hraw hother hwording _ ih =>
      refine sameOutcome_cons ?_ fun after _ => ih (number + 1) (otherNumber + 1) after
      rw [readLine_of_isLine traps hraw, readLine_of_isLine traps hother]
      exact hwording.linesAlike traps

end Assembly

/-- Texts that come from each other by any changes of layout and spelling are both refused or both
assembled, and into the same program with the same labels and the same origin. -/
theorem assemble_of_textsAlike {text other : String}
    (h : Relation.ReflTransGen TextsAlike text other) (traps : Traps) (verbose : Bool)
    (program : Program) :
    ((assemble traps verbose text program).1 = none ↔
        (assemble traps verbose other program).1 = none) ∧
      (assemble traps verbose text program).2 = (assemble traps verbose other program).2 := by
  induction h with
  | refl => exact ⟨Iff.rfl, rfl⟩
  | @tail middle last _ hlast ih =>
      have hoften : Assembly.SameOutcome (assemble traps verbose middle program)
          (assemble traps verbose last program) := Assembly.sameOutcome_lines hlast 1 1 _
      exact ⟨ih.left.trans hoften.left, ih.right.trans hoften.right⟩

theorem assemble_of_textsAlike_loop :
    let text := "LOOP: add r1,r1 , #-X1 ; down\n\n\tBRpz LOOP\ntrap X25"
    let other := "; down\nLOOP  ADD\tR1 R1 ,, #-x1\nbrZP LOOP,;\n TRAP x25"
    let code : List Instruction :=
      [.addImmediate 1 1 ⟨-1, by decide, by decide⟩,
        .branch ⟨false, true, true⟩ ⟨"LOOP", by decide⟩, .trap 25]
    let result := assemble .standard false other .empty
    TextsAlike text other ∧ result.1 = none ∧ result.2.program.instructions.toList = code ∧
      result.2.program.labels.entries = [(.text "LOOP", .int 0)] := by
  intro text other code result
  have hadd : SameWording
      (.statement (some "LOOP:".toList) "add".toList (["r1", "r1", "#-X1"].map String.toList))
      (.statement (some "LOOP".toList) "ADD".toList (["R1", "R1", "#-x1"].map String.toList)) :=
    .labelled (@SameLabel.withoutColon "LOOP".toList (by decide +kernel) (by decide))
      ⟨.letters (by decide), by decide, by decide +kernel⟩
  have hbranch : SameWording (.statement none "BRpz".toList ["LOOP".toList])
      (.statement none "brZP".toList ["LOOP".toList]) :=
    .plain ⟨@SameKeyword.branch _ _ ['p', 'z'] ['z', 'p'] (by decide) (by decide) (by simp)
      (List.Perm.swap 'z' 'p' []), by decide, rfl⟩
  have htrap : SameWording (.statement none "trap".toList ["X25".toList])
      (.statement none "TRAP".toList ["x25".toList]) :=
    .plain ⟨.letters (by decide), by decide, by decide +kernel⟩
  have hrows : RowsAlike
      (["LOOP: add r1,r1 , #-X1 ; down", "", "\tBRpz LOOP", "trap X25"].map String.toList)
      (["; down", "LOOP  ADD\tR1 R1 ,, #-x1", "brZP LOOP,;", " TRAP x25"].map String.toList) :=
    .blankRight (by decide +kernel) <|
      .row (by decide +kernel) (by decide +kernel) hadd <|
      .blankLeft (by decide +kernel) <|
      .row (by decide +kernel) (by decide +kernel) hbranch <|
      .row (by decide +kernel) (by decide +kernel) htrap .nil
  have hlines : Text.lines text.toList =
      ["LOOP: add r1,r1 , #-X1 ; down", "", "\tBRpz LOOP", "trap X25"].map String.toList := by
    decide +kernel
  have hotherLines : Text.lines other.toList =
      ["; down", "LOOP  ADD\tR1 R1 ,, #-x1", "brZP LOOP,;", " TRAP x25"].map String.toList := by
    decide +kernel
  have halike : TextsAlike text other := by
    unfold TextsAlike
    rw [hlines, hotherLines]
    exact hrows
  have hsame := assemble_of_textsAlike (.single halike) .standard false .empty
  refine ⟨halike, hsame.left.mp (by decide +kernel), ?_, ?_⟩
  · rw [← hsame.right]
    decide +kernel
  · rw [← hsame.right]
    decide +kernel

end Source
end LittleComputer
