import LittleComputer.Proofs.Source.Rendering
import LittleComputer.Proofs.Text.Words
import Mathlib.Data.List.Forall2

/-!
# The layout of a line

What a line is written of: nothing, a label, or a keyword with operands, which a label can stand in
front of.  Blanks can stand around all of them, and a comment at the end.  A label and a keyword end
at a blank, operands at a mixture of commas and blanks.  Every line is written of one of these in
one way, and is read by what it is written of.
-/

namespace LittleComputer
namespace Source

/-- What a line is written of. -/
inductive Wording where
  | nothing
  | label (word : List Char)
  | statement (label : Option (List Char)) (keyword : List Char) (operands : List (List Char))
  deriving DecidableEq

def IsStatement (keyword : List Char) (operands : List (List Char)) (text : List Char) : Prop :=
  Text.IsField Text.isBlank keyword ∧
    ∃ tail : List Char, text = keyword ++ tail ∧ Text.EndsWord tail ∧
      Text.FallsInto isOperandSeparator operands tail

/-- The code of a line, from its first word on if there is one. -/
inductive IsCode : Wording -> List Char -> Prop where
  | nothing {blanks : List Char} :
      (∀ c ∈ blanks, Text.isBlank c = true) -> IsCode .nothing blanks
  | label {word blanks : List Char} :
      Text.IsField Text.isBlank word -> Keyword.read? word = none ->
      (∀ c ∈ blanks, Text.isBlank c = true) -> IsCode (.label word) (word ++ blanks)
  | plain {keyword text : List Char} {operands : List (List Char)} :
      (Keyword.read? keyword).isSome = true -> IsStatement keyword operands text ->
      IsCode (.statement none keyword operands) text
  | labelled {word blanks keyword text : List Char} {operands : List (List Char)} :
      Text.IsField Text.isBlank word -> Keyword.read? word = none ->
      blanks ≠ [] -> (∀ c ∈ blanks, Text.isBlank c = true) ->
      IsStatement keyword operands text ->
      IsCode (.statement (some word) keyword operands) (word ++ blanks ++ text)

/-- A line: blanks, code, and a comment from a semicolon on. -/
def IsLine (wording : Wording) (raw : List Char) : Prop :=
  ∃ blanks written comment : List Char, raw = blanks ++ written ++ comment ∧
    (∀ c ∈ blanks, Text.isBlank c = true) ∧ ';' ∉ written ∧ (∀ c ∈ comment.head?, c = ';') ∧
    IsCode wording written

def wordingOf (raw : List Char) : Wording :=
  let written := code raw
  if written.isEmpty then .nothing
  else
    let (word, rest) := Text.firstWord written
    if (Keyword.read? word).isSome then .statement none word (operandWords rest)
    else if rest.isEmpty then .label word
    else
      let (keyword, rest) := Text.firstWord rest
      .statement (some word) keyword (operandWords rest)

/-!
# Statements
-/

namespace IsStatement

variable {keyword text : List Char} {operands : List (List Char)}

theorem ne_nil (h : IsStatement keyword operands text) : text ≠ [] := by
  rcases h with ⟨hkeyword, tail, rfl, -⟩
  exact List.append_ne_nil_of_left_ne_nil hkeyword.ne_nil tail

theorem stripStart_eq (h : IsStatement keyword operands text) : Text.stripStart text = text := by
  rcases h with ⟨hkeyword, tail, rfl, -⟩
  exact Text.stripStart_append hkeyword tail

theorem stripEnd_append (h : IsStatement keyword operands text) (before : List Char) :
    Text.stripEnd (before ++ text) = before ++ Text.stripEnd text := by
  rcases h with ⟨hkeyword, tail, rfl, -⟩
  rw [← List.append_assoc, Text.stripEnd_append_append hkeyword,
    Text.stripEnd_word_append hkeyword, List.append_assoc]

theorem stripEnd (h : IsStatement keyword operands text) :
    IsStatement keyword operands (Text.stripEnd text) := by
  rcases h with ⟨hkeyword, tail, rfl, htail, hoperands⟩
  refine ⟨hkeyword, Text.stripEnd tail, Text.stripEnd_word_append hkeyword tail,
    htail.stripEnd, ?_⟩
  rw [Text.fallsInto_iff, Text.fields_stripEnd fun c => isOperandSeparator_of_isBlank]
  exact Text.fields_of_fallsInto hoperands

theorem exists_firstWord (h : IsStatement keyword operands text) :
    ∃ rest : List Char, Text.firstWord text = (keyword, rest) ∧ operandWords rest = operands := by
  rcases h with ⟨hkeyword, tail, rfl, htail, hoperands⟩
  refine ⟨_, Text.firstWord_of_endsWord hkeyword.not_isSeparator htail, ?_⟩
  unfold operandWords
  rw [Text.fields_stripStart fun c => isOperandSeparator_of_isBlank]
  exact Text.fields_of_fallsInto hoperands

end IsStatement

theorem isStatement_of_firstWord {text word rest blanks : List Char} (hne : text ≠ [])
    (hhead : ∀ c ∈ text.head?, Text.isBlank c = false)
    (h : Text.firstWord text = (word, rest)) (hblanks : ∀ c ∈ blanks, Text.isBlank c = true) :
    IsStatement word (operandWords rest) (text ++ blanks) := by
  have hword := Text.isField_of_firstWord hne hhead h
  rcases Text.exists_of_firstWord h with ⟨tail, htail, rfl, rfl, -⟩
  refine ⟨hword, tail ++ blanks, List.append_assoc .., htail.append ?_, ?_⟩
  · exact Text.endsWord_of_blanks hblanks
  · unfold operandWords
    rw [Text.fallsInto_iff, Text.fields_append_separators_right
      fun c hc => isOperandSeparator_of_isBlank (hblanks c hc),
      Text.fields_stripStart fun c => isOperandSeparator_of_isBlank]

/-!
# From the layout to the words
-/

theorem exists_code_eq {wording : Wording} {raw : List Char} (h : IsLine wording raw) :
    ∃ written : List Char, code raw = Text.strip written ∧ IsCode wording written := by
  rcases h with ⟨blanks, written, comment, rfl, hblanks, hwritten, hcomment, hcode⟩
  have hfront : ∀ c ∈ blanks ++ written, (c != ';') = true := by
    intro c hc
    rw [bne_iff_ne]
    rintro rfl
    rcases List.mem_append.mp hc with hc | hc
    · exact Bool.false_ne_true (hblanks ';' hc)
    · exact hwritten hc
  have hend : comment.takeWhile (· != ';') = [] := by
    cases comment with
    | nil => rfl
    | cons c rest =>
        cases hcomment c rfl
        rfl
  have hstrip := Text.strip_append_append hblanks (List.forall_mem_nil _) written
  rw [List.append_nil] at hstrip
  refine ⟨written, ?_, hcode⟩
  unfold code
  rw [List.takeWhile_append_of_pos hfront, hend, List.append_nil, hstrip]

theorem wordingOf_of_isLine {wording : Wording} {raw : List Char} (h : IsLine wording raw) :
    wordingOf raw = wording := by
  rcases exists_code_eq h with ⟨written, hcode, hwritten⟩
  unfold wordingOf
  rw [hcode]
  cases hwritten with
  | nothing hblanks =>
      rw [Text.strip_blanks hblanks]
      rfl
  | @label word blanks hword hnone hblanks =>
      have hfirst := @Text.firstWord_of_endsWord word [] hword.not_isSeparator nofun
      rw [List.append_nil] at hfirst
      rw [Text.strip_word_append hword, Text.stripEnd_blanks hblanks, List.append_nil]
      dsimp only
      rw [List.isEmpty_eq_false_iff.mpr hword.ne_nil, hfirst, hnone]
      rfl
  | @plain keyword text operands hsome hstatement =>
      rcases hstatement.stripEnd.exists_firstWord with ⟨rest, hfirst, hoperands⟩
      unfold Text.strip
      rw [hstatement.stripStart_eq]
      dsimp only
      rw [List.isEmpty_eq_false_iff.mpr hstatement.stripEnd.ne_nil, hfirst]
      dsimp only
      rw [hsome, hoperands]
      rfl
  | @labelled word blanks keyword text operands hword hnone hne hblanks hstatement =>
      rcases hstatement.stripEnd.exists_firstWord with ⟨rest, hfirst, hoperands⟩
      have hafter : Text.EndsWord (blanks ++ Text.stripEnd text) := by
        rcases List.exists_cons_of_ne_nil hne with ⟨c, others, rfl⟩
        intro d hd
        cases hd
        exact hblanks _ (List.mem_cons_self ..)
      have hskip : Text.stripStart (blanks ++ Text.stripEnd text) = Text.stripEnd text := by
        have hgone : Text.stripStart (blanks ++ Text.stripEnd text) =
            Text.stripStart (Text.stripEnd text) := List.dropWhile_append_of_pos hblanks
        rw [hgone, hstatement.stripEnd.stripStart_eq]
      rw [List.append_assoc, Text.strip_word_append hword, hstatement.stripEnd_append]
      dsimp only
      rw [List.isEmpty_eq_false_iff.mpr (List.append_ne_nil_of_left_ne_nil hword.ne_nil _),
        Text.firstWord_of_endsWord hword.not_isSeparator hafter, hskip]
      dsimp only
      rw [List.isEmpty_eq_false_iff.mpr hstatement.stripEnd.ne_nil, hnone, hfirst]
      dsimp only
      rw [hoperands]
      rfl

/-!
# From the words to the layout
-/

theorem isCode_wordingOf {raw blanks : List Char} (hblanks : ∀ c ∈ blanks, Text.isBlank c = true) :
    IsCode (wordingOf raw) (code raw ++ blanks) := by
  have hhead : ∀ c ∈ (code raw).head?, Text.isBlank c = false :=
    fun c hc => Text.isBlank_head_strip hc
  unfold wordingOf
  dsimp only
  split
  · next hempty =>
      rw [List.isEmpty_iff.mp hempty]
      exact .nothing hblanks
  · next hempty =>
      have hne : code raw ≠ [] := fun hnil => hempty (List.isEmpty_iff.mpr hnil)
      rcases hfirst : Text.firstWord (code raw) with ⟨word, rest⟩
      dsimp only
      split
      · next hsome => exact .plain hsome (isStatement_of_firstWord hne hhead hfirst hblanks)
      · next hsome =>
          have hnone : Keyword.read? word = none := Option.not_isSome_iff_eq_none.mp hsome
          have hword := Text.isField_of_firstWord hne hhead hfirst
          rcases Text.exists_gap_of_firstWord hfirst with ⟨gap, hgap, hcode, hbetween⟩
          rw [hcode]
          split
          · next hlone =>
              rw [List.isEmpty_iff.mp hlone, List.append_nil, List.append_assoc]
              exact .label hword hnone (List.forall_mem_append.mpr ⟨hgap, hblanks⟩)
          · next hmore =>
              have hmore : rest ≠ [] := fun hnil => hmore (List.isEmpty_iff.mpr hnil)
              have hnext : ∀ c ∈ rest.head?, Text.isBlank c = false :=
                fun c hc => Text.isBlank_head_of_firstWord hfirst hc
              rw [List.append_assoc]
              exact .labelled hword hnone (hbetween hmore) hgap
                (isStatement_of_firstWord hmore hnext rfl hblanks)

theorem isLine_wordingOf (raw : List Char) : IsLine (wordingOf raw) raw := by
  rcases Text.exists_eq_append_strip_append (raw.takeWhile (· != ';')) with
    ⟨blanks, after, hblanks, hafter, htext⟩
  have hsplit : raw.takeWhile (· != ';') ++ raw.dropWhile (· != ';') = raw :=
    List.takeWhile_append_dropWhile
  refine ⟨blanks, code raw ++ after, raw.dropWhile (· != ';'), ?_, hblanks, ?_, ?_,
    isCode_wordingOf hafter⟩
  · unfold code
    rw [← List.append_assoc blanks, ← htext, hsplit]
  · intro hmem
    have hpart : ';' ∈ raw.takeWhile (· != ';') := by
      rw [htext, List.append_assoc]
      exact List.mem_append_right blanks hmem
    exact absurd (List.mem_takeWhile_imp hpart) (by decide)
  · intro c hc
    have hhead := List.head?_dropWhile_not (· != ';') raw
    rw [Option.mem_def.mp hc] at hhead
    simpa using hhead

/-- Every line is written of something, in one way. -/
theorem isLine_iff {wording : Wording} {raw : List Char} :
    IsLine wording raw ↔ wordingOf raw = wording := by
  constructor
  · exact wordingOf_of_isLine
  · rintro rfl
    exact isLine_wordingOf raw

instance (wording : Wording) : DecidablePred (IsLine wording) :=
  fun _ => decidable_of_iff _ isLine_iff.symm

def wordings (text : String) : List Wording :=
  (Text.lines text.toList).map wordingOf

theorem isLine_wordings (text : String) :
    List.Forall₂ IsLine (wordings text) (Text.lines text.toList) :=
  List.forall₂_map_left_iff.mpr (List.forall₂_same.mpr fun raw _ => isLine_wordingOf raw)

/-!
# What the words say
-/

def readStatement (traps : Traps) (isLabelled : Bool) (keyword : List Char)
    (operands : List (List Char)) : Except LineError Clause :=
  match Keyword.read? keyword with
  | some keyword => readKeyword traps isLabelled keyword operands
  | none => .error (.unknownInstruction (String.ofList keyword))

def readLabelled (word : List Char) (clause : Except LineError Clause) :
    Except LineError (Option Line) :=
  match readLabel? word with
  | some label => .ok (some ⟨some label, clause⟩)
  | none => .error (.invalidLabel (String.ofList word))

def readWording (traps : Traps) : Wording -> Except LineError (Option Line)
  | .nothing => .ok none
  | .label word => readLabelled word (.ok .nothing)
  | .statement none keyword operands =>
      .ok (some ⟨none, readStatement traps false keyword operands⟩)
  | .statement (some word) keyword operands =>
      readLabelled word (readStatement traps true keyword operands)

theorem readLabelled_ne_blank (word : List Char) (clause : Except LineError Clause) :
    readLabelled word clause ≠ .ok none := by
  unfold readLabelled
  split <;> nofun

def Clause.IsOfDirective : Clause -> Prop
  | stop | origin _ | constant _ => True
  | nothing | instruction _ => False

theorem isOfDirective_of_readDirective {isLabelled : Bool} {directive : Directive}
    {words : List (List Char)} {clause : Clause}
    (h : readDirective isLabelled directive words = .ok clause) : clause.IsOfDirective := by
  unfold readDirective at h
  split at h
  · cases h
    trivial
  · cases hnumber : directiveNumber .orig words <;> rw [hnumber] at h <;> cases h
    trivial
  · split at h
    · cases hnumber : directiveNumber .fill words <;> rw [hnumber] at h <;> cases h
      trivial
    · cases h
  · cases h
  · cases h

theorem readStatement_ne_nothing (traps : Traps) (isLabelled : Bool) (keyword : List Char)
    (operands : List (List Char)) :
    readStatement traps isLabelled keyword operands ≠ .ok .nothing := by
  unfold readStatement
  split
  · next known _ =>
      cases known with
      | directive directive => exact fun h => isOfDirective_of_readDirective h
      | operation _ | branch _ => nofun
  · nofun

theorem eq_nothing_of_readWording {traps : Traps} {wording : Wording}
    (h : readWording traps wording = .ok none) : wording = .nothing := by
  rcases wording with _ | word | ⟨_ | word, keyword, operands⟩
  · rfl
  · exact absurd h (readLabelled_ne_blank word _)
  · cases h
  · exact absurd h (readLabelled_ne_blank word _)

theorem readLabelled_eq_ok {word : List Char} {clause : Except LineError Clause} {line : Line}
    (h : readLabelled word clause = .ok (some line)) :
    ∃ label : LabelName, readLabel? word = some label ∧ line = ⟨some label, clause⟩ := by
  unfold readLabelled at h
  split at h
  · next label hlabel =>
      cases h
      exact ⟨label, hlabel, rfl⟩
  · cases h

theorem readClause_eq (traps : Traps) (isLabelled : Bool) {written : List Char}
    (h : written ≠ []) :
    readClause traps isLabelled written =
      readStatement traps isLabelled (Text.firstWord written).1
        (operandWords (Text.firstWord written).2) := by
  unfold readClause readStatement
  rw [if_neg fun hempty => h (List.isEmpty_iff.mp hempty)]
  dsimp only
  cases hread : Keyword.read? (Text.firstWord written).1 with
  | none => rfl
  | some keyword => cases keyword <;> rfl

/-- A line is read by what it is written of. -/
theorem readLine_of_isLine (traps : Traps) {wording : Wording} {raw : List Char}
    (h : IsLine wording raw) : readLine traps raw = readWording traps wording := by
  cases isLine_iff.mp h
  unfold readLine wordingOf
  dsimp only
  split
  · rfl
  · next hempty =>
      have hne : code raw ≠ [] := fun hnil => hempty (List.isEmpty_iff.mpr hnil)
      split
      · rw [readClause_eq traps false hne]
        rfl
      · by_cases hlone : (Text.firstWord (code raw)).2.isEmpty = true
        · rw [if_pos hlone, List.isEmpty_iff.mp hlone]
          rfl
        · rw [if_neg hlone,
            readClause_eq traps true fun hnil => hlone (List.isEmpty_iff.mpr hnil)]
          rfl

theorem readWording_wordingOf (traps : Traps) (raw : List Char) :
    readWording traps (wordingOf raw) = readLine traps raw :=
  (readLine_of_isLine traps (isLine_wordingOf raw)).symm

/-- A label that is read stands alone on its line or in front of a keyword. -/
theorem label_cases_of_readLine {traps : Traps} {raw : List Char} {label : LabelName}
    {clause : Except LineError Clause}
    (h : readLine traps raw = .ok (some ⟨some label, clause⟩)) :
    ∃ word : List Char, readLabel? word = some label ∧
      (IsLine (.label word) raw ∧ clause = .ok .nothing ∨
        ∃ (keyword : List Char) (operands : List (List Char)),
          IsLine (.statement (some word) keyword operands) raw ∧
            clause = readStatement traps true keyword operands) := by
  have hline := isLine_wordingOf raw
  rw [readLine_of_isLine traps hline] at h
  generalize wordingOf raw = wording at h hline
  rcases wording with _ | word | ⟨_ | word, keyword, operands⟩
  · cases h
  · rcases readLabelled_eq_ok h with ⟨name, hname, hsame⟩
    cases hsame
    exact ⟨word, hname, Or.inl ⟨hline, rfl⟩⟩
  · cases h
  · rcases readLabelled_eq_ok h with ⟨name, hname, hsame⟩
    cases hsame
    exact ⟨word, hname, Or.inr ⟨keyword, operands, hline, rfl⟩⟩

theorem readLine_eq_label_iff {traps : Traps} {raw : List Char} {label : LabelName} :
    readLine traps raw = .ok (some ⟨some label, .ok .nothing⟩) ↔
      ∃ word : List Char, IsLine (.label word) raw ∧ readLabel? word = some label := by
  constructor
  · intro h
    rcases label_cases_of_readLine h with ⟨word, hword, ⟨hline, -⟩ | ⟨_, _, -, hclause⟩⟩
    · exact ⟨word, hline, hword⟩
    · exact absurd hclause.symm (readStatement_ne_nothing _ _ _ _)
  · rintro ⟨word, hline, hword⟩
    rw [readLine_of_isLine traps hline]
    simp [readWording, readLabelled, hword]

end Source
end LittleComputer
