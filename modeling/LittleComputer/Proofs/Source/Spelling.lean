import LittleComputer.Proofs.Outcome
import LittleComputer.Proofs.Source.LabelWords
import LittleComputer.Proofs.Source.Layout
import LittleComputer.Proofs.Source.Numbers
import LittleComputer.Proofs.Text.LetterCase

/-!
# Spellings

Words that are spelled differently and are read alike.  The case of ASCII letters makes no
difference in a keyword, nor in an operand that is no label.  The letters after `BR` can come in any
order, and a label that is not reserved can have a colon after it or none.
-/

namespace LittleComputer
namespace Source

/-- Two words that differ by the case of ASCII letters. -/
def SameLetters (word other : List Char) : Prop :=
  word.map Char.toLower = other.map Char.toLower

instance (word : List Char) : DecidablePred (SameLetters word) :=
  fun other => inferInstanceAs (Decidable (word.map Char.toLower = other.map Char.toLower))

inductive SameKeyword : List Char -> List Char -> Prop where
  | letters {word other : List Char} : SameLetters word other -> SameKeyword word other
  | branch {word other signs otherSigns : List Char} :
      word.map Char.toLower = 'b' :: 'r' :: signs ->
      other.map Char.toLower = 'b' :: 'r' :: otherSigns ->
      (∀ c ∈ signs, c ∈ ['n', 'z', 'p']) -> signs.Perm otherSigns -> SameKeyword word other

inductive SameLabel : List Char -> List Char -> Prop where
  | same (word : List Char) : SameLabel word word
  | withColon {name : List Char} :
      ¬IsReserved name -> name.getLast? ≠ some ':' -> SameLabel name (name ++ [':'])
  | withoutColon {name : List Char} :
      ¬IsReserved name -> name.getLast? ≠ some ':' -> SameLabel (name ++ [':']) name

/-!
# Registers, numbers and traps
-/

theorem readRegister?_map_toLower (word : List Char) :
    readRegister? (word.map Char.toLower) = readRegister? word := by
  rcases word with _ | ⟨r, _ | ⟨digit, _ | ⟨c, rest⟩⟩⟩
  · rfl
  · rfl
  · have hletter : (r.toLower = 'R' ∨ r.toLower = 'r') ↔ (r = 'R' ∨ r = 'r') := by
      have hcapital : 'R'.toNat = 0x52 := rfl
      have hsmall : 'r'.toNat = 0x72 := rfl
      simp only [← Char.toNat_inj, Text.toNat_toLower, hcapital, hsmall]
      split <;> omega
    simp only [List.map_cons, List.map_nil, readRegister?, hletter]
    by_cases hdigit : digit.toNat < 0x41
    · rw [Text.toLower_eq_self (Or.inl hdigit)]
    · have hzero : '0'.toNat = 0x30 := rfl
      have hsize : 0x41 ≤ digit.toLower.toNat := by
        rw [Text.toNat_toLower]
        split <;> omega
      rw [dif_neg (by omega), dif_neg (by omega)]
  · rfl

theorem dropMark_map_toLower {mark : Char} (h : mark.toNat < 0x41) (written : List Char) :
    dropMark mark (written.map Char.toLower) =
      ((dropMark mark written).1, (dropMark mark written).2.map Char.toLower) := by
  cases written with
  | nil => rfl
  | cons c rest =>
      simp only [List.map_cons, dropMark, Text.toLower_eq_iff h]
      split <;> rfl

theorem readNumber_map_toLower (written : List Char) :
    readNumber (written.map Char.toLower) = readNumber written := by
  have hsmall : Char.toLower ∘ Char.toLower = Char.toLower := funext Text.toLower_toLower
  rw [readNumber_eq, readNumber_eq, Text.strip_map_toLower, dropMark_map_toLower (by decide)]
  dsimp only
  rw [dropMark_map_toLower (by decide)]
  dsimp only
  rw [List.map_map, hsmall]

theorem ofOperand_map_toLower (traps : Traps) (written : List Char) :
    traps.ofOperand (written.map Char.toLower) = traps.ofOperand written := by
  unfold Traps.ofOperand
  rw [Text.strip_map_toLower, Text.lower_map_toLower]

namespace SameLetters

variable {word other : List Char}

theorem congr {α : Type} {f : List Char -> α} (h : SameLetters word other)
    (hf : ∀ cs : List Char, f (cs.map Char.toLower) = f cs) : f word = f other := by
  rw [← hf word, h, hf other]

theorem readRegister?_eq (h : SameLetters word other) :
    readRegister? word = readRegister? other :=
  h.congr readRegister?_map_toLower

theorem readNumber_eq (h : SameLetters word other) : readNumber word = readNumber other :=
  h.congr readNumber_map_toLower

theorem ofOperand_eq (h : SameLetters word other) (traps : Traps) :
    traps.ofOperand word = traps.ofOperand other :=
  h.congr (ofOperand_map_toLower traps)

theorem agree_registerOperand (h : SameLetters word other) :
    Agree (registerOperand word) (registerOperand other) := by
  unfold registerOperand
  rw [h.readRegister?_eq]
  cases readRegister? other <;> rfl

theorem agree_numberOperand (h : SameLetters word other) :
    Agree (numberOperand word) (numberOperand other) := by
  unfold numberOperand
  rw [h.readNumber_eq]
  cases readNumber other with
  | ok n => rfl
  | error error => cases error <;> rfl

end SameLetters

/-!
# Keywords
-/

def Keyword.small : Keyword -> Keyword
  | branch letters => branch (letters.map Char.toLower)
  | keyword => keyword

theorem branchLetters?_map_toLower (word : List Char) :
    Keyword.branchLetters? (word.map Char.toLower) =
      (Keyword.branchLetters? word).map (List.map Char.toLower) := by
  rcases word with _ | ⟨b, _ | ⟨r, letters⟩⟩
  · rfl
  · rfl
  · have hall : (letters.map Char.toLower).all (fun c => ['N', 'Z', 'P'].contains c.toUpper) =
        letters.all fun c => ['N', 'Z', 'P'].contains c.toUpper := by
      rw [List.all_map]
      congr 1
      funext c
      show ['N', 'Z', 'P'].contains c.toLower.toUpper = _
      rw [Text.toUpper_toLower]
    simp only [List.map_cons, Keyword.branchLetters?, Text.toUpper_toLower, hall]
    split <;> rfl

theorem read?_map_toLower (word : List Char) :
    Keyword.read? (word.map Char.toLower) = (Keyword.read? word).map Keyword.small := by
  unfold Keyword.read?
  rw [branchLetters?_map_toLower, Text.upper_map_toLower]
  cases Keyword.branchLetters? word with
  | some letters => rfl
  | none =>
      dsimp only [Option.map_none]
      cases Operation.all.find? fun o => o.name = String.ofList (Text.upper word) with
      | some o => rfl
      | none =>
          dsimp only
          cases Directive.all.find? fun d => d.name = String.ofList (Text.upper word) <;> rfl

theorem exists_branch_of_signs {word signs : List Char}
    (h : word.map Char.toLower = 'b' :: 'r' :: signs) (hsigns : ∀ c ∈ signs, c ∈ ['n', 'z', 'p']) :
    ∃ letters : List Char, Keyword.read? word = some (.branch letters) ∧
      letters.map Char.toLower = signs := by
  rcases List.map_eq_cons_iff.mp h with ⟨b, rest, rfl, hb, hrest⟩
  rcases List.map_eq_cons_iff.mp hrest with ⟨r, letters, rfl, hr, rfl⟩
  have hB : b.toUpper = 'B' := by
    rw [← Text.toUpper_toLower, hb]
    rfl
  have hR : r.toUpper = 'R' := by
    rw [← Text.toUpper_toLower, hr]
    rfl
  have hall : letters.all (fun c => ['N', 'Z', 'P'].contains c.toUpper) = true := by
    rw [List.all_eq_true]
    intro c hc
    have hsign := hsigns c.toLower (List.mem_map_of_mem hc)
    rw [← Text.toUpper_toLower]
    revert hsign
    generalize c.toLower = sign
    simp only [List.mem_cons, List.not_mem_nil, or_false]
    rintro (rfl | rfl | rfl) <;> rfl
  refine ⟨letters, ?_, rfl⟩
  unfold Keyword.read? Keyword.branchLetters?
  dsimp only
  rw [if_pos ⟨hB, hR, hall⟩]

inductive KeywordsAlike : Option Keyword -> Option Keyword -> Prop where
  | same (keyword : Option Keyword) : KeywordsAlike keyword keyword
  | branch {letters others : List Char} :
      (letters.map Char.toLower).Perm (others.map Char.toLower) ->
      KeywordsAlike (some (.branch letters)) (some (.branch others))

theorem keywordsAlike_of_small {keyword other : Keyword} (h : keyword.small = other.small) :
    KeywordsAlike (some keyword) (some other) := by
  unfold Keyword.small at h
  split at h
  · split at h
    · exact .branch (List.Perm.of_eq (Keyword.branch.inj h))
    · next hother => exact absurd h.symm (hother _)
  · next hkeyword =>
      split at h
      · exact absurd h (hkeyword _)
      · rw [h]
        exact .same _

theorem SameKeyword.keywordsAlike {word other : List Char} (h : SameKeyword word other) :
    KeywordsAlike (Keyword.read? word) (Keyword.read? other) := by
  cases h with
  | letters hletters =>
      have hsmall : (Keyword.read? word).map Keyword.small =
          (Keyword.read? other).map Keyword.small := by
        rw [← read?_map_toLower, hletters, read?_map_toLower]
      generalize Keyword.read? word = keyword at hsmall ⊢
      generalize Keyword.read? other = otherKeyword at hsmall ⊢
      cases keyword with
      | none =>
          rw [Option.map_eq_none_iff.mp hsmall.symm]
          exact .same none
      | some keyword =>
          rcases Option.map_eq_some_iff.mp hsmall.symm with ⟨otherKeyword, rfl, hsame⟩
          exact keywordsAlike_of_small hsame.symm
  | branch hword hother hsigns hperm =>
      rcases exists_branch_of_signs hword hsigns with ⟨letters, hread, rfl⟩
      rcases exists_branch_of_signs hother fun c hc => hsigns c (hperm.mem_iff.mpr hc) with
        ⟨others, hotherRead, rfl⟩
      rw [hread, hotherRead]
      exact .branch hperm

/-!
# Labels in front of a line
-/

theorem readLabel?_append_colon {name : List Char} (hname : ¬IsReserved name)
    (hlast : name.getLast? ≠ some ':') : readLabel? (name ++ [':']) = readLabel? name := by
  by_cases hidentifier : isIdentifier name = true
  · have hfree : IsFree name := isFree_iff.mpr ⟨hidentifier, hname⟩
    have hne : String.ofList name ≠ "" := by
      intro hempty
      have hnil : name = [] := by simpa using congrArg String.toList hempty
      rw [hnil] at hidentifier
      cases hidentifier
    have hread : ∀ label : LabelName, label.name.toList = name ->
        readLabel? (name ++ [':']) = readLabel? name := by
      rintro label rfl
      rw [readLabel?_colon hidentifier, readLabel?_of_isFree hfree]
    exact hread ⟨String.ofList name, hne⟩ String.toList_ofList
  · have hcolon : dropColon (name ++ [':']) = name := by
      unfold dropColon
      rw [List.getLast?_concat, if_pos rfl, List.dropLast_concat]
    have hnone : dropColon name = name := if_neg hlast
    unfold readLabel?
    dsimp only
    rw [hcolon, hnone, Bool.eq_false_iff.mpr hidentifier]
    rfl

theorem SameLabel.readLabel?_eq {word other : List Char} (h : SameLabel word other) :
    readLabel? word = readLabel? other := by
  cases h with
  | same word => rfl
  | withColon hname hlast => exact (readLabel?_append_colon hname hlast).symm
  | withoutColon hname hlast => exact readLabel?_append_colon hname hlast

/-!
# Instructions
-/

theorem ofLetters?_perm {letters others : List Char}
    (h : (letters.map Char.toLower).Perm (others.map Char.toLower)) :
    Condition.ofLetters? letters = Condition.ofLetters? others := by
  unfold Condition.ofLetters? Condition.ofSigns
  dsimp only
  generalize letters.map Char.toLower = signs at h ⊢
  generalize others.map Char.toLower = otherSigns at h ⊢
  simp only [h.all_eq, h.nodup_iff, h.contains_eq]

section

variable {word other first second third otherFirst otherSecond otherThird : List Char}

theorem SameLetters.agree_immediateOperand (h : SameLetters word other) :
    Agree (immediateOperand word) (immediateOperand other) :=
  h.agree_numberOperand.bind fun _ => rfl

theorem agree_arithmetic (withRegister : Register -> Register -> Register -> Instruction)
    (withImmediate : Register -> Register -> Immediate -> Instruction)
    (hfirst : SameLetters first otherFirst) (hsecond : SameLetters second otherSecond)
    (hthird : SameLetters third otherThird) :
    Agree (arithmetic withRegister withImmediate first second third)
      (arithmetic withRegister withImmediate otherFirst otherSecond otherThird) := by
  refine hfirst.agree_registerOperand.bind fun dest => ?_
  refine hsecond.agree_registerOperand.bind fun src1 => ?_
  rw [hthird.readRegister?_eq]
  cases readRegister? otherThird with
  | some src2 => rfl
  | none => exact hthird.agree_immediateOperand.bind fun _ => rfl

theorem agree_not (hfirst : SameLetters first otherFirst)
    (hsecond : SameLetters second otherSecond) (traps : Traps) :
    Agree (readOperation traps .not [first, second])
      (readOperation traps .not [otherFirst, otherSecond]) :=
  hfirst.agree_registerOperand.bind fun _ => hsecond.agree_registerOperand.bind fun _ => rfl

theorem agree_registerAndLabel (make : Register -> LabelName -> Instruction)
    (hfirst : SameLetters first otherFirst) (label : List Char) :
    Agree (registerAndLabel make first label) (registerAndLabel make otherFirst label) :=
  hfirst.agree_registerOperand.bind fun _ => rfl

theorem agree_baseOffset (mnemonic : String) (hfirst : SameLetters first otherFirst)
    (hsecond : SameLetters second otherSecond) (hthird : SameLetters third otherThird) :
    Agree (baseOffset mnemonic first second third)
      (baseOffset mnemonic otherFirst otherSecond otherThird) :=
  hfirst.agree_registerOperand.bind fun _ => hsecond.agree_registerOperand.bind fun _ =>
    hthird.agree_numberOperand.bind fun _ => rfl

theorem agree_trap (h : SameLetters word other) (traps : Traps) :
    Agree (readOperation traps .trap [word]) (readOperation traps .trap [other]) := by
  unfold readOperation
  dsimp only
  rw [h.ofOperand_eq traps]
  split <;> rfl

end

section

variable {words others : List (List Char)}

/-- Operands whose letters differ by their case, and those in the places of labels not at all. -/
structure SameOperands (keyword : Keyword) (words others : List (List Char)) : Prop where
  letters : List.Forall₂ SameLetters words others
  labels : labelOperands keyword words = labelOperands keyword others

theorem agree_readOperation (traps : Traps) {operation : Operation}
    (h : SameOperands (.operation operation) words others) :
    Agree (readOperation traps operation words) (readOperation traps operation others) := by
  rcases h with ⟨hletters, hlabels⟩
  -- Each operation takes one number of operands, and is refused for any other.
  rcases hletters with _ | ⟨hfirst, _ | ⟨hsecond, _ | ⟨hthird, _ | ⟨hfourth, hrest⟩⟩⟩⟩
  · cases operation <;> rfl
  · cases operation with
    | trap => exact agree_trap hfirst traps
    | _ => rfl
  · cases operation with
    | not => exact agree_not hfirst hsecond traps
    | ld | ldi | st | sti =>
        cases hlabels
        exact agree_registerAndLabel _ hfirst _
    | _ => rfl
  · cases operation with
    | add | and => exact agree_arithmetic _ _ hfirst hsecond hthird
    | ldr | str => exact agree_baseOffset _ hfirst hsecond hthird
    | _ => rfl
  · cases operation <;> rfl

theorem agree_readBranch {letters otherLetters : List Char}
    (hletters : (letters.map Char.toLower).Perm (otherLetters.map Char.toLower))
    (h : SameOperands (.branch letters) words others) :
    Agree (readBranch letters words) (readBranch otherLetters others) := by
  have hcondition : Agree (conditionOperand letters) (conditionOperand otherLetters) := by
    unfold conditionOperand
    rw [ofLetters?_perm hletters]
    cases Condition.ofLetters? otherLetters <;> rfl
  rcases h with ⟨hwords, hlabels⟩
  rcases hwords with _ | ⟨hfirst, _ | ⟨hsecond, hrest⟩⟩
  · rfl
  · cases hlabels
    have hlabel : ∀ word : List Char, Agree (labelOperand word) (labelOperand word) := fun _ => rfl
    exact (hlabel _).bind fun _ => hcondition.bind fun _ => rfl
  · rfl

theorem agree_readDirective (isLabelled : Bool) (directive : Directive)
    (hwords : List.Forall₂ SameLetters words others) :
    Agree (readDirective isLabelled directive words)
      (readDirective isLabelled directive others) := by
  have hnumber : Agree (directiveNumber directive words) (directiveNumber directive others) := by
    rcases hwords with _ | ⟨hfirst, _ | ⟨hsecond, hrest⟩⟩
    · rfl
    · exact hfirst.agree_numberOperand
    · rfl
  cases directive with
  | orig => exact hnumber.map _
  | fill =>
      cases isLabelled with
      | true => exact hnumber.map _
      | false => rfl
  | stop | blkw | stringz => rfl

end

end Source
end LittleComputer
