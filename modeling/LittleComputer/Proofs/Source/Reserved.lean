import LittleComputer.Proofs.Text.Fields
import LittleComputer.Source.Line

/-!
# Reserved words

The words that cannot be labels, whatever the case of their letters: keywords and names of
registers.  An identifier that is neither is read as the label that it spells.
-/

namespace LittleComputer
namespace Source

/-- What no word of a line has in it: an operand separator, or the start of a comment. -/
def isDelimiter (c : Char) : Bool :=
  c == ';' || isOperandSeparator c

theorem isDelimiter_of_isOperandSeparator {c : Char} (h : isOperandSeparator c = true) :
    isDelimiter c = true := by
  unfold isDelimiter
  rw [h, Bool.or_true]

theorem isOperandSeparator_of_isBlank {c : Char} (h : Text.isBlank c = true) :
    isOperandSeparator c = true := by
  unfold isOperandSeparator
  rw [h, Bool.or_true]

theorem isDelimiter_of_isBlank (c : Char) (h : Text.isBlank c = true) : isDelimiter c = true :=
  isDelimiter_of_isOperandSeparator (isOperandSeparator_of_isBlank h)

/-!
# Words in capital letters
-/

def IsBranchForm (word : List Char) : Prop :=
  word.take 2 = ['B', 'R'] ∧ (word.drop 2).all ['N', 'Z', 'P'].contains = true

def IsKeyword (word : List Char) : Prop :=
  (∃ o ∈ Operation.all, o.name.toList = word) ∨ (∃ d ∈ Directive.all, d.name.toList = word) ∨
    IsBranchForm word

def IsRegisterName (word : List Char) : Prop :=
  ∃ register : Register, register.text.toList = word

instance : DecidablePred IsBranchForm :=
  fun word => inferInstanceAs (Decidable (word.take 2 = ['B', 'R'] ∧ _))

instance : DecidablePred IsKeyword :=
  fun word => inferInstanceAs (Decidable (_ ∨ _ ∨ IsBranchForm word))

instance : DecidablePred IsRegisterName :=
  fun word =>
    decidable_of_iff
      (((List.finRange 8).any fun register => (Register.text register).toList == word) = true)
      (by simp [IsRegisterName])

/-!
# Keywords
-/

theorem branchLetters?_isSome_iff {word : List Char} :
    (Keyword.branchLetters? word).isSome = true ↔ IsBranchForm (word.map Char.toUpper) := by
  rcases word with _ | ⟨b, _ | ⟨r, letters⟩⟩
  · simp [Keyword.branchLetters?, IsBranchForm]
  · simp [Keyword.branchLetters?, IsBranchForm]
  · simp [Keyword.branchLetters?, IsBranchForm, and_assoc]

theorem upper_of_ascii {word : List Char} (h : ∀ c ∈ word, c.toNat < 0x80) :
    Text.upper word = word.map Char.toUpper := by
  induction word with
  | nil => rfl
  | cons c rest ih =>
      have hc : Text.upperChar c = [c.toUpper] := if_pos (h c (List.mem_cons_self ..))
      have hrest := ih fun d hd => h d (List.mem_cons_of_mem _ hd)
      unfold Text.upper at hrest ⊢
      rw [List.flatMap_cons, hc, hrest]
      rfl

theorem read?_isSome_iff {word : List Char} (h : ∀ c ∈ word, c.toNat < 0x80) :
    (Keyword.read? word).isSome = true ↔ IsKeyword (word.map Char.toUpper) := by
  have hname : ∀ name : String,
      name = String.ofList (Text.upper word) ↔ name.toList = word.map Char.toUpper := by
    intro name
    rw [upper_of_ascii h]
    constructor
    · rintro rfl
      exact String.toList_ofList
    · intro hname
      rw [← hname, String.ofList_toList]
  unfold Keyword.read? IsKeyword
  rw [← branchLetters?_isSome_iff]
  cases Keyword.branchLetters? word with
  | some letters => simp
  | none =>
      dsimp only
      cases hoperation : Operation.all.find? fun o => o.name = String.ofList (Text.upper word) with
      | some o =>
          have hfound := List.find?_some hoperation
          have hmem := List.mem_of_find?_eq_some hoperation
          simp only [decide_eq_true_eq] at hfound
          simp only [Option.isSome_some, true_iff]
          exact Or.inl ⟨o, hmem, (hname _).mp hfound⟩
      | none =>
          rw [List.find?_eq_none] at hoperation
          simp only [decide_eq_true_eq, hname] at hoperation
          simp only [Option.isSome_map, List.find?_isSome, decide_eq_true_eq, hname,
            Option.isSome_none, Bool.false_eq_true, or_false]
          constructor
          · exact Or.inr
          · rintro (⟨o, hmem, ho⟩ | hdirective)
            · exact absurd ho (hoperation o hmem)
            · exact hdirective

/-!
# Registers
-/

theorem toNat_toUpper (c : Char) :
    c.toUpper.toNat = if 0x61 ≤ c.toNat ∧ c.toNat ≤ 0x7a then c.toNat - 0x20 else c.toNat := by
  unfold Char.toUpper
  split
  · next hsmall =>
      have hrange : 0x61 ≤ c.toNat ∧ c.toNat ≤ 0x7a := hsmall
      have hshift : ('A'.val - 'a'.val).toNat = 2 ^ 32 - 0x20 := rfl
      rw [if_pos hrange]
      show (c.val + ('A'.val - 'a'.val)).toNat = c.toNat - 0x20
      rw [UInt32.toNat_add, hshift, Char.toNat_val]
      omega
  · next hother => exact (if_neg hother).symm

theorem toUpper_eq_R_iff (c : Char) : c.toUpper = 'R' ↔ c = 'R' ∨ c = 'r' := by
  have hcapital : 'R'.toNat = 0x52 := rfl
  have hsmall : 'r'.toNat = 0x72 := rfl
  rw [← Char.toNat_inj, ← Char.toNat_inj, ← Char.toNat_inj, toNat_toUpper, hcapital, hsmall]
  split <;> omega

theorem readRegister?_text (register : Register) :
    readRegister? register.text.toList = some register := by
  revert register
  decide +kernel

theorem readRegister?_pair_isSome_iff (r digit : Char) :
    (readRegister? [r, digit]).isSome = true ↔
      (r = 'R' ∨ r = 'r') ∧ 0x30 ≤ digit.toNat ∧ digit.toNat < 0x38 := by
  have hdigit : '0'.toNat = 0x30 := rfl
  simp only [readRegister?, hdigit]
  split
  · next hletter =>
      split
      · next hrange => exact iff_of_true rfl ⟨hletter, hrange⟩
      · next hrange => exact iff_of_false Bool.false_ne_true fun h => hrange h.right
  · next hletter => exact iff_of_false Bool.false_ne_true fun h => hletter h.left

theorem toList_register_text (register : Register) :
    register.text.toList = ['R', Char.ofNat (0x30 + register.val)] := by
  revert register
  decide +kernel

theorem isRegisterName_pair_iff (r digit : Char) :
    IsRegisterName [r, digit] ↔ r = 'R' ∧ 0x30 ≤ digit.toNat ∧ digit.toNat < 0x38 := by
  have hcode : ∀ register : Register,
      (Char.ofNat (0x30 + register.val)).toNat = 0x30 + register.val := by
    decide +kernel
  constructor
  · rintro ⟨register, hword⟩
    rw [toList_register_text] at hword
    cases hword
    rw [hcode]
    exact ⟨rfl, by omega, by omega⟩
  · rintro ⟨rfl, hrange⟩
    refine ⟨⟨digit.toNat - 0x30, by omega⟩, ?_⟩
    have hsame : 0x30 + (digit.toNat - 0x30) = digit.toNat := by
      omega
    rw [toList_register_text, hsame, Char.ofNat_toNat]

theorem readRegister?_isSome_iff {word : List Char} :
    (readRegister? word).isSome = true ↔ IsRegisterName (word.map Char.toUpper) := by
  rcases word with _ | ⟨r, _ | ⟨digit, _ | ⟨c, rest⟩⟩⟩
  · simp [readRegister?, IsRegisterName, toList_register_text]
  · simp [readRegister?, IsRegisterName, toList_register_text]
  · show _ ↔ IsRegisterName [r.toUpper, digit.toUpper]
    rw [readRegister?_pair_isSome_iff, isRegisterName_pair_iff, toUpper_eq_R_iff, toNat_toUpper]
    refine and_congr_right fun _ => ?_
    split <;> omega
  · simp [readRegister?, IsRegisterName, toList_register_text]

/-!
# Labels
-/

/-- An identifier that is no keyword and no name of a register, whatever the case of its letters. -/
structure IsFree (name : List Char) : Prop where
  isIdentifier : isIdentifier name = true
  not_isKeyword : ¬IsKeyword (name.map Char.toUpper)
  not_isRegisterName : ¬IsRegisterName (name.map Char.toUpper)

instance : DecidablePred IsFree :=
  fun name =>
    decidable_of_iff
      (isIdentifier name = true ∧ ¬IsKeyword (name.map Char.toUpper) ∧
        ¬IsRegisterName (name.map Char.toUpper))
      ⟨fun h => ⟨h.left, h.right.left, h.right.right⟩,
        fun h => ⟨h.isIdentifier, h.not_isKeyword, h.not_isRegisterName⟩⟩

theorem toNat_of_isNameChar {c : Char} (h : isNameChar c = true) :
    (0x30 ≤ c.toNat ∧ c.toNat ≤ 0x39) ∨ (0x41 ≤ c.toNat ∧ c.toNat ≤ 0x5a) ∨ c.toNat = 0x5f ∨
      (0x61 ≤ c.toNat ∧ c.toNat ≤ 0x7a) := by
  have hclass : (c.isUpper || c.isLower || c.isDigit || c == '_') = true := h
  simp only [Bool.or_eq_true, beq_iff_eq] at hclass
  rcases hclass with ((hupper | hlower) | hdigit) | rfl
  · exact Or.inr (Or.inl (of_decide_eq_true hupper))
  · rcases Bool.and_eq_true_iff.mp hlower with ⟨hlow, hhigh⟩
    exact Or.inr (Or.inr (Or.inr ⟨of_decide_eq_true hlow, of_decide_eq_true hhigh⟩))
  · rcases Bool.and_eq_true_iff.mp hdigit with ⟨hlow, hhigh⟩
    exact Or.inl ⟨of_decide_eq_true hlow, of_decide_eq_true hhigh⟩
  · exact Or.inr (Or.inr (Or.inl rfl))

theorem isNameChar_of_mem {name : List Char} (h : isIdentifier name = true) {c : Char}
    (hc : c ∈ name) : isNameChar c = true := by
  cases name with
  | nil => cases hc
  | cons first rest =>
      simp only [isIdentifier, Bool.and_eq_true, List.all_eq_true] at h
      rcases List.mem_cons.mp hc with rfl | hrest
      · simp only [isNameStart, Bool.or_eq_true] at h
        simp only [isNameChar, Char.isAlphanum, Bool.or_eq_true]
        exact h.left.imp_left Or.inl
      · exact h.right c hrest

theorem isField_of_isIdentifier {name : List Char} (h : isIdentifier name = true) :
    Text.IsField isDelimiter name := by
  constructor
  · rintro rfl
    cases h
  · intro c hc
    have hrange := toNat_of_isNameChar (isNameChar_of_mem h hc)
    by_contra hdelimiter
    rw [Bool.not_eq_false] at hdelimiter
    simp only [isDelimiter, isOperandSeparator, Text.isBlank, Bool.or_eq_true, Bool.and_eq_true,
      decide_eq_true_eq, beq_iff_eq, ← Char.toNat_inj] at hdelimiter
    have hsemicolon : ';'.toNat = 0x3b := rfl
    have hcomma : ','.toNat = 0x2c := rfl
    omega

theorem ascii_of_isIdentifier {name : List Char} (h : isIdentifier name = true) :
    ∀ c ∈ name, c.toNat < 0x80 := by
  intro c hc
  have hrange := toNat_of_isNameChar (isNameChar_of_mem h hc)
  omega

theorem dropColon_of_isIdentifier {name : List Char} (h : isIdentifier name = true) :
    dropColon name = name := by
  have hlast : name.getLast? ≠ some ':' := by
    intro hlast
    have hcolon := toNat_of_isNameChar (isNameChar_of_mem h (List.mem_of_getLast? hlast))
    revert hcolon
    decide
  exact if_neg hlast

theorem readLabel?_of_isFree {label : LabelName} (h : IsFree label.name.toList) :
    readLabel? label.name.toList = some label := by
  have hascii := ascii_of_isIdentifier h.isIdentifier
  have hkeyword : (Keyword.read? label.name.toList).isSome = false :=
    Bool.eq_false_iff.mpr fun hkeyword =>
      h.not_isKeyword ((read?_isSome_iff hascii).mp hkeyword)
  have hregister : (readRegister? label.name.toList).isSome = false :=
    Bool.eq_false_iff.mpr fun hregister =>
      h.not_isRegisterName (readRegister?_isSome_iff.mp hregister)
  rw [Option.isSome_eq_false_iff] at hkeyword hregister
  unfold readLabel?
  dsimp only
  rw [dropColon_of_isIdentifier h.isIdentifier, h.isIdentifier, hkeyword, hregister]
  simp [label.name_ne_empty]

end Source
end LittleComputer
