import LittleComputer.Proofs.Text.Fields
import LittleComputer.Proofs.Text.LetterCase
import LittleComputer.Source.Number
import Mathlib.Data.Nat.Digits.Defs

/-!
# What is read as a number

A number is written as a mark and a sign that can be missing, the opening of one of four styles, and
the digits of that style, with blanks around.  Exactly these texts are read, each as the positional
value of its digits with its sign; only a decimal number that is longer than a numeral is refused
though it is one.  Every integer can be written in each of the styles, and is read back.
-/

namespace LittleComputer
namespace Source

/-!
# Styles
-/

/-- How the size of a number is written: after `0x`, after `x`, after `b`, or without an opening. -/
inductive Style where
  | zeroHexadecimal
  | hexadecimal
  | binary
  | decimal
  deriving DecidableEq

def hexValue? (c : Char) : Option Nat :=
  if 0x30 ≤ c.toNat ∧ c.toNat ≤ 0x39 then some (c.toNat - 0x30)
  else if 0x41 ≤ c.toNat ∧ c.toNat ≤ 0x46 then some (c.toNat - 0x41 + 10)
  else if 0x61 ≤ c.toNat ∧ c.toNat ≤ 0x66 then some (c.toNat - 0x61 + 10)
  else none

namespace Style

def opening : Style -> List Char
  | zeroHexadecimal => ['0', 'x']
  | hexadecimal => ['x']
  | binary => ['b']
  | decimal => []

def base : Style -> Nat
  | zeroHexadecimal => 16
  | hexadecimal => 16
  | binary => 2
  | decimal => 10

def value? : Style -> Char -> Option Nat
  | zeroHexadecimal => hexValue?
  | hexadecimal => hexValue?
  | binary => binaryDigit?
  | decimal => Text.digitValue?

def digit? : Style -> Char -> Option Nat
  | zeroHexadecimal => hexDigit?
  | hexadecimal => hexDigit?
  | binary => binaryDigit?
  | decimal => Text.digitValue?

structure HasSize (style : Style) (digits : List Char) (size : Nat) : Prop where
  ne_nil : digits ≠ []
  value : ∃ values : List Nat,
    digits.map style.value? = values.map some ∧ size = Nat.ofDigits style.base values.reverse

/-- Whether so many digits are read; a hexadecimal or binary number can have any number of them. -/
def Fits (style : Style) (digits : List Char) : Prop :=
  style = decimal -> digits.length ≤ Decimal.maxDigits

end Style

instance (style : Style) (digits : List Char) : Decidable (style.Fits digits) :=
  inferInstanceAs (Decidable (_ -> _))

/-!
# Written numbers
-/

structure WrittenNumber where
  isMarked : Bool
  isNegative : Bool
  style : Style
  opening : List Char
  digits : List Char

namespace WrittenNumber

def text (number : WrittenNumber) : List Char :=
  (if number.isMarked then ['#'] else []) ++ (if number.isNegative then ['-'] else []) ++
    number.opening ++ number.digits

def signed (isNegative : Bool) (size : Nat) : Int :=
  if isNegative then -(size : Int) else size

/-- A written number means an integer: its opening is that of its style in letters of either case,
its digits have a size, and the sign says which side of zero it is on. -/
structure Means (number : WrittenNumber) (n : Int) : Prop where
  opening : number.opening.map Char.toLower = number.style.opening
  size : ∃ size : Nat, number.style.HasSize number.digits size ∧ n = signed number.isNegative size

def StandsIn (number : WrittenNumber) (written : List Char) : Prop :=
  ∃ before after : List Char, (∀ c ∈ before, Text.isBlank c = true) ∧
    (∀ c ∈ after, Text.isBlank c = true) ∧ written = before ++ number.text ++ after

def ofInt (style : Style) (isMarked : Bool) (n : Int) : WrittenNumber where
  isMarked := isMarked
  isNegative := n < 0
  style := style
  opening := style.opening
  digits := Nat.toDigits style.base n.natAbs

end WrittenNumber

/-!
# Digits

A digit is a letter or a digit of a script.  So it is neither blank, nor a mark, nor a sign, and
decimal digits have no case.
-/

theorem exists_row_of_digitValue? {c : Char} {value : Nat} (h : Text.digitValue? c = some value) :
    ∃ row ∈ Text.digitZeros, row ≤ c.toNat ∧ c.toNat < row + 10 := by
  rcases Option.map_eq_some_iff.mp h with ⟨row, hrow, -⟩
  have hrange := List.find?_some hrow
  simp only [Bool.and_eq_true, decide_eq_true_eq] at hrange
  exact ⟨row, List.mem_of_find?_eq_some hrow, hrange⟩

/-- No row of decimal digits goes through the letters, the marks or the blanks. -/
theorem row_ranges : ∀ row ∈ Text.digitZeros,
    row = 0x30 ∨ (0x660 ≤ row ∧ row + 10 ≤ 0x1680) ∨ (0x1681 ≤ row ∧ row + 10 ≤ 0x2000) ∨
      0x3001 ≤ row := by
  decide

theorem toNat_of_digitValue? {c : Char} {value : Nat} (h : Text.digitValue? c = some value) :
    (0x30 ≤ c.toNat ∧ c.toNat ≤ 0x39) ∨ (0x660 ≤ c.toNat ∧ Text.isBlank c = false) := by
  rcases exists_row_of_digitValue? h with ⟨row, hmem, hlow, hhigh⟩
  have hrow := row_ranges row hmem
  by_cases hascii : row = 0x30
  · exact Or.inl (by omega)
  · refine Or.inr ⟨by omega, ?_⟩
    by_contra hblank
    rw [Bool.not_eq_false] at hblank
    simp only [Text.isBlank, Bool.or_eq_true, Bool.and_eq_true, decide_eq_true_eq,
      beq_iff_eq] at hblank
    omega

theorem toNat_of_hexValue? {c : Char} {value : Nat} (h : hexValue? c = some value) :
    (0x30 ≤ c.toNat ∧ c.toNat ≤ 0x39) ∨ (0x41 ≤ c.toNat ∧ c.toNat ≤ 0x46) ∨
      (0x61 ≤ c.toNat ∧ c.toNat ≤ 0x66) := by
  unfold hexValue? at h
  split at h
  · exact Or.inl ‹_›
  · split at h
    · exact Or.inr (Or.inl ‹_›)
    · split at h
      · exact Or.inr (Or.inr ‹_›)
      · cases h

theorem toNat_of_binaryDigit? {c : Char} {value : Nat} (h : binaryDigit? c = some value) :
    0x30 ≤ c.toNat ∧ c.toNat ≤ 0x39 := by
  unfold binaryDigit? at h
  split at h
  · next hzero =>
      subst hzero
      decide
  · split at h
    · next hone =>
        subst hone
        decide
    · cases h

theorem hexDigit?_toLower (c : Char) : hexDigit? c.toLower = hexValue? c := by
  have hzero : '0'.toNat = 0x30 := rfl
  have hnine : '9'.toNat = 0x39 := rfl
  have ha : 'a'.toNat = 0x61 := rfl
  have hf : 'f'.toNat = 0x66 := rfl
  have hle : ∀ c d : Char, c ≤ d ↔ c.toNat ≤ d.toNat := fun c d => Iff.rfl
  unfold hexDigit? hexValue?
  simp only [hle, hzero, hnine, ha, hf, Text.toNat_toLower]
  split <;> grind

namespace Style

theorem isBlank_of_value? {style : Style} {c : Char} {value : Nat}
    (h : style.value? c = some value) : 0x30 ≤ c.toNat ∧ Text.isBlank c = false := by
  have hascii : 0x30 ≤ c.toNat -> c.toNat ≤ 0x66 -> Text.isBlank c = false := by
    intro hlow hhigh
    by_contra hblank
    rw [Bool.not_eq_false] at hblank
    simp only [Text.isBlank, Bool.or_eq_true, Bool.and_eq_true, decide_eq_true_eq,
      beq_iff_eq] at hblank
    omega
  cases style with
  | zeroHexadecimal =>
      have hrange := toNat_of_hexValue? h
      exact ⟨by omega, hascii (by omega) (by omega)⟩
  | hexadecimal =>
      have hrange := toNat_of_hexValue? h
      exact ⟨by omega, hascii (by omega) (by omega)⟩
  | binary =>
      have hrange := toNat_of_binaryDigit? h
      exact ⟨by omega, hascii (by omega) (by omega)⟩
  | decimal =>
      rcases toNat_of_digitValue? h with hrange | ⟨hrange, hblank⟩
      · exact ⟨by omega, hascii (by omega) (by omega)⟩
      · exact ⟨by omega, hblank⟩

theorem digit?_toLower (style : Style) (c : Char) : style.digit? c.toLower = style.value? c := by
  cases style with
  | zeroHexadecimal => exact hexDigit?_toLower c
  | hexadecimal => exact hexDigit?_toLower c
  | binary =>
      have hzero : c.toLower = '0' ↔ c = '0' := Text.toLower_eq_iff (by decide)
      have hone : c.toLower = '1' ↔ c = '1' := Text.toLower_eq_iff (by decide)
      simp only [digit?, value?, binaryDigit?, hzero, hone]
  | decimal =>
      unfold digit? value?
      dsimp only
      cases hvalue : Text.digitValue? c with
      | some value =>
          have hrange := toNat_of_digitValue? hvalue
          rw [Text.toLower_eq_self (by omega), hvalue]
      | none =>
          cases hsmall : Text.digitValue? c.toLower with
          | none => rfl
          | some value =>
              have hrange := toNat_of_digitValue? hsmall
              rw [Text.toNat_toLower] at hrange
              have hsame : c.toLower = c := Text.toLower_eq_self (by split at hrange <;> omega)
              rw [hsame, hvalue] at hsmall
              cases hsmall

theorem map_digit?_toLower (style : Style) (digits : List Char) :
    (digits.map Char.toLower).map style.digit? = digits.map style.value? := by
  rw [List.map_map]
  exact congrArg (digits.map ·) (funext style.digit?_toLower)

end Style

/-!
# Digits by their places
-/

theorem foldlM_eq_some_iff {base : Nat} {digit? : Char -> Option Nat} {digits : List Char}
    {start n : Nat} :
    digits.foldlM (fun n c => (digit? c).map (base * n + ·)) start = some n ↔
      ∃ values : List Nat, digits.map digit? = values.map some ∧
        n = values.foldl (fun n value => value + base * n) start := by
  induction digits generalizing start with
  | nil =>
      constructor
      · intro h
        exact ⟨[], rfl, (Option.some.inj h).symm⟩
      · rintro ⟨values, hvalues, rfl⟩
        cases values with
        | nil => rfl
        | cons value rest => cases hvalues
  | cons c rest ih =>
      rw [List.foldlM_cons, List.map_cons]
      cases hvalue : digit? c with
      | none =>
          constructor
          · intro h
            cases h
          · rintro ⟨values, hvalues, -⟩
            cases values with
            | nil => cases hvalues
            | cons value values => cases hvalues
      | some value =>
          show rest.foldlM _ (base * start + value) = some n ↔ _
          rw [ih]
          constructor
          · rintro ⟨values, hvalues, rfl⟩
            refine ⟨value :: values, ?_, ?_⟩
            · rw [hvalues, List.map_cons]
            · rw [List.foldl_cons, Nat.add_comm value]
          · rintro ⟨values, hvalues, rfl⟩
            cases values with
            | nil => cases hvalues
            | cons first values =>
                rw [List.map_cons] at hvalues
                cases (List.cons.inj hvalues).left
                refine ⟨values, (List.cons.inj hvalues).right, ?_⟩
                rw [List.foldl_cons, Nat.add_comm value]

theorem positional?_eq_some_iff {base : Nat} {digit? : Char -> Option Nat} {digits : List Char}
    {n : Nat} :
    positional? base digit? digits = some n ↔
      digits ≠ [] ∧ ∃ values : List Nat, digits.map digit? = values.map some ∧
        n = Nat.ofDigits base values.reverse := by
  cases digits with
  | nil => exact iff_of_false (fun h => by cases h) fun h => h.left rfl
  | cons c rest =>
      have hfold : ∀ values : List Nat, Nat.ofDigits base values.reverse =
          values.foldl (fun n value => value + base * n) 0 := by
        intro values
        rw [Nat.ofDigits_eq_foldr, List.foldr_reverse]
        rfl
      simp only [hfold]
      exact foldlM_eq_some_iff.trans (and_iff_right (List.cons_ne_nil c rest)).symm

namespace Style

variable {style other : Style} {digits others : List Char} {size : Nat}

theorem positional?_eq_some_iff_hasSize :
    positional? style.base style.digit? (digits.map Char.toLower) = some size ↔
      style.HasSize digits size := by
  rw [positional?_eq_some_iff, map_digit?_toLower, ne_eq, List.map_eq_nil_iff]
  exact ⟨fun h => ⟨h.left, h.right⟩, fun h => ⟨h.ne_nil, h.value⟩⟩

theorem HasSize.exists_value (h : style.HasSize digits size) {c : Char} (hc : c ∈ digits) :
    ∃ value : Nat, style.value? c = some value := by
  rcases h.value with ⟨values, hvalues, -⟩
  have hmem : style.value? c ∈ values.map some := hvalues ▸ List.mem_map_of_mem hc
  rcases List.mem_map.mp hmem with ⟨value, -, hvalue⟩
  exact ⟨value, hvalue.symm⟩

theorem hasSize_singleton {c : Char} {value : Nat} (h : style.value? c = some value) :
    style.HasSize [c] value := by
  refine ⟨List.cons_ne_nil c [], [value], ?_, ?_⟩
  · rw [List.map_singleton, h]
    rfl
  · exact Nat.ofDigits_singleton.symm

theorem HasSize.append (h : style.HasSize digits size) {c : Char} {value : Nat}
    (hc : style.value? c = some value) :
    style.HasSize (digits ++ [c]) (style.base * size + value) := by
  rcases h.value with ⟨values, hvalues, rfl⟩
  refine ⟨List.append_ne_nil_of_left_ne_nil h.ne_nil [c], values ++ [value], ?_, ?_⟩
  · rw [List.map_append, List.map_append, hvalues, List.map_singleton, hc]
    rfl
  · rw [List.reverse_append, List.reverse_singleton, List.singleton_append, Nat.ofDigits_cons,
      Nat.add_comm]

theorem hasSize_toDigits (style : Style) (n : Nat) :
    style.HasSize (Nat.toDigits style.base n) n := by
  have hbase : 1 < style.base := by
    cases style <;> decide
  have hdigit : ∀ value < style.base, style.value? (Nat.digitChar value) = some value := by
    cases style <;> decide +kernel
  induction n using Nat.strongRecOn with
  | ind n ih =>
      by_cases hsmall : n < style.base
      · rw [Nat.toDigits_of_lt_base hsmall]
        exact hasSize_singleton (hdigit n hsmall)
      · have hquotient : n / style.base < n := Nat.div_lt_self (by omega) hbase
        have hrest : n % style.base < style.base := Nat.mod_lt n (by omega)
        have hpositive : 0 < n / style.base := Nat.div_pos (by omega) (by omega)
        have hdigits := Nat.toDigits_append_toDigits hbase hpositive hrest
        rw [Nat.div_add_mod, Nat.toDigits_of_lt_base hrest] at hdigits
        have hsize := (ih _ hquotient).append (hdigit _ hrest)
        rwa [Nat.div_add_mod, hdigits] at hsize

theorem exists_hasSize (hne : digits ≠ []) (h : ∀ c ∈ digits, (style.value? c).isSome = true) :
    ∃ size : Nat, style.HasSize digits size := by
  have hvalues : ∃ values : List Nat, digits.map style.value? = values.map some := by
    refine ⟨digits.filterMap style.value?, ?_⟩
    clear hne
    induction digits with
    | nil => rfl
    | cons c rest ih =>
        rcases Option.isSome_iff_exists.mp (h c (List.mem_cons_self ..)) with ⟨value, hvalue⟩
        have hrest := ih fun d hd => h d (List.mem_cons_of_mem _ hd)
        rw [List.map_cons, List.filterMap_cons, hvalue, hrest]
        rfl
  rcases hvalues with ⟨values, hvalues⟩
  exact ⟨_, hne, values, hvalues, rfl⟩

/-!
# Sizes
-/

def read (style : Style) (digits : List Char) : Except NumberError Nat :=
  if style = decimal ∧ ¬Decimal.isReadable digits = true ∧
      digits.all (fun c => (Text.digitValue? c).isSome) = true then
    .error .tooLong
  else orMalformed (positional? style.base style.digit? digits)

/-- Every text can be taken as that of a style, be it of the last. -/
theorem exists_style_of_magnitude (text : List Char) :
    ∃ (style : Style) (digits : List Char),
      text = style.opening ++ digits ∧ magnitude text = style.read digits := by
  unfold magnitude
  split
  · next digits => exact ⟨zeroHexadecimal, digits, rfl, rfl⟩
  · next digits => exact ⟨hexadecimal, digits, rfl, rfl⟩
  · next digits => exact ⟨binary, digits, rfl, rfl⟩
  · refine ⟨decimal, text, rfl, ?_⟩
    simp [read, base, digit?]

/-- No letter is a decimal digit, so that decimal digits are not taken for an opening. -/
theorem magnitude_opening (h : style.HasSize digits size) :
    magnitude (style.opening ++ digits.map Char.toLower) =
      style.read (digits.map Char.toLower) := by
  cases style with
  | zeroHexadecimal => rfl
  | hexadecimal => rfl
  | binary => rfl
  | decimal =>
      have hletter : ∀ letter ∈ digits.map Char.toLower, letter ≠ 'x' ∧ letter ≠ 'b' := by
        intro letter hmem
        rcases List.mem_map.mp hmem with ⟨c, hc, rfl⟩
        rcases h.exists_value hc with ⟨value, hvalue⟩
        rw [← digit?_toLower] at hvalue
        constructor
        · intro hx
          rw [hx] at hvalue
          revert hvalue
          simp [show digit? decimal 'x' = none by decide +kernel]
        · intro hb
          rw [hb] at hvalue
          revert hvalue
          simp [show digit? decimal 'b' = none by decide +kernel]
      generalize digits.map Char.toLower = lowered at hletter
      show magnitude lowered = _
      unfold magnitude
      split
      · exact absurd rfl (hletter 'x' (by simp)).left
      · exact absurd rfl (hletter 'x' (by simp)).left
      · exact absurd rfl (hletter 'b' (by simp)).right
      · simp [read, base, digit?]

theorem read_of_hasSize (h : style.HasSize digits size) :
    style.read (digits.map Char.toLower) =
      if style.Fits digits then .ok size else .error .tooLong := by
  have hsize : positional? style.base style.digit? (digits.map Char.toLower) = some size :=
    positional?_eq_some_iff_hasSize.mpr h
  unfold read
  rw [hsize]
  by_cases hfits : style.Fits digits
  · rw [if_pos hfits, if_neg]
    · rfl
    · rintro ⟨hdecimal, hlong, -⟩
      exact hlong (decide_eq_true (by simpa using hfits hdecimal))
  · rcases Classical.not_imp.mp hfits with ⟨rfl, hlong⟩
    rw [if_neg hfits, if_pos]
    refine ⟨rfl, fun hreadable => hlong ?_, ?_⟩
    · simpa using of_decide_eq_true hreadable
    · rw [List.all_eq_true]
      intro letter hmem
      rcases List.mem_map.mp hmem with ⟨c, hc, rfl⟩
      rcases h.exists_value hc with ⟨value, hvalue⟩
      rw [← digit?_toLower] at hvalue
      exact Option.isSome_of_eq_some hvalue

theorem exists_hasSize_of_read
    (h : style.read (digits.map Char.toLower) ≠ .error .malformed) :
    ∃ size : Nat, style.HasSize digits size := by
  unfold read at h
  split at h
  · next hlong =>
      rcases hlong with ⟨rfl, hlong, hdigits⟩
      refine exists_hasSize ?_ ?_
      · rintro rfl
        exact hlong rfl
      · intro c hc
        have hdigit := List.all_eq_true.mp hdigits c.toLower (List.mem_map_of_mem hc)
        rwa [← digit?_toLower]
  · cases hsize : positional? style.base style.digit? (digits.map Char.toLower) with
    | some size => exact ⟨size, positional?_eq_some_iff_hasSize.mp hsize⟩
    | none =>
        rw [hsize] at h
        exact absurd rfl h

end Style

/-!
# Texts of numbers
-/

theorem dropMark_append {mark : Char} {rest : List Char} (h : rest.head? ≠ some mark)
    (isMarked : Bool) :
    dropMark mark ((if isMarked then [mark] else []) ++ rest) = (isMarked, rest) := by
  cases isMarked with
  | true => simp [dropMark]
  | false =>
      cases rest with
      | nil => rfl
      | cons c rest => exact if_neg fun hc => h (congrArg some hc)

theorem eq_append_dropMark (mark : Char) (text : List Char) :
    text = (if (dropMark mark text).1 then [mark] else []) ++ (dropMark mark text).2 := by
  cases text with
  | nil => rfl
  | cons c rest =>
      by_cases hc : c = mark
      · simp [dropMark, hc]
      · simp [dropMark, hc]

theorem readNumber_eq (written : List Char) :
    readNumber written =
      let unmarked := (dropMark '#' (Text.strip written)).2
      (magnitude ((dropMark '-' unmarked).2.map Char.toLower)).map
        (WrittenNumber.signed (dropMark '-' unmarked).1) := by
  unfold readNumber
  dsimp only
  generalize dropMark '-' (dropMark '#' (Text.strip written)).2 = signed
  cases magnitude (signed.2.map Char.toLower) with
  | ok size => rfl
  | error error => rfl

namespace WrittenNumber

variable {number : WrittenNumber} {written : List Char} {n : Int}

theorem exists_of_readNumber (written : List Char) :
    ∃ number : WrittenNumber, number.StandsIn written ∧
      number.opening.map Char.toLower = number.style.opening ∧
      readNumber written =
        (number.style.read (number.digits.map Char.toLower)).map (signed number.isNegative) := by
  rcases Text.exists_eq_append_strip_append written with ⟨before, after, hbefore, hafter, hwritten⟩
  have hmark := eq_append_dropMark '#' (Text.strip written)
  have hread := readNumber_eq written
  dsimp only at hread
  generalize Text.strip written = text at *
  generalize dropMark '#' text = marked at *
  have hsign := eq_append_dropMark '-' marked.2
  generalize dropMark '-' marked.2 = signed at *
  rcases Style.exists_style_of_magnitude (signed.2.map Char.toLower) with
    ⟨style, lowered, hlowered, hmagnitude⟩
  rcases List.map_eq_append_iff.mp hlowered with ⟨opening, digits, hsize, hopening, rfl⟩
  refine ⟨⟨marked.1, signed.1, style, opening, digits⟩, ⟨before, after, hbefore, hafter, ?_⟩,
    hopening, ?_⟩
  · rw [hwritten, hmark, hsign, hsize]
    simp only [WrittenNumber.text, List.append_assoc]
  · rw [hread, hmagnitude]

theorem Means.isBlank_of_mem (h : number.Means n) {c : Char}
    (hc : c ∈ number.opening ++ number.digits) : Text.isBlank c = false ∧ c ≠ '#' ∧ c ≠ '-' := by
  rcases List.mem_append.mp hc with hopening | hdigits
  · have hletter : c.toLower ∈ number.style.opening := h.opening ▸ List.mem_map_of_mem hopening
    have hletters : ∀ style : Style, ∀ letter ∈ style.opening,
        Text.isBlank letter = false ∧ letter ≠ '#' ∧ letter ≠ '-' := by
      intro style
      cases style <;> simp [Style.opening, Text.isBlank]
    have hparts := hletters _ _ hletter
    rw [Text.isBlank_toLower, ne_eq, Text.toLower_eq_iff (by decide), ne_eq,
      Text.toLower_eq_iff (by decide)] at hparts
    exact hparts
  · rcases h.size with ⟨size, hsize, -⟩
    rcases hsize.exists_value hdigits with ⟨value, hvalue⟩
    rcases Style.isBlank_of_value? hvalue with ⟨hrange, hblank⟩
    have hmark : '#'.toNat = 0x23 := rfl
    have hsign : '-'.toNat = 0x2d := rfl
    rw [ne_eq, ne_eq, ← Char.toNat_inj, ← Char.toNat_inj, hmark, hsign]
    exact ⟨hblank, by omega, by omega⟩

theorem Means.isField_text (h : number.Means n) : Text.IsField Text.isBlank number.text := by
  constructor
  · rcases h.size with ⟨size, hsize, -⟩
    exact List.append_ne_nil_of_right_ne_nil _ hsize.ne_nil
  · intro c hc
    unfold WrittenNumber.text at hc
    rw [List.append_assoc, List.mem_append, List.mem_append] at hc
    rcases hc with (hmark | hsign) | hrest
    · split at hmark
      · cases List.mem_singleton.mp hmark
        rfl
      · cases hmark
    · split at hsign
      · cases List.mem_singleton.mp hsign
        rfl
      · cases hsign
    · exact (h.isBlank_of_mem hrest).left

theorem Means.dropMark_text (h : number.Means n) :
    dropMark '#' number.text = (number.isMarked,
      (if number.isNegative then ['-'] else []) ++ (number.opening ++ number.digits)) := by
  unfold WrittenNumber.text
  rw [List.append_assoc, List.append_assoc]
  apply dropMark_append
  intro hhead
  have hmem := List.mem_of_mem_head? hhead
  rcases List.mem_append.mp hmem with hsign | hrest
  · split at hsign
    · cases List.mem_singleton.mp hsign
    · cases hsign
  · exact (h.isBlank_of_mem hrest).right.left rfl

theorem Means.dropSign (h : number.Means n) :
    dropMark '-' ((if number.isNegative then ['-'] else []) ++
      (number.opening ++ number.digits)) =
        (number.isNegative, number.opening ++ number.digits) :=
  dropMark_append (fun hhead =>
    (h.isBlank_of_mem (List.mem_of_mem_head? hhead)).right.right rfl) number.isNegative

theorem readNumber_of_means (hwritten : number.StandsIn written) (h : number.Means n) :
    readNumber written =
      if number.style.Fits number.digits then .ok n else .error .tooLong := by
  rcases hwritten with ⟨before, after, hbefore, hafter, rfl⟩
  rcases h.size with ⟨size, hsize, rfl⟩
  have hstrip : Text.strip (before ++ number.text ++ after) = number.text := by
    rw [Text.strip_append_append hbefore hafter, Text.strip_field h.isField_text]
  have hmagnitude := Style.magnitude_opening hsize
  rw [readNumber_eq, hstrip, h.dropMark_text]
  dsimp only
  rw [h.dropSign]
  dsimp only
  rw [List.map_append, h.opening, hmagnitude, Style.read_of_hasSize hsize]
  split
  · rfl
  · rfl

theorem readNumber_eq_malformed_iff :
    readNumber written = .error .malformed ↔
      ¬∃ (number : WrittenNumber) (n : Int), number.StandsIn written ∧ number.Means n := by
  constructor
  · rintro hread ⟨number, n, hwritten, h⟩
    rw [readNumber_of_means hwritten h] at hread
    split at hread <;> cases hread
  · intro hnone
    rcases exists_of_readNumber written with ⟨number, hwritten, hopening, hread⟩
    by_cases hdigits : number.style.read (number.digits.map Char.toLower) = .error .malformed
    · rw [hread, hdigits]
      rfl
    · rcases Style.exists_hasSize_of_read hdigits with ⟨size, hsize⟩
      exact absurd ⟨number, _, hwritten, hopening, size, hsize, rfl⟩ hnone

theorem exists_of_not_malformed (h : readNumber written ≠ .error .malformed) :
    ∃ (number : WrittenNumber) (n : Int), number.StandsIn written ∧ number.Means n ∧
      readNumber written =
        if number.style.Fits number.digits then .ok n else .error .tooLong := by
  rcases not_not.mp (mt readNumber_eq_malformed_iff.mpr h) with ⟨number, n, hwritten, hnumber⟩
  exact ⟨number, n, hwritten, hnumber, readNumber_of_means hwritten hnumber⟩

theorem readNumber_eq_ok_iff :
    readNumber written = .ok n ↔
      ∃ number : WrittenNumber, number.StandsIn written ∧ number.Means n ∧
        number.style.Fits number.digits := by
  constructor
  · intro hread
    have hwell : readNumber written ≠ .error .malformed := by
      simp [hread]
    rcases exists_of_not_malformed hwell with ⟨number, m, hwritten, hnumber, hif⟩
    rw [hread] at hif
    split at hif
    · next hfits =>
        cases hif
        exact ⟨number, hwritten, hnumber, hfits⟩
    · cases hif
  · rintro ⟨number, hwritten, hnumber, hfits⟩
    rw [readNumber_of_means hwritten hnumber, if_pos hfits]

theorem readNumber_eq_tooLong_iff :
    readNumber written = .error .tooLong ↔
      ∃ (number : WrittenNumber) (n : Int), number.StandsIn written ∧ number.Means n ∧
        ¬number.style.Fits number.digits := by
  constructor
  · intro hread
    have hwell : readNumber written ≠ .error .malformed := by
      simp [hread]
    rcases exists_of_not_malformed hwell with ⟨number, n, hwritten, hnumber, hif⟩
    rw [hread] at hif
    split at hif
    · cases hif
    · next hlong => exact ⟨number, n, hwritten, hnumber, hlong⟩
  · rintro ⟨number, n, hwritten, hnumber, hlong⟩
    rw [readNumber_of_means hwritten hnumber, if_neg hlong]

/-!
# Integers in each of the styles
-/

theorem standsIn_text (number : WrittenNumber) : number.StandsIn number.text :=
  ⟨[], [], by simp, by simp, by simp⟩

theorem means_ofInt (style : Style) (isMarked : Bool) (n : Int) :
    (ofInt style isMarked n).Means n := by
  constructor
  · cases style <;> rfl
  · refine ⟨n.natAbs, Style.hasSize_toDigits style n.natAbs, ?_⟩
    show n = if decide (n < 0) = true then -(n.natAbs : Int) else n.natAbs
    simp only [decide_eq_true_eq]
    split <;> omega

end WrittenNumber

/-- The numbers that a text can have in it are what it is read as, and a text without one is
malformed; a decimal number of too many digits is refused for its length.  An integer that is
written in any of the styles is read back. -/
theorem readNumber_exact :
    (∀ (written : List Char) (n : Int), readNumber written = .ok n ↔
      ∃ number : WrittenNumber, number.StandsIn written ∧ number.Means n ∧
        number.style.Fits number.digits) ∧
    (∀ written : List Char, readNumber written = .error .tooLong ↔
      ∃ (number : WrittenNumber) (n : Int), number.StandsIn written ∧ number.Means n ∧
        ¬number.style.Fits number.digits) ∧
    (∀ written : List Char, readNumber written = .error .malformed ↔
      ¬∃ (number : WrittenNumber) (n : Int), number.StandsIn written ∧ number.Means n) ∧
    (∀ (style : Style) (isMarked : Bool) (n : Int),
      readNumber (WrittenNumber.ofInt style isMarked n).text =
        if style.Fits (Nat.toDigits style.base n.natAbs) then .ok n else .error .tooLong) := by
  refine ⟨fun written n => ?_, fun written => ?_, fun written => ?_, fun style isMarked n => ?_⟩
  · exact WrittenNumber.readNumber_eq_ok_iff
  · exact WrittenNumber.readNumber_eq_tooLong_iff
  · exact WrittenNumber.readNumber_eq_malformed_iff
  · exact WrittenNumber.readNumber_of_means (WrittenNumber.standsIn_text _)
      (WrittenNumber.means_ofInt style isMarked n)

example : readNumber "\t#-0X1f ".toList = .ok (-31) := by
  decide +kernel

end Source
end LittleComputer
