import LittleComputer.Text.Blank
import LittleComputer.Text.LetterCase

/-!
# The case of ASCII letters

Two texts that differ by the case of ASCII letters are the same text in small letters.  The full
case mappings do not tell them apart: a small letter has the same capital as its capital, and is as
much of a letter as that where the form of a sigma is decided.
-/

namespace LittleComputer
namespace Text

theorem toNat_toLower (c : Char) :
    c.toLower.toNat = if 0x41 ≤ c.toNat ∧ c.toNat ≤ 0x5a then c.toNat + 0x20 else c.toNat := by
  unfold Char.toLower
  split
  · next hcapital =>
      have hrange : 0x41 ≤ c.toNat ∧ c.toNat ≤ 0x5a := hcapital
      have hshift : ('a'.val - 'A'.val).toNat = 0x20 := rfl
      rw [if_pos hrange]
      show (c.val + ('a'.val - 'A'.val)).toNat = c.toNat + 0x20
      rw [UInt32.toNat_add, hshift, Char.toNat_val]
      omega
  · next hother => exact (if_neg hother).symm

theorem toLower_eq_self {c : Char} (h : c.toNat < 0x41 ∨ 0x5a < c.toNat) : c.toLower = c := by
  rw [← Char.toNat_inj, toNat_toLower, if_neg (by omega)]

theorem toLower_toLower (c : Char) : c.toLower.toLower = c.toLower := by
  apply toLower_eq_self
  rw [toNat_toLower]
  split <;> omega

theorem toUpper_toLower (c : Char) : c.toLower.toUpper = c.toUpper := by
  have hcapitals : ∀ n < 0x5b, 0x41 ≤ n ->
      (Char.ofNat n).toLower.toUpper = (Char.ofNat n).toUpper := by
    decide +kernel
  by_cases hcapital : 0x41 ≤ c.toNat ∧ c.toNat ≤ 0x5a
  · have hc := hcapitals c.toNat (by omega) hcapital.left
    rwa [Char.ofNat_toNat] at hc
  · rw [toLower_eq_self (by omega)]

theorem toLower_eq_iff {c mark : Char} (h : mark.toNat < 0x41) : c.toLower = mark ↔ c = mark := by
  rw [← Char.toNat_inj, ← Char.toNat_inj, toNat_toLower]
  split <;> omega

theorem isBlank_toLower (c : Char) : isBlank c.toLower = isBlank c := by
  unfold isBlank
  dsimp only
  rw [toNat_toLower, Bool.eq_iff_iff]
  simp only [Bool.or_eq_true, Bool.and_eq_true, decide_eq_true_eq, beq_iff_eq]
  split <;> omega

theorem strip_map_toLower (cs : List Char) :
    strip (cs.map Char.toLower) = (strip cs).map Char.toLower := by
  have hblank : isBlank ∘ Char.toLower = isBlank := funext isBlank_toLower
  unfold strip stripStart stripEnd
  rw [List.dropWhile_map, hblank, ← List.map_reverse, List.dropWhile_map, hblank,
    ← List.map_reverse]

/-!
# The full mappings
-/

theorem upperChar_toLower (c : Char) : upperChar c.toLower = upperChar c := by
  by_cases hascii : c.toNat < 0x80
  · have hsmall : c.toLower.toNat < 0x80 := by
      rw [toNat_toLower]
      split <;> omega
    unfold upperChar
    rw [if_pos hsmall, if_pos hascii, toUpper_toLower]
  · rw [toLower_eq_self (by omega)]

theorem upper_map_toLower (cs : List Char) : upper (cs.map Char.toLower) = upper cs := by
  unfold upper
  rw [List.flatMap_map]
  exact congrArg (cs.flatMap ·) (funext upperChar_toLower)

/-- Both forms of an ASCII letter are of the same classes where the form of a sigma is decided. -/
theorem isCased_toLower (c : Char) : isCased c.toLower = isCased c := by
  have hletters : ∀ n : Nat, n < 0x5b -> 0x41 ≤ n ->
      inRanges casedRanges (n + 0x20) = inRanges casedRanges n := by
    decide +kernel
  unfold isCased
  rw [toNat_toLower]
  split
  · next hcapital => exact hletters c.toNat (by omega) hcapital.left
  · rfl

theorem isCaseIgnorable_toLower (c : Char) : isCaseIgnorable c.toLower = isCaseIgnorable c := by
  have hletters : ∀ n : Nat, n < 0x5b -> 0x41 ≤ n ->
      inRanges caseIgnorableRanges (n + 0x20) = inRanges caseIgnorableRanges n := by
    decide +kernel
  unfold isCaseIgnorable
  rw [toNat_toLower]
  split
  · next hcapital => exact hletters c.toNat (by omega) hcapital.left
  · rfl

theorem facesCased_map_toLower (cs : List Char) :
    facesCased (cs.map Char.toLower) = facesCased cs := by
  have hignored : (fun c => !isCaseIgnorable c) ∘ Char.toLower = fun c => !isCaseIgnorable c :=
    funext fun c => congrArg not (isCaseIgnorable_toLower c)
  unfold facesCased
  rw [List.find?_map, hignored]
  cases cs.find? fun c => !isCaseIgnorable c with
  | some c => exact isCased_toLower c
  | none => rfl

theorem lowerChar_toLower (before : List Char) (c : Char) (after : List Char) :
    lowerChar (before.map Char.toLower) c.toLower (after.map Char.toLower) =
      lowerChar before c after := by
  by_cases hascii : c.toNat < 0x80
  · have hsmall : c.toLower.toNat < 0x80 := by
      rw [toNat_toLower]
      split <;> omega
    unfold lowerChar
    rw [if_pos hsmall, if_pos hascii, toLower_toLower]
  · unfold lowerChar
    rw [toLower_eq_self (by omega), facesCased_map_toLower, facesCased_map_toLower,
      if_neg hascii, if_neg hascii]

theorem lowerFrom_map_toLower (before done cs : List Char) :
    lowerFrom (before.map Char.toLower) done (cs.map Char.toLower) = lowerFrom before done cs := by
  induction cs generalizing before done with
  | nil => rfl
  | cons c after ih =>
      have hafter := ih (c :: before) ((lowerChar before c after).reverse ++ done)
      rw [List.map_cons] at hafter ⊢
      unfold lowerFrom
      rw [lowerChar_toLower, hafter]

theorem lower_map_toLower (cs : List Char) : lower (cs.map Char.toLower) = lower cs :=
  lowerFrom_map_toLower [] [] cs

end Text
end LittleComputer
