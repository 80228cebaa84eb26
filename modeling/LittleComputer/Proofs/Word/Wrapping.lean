import LittleComputer.Proofs.Word.BitVector
import Mathlib.Data.Int.Bitwise
import Mathlib.Data.Int.ModEq

/-!
# Wrapping integers of any size

Both representatives of an integer are told by its residue modulo 65536, so it does not matter
whether, how often and in which of the two ways the operands of a sum, a conjunction or a complement
are wrapped before the result is.  Conjunctions and complements of signed words are signed words, so
their results need no wrapping at all.
-/

namespace LittleComputer
namespace Word

/-!
# Residues
-/

theorem signed_modEq (value : Int) : signed value ≡ value [ZMOD 0x10000] :=
  Int.bmod_emod

theorem unsigned_modEq (value : Int) : unsigned value ≡ value [ZMOD 0x10000] :=
  Int.mod_modEq value 0x10000

theorem unsigned_eq_iff {m n : Int} : unsigned m = unsigned n ↔ m ≡ n [ZMOD 0x10000] :=
  Iff.rfl

theorem signed_eq_iff {m n : Int} : signed m = signed n ↔ m ≡ n [ZMOD 0x10000] := by
  constructor
  · intro h
    calc
      m ≡ signed m [ZMOD 0x10000] := (signed_modEq m).symm
      _ = signed n := h
      _ ≡ n [ZMOD 0x10000] := signed_modEq n
  · intro h
    have hresidue : m % modulus = n % modulus := h
    simp only [signed, Int.bmod, hresidue]

theorem bits_eq_iff {m n : Int} : bits m = bits n ↔ m ≡ n [ZMOD 0x10000] := by
  rw [← signed_eq_iff, signed_eq_toInt_bits, signed_eq_toInt_bits, BitVec.toInt_inj]

theorem signed_eq_self {value : Int} (hlow : -0x8000 ≤ value) (hhigh : value ≤ 0x7fff) :
    signed value = value := by
  rw [signed_eq_toInt_bits, toInt_bits_of_mem hlow hhigh]

theorem unsigned_eq_self {value : Int} (hlow : 0 ≤ value) (hhigh : value ≤ 0xffff) :
    unsigned value = value := by
  apply Int.emod_eq_of_lt hlow
  show value < 0x10000
  omega

/-!
# Digits of unlimited integers
-/

theorem conjunction_eq_land (m n : Int) : conjunction m n = Int.land m n := by
  have hldiff (x y : Nat) : x ^^^ (x &&& y) = Nat.ldiff x y := by
    apply Nat.eq_of_testBit_eq
    intro place
    rw [Nat.testBit_xor, Nat.testBit_and, Nat.testBit_ldiff]
    cases x.testBit place <;> cases y.testBit place <;> rfl
  cases m with
  | ofNat m =>
      cases n with
      | ofNat n => rfl
      | negSucc n => exact congrArg Int.ofNat (hldiff m n)
  | negSucc m =>
      cases n with
      | ofNat n => exact congrArg Int.ofNat (hldiff n m)
      | negSucc n => rfl

theorem complement_eq_lnot (value : Int) : complement value = Int.lnot value := by
  cases value with
  | ofNat n => exact complement_natCast n
  | negSucc n => exact complement_negSucc n

theorem testBit_conjunction (m n : Int) (place : Nat) :
    (conjunction m n).testBit place = (m.testBit place && n.testBit place) := by
  rw [conjunction_eq_land, Int.testBit_land]

theorem testBit_complement (value : Int) (place : Nat) :
    (complement value).testBit place = !value.testBit place := by
  rw [complement_eq_lnot, Int.testBit_lnot]

/-!
# Signed words under the operations
-/

/-- A conjunction with a number of so many digits is a number of at most as many. -/
theorem exists_conjunction_natCast (value : Int) {n digits : Nat} (hn : n < 2 ^ digits) :
    ∃ r : Nat, r < 2 ^ digits ∧ conjunction value n = r := by
  cases value with
  | ofNat m => exact ⟨m &&& n, Nat.and_lt_two_pow m hn, rfl⟩
  | negSucc m =>
      have hand : n &&& m < 2 ^ digits := Nat.lt_of_le_of_lt Nat.and_le_left hn
      exact ⟨n ^^^ (n &&& m), Nat.xor_lt_two_pow hn hand, rfl⟩

theorem conjunction_comm (m n : Int) : conjunction m n = conjunction n m := by
  cases m with
  | ofNat m =>
      cases n with
      | ofNat n => exact congrArg Int.ofNat (Nat.and_comm m n)
      | negSucc n => rfl
  | negSucc m =>
      cases n with
      | ofNat n => rfl
      | negSucc n => exact congrArg Int.negSucc (Nat.or_comm m n)

theorem conjunction_mem {m n : Int} (hm : -0x8000 ≤ m ∧ m ≤ 0x7fff)
    (hn : -0x8000 ≤ n ∧ n ≤ 0x7fff) :
    -0x8000 ≤ conjunction m n ∧ conjunction m n ≤ 0x7fff := by
  have hnat (value : Int) (k : Nat) (hk : (k : Int) ≤ 0x7fff) :
      -0x8000 ≤ conjunction value k ∧ conjunction value k ≤ 0x7fff := by
    have hlt : k < 2 ^ 15 := by
      omega
    rcases exists_conjunction_natCast value hlt with ⟨r, hr, heq⟩
    omega
  cases n with
  | ofNat n => exact hnat m n hn.right
  | negSucc n =>
      cases m with
      | ofNat m =>
          rw [conjunction_comm]
          exact hnat (Int.negSucc n) m hm.right
      | negSucc m =>
          have hor : m ||| n < 2 ^ 15 := Nat.or_lt_two_pow (by omega) (by omega)
          show -0x8000 ≤ Int.negSucc (m ||| n) ∧ Int.negSucc (m ||| n) ≤ 0x7fff
          omega

theorem signed_conjunction (m n : Int) :
    signed (conjunction m n) = conjunction (signed m) (signed n) := by
  have hmem := conjunction_mem ⟨le_signed m, signed_le m⟩ ⟨le_signed n, signed_le n⟩
  calc
    signed (conjunction m n) = signed (conjunction (signed m) (signed n)) := by
      rw [signed_eq_iff, ← bits_eq_iff]
      simp
    _ = conjunction (signed m) (signed n) := signed_eq_self hmem.left hmem.right

theorem signed_complement (value : Int) :
    signed (complement value) = complement (signed value) := by
  have hlow := le_signed value
  have hhigh := signed_le value
  calc
    signed (complement value) = signed (complement (signed value)) := by
      rw [signed_eq_iff, ← bits_eq_iff]
      simp
    _ = complement (signed value) := by
      apply signed_eq_self
      · unfold complement
        omega
      · unfold complement
        omega

theorem signed_add (m n : Int) : signed (m + n) = signed (signed m + signed n) := by
  rw [signed_eq_iff, ← bits_eq_iff]
  simp

/-!
# Masks
-/

theorem unsigned_eq_mask (value : Int) : unsigned value = conjunction value 0xffff := by
  have hmask : (0xffff : Nat) < 2 ^ 16 := by
    decide
  rcases exists_conjunction_natCast value hmask with ⟨r, hr, heq⟩
  have hmasked : conjunction value 0xffff = r := heq
  calc
    unsigned value = unsigned (conjunction value 0xffff) := by
      have hones : bits 0xffff = BitVec.allOnes 16 := by
        decide
      rw [unsigned_eq_iff, ← bits_eq_iff, bits_conjunction, hones, BitVec.and_allOnes]
    _ = conjunction value 0xffff := unsigned_eq_self (by omega) (by omega)

theorem conjunction_signDigit_eq_zero_iff (value : Int) :
    conjunction (unsigned value) 0x8000 = 0 ↔ unsigned value < 0x8000 := by
  have hlt := unsigned_lt value
  rcases Int.eq_ofNat_of_zero_le (unsigned_nonneg value) with ⟨n, hn⟩
  rw [hn] at hlt ⊢
  show ((n &&& 2 ^ 15 : Nat) : Int) = 0 ↔ (n : Int) < 0x8000
  rw [Nat.and_two_pow, Nat.testBit_eq_decide_div_mod_eq]
  by_cases hsmall : (n : Int) < 0x8000
  · have hdigit : ¬n / 2 ^ 15 % 2 = 1 := by
      omega
    rw [decide_eq_false hdigit]
    exact iff_of_true rfl hsmall
  · have hdigit : n / 2 ^ 15 % 2 = 1 := by
      omega
    rw [decide_eq_true hdigit]
    exact iff_of_false (by decide) hsmall

theorem signed_eq_unsigned (value : Int) :
    signed value =
      if conjunction (unsigned value) 0x8000 = 0 then unsigned value
      else unsigned value - 0x10000 := by
  simp only [conjunction_signDigit_eq_zero_iff]
  rfl

/-- Either representative lies in its range, has the residue of the integer that is wrapped and is
told by it, so that the last wrapping alone counts.  Sums can be taken of wrapped operands, and
conjunctions and complements act on signed words as they do on integers of any size: digit by digit
in two's complement.  Wrapping itself is a conjunction with a mask, and the highest digit of the
word tells whether its signed reading is negative. -/
theorem wrapping_homomorphism (m n : Int) :
    (-0x8000 ≤ signed m ∧ signed m ≤ 0x7fff ∧ signed m ≡ m [ZMOD 0x10000]) ∧
    (0 ≤ unsigned m ∧ unsigned m ≤ 0xffff ∧ unsigned m ≡ m [ZMOD 0x10000]) ∧
    (signed m = signed n ↔ m ≡ n [ZMOD 0x10000]) ∧
    (unsigned m = unsigned n ↔ m ≡ n [ZMOD 0x10000]) ∧
    (signed (signed m) = signed m ∧ unsigned (unsigned m) = unsigned m ∧
      signed (unsigned m) = signed m ∧ unsigned (signed m) = unsigned m) ∧
    signed (m + n) = signed (signed m + signed n) ∧
    signed (conjunction m n) = conjunction (signed m) (signed n) ∧
    signed (complement m) = complement (signed m) ∧
    (∀ place : Nat,
      (conjunction m n).testBit place = (m.testBit place && n.testBit place) ∧
        (complement m).testBit place = !m.testBit place) ∧
    unsigned m = conjunction m 0xffff ∧
    signed m =
      if conjunction (unsigned m) 0x8000 = 0 then unsigned m else unsigned m - 0x10000 := by
  refine ⟨⟨le_signed m, signed_le m, signed_modEq m⟩, ?_, signed_eq_iff, unsigned_eq_iff, ?_,
    signed_add m n, signed_conjunction m n, signed_complement m, ?_, unsigned_eq_mask m,
    signed_eq_unsigned m⟩
  · exact ⟨unsigned_nonneg m, Int.le_of_lt_add_one (unsigned_lt m), unsigned_modEq m⟩
  · exact ⟨signed_eq_iff.mpr (signed_modEq m), unsigned_eq_iff.mpr (unsigned_modEq m),
      signed_eq_iff.mpr (unsigned_modEq m), unsigned_eq_iff.mpr (signed_modEq m)⟩
  · intro place
    exact ⟨testBit_conjunction m n place, testBit_complement m place⟩

end Word
end LittleComputer
