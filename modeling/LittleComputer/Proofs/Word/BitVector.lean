import LittleComputer.Processor

/-!
# Words as bit vectors

An integer stands for the sixteen bits of its residue.  Wrapping keeps those bits, and the two
representatives of a word are its signed and its unsigned reading.  Addition, conjunction and
complement of integers of any size act on the bits alone, so a machine that wraps whatever it writes
computes with words.
-/

namespace LittleComputer

def Word.bits (value : Int) : BitVec 16 :=
  BitVec.ofInt 16 value

namespace Word

/-!
# Representatives
-/

theorem signed_eq_toInt_bits (value : Int) : signed value = (bits value).toInt := by
  unfold bits
  rw [BitVec.toInt_ofInt]
  rfl

theorem unsigned_eq_toNat_bits (value : Int) : unsigned value = (bits value).toNat := by
  unfold bits unsigned modulus
  rw [BitVec.toNat_ofInt]
  omega

@[simp] theorem bits_toInt (word : BitVec 16) : bits word.toInt = word :=
  BitVec.ofInt_toInt

@[simp] theorem bits_signed (value : Int) : bits (signed value) = bits value := by
  rw [signed_eq_toInt_bits, bits_toInt]

/-- An integer that is a signed word already is the signed reading of its bits. -/
theorem signed_signed (value : Int) : signed (signed value) = signed value :=
  Int.bmod_bmod

theorem toInt_bits_of_mem {value : Int} (hlow : -0x8000 ≤ value) (hhigh : value ≤ 0x7fff) :
    (bits value).toInt = value := by
  unfold bits
  apply BitVec.toInt_ofInt_eq_self (by decide) <;> omega

/-!
# Operations
-/

@[simp] theorem bits_add (m n : Int) : bits (m + n) = bits m + bits n :=
  BitVec.ofInt_add m n

@[simp] theorem bits_natCast (n : Nat) : bits n = BitVec.ofNat 16 n :=
  BitVec.ofInt_natCast 16 n

@[simp] theorem bits_negSucc (n : Nat) : bits (Int.negSucc n) = ~~~BitVec.ofNat 16 n :=
  BitVec.ofInt_negSucc_eq_not_ofNat

theorem complement_natCast (n : Nat) : complement n = Int.negSucc n := by
  unfold complement
  omega

theorem complement_negSucc (n : Nat) : complement (Int.negSucc n) = n := by
  unfold complement
  omega

@[simp] theorem bits_complement (value : Int) : bits (complement value) = ~~~bits value := by
  cases value with
  | ofNat n => rw [Int.ofNat_eq_natCast, complement_natCast, bits_negSucc, bits_natCast]
  | negSucc n => rw [complement_negSucc, bits_natCast, bits_negSucc, BitVec.not_not]

/-- What `m ^^^ (m &&& n)` keeps are the bits of `m` that `n` has not. -/
theorem xor_and_self (x y : BitVec 16) : x ^^^ (x &&& y) = x &&& ~~~y := by
  apply BitVec.eq_of_getElem_eq
  intro i hi
  simp only [BitVec.getElem_xor, BitVec.getElem_and, BitVec.getElem_not]
  cases x[i] <;> cases y[i] <;> rfl

@[simp] theorem bits_conjunction (m n : Int) : bits (conjunction m n) = bits m &&& bits n := by
  cases m with
  | ofNat m =>
      cases n with
      | ofNat n =>
          show bits ((m &&& n : Nat) : Int) = bits (m : Int) &&& bits (n : Int)
          rw [bits_natCast, bits_natCast, bits_natCast, BitVec.ofNat_and]
      | negSucc n =>
          show bits ((m ^^^ (m &&& n) : Nat) : Int) = bits (m : Int) &&& _
          rw [bits_natCast, bits_natCast, bits_negSucc, BitVec.ofNat_xor, BitVec.ofNat_and,
            xor_and_self]
  | negSucc m =>
      cases n with
      | ofNat n =>
          show bits ((n ^^^ (n &&& m) : Nat) : Int) = _ &&& bits (n : Int)
          rw [bits_natCast, bits_natCast, bits_negSucc, BitVec.ofNat_xor, BitVec.ofNat_and,
            xor_and_self, BitVec.and_comm]
      | negSucc n =>
          show bits (Int.negSucc (m ||| n)) = _
          rw [bits_negSucc, bits_negSucc, bits_negSucc, BitVec.ofNat_or, BitVec.not_or]

end Word

namespace Processor

theorem cell_eq_toNat_bits (address : Int) : cell address = (Word.bits address).toNat := by
  unfold cell
  rw [Word.unsigned_eq_toNat_bits, Int.toNat_natCast]

theorem cell_eq_iff {address other : Int} :
    cell address = cell other ↔ address % 0x10000 = other % 0x10000 := by
  unfold cell Word.unsigned Word.modulus
  omega

end Processor
end LittleComputer
