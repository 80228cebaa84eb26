/-!
# Words of sixteen bits

Machine words are kept as integers.  An integer stands for the word with its residue modulo 65536,
read back either as a signed number or as an unsigned one.  Conjunction and complement act on the
two's-complement form of integers of any size.
-/

namespace LittleComputer
namespace Word

def modulus : Nat :=
  65536

/-- The representative in `[-32768, 32767]`. -/
def signed (value : Int) : Int :=
  Int.bmod value modulus

/-- The representative in `[0, 65535]`. -/
def unsigned (value : Int) : Int :=
  value % modulus

theorem le_signed (value : Int) : -0x8000 ≤ signed value := by
  have h := Int.le_bmod (x := value) (m := modulus) (by decide)
  unfold signed modulus at *
  omega

theorem signed_le (value : Int) : signed value ≤ 0x7fff := by
  have h := Int.bmod_lt (x := value) (m := modulus) (by decide)
  unfold signed modulus at *
  omega

theorem unsigned_nonneg (value : Int) : 0 ≤ unsigned value := by
  unfold unsigned modulus
  omega

theorem unsigned_lt (value : Int) : unsigned value < 0x10000 := by
  unfold unsigned modulus
  omega

/-- Bitwise conjunction of integers in two's complement with unlimited sign extension. -/
def conjunction : Int -> Int -> Int
  | .ofNat m, .ofNat n => .ofNat (m &&& n)
  | .ofNat m, .negSucc n => .ofNat (m ^^^ (m &&& n))
  | .negSucc m, .ofNat n => .ofNat (n ^^^ (n &&& m))
  | .negSucc m, .negSucc n => .negSucc (m ||| n)

def complement (value : Int) : Int :=
  -value - 1

end Word
end LittleComputer
