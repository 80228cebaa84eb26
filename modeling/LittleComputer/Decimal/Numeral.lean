/-!
# Numerals

The decimal numeral of an integer has at most 4300 digits.  A longer row of digits is not read, even
if it begins with zeros, and an integer that would need a longer one is not written.

This counts wherever an integer comes from a caller or from a text: when it is read, when it is
refused, and when the binding of a label to it is reported.  It is left out of all that an engine
writes, in its records as in the messages of its faults.  An engine computes words, and it only meets
an integer of so many digits if one is put straight into its processor or its labels.
-/

namespace LittleComputer
namespace Decimal

def maxDigits : Nat :=
  4300

def isReadable (digits : List Char) : Bool :=
  digits.length ≤ maxDigits

/-- Whether an integer is small enough to be written; its sign is no digit.  Since no digit takes
four bits, an integer of very many bits is settled without its digits. -/
def isWritable (n : Int) : Bool :=
  n.natAbs.log2 < 4 * maxDigits && isReadable (Nat.toDigits 10 n.natAbs)

end Decimal
end LittleComputer
