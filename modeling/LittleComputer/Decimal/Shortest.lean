import LittleComputer.Decimal.Binary64

/-!
# The shortest decimal

The text of a floating-point number has the fewest digits that read back as that number, and of
those the digits nearest to it.  They are laid out positionally when the leading digit stands
between the places -4 and 15, with at least one digit after the point, and with an exponent of at
least two digits elsewhere.
-/

namespace LittleComputer
namespace Binary64

/-! ## The digits -/

def inUnits (significand : Nat) (exponent scale : Int) : Nat × Nat :=
  (significand * Nat.pow 2 exponent.toNat * Nat.pow 10 (-scale).toNat,
    Nat.pow 2 (-exponent).toNat * Nat.pow 10 scale.toNat)

def decimalScale (significand : Nat) (exponent : Int) : Int :=
  let estimate := ((significand.log2 : Int) + exponent) * 30103 / 100000
  let isAbove (scale : Int) : Bool :=
    let (numerator, denominator) := inUnits significand exponent scale
    numerator < denominator
  ([estimate - 1, estimate, estimate + 1].find? isAbove).getD (estimate + 2)

/-- The nearer neighbour of a positive value on the grid of `10 ^ scale` that reads back as it; a
tie goes to the even one. -/
def readingBack? (significand : Nat) (exponent scale : Int) : Option Nat :=
  let (numerator, denominator) := inUnits significand exponent scale
  let below := numerator / denominator
  let readsBack (digits : Nat) : Bool :=
    ofDecimal false digits scale == finite false significand exponent
  match readsBack below, readsBack (below + 1) with
  | true, true => some (roundDiv numerator denominator)
  | true, false => some below
  | false, true => some (below + 1)
  | false, false => none

def exact (significand : Nat) (exponent : Int) : Nat × Int :=
  (significand * Nat.pow 2 exponent.toNat * Nat.pow 5 (-exponent).toNat, min exponent 0)

/-- Digits and scale of the shortest decimal of a positive value; seventeen digits are tried. -/
def shortest (significand : Nat) (exponent : Int) : Nat × Int :=
  let scale := decimalScale significand exponent
  let found := (List.range 17).findSome? fun (count : Nat) =>
    let scale := scale - (count + 1 : Nat)
    (readingBack? significand exponent scale).map fun digits => (digits, scale)
  found.getD (exact significand exponent)

/-! ## The layout -/

def dropTrailingZeros (digits : List Char) : List Char :=
  (digits.reverse.dropWhile (· == '0')).reverse

def positional (digits : List Char) (place : Int) : List Char :=
  if place ≤ 0 then '0' :: '.' :: List.replicate (-place).toNat '0' ++ digits
  else
    let whole := digits.take place.toNat
    let rest := digits.drop place.toNat
    let padding := List.replicate (place.toNat - digits.length) '0'
    whole ++ padding ++ '.' :: (if rest.isEmpty then ['0'] else rest)

def scientific (digits : List Char) (exponent : Int) : List Char :=
  let fraction := digits.drop 1
  let size := Nat.toDigits 10 exponent.natAbs
  digits.take 1 ++ (if fraction.isEmpty then [] else '.' :: fraction) ++
    'e' :: (if exponent < 0 then '-' else '+') ::
      (List.replicate (2 - size.length) '0' ++ size)

def layOut (digits : List Char) (place : Int) : List Char :=
  if -4 < place ∧ place ≤ 16 then positional digits place else scientific digits (place - 1)

def text : Binary64 -> String
  | nan => "nan"
  | infinite negative => if negative then "-inf" else "inf"
  | finite negative significand exponent =>
      let sign := if negative then ['-'] else []
      if significand = 0 then String.ofList (sign ++ ['0', '.', '0'])
      else
        let (digits, scale) := shortest significand exponent
        let all := Nat.toDigits 10 digits
        String.ofList (sign ++ layOut (dropTrailingZeros all) (all.length + scale))

end Binary64
end LittleComputer
