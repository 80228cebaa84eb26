import LittleComputer.Decimal.Binary64

/-!
# Reading decimals

A decimal literal is digits with an optional point among or before them and an optional exponent.
-/

namespace LittleComputer
namespace Decimal

def ofDigits (digits : List Char) : Nat :=
  digits.foldl (fun n c => 10 * n + (c.toNat - '0'.toNat)) 0

def spanDigits (cs : List Char) : List Char × List Char :=
  cs.span Char.isDigit

def spanSign : List Char -> Bool × List Char
  | '-' :: rest => (true, rest)
  | '+' :: rest => (false, rest)
  | cs => (false, cs)

def spanFraction : List Char -> List Char × List Char
  | '.' :: rest => spanDigits rest
  | cs => ([], cs)

/-- An exponent mark with its number.  Without digits there is no exponent. -/
def spanExponent (cs : List Char) : Option Int × List Char :=
  match cs with
  | c :: rest =>
      if c = 'e' ∨ c = 'E' then
        let (negative, rest) := spanSign rest
        let (digits, rest) := spanDigits rest
        if digits.isEmpty then (none, cs)
        else
          let size : Int := ofDigits digits
          (some (if negative then -size else size), rest)
      else (none, cs)
  | [] => (none, [])

end Decimal

namespace Binary64

def ofParts (negative : Bool) (whole fraction : List Char) (exponent : Int) : Binary64 :=
  ofDecimal negative (Decimal.ofDigits (whole ++ fraction)) (exponent - fraction.length)

/-- Reads a decimal literal, `inf`, `infinity` or `nan` in letters of either case, with an optional
sign. -/
def ofText? (s : String) : Option Binary64 :=
  let (negative, cs) := Decimal.spanSign (s.toList.map Char.toLower)
  if cs = "nan".toList then some nan
  else if cs = "inf".toList ∨ cs = "infinity".toList then some (infinite negative)
  else
    let (whole, rest) := Decimal.spanDigits cs
    let (fraction, rest) := Decimal.spanFraction rest
    let (exponent, rest) := Decimal.spanExponent rest
    if (whole ++ fraction).isEmpty || !rest.isEmpty then none
    else some (ofParts negative whole fraction (exponent.getD 0))

end Binary64
end LittleComputer
