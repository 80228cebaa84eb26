import LittleComputer.Decimal.Numeral
import LittleComputer.Text.Blank
import LittleComputer.Text.DecimalDigit

/-!
# Numbers in assembly

A number is written as an optional `#`, an optional minus sign, and then hexadecimal digits after
`x` or `0x`, binary digits after `b`, or decimal digits of any script, of which there can be as many
as a numeral has.  Letters can be of either case; no character outside ASCII has one of them as its
lower case.
-/

namespace LittleComputer
namespace Source

def hexDigit? (c : Char) : Option Nat :=
  if '0' ≤ c ∧ c ≤ '9' then some (c.toNat - '0'.toNat)
  else if 'a' ≤ c ∧ c ≤ 'f' then some (c.toNat - 'a'.toNat + 10)
  else none

def binaryDigit? (c : Char) : Option Nat :=
  if c = '0' then some 0 else if c = '1' then some 1 else none

def positional? (base : Nat) (digit? : Char -> Option Nat) (digits : List Char) : Option Nat :=
  if digits.isEmpty then none
  else digits.foldlM (fun n c => (digit? c).map (base * n + ·)) 0

inductive NumberError where
  | malformed
  | tooLong
  deriving DecidableEq

def orMalformed (size : Option Nat) : Except NumberError Nat :=
  match size with
  | some n => .ok n
  | none => .error .malformed

def magnitude : List Char -> Except NumberError Nat
  | '0' :: 'x' :: digits => orMalformed (positional? 16 hexDigit? digits)
  | 'x' :: digits => orMalformed (positional? 16 hexDigit? digits)
  | 'b' :: digits => orMalformed (positional? 2 binaryDigit? digits)
  | digits =>
      if !Decimal.isReadable digits && digits.all fun c => (Text.digitValue? c).isSome then
        .error .tooLong
      else orMalformed (positional? 10 Text.digitValue? digits)

def dropMark (mark : Char) : List Char -> Bool × List Char
  | [] => (false, [])
  | c :: rest => if c = mark then (true, rest) else (false, c :: rest)

def readNumber (written : List Char) : Except NumberError Int :=
  let (_, unmarked) := dropMark '#' (Text.strip written)
  let (negative, size) := dropMark '-' unmarked
  (magnitude (size.map Char.toLower)).map fun n => if negative then -(n : Int) else (n : Int)

end Source
end LittleComputer
