import LittleComputer.Decimal.Numeral
import LittleComputer.Decimal.Reader
import LittleComputer.Json.Basic

/-!
# Reading JSON

The standard format, and three numbers besides: `NaN`, `Infinity` and `-Infinity`.  A number with a
point or an exponent is a floating-point number.  A key that is repeated keeps its place and takes
the last value.  Two escapes that form a surrogate pair stand for one character; a surrogate alone
is kept.

An integer has no more digits than a numeral, and arrays and objects stand inside each other no
deeper than the reader is asked to go.  Of several faults the first in the text is reported.
-/

namespace LittleComputer
namespace Json

inductive ReadError where
  | malformed
  | numeralTooLong
  | nestedTooDeep
  deriving DecidableEq

abbrev Reading (α : Type) :=
  Except ReadError (α × List Char)

def isSpace (c : Char) : Bool :=
  c == ' ' || c == '\t' || c == '\n' || c == '\r'

def skipSpace (cs : List Char) : List Char :=
  cs.dropWhile isSpace

/-! ## Strings -/

def hexValue? (c : Char) : Option Nat :=
  if c.isDigit then some (c.toNat - '0'.toNat)
  else if 'a' ≤ c ∧ c ≤ 'f' then some (c.toNat - 'a'.toNat + 10)
  else if 'A' ≤ c ∧ c ≤ 'F' then some (c.toNat - 'A'.toNat + 10)
  else none

def hexNumber? (cs : List Char) : Option Nat :=
  cs.foldlM (fun n c => (hexValue? c).map (16 * n + ·)) 0

def simpleEscape? : Char -> Option Char
  | '"' => some '"'
  | '\\' => some '\\'
  | '/' => some '/'
  | 'b' => some '\x08'
  | 'f' => some '\x0c'
  | 'n' => some '\n'
  | 'r' => some '\r'
  | 't' => some '\t'
  | _ => none

/-- Adds an escaped code point to the points read so far, last one first.  A low surrogate joins the
high one before it. -/
def pushEscaped (point : CodePoint) : List CodePoint -> List CodePoint
  | [] => [point]
  | last :: rest =>
      if 0xd800 ≤ last ∧ last < 0xdc00 ∧ 0xdc00 ≤ point ∧ point < 0xe000 then
        (0x10000 + (last - 0xd800) * 0x400 + (point - 0xdc00)) :: rest
      else point :: last :: rest

def readString (done : List CodePoint) : List Char -> Reading (List CodePoint)
  | '"' :: rest => .ok (done.reverse, rest)
  | '\\' :: 'u' :: a :: b :: c :: d :: rest =>
      match hexNumber? [a, b, c, d] with
      | some point => readString (pushEscaped point done) rest
      | none => .error .malformed
  | '\\' :: c :: rest =>
      match simpleEscape? c with
      | some escaped => readString (escaped.toNat :: done) rest
      | none => .error .malformed
  | c :: rest =>
      if c.toNat < 0x20 then .error .malformed else readString (c.toNat :: done) rest
  | [] => .error .malformed

/-! ## Numbers -/

def spanFraction (cs : List Char) : List Char × List Char :=
  let (digits, rest) := Decimal.spanFraction cs
  if digits.isEmpty then ([], cs) else (digits, rest)

/-- Reads a number after its sign.  A point without a digit after it is no part of the number, nor
is an exponent without a digit. -/
def readUnsigned (negative : Bool) (cs : List Char) : Reading Json :=
  let (whole, rest) := Decimal.spanDigits cs
  if whole.isEmpty || (whole.head? == some '0' && whole.length != 1) then .error .malformed
  else
    let (fraction, afterFraction) := spanFraction rest
    let (exponent, afterExponent) := Decimal.spanExponent afterFraction
    if fraction.isEmpty && exponent.isNone then
      if Decimal.isReadable whole then
        let size : Int := Decimal.ofDigits whole
        .ok (int (if negative then -size else size), afterExponent)
      else .error .numeralTooLong
    else
      .ok (float (Binary64.ofParts negative whole fraction (exponent.getD 0)), afterExponent)

def readNumber : List Char -> Reading Json
  | '-' :: rest => readUnsigned true rest
  | cs => readUnsigned false cs

/-! ## Values -/

mutual

/-- Reads a value at the start of a text.  The first argument bounds the number of values and
nested places, and any bound above twice the length of the text will do.  The second one is the
number of arrays and objects that can still be opened inside each other. -/
def readValue : Nat -> Nat -> List Char -> Reading Json
  | 0, _, _ => .error .malformed
  | bound + 1, depth, cs =>
    match cs, depth with
    | '"' :: rest, _ => (readString [] rest).map fun (points, rest) => (str points, rest)
    | '[' :: _, 0 | '\x7b' :: _, 0 => .error .nestedTooDeep
    | '[' :: rest, depth + 1 =>
        match skipSpace rest with
        | ']' :: rest => .ok (arr [], rest)
        | rest => readItems bound depth [] rest
    | '\x7b' :: rest, depth + 1 =>
        match skipSpace rest with
        | '\x7d' :: rest => .ok (obj [], rest)
        | rest => readFields bound depth [] rest
    | 'n' :: 'u' :: 'l' :: 'l' :: rest, _ => .ok (null, rest)
    | 't' :: 'r' :: 'u' :: 'e' :: rest, _ => .ok (bool true, rest)
    | 'f' :: 'a' :: 'l' :: 's' :: 'e' :: rest, _ => .ok (bool false, rest)
    | 'N' :: 'a' :: 'N' :: rest, _ => .ok (float .nan, rest)
    | 'I' :: 'n' :: 'f' :: 'i' :: 'n' :: 'i' :: 't' :: 'y' :: rest, _ =>
        .ok (float (.infinite false), rest)
    | '-' :: 'I' :: 'n' :: 'f' :: 'i' :: 'n' :: 'i' :: 't' :: 'y' :: rest, _ =>
        .ok (float (.infinite true), rest)
    | cs, _ => readNumber cs

def readItems : Nat -> Nat -> List Json -> List Char -> Reading Json
  | 0, _, _, _ => .error .malformed
  | bound + 1, depth, done, cs =>
    match readValue bound depth cs with
    | .ok (item, rest) =>
        match skipSpace rest with
        | ',' :: rest => readItems bound depth (item :: done) (skipSpace rest)
        | ']' :: rest => .ok (arr (item :: done).reverse, rest)
        | _ => .error .malformed
    | .error error => .error error

def readFields : Nat -> Nat -> List (List CodePoint × Json) -> List Char -> Reading Json
  | 0, _, _, _ => .error .malformed
  | bound + 1, depth, done, cs =>
    match cs with
    | '"' :: rest =>
        match readString [] rest with
        | .ok (key, rest) =>
            match skipSpace rest with
            | ':' :: rest =>
                match readValue bound depth (skipSpace rest) with
                | .ok (value, rest) =>
                    let fields := Entries.insert key value done
                    match skipSpace rest with
                    | ',' :: rest => readFields bound depth fields (skipSpace rest)
                    | '\x7d' :: rest => .ok (obj fields, rest)
                    | _ => .error .malformed
                | .error error => .error error
            | _ => .error .malformed
        | .error error => .error error
    | _ => .error .malformed

end

def readWhole (depth : Nat) (cs : List Char) : Except ReadError Json :=
  match readValue (2 * cs.length + 2) depth (skipSpace cs) with
  | .ok (json, rest) => if (skipSpace rest).isEmpty then .ok json else .error .malformed
  | .error error => .error error

/-- Reads a text in which no place is inside more than `depth` arrays and objects. -/
def readWithin (depth : Nat) (s : String) : Except ReadError Json :=
  readWhole depth s.toList

/-- A depth for which an ordinary stack has room. -/
def standardDepth : Nat :=
  987

def read (s : String) : Except ReadError Json :=
  readWithin standardDepth s

end Json
end LittleComputer
