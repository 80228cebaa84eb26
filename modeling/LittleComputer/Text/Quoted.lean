import LittleComputer.Text.Printable

/-!
# Quoted text

The form in which a text appears inside a message.  It stands in single quotes, or in double quotes
if it holds a single quote and no double one.  The quote in use and the backslash are escaped, the
common control characters have short escapes, and every other character that is not printable is
written by its code.
-/

namespace LittleComputer
namespace Text

def hexDigits (width n : Nat) : List Char :=
  (List.range width).reverse.map fun place => Nat.digitChar (n / Nat.pow 16 place % 16)

def escapeCode (point : CodePoint) : List Char :=
  if point ≤ 0xff then '\\' :: 'x' :: hexDigits 2 point
  else if point ≤ 0xffff then '\\' :: 'u' :: hexDigits 4 point
  else '\\' :: 'U' :: hexDigits 8 point

def escapePoint (quote : CodePoint) (point : CodePoint) : List Char :=
  if point = quote ∨ point = '\\'.toNat then ['\\', Char.ofNat point]
  else if point = 0x0a then ['\\', 'n']
  else if point = 0x0d then ['\\', 'r']
  else if point = 0x09 then ['\\', 't']
  else if isPrintable point then [Char.ofNat point]
  else escapeCode point

def quoteFor (points : List CodePoint) : Char :=
  if points.contains '\''.toNat && !points.contains '"'.toNat then '"' else '\''

def quotedPoints (points : List CodePoint) : String :=
  let quote := quoteFor points
  String.ofList (quote :: points.flatMap (escapePoint quote.toNat) ++ [quote])

def quoted (s : String) : String :=
  quotedPoints (codePoints s)

end Text
end LittleComputer
