/-!
# Blank characters

The characters that separate words: the ASCII blanks and separators, and the spaces of other
scripts.  The zero-width characters are not blank.
-/

namespace LittleComputer
namespace Text

def isBlank (c : Char) : Bool :=
  let n := c.toNat
  (0x09 ≤ n && n ≤ 0x0d) || (0x1c ≤ n && n ≤ 0x20) || n == 0x85 || n == 0xa0 || n == 0x1680 ||
    (0x2000 ≤ n && n ≤ 0x200a) || n == 0x2028 || n == 0x2029 || n == 0x202f || n == 0x205f ||
    n == 0x3000

def stripStart (cs : List Char) : List Char :=
  cs.dropWhile isBlank

def stripEnd (cs : List Char) : List Char :=
  (cs.reverse.dropWhile isBlank).reverse

def strip (cs : List Char) : List Char :=
  stripEnd (stripStart cs)

def stripString (s : String) : String :=
  String.ofList (strip s.toList)

/-- The first word, and what follows it without the blanks between. -/
def firstWord (cs : List Char) : List Char × List Char :=
  let (word, rest) := cs.span fun c => !isBlank c
  (word, stripStart rest)

/-! ## Fields -/

def closeField (field : List Char) (fields : List (List Char)) : List (List Char) :=
  if field.isEmpty then fields else field :: fields

def fieldStep (isSeparator : Char -> Bool) (c : Char)
    (state : List Char × List (List Char)) : List Char × List (List Char) :=
  if isSeparator c then ([], closeField state.1 state.2) else (c :: state.1, state.2)

/-- The maximal non-empty pieces that hold no separator. -/
def fields (isSeparator : Char -> Bool) (cs : List Char) : List (List Char) :=
  let state := cs.foldr (fieldStep isSeparator) ([], [])
  closeField state.1 state.2

end Text
end LittleComputer
