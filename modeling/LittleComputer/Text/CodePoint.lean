/-!
# Code points

Text from outside can hold a lone surrogate, which is a code point and not a character.  A `String`
holds it as two characters: an announcer, which is the last code point of all and a character of no
script, and a character for private use in the place of the surrogate.  The announcer itself is
written twice, and every other code point stands for itself.
-/

namespace LittleComputer

/-- A number below 0x110000, surrogates included. -/
abbrev CodePoint := Nat

namespace Text

def isSurrogate (point : CodePoint) : Bool :=
  0xd800 ≤ point && point < 0xe000

def announcer : Char :=
  Char.ofNat 0x10ffff

def surrogateShift : Nat :=
  0xf0000 - 0xd800

/-! ## From code points to strings -/

def encodePoint (point : CodePoint) : List Char :=
  if isSurrogate point then [announcer, Char.ofNat (point + surrogateShift)]
  else if point = 0x10ffff then [announcer, announcer]
  else [Char.ofNat point]

def ofCodePoints (points : List CodePoint) : String :=
  String.ofList (points.flatMap encodePoint)

/-! ## From strings to code points -/

def announced (c : Char) : CodePoint :=
  if c = announcer then c.toNat else c.toNat - surrogateShift

def codePointsAfter (done : List CodePoint) : List Char -> List CodePoint
  | [] => done.reverse
  | c :: rest =>
      if c = announcer then
        match rest with
        | [] => (c.toNat :: done).reverse
        | d :: rest => codePointsAfter (announced d :: done) rest
      else codePointsAfter (c.toNat :: done) rest

def codePoints (s : String) : List CodePoint :=
  codePointsAfter [] s.toList

def length (s : String) : Nat :=
  (codePoints s).length

/-- The text as plain characters, unless it holds a lone surrogate. -/
def characters? (s : String) : Option String :=
  let points := codePoints s
  if points.any isSurrogate then none else some (String.ofList (points.map Char.ofNat))

/-! ## Classes of code points -/

def inRanges (ranges : List (CodePoint × CodePoint)) (point : CodePoint) : Bool :=
  ranges.any fun range => range.1 ≤ point && point ≤ range.2

end Text
end LittleComputer
