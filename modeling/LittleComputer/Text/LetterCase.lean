import LittleComputer.Text.LetterCase.Table

/-!
# Letter case

The full mappings of a text to upper and to lower case.  A mapping may lengthen the text, and a
capital sigma has two lower forms: the final one stands where a cased letter comes before and none
comes after, characters that case ignores being looked through on both sides.
-/

namespace LittleComputer
namespace Text

def shiftBy (runs : List CaseRun) (c : Char) : Char :=
  match runs.find? (·.contains c.toNat) with
  | some run => Char.ofNat (run.apply c.toNat)
  | none => c

/-! ## Upper case -/

def upperChar (c : Char) : List Char :=
  if c.toNat < 0x80 then [c.toUpper]
  else
    match upperExpansions.lookup c.toNat with
    | some points => points.map Char.ofNat
    | none => [shiftBy upperRuns c]

def upper (cs : List Char) : List Char :=
  cs.flatMap upperChar

def upperString (s : String) : String :=
  String.ofList (upper s.toList)

/-! ## Lower case -/

def isCased (c : Char) : Bool :=
  inRanges casedRanges c.toNat

def isCaseIgnorable (c : Char) : Bool :=
  inRanges caseIgnorableRanges c.toNat

/-- Whether the nearest character that case does not ignore is a cased letter. -/
def facesCased (cs : List Char) : Bool :=
  match cs.find? fun c => !isCaseIgnorable c with
  | some c => isCased c
  | none => false

/-- The lower case of `c`, where `before` is the text to its left, nearest character first, and
`after` the text to its right. -/
def lowerChar (before : List Char) (c : Char) (after : List Char) : List Char :=
  if c.toNat < 0x80 then [c.toLower]
  else if c = 'Σ' then
    if facesCased before && !facesCased after then ['ς'] else ['σ']
  else if c = 'İ' then ['i', '\u0307']
  else [shiftBy lowerRuns c]

def lowerFrom (before done : List Char) : List Char -> List Char
  | [] => done.reverse
  | c :: after => lowerFrom (c :: before) ((lowerChar before c after).reverse ++ done) after

def lower (cs : List Char) : List Char :=
  lowerFrom [] [] cs

end Text
end LittleComputer
