/-!
# Lines

A line ends at any of the ten line breaks of `isLineBreak`; a carriage return followed by a line
feed is one break.  A break at the very end of the text opens no further line.
-/

namespace LittleComputer
namespace Text

def isLineBreak (c : Char) : Bool :=
  let n := c.toNat
  (0x0a ≤ n && n ≤ 0x0d) || (0x1c ≤ n && n ≤ 0x1e) || n == 0x85 || n == 0x2028 || n == 0x2029

def extendFirstLine (c : Char) : List (List Char) -> List (List Char)
  | [] => [[c]]
  | line :: rest => (c :: line) :: rest

/-- One character of `lines`, seen from the right end of the text.  The state holds the character
that follows and the lines of what follows. -/
def lineStep (c : Char) (state : Option Char × List (List Char)) :
    Option Char × List (List Char) :=
  if c = '\r' ∧ state.1 = some '\n' then (some c, state.2)
  else if isLineBreak c then (some c, [] :: state.2)
  else (some c, extendFirstLine c state.2)

/-- The lines of a text, without their breaks. -/
def lines (cs : List Char) : List (List Char) :=
  (cs.foldr lineStep (none, [])).2

theorem foldr_lineStep_fst (cs : List Char) : (cs.foldr lineStep (none, [])).1 = cs.head? := by
  cases cs with
  | nil => rfl
  | cons c rest =>
      simp only [List.foldr_cons, List.head?_cons, lineStep]
      split
      · rfl
      · split <;> rfl

theorem lines_cons (c : Char) (cs : List Char) :
    lines (c :: cs) =
      if c = '\r' ∧ cs.head? = some '\n' then lines cs
      else if isLineBreak c then [] :: lines cs
      else extendFirstLine c (lines cs) := by
  unfold lines
  rw [List.foldr_cons, lineStep, foldr_lineStep_fst]
  split
  · rfl
  · split <;> rfl

end Text
end LittleComputer
