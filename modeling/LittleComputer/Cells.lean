import LittleComputer.Table
import LittleComputer.Value

/-!
# Contents of cells

What memory is to be filled with: contents by address, both as a caller gives them.  Of the contents
given for equal addresses the last one counts.
-/

namespace LittleComputer

abbrev Cells := Table Key Value

namespace Cells

def ofPairs (pairs : List (Value × Value)) : Cells :=
  .ofList (pairs.map fun pair => (⟨pair.1⟩, pair.2))

def pairs (cells : Cells) : List (Value × Value) :=
  cells.entries.map fun entry => (entry.1.value, entry.2)

/-- The pairs up to the first whose address or content counts as no integer, and whether there was
no such pair. -/
def integers : List (Value × Value) -> List (Int × Int) × Bool
  | [] => ([], true)
  | (address, content) :: rest =>
      match address.asInt?, content.asInt? with
      | some address, some content =>
          let (cells, isWhole) := integers rest
          ((address, content) :: cells, isWhole)
      | _, _ => ([], false)

end Cells
end LittleComputer
