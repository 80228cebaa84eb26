import LittleComputer.Instruction.Basic
import LittleComputer.Json.Basic

/-!
# Instruction sheets

A sheet lists the mnemonics that programs may use, each with the layouts that its operands may have.
The machine can encode certain layouts of each mnemonic, and a sheet allows some of those.
-/

namespace LittleComputer

structure SheetEntry where
  mnemonic : String
  summary : String
  layouts : List Layout
  deriving DecidableEq

structure Sheet where
  name : String
  description : String
  entries : List SheetEntry
  deriving DecidableEq

inductive SheetSource where
  | bundled
  | file
  deriving DecidableEq

namespace SheetSource

def text : SheetSource -> String
  | bundled => "<default>"
  | file => "<path>"

end SheetSource

namespace Sheet

def encodable? : String -> Option (List Layout)
  | "ADD" | "AND" => some [["reg", "reg", "reg"], ["reg", "reg", "imm5"]]
  | "NOT" => some [["reg", "reg"]]
  | "BR" => some [["label"]]
  | "LD" | "LDI" | "ST" | "STI" => some [["reg", "label"]]
  | "TRAP" => some [["trapvect8"]]
  | _ => none

/-! ## The bundled sheet -/

/-- The sheet that comes with the machine.  It allows everything that can be encoded. -/
def standard : Sheet where
  name := "LC-3 teaching subset"
  description := "ADD, AND, NOT, BR, LD, LDI, ST, STI and TRAP x25. " ++
    "LD reads a label's value directly; ST writes back into the label."
  entries := [
    ⟨"ADD", "Two's-complement 16-bit addition.",
      [["reg", "reg", "reg"], ["reg", "reg", "imm5"]]⟩,
    ⟨"AND", "Bitwise AND.", [["reg", "reg", "reg"], ["reg", "reg", "imm5"]]⟩,
    ⟨"NOT", "Bitwise complement.", [["reg", "reg"]]⟩,
    ⟨"BR", "Conditional branch on the sign of the flag.", [["label"]]⟩,
    ⟨"LD", "Load a label's value.", [["reg", "label"]]⟩,
    ⟨"LDI", "Load from the address held by a label.", [["reg", "label"]]⟩,
    ⟨"ST", "Store into a label.", [["reg", "label"]]⟩,
    ⟨"STI", "Store to the address held by a label.", [["reg", "label"]]⟩,
    ⟨"TRAP", "System call.", [["trapvect8"]]⟩]

end Sheet
end LittleComputer
