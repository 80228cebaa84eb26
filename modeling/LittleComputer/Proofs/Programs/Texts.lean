import LittleComputer.Proofs.Programs.BitScan
import LittleComputer.Proofs.Reference.Loading
import LittleComputer.Proofs.Text.Lines

/-!
# Two texts

Both of them are programs that read a word bit by bit.  They are given line by line, with the
instructions and the labels that they are assembled to.
-/

namespace LittleComputer

open Reference

namespace LabelName

def again : LabelName :=
  ⟨"AGAIN", by decide⟩

def found : LabelName :=
  ⟨"FOUND0", by decide⟩

def mask : LabelName :=
  ⟨"MASK", by decide⟩

end LabelName

/-!
# The longest run of zero bits
-/

namespace ZeroRun

def rows : List String :=
  ["",
    "        .ORIG x3000",
    "        LDI   R0, INPUT",
    "        ADD   R2, R2, #8",
    "        ADD   R2, R2, #8      ; R2 counts the 16 bits down",
    "        LD    R5, MASK",
    "AGAIN   ADD   R2, R2, #0",
    "        BRz   OVER",
    "        AND   R1, R0, R5",
    "        BRz   FOUND0",
    "        ADD   R0, R0, R0",
    "        AND   R4, R4, #0",
    "        ADD   R2, R2, #-1",
    "        BRnzp AGAIN",
    "FOUND0  ADD   R0, R0, R0",
    "        ADD   R4, R4, #1",
    "        NOT   R7, R3",
    "        ADD   R7, R7, #1",
    "        ADD   R6, R4, R7      ; current run - best run",
    "        BRp   NEW",
    "        ADD   R2, R2, #-1",
    "        BRnzp AGAIN",
    "NEW     AND   R3, R3, #0",
    "        ADD   R3, R4, R3",
    "        ADD   R2, R2, #-1",
    "        BRnzp AGAIN",
    "OVER    STI   R3, OUTPUT",
    "        TRAP  x25",
    "INPUT   .FILL x3100",
    "MASK    .FILL x8000",
    "OUTPUT  .FILL x3101",
    "        .END"]

def source : String :=
  Text.unlines (rows.map String.toList)

def better : LabelName :=
  ⟨"NEW", by decide⟩

def finish : LabelName :=
  ⟨"OVER", by decide⟩

def input : LabelName :=
  ⟨"INPUT", by decide⟩

def output : LabelName :=
  ⟨"OUTPUT", by decide⟩

def code : List Instruction :=
  [.loadIndirect 0 input, .addImmediate 2 2 .eight, .addImmediate 2 2 .eight, .load 5 .mask,
    .addImmediate 2 2 .zero, .branch ⟨false, true, false⟩ finish,
    .andRegister 1 0 5, .branch ⟨false, true, false⟩ .found,
    .addRegister 0 0 0, .andImmediate 4 4 .zero, .addImmediate 2 2 .minusOne,
    .branch ⟨true, true, true⟩ .again,
    .addRegister 0 0 0, .addImmediate 4 4 .one, .not 7 3, .addImmediate 7 7 .one,
    .addRegister 6 4 7, .branch ⟨false, false, true⟩ better,
    .addImmediate 2 2 .minusOne, .branch ⟨true, true, true⟩ .again,
    .andImmediate 3 3 .zero, .addRegister 3 4 3, .addImmediate 2 2 .minusOne,
    .branch ⟨true, true, true⟩ .again,
    .storeIndirect 3 output, .trap 25]

def labels : List (String × Int) :=
  [("AGAIN", 4), ("FOUND0", 12), ("NEW", 20), ("OVER", 24), ("INPUT", 0x3100), ("MASK", -0x8000),
    ("OUTPUT", 0x3101)]

theorem lines_source : Text.lines source.toList = rows.map String.toList := by
  apply Text.lines_unlines_of_all
  unfold rows
  simp only [List.map_cons, List.map_nil, String.reduceToList]
  decide +kernel

theorem assembles_source : Assembles source code labels := by
  apply assembles_of_lines lines_source
  unfold rows
  simp only [List.map_cons, List.map_nil, String.reduceToList]
  decide +kernel

end ZeroRun

/-!
# Zero bits that are followed by one bits
-/

namespace ZeroOne

def rows : List String :=
  ["",
    "        .ORIG x3000",
    "        LDI   R0, IADDR",
    "        LD    R4, MASK",
    "        ADD   R3, R3, #8",
    "        ADD   R3, R3, #8",
    "AGAIN:  ADD   R3, R3, #0",
    "        BRz   END",
    "        AND   R1, R0, R4",
    "        BRz   FOUND0",
    "        ADD   R0, R0, R0",
    "        ADD   R3, R3, #-1",
    "        BR    AGAIN",
    "FOUND0: ADD   R0, R0, R0",
    "        ADD   R3, R3, #-1",
    "        AND   R1, R0, R4",
    "        BRnp  YES",
    "        BR    AGAIN",
    "YES:    ADD   R2, R2, #1",
    "        ADD   R0, R0, R0",
    "        ADD   R3, R3, #-1",
    "        BR    AGAIN",
    "END:    STI   R2, OADDR",
    "        HALT",
    "MASK    .FILL x8000",
    "IADDR   .FILL x3100",
    "OADDR   .FILL x3101",
    "        .END"]

def source : String :=
  Text.unlines (rows.map String.toList)

def yes : LabelName :=
  ⟨"YES", by decide⟩

def finish : LabelName :=
  ⟨"END", by decide⟩

def input : LabelName :=
  ⟨"IADDR", by decide⟩

def output : LabelName :=
  ⟨"OADDR", by decide⟩

def code : List Instruction :=
  [.loadIndirect 0 input, .load 4 .mask, .addImmediate 3 3 .eight, .addImmediate 3 3 .eight,
    .addImmediate 3 3 .zero, .branch ⟨false, true, false⟩ finish,
    .andRegister 1 0 4, .branch ⟨false, true, false⟩ .found,
    .addRegister 0 0 0, .addImmediate 3 3 .minusOne, .branch ⟨false, false, false⟩ .again,
    .addRegister 0 0 0, .addImmediate 3 3 .minusOne, .andRegister 1 0 4,
    .branch ⟨true, false, true⟩ yes, .branch ⟨false, false, false⟩ .again,
    .addImmediate 2 2 .one, .addRegister 0 0 0, .addImmediate 3 3 .minusOne,
    .branch ⟨false, false, false⟩ .again,
    .storeIndirect 2 output, .trap 25]

def labels : List (String × Int) :=
  [("AGAIN", 4), ("FOUND0", 11), ("YES", 16), ("END", 20), ("MASK", -0x8000), ("IADDR", 0x3100),
    ("OADDR", 0x3101)]

theorem lines_source : Text.lines source.toList = rows.map String.toList := by
  apply Text.lines_unlines_of_all
  unfold rows
  simp only [List.map_cons, List.map_nil, String.reduceToList]
  decide +kernel

theorem assembles_source : Assembles source code labels := by
  apply assembles_of_lines lines_source
  unfold rows
  simp only [List.map_cons, List.map_nil, String.reduceToList]
  decide +kernel

end ZeroOne
end LittleComputer
