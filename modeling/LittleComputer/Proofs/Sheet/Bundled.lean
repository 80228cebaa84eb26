import LittleComputer.Proofs.Json.Limits
import LittleComputer.Proofs.Outcome
import LittleComputer.Sheet.Manager

/-!
# The bundled sheet

The machine comes with the text of a sheet in a file of its own.  Read like the file of anybody
else, this text is the sheet that `Sheet.standard` lists, so that the bundled sheet needs no reader
when it is loaded.
-/

namespace LittleComputer
namespace Sheet

def bundledText : String :=
  "\x7b
  \"schema_version\": 1,
  \"name\": \"LC-3 teaching subset\",
  \"description\": \"ADD, AND, NOT, BR, LD, LDI, ST, STI and TRAP x25. LD reads a label's value directly; ST writes back into the label.\",
  \"isa\": \x7b
    \"arch\": \"lc3\",
    \"word_bits\": 16
  \x7d,
  \"instructions\": [
    \x7b
      \"mnemonic\": \"ADD\",
      \"summary\": \"Two's-complement 16-bit addition.\",
      \"description\": \"DR = SR1 + SR2 (or SR1 + imm5), wrapped to 16 bits. Sets the flag to the result.\",
      \"forms\": [
        \x7b\"operands\": [\"reg\", \"reg\", \"reg\"]\x7d,
        \x7b\"operands\": [\"reg\", \"reg\", \"imm5\"]\x7d
      ],
      \"examples\": [\"ADD R1, R1, R2\", \"ADD R3, R3, #-1\"]
    \x7d,
    \x7b
      \"mnemonic\": \"AND\",
      \"summary\": \"Bitwise AND.\",
      \"description\": \"DR = SR1 & SR2 (or SR1 & imm5). Sets the flag to the result.\",
      \"forms\": [
        \x7b\"operands\": [\"reg\", \"reg\", \"reg\"]\x7d,
        \x7b\"operands\": [\"reg\", \"reg\", \"imm5\"]\x7d
      ],
      \"examples\": [\"AND R1, R0, R4\", \"AND R2, R2, #0\"]
    \x7d,
    \x7b
      \"mnemonic\": \"NOT\",
      \"summary\": \"Bitwise complement.\",
      \"description\": \"DR = ~SR. Sets the flag to the result.\",
      \"forms\": [
        \x7b\"operands\": [\"reg\", \"reg\"]\x7d
      ],
      \"examples\": [\"NOT R7, R3\"]
    \x7d,
    \x7b
      \"mnemonic\": \"BR\",
      \"summary\": \"Conditional branch on the sign of the flag.\",
      \"description\": \"BR/BRnzp always jump; otherwise jump when the flag is negative (n), zero (z) or positive (p) for any listed letter.\",
      \"forms\": [
        \x7b\"operands\": [\"label\"]\x7d
      ],
      \"examples\": [\"BRz DONE\", \"BRnp LOOP\", \"BR AGAIN\"]
    \x7d,
    \x7b
      \"mnemonic\": \"LD\",
      \"summary\": \"Load a label's value.\",
      \"description\": \"DR = value bound to the label. Memory is not read. Sets the flag.\",
      \"forms\": [
        \x7b\"operands\": [\"reg\", \"label\"]\x7d
      ],
      \"examples\": [\"LD R4, MASK\"]
    \x7d,
    \x7b
      \"mnemonic\": \"LDI\",
      \"summary\": \"Load from the address held by a label.\",
      \"description\": \"DR = mem[label]. Sets the flag.\",
      \"forms\": [
        \x7b\"operands\": [\"reg\", \"label\"]\x7d
      ],
      \"examples\": [\"LDI R0, INPUT\"]
    \x7d,
    \x7b
      \"mnemonic\": \"ST\",
      \"summary\": \"Store into a label.\",
      \"description\": \"label = SR. The symbol table entry is overwritten; memory is untouched.\",
      \"forms\": [
        \x7b\"operands\": [\"reg\", \"label\"]\x7d
      ],
      \"examples\": [\"ST R2, COUNT\"]
    \x7d,
    \x7b
      \"mnemonic\": \"STI\",
      \"summary\": \"Store to the address held by a label.\",
      \"description\": \"mem[label] = SR.\",
      \"forms\": [
        \x7b\"operands\": [\"reg\", \"label\"]\x7d
      ],
      \"examples\": [\"STI R3, OUTPUT\"]
    \x7d,
    \x7b
      \"mnemonic\": \"TRAP\",
      \"summary\": \"System call.\",
      \"description\": \"Only x25 (HALT) is available; it stops the machine.\",
      \"forms\": [
        \x7b\"operands\": [\"trapvect8\"]\x7d
      ],
      \"examples\": [\"TRAP x25\", \"HALT\"]
    \x7d
  ]
\x7d
"

theorem fromUTF8?_toUTF8 (s : String) : String.fromUTF8? s.toUTF8 = some s :=
  dif_pos s.isValidUTF8

theorem ofFile_toUTF8 {depth : Nat} {s : String} {json : Json}
    (h : Json.readWithin depth s = .ok json) :
    ofFile depth (.bytes s.toUTF8) = ofJson json := by
  unfold ofFile
  simp only [fromUTF8?_toUTF8, h]

set_option maxRecDepth 20000 in
/-- Six arrays and objects are around the innermost operands. -/
theorem ofJson_bundledText :
    ((Json.readWithin 6 bundledText).toOption.bind fun json => (ofJson json).toOption) =
      some standard := by
  -- The literal is spelled out first: the kernel is slow to decode a text into its characters.
  have hchars : bundledText.toList = _ := String.toList_ofList
  rw [Json.readWithin, hchars]
  decide +kernel

/-- The bundled sheet is the one that its text describes. -/
theorem ofFile_bundledText {depth : Nat} (hdepth : 6 ≤ depth) :
    ofFile depth (.bytes bundledText.toUTF8) = .ok standard := by
  rcases Option.bind_eq_some_iff.mp ofJson_bundledText with ⟨json, hread, hsheet⟩
  have hdeeper := Json.readWithin_of_le hdepth (eq_ok_of_toOption hread)
  exact (ofFile_toUTF8 hdeeper).trans (eq_ok_of_toOption hsheet)

theorem load_bundled {depth : Nat} (hdepth : 6 ≤ depth) (content : FileContent) (isa : Isa) :
    Manager.load depth content .bundled isa =
      Manager.load depth (.bytes bundledText.toUTF8) .file isa := by
  unfold Manager.load read
  rw [ofFile_bundledText hdepth]

end Sheet
end LittleComputer
