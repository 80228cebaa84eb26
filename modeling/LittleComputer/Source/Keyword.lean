import LittleComputer.Instruction.Operand
import LittleComputer.Text.LetterCase

/-!
# Words of assembly

The words that an assembly line is made of: keywords, registers and labels.  A keyword is a
directive, an operation, or a branch with its condition fused to it.  Letters can be of either case.
A label is an identifier that is no keyword and no register, with or without a colon after it.
-/

namespace LittleComputer
namespace Source

inductive Directive where
  | orig
  | fill
  | stop
  | blkw
  | stringz
  deriving DecidableEq

inductive Operation where
  | add
  | and
  | not
  | ld
  | ldi
  | st
  | sti
  | ldr
  | str
  | trap
  | halt
  deriving DecidableEq

inductive Keyword where
  | directive (directive : Directive)
  | operation (operation : Operation)
  | branch (letters : List Char)
  deriving DecidableEq

namespace Directive

def all : List Directive :=
  [orig, fill, stop, blkw, stringz]

def name : Directive -> String
  | orig => ".ORIG"
  | fill => ".FILL"
  | stop => ".END"
  | blkw => ".BLKW"
  | stringz => ".STRINGZ"

end Directive

namespace Operation

def all : List Operation :=
  [add, and, not, ld, ldi, st, sti, ldr, str, trap, halt]

def name : Operation -> String
  | add => "ADD"
  | and => "AND"
  | not => "NOT"
  | ld => "LD"
  | ldi => "LDI"
  | st => "ST"
  | sti => "STI"
  | ldr => "LDR"
  | str => "STR"
  | trap => "TRAP"
  | halt => "HALT"

end Operation

namespace Keyword

def name : Keyword -> String
  | directive d => d.name
  | operation o => o.name
  | branch letters => String.ofList ('B' :: 'R' :: letters.map Char.toUpper)

/-- The letters after `BR`.  No character outside ASCII stands for one of them. -/
def branchLetters? (word : List Char) : Option (List Char) :=
  match word with
  | b :: r :: letters =>
      if b.toUpper = 'B' ∧ r.toUpper = 'R' ∧
          letters.all fun c => ['N', 'Z', 'P'].contains c.toUpper then some letters
      else none
  | _ => none

def read? (word : List Char) : Option Keyword :=
  match branchLetters? word with
  | some letters => some (branch letters)
  | none =>
    let capitals := String.ofList (Text.upper word)
    match Operation.all.find? fun o => o.name = capitals with
    | some o => some (operation o)
    | none => (Directive.all.find? fun d => d.name = capitals).map directive

end Keyword

/-! ## Registers and labels -/

def readRegister? : List Char -> Option Register
  | [r, digit] =>
      if r = 'R' ∨ r = 'r' then
        if h : '0'.toNat ≤ digit.toNat ∧ digit.toNat < '0'.toNat + 8 then
          some ⟨digit.toNat - '0'.toNat, by omega⟩
        else none
      else none
  | _ => none

def isNameStart (c : Char) : Bool :=
  c.isAlpha || c == '_'

def isNameChar (c : Char) : Bool :=
  c.isAlphanum || c == '_'

def isIdentifier : List Char -> Bool
  | [] => false
  | c :: rest => isNameStart c && rest.all isNameChar

def dropColon (word : List Char) : List Char :=
  if word.getLast? = some ':' then word.dropLast else word

/-- Reads a label.  It is tested for a keyword or a register together with its colon. -/
def readLabel? (word : List Char) : Option LabelName :=
  let name := dropColon word
  if isIdentifier name && (Keyword.read? word).isNone && (readRegister? word).isNone then
    let text := String.ofList name
    if h : text ≠ "" then some ⟨text, h⟩ else none
  else none

end Source
end LittleComputer
