import LittleComputer.Table
import LittleComputer.Text.Blank
import LittleComputer.Text.LetterCase
import LittleComputer.Value

/-!
# Traps

A trap is a service of the machine, named in a program by its vector and in a text by its operand.
The known traps are kept in the order in which their vectors were first registered.  What a trap is
registered with is not checked.
-/

namespace LittleComputer

structure Trap where
  vector : Value
  name : Value
  operand : Value
  description : Value
  halts : Value
  deriving DecidableEq

namespace Trap

def haltVector : Int :=
  25

def halt : Trap where
  vector := .int haltVector
  name := .text "HALT"
  operand := .text "x25"
  description := .text "Stop the machine. No further instructions execute."
  halts := .bool true

end Trap

abbrev Traps := Table Key Trap

namespace Traps

def register (traps : Traps) (trap : Trap) : Traps :=
  traps.insert ⟨trap.vector⟩ trap

def standard : Traps :=
  (∅ : Traps).register .halt

/-- The first of the traps whose operand is a text in small letters, up to letter case; an operand
before it that is no text ends the search. -/
def firstOfOperand (wanted : List Char) : List Trap -> Except Value (Option Trap)
  | [] => .ok none
  | trap :: rest =>
      match trap.operand with
      | .text operand =>
          if Text.lower operand.toList = wanted then .ok (some trap) else firstOfOperand wanted rest
      | operand => .error operand

def ofOperand (traps : Traps) (written : List Char) : Except Value (Option Trap) :=
  firstOfOperand (Text.lower (Text.strip written)) traps.values

def operandText (traps : Traps) (vector : Int) : String :=
  ((traps.get? (.int vector)).map fun trap => trap.operand.plain).getD ""

def halts (traps : Traps) (vector : Int) : Bool :=
  ((traps.get? (.int vector)).map fun trap => !trap.halts.isFalsy).getD false

end Traps
end LittleComputer
