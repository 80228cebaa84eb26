import LittleComputer.Value

/-!
# Faults

What can go wrong while a program is executed.  A fault knows the instruction that is to blame, by
its index and text, unless no instruction is.  Since a branch goes where a label says, an index can
be a value of any sort.
-/

namespace LittleComputer

inductive FaultCause where
  | unknownInstruction (mnemonic : String)
  | unsupportedForm (form : String)
  | unboundLabel (label : Value)
  | outOfRange (target : Value) (size : Nat)
  deriving DecidableEq

structure Fault where
  cause : FaultCause
  index : Option Value
  text : String
  deriving DecidableEq

namespace FaultCause

def message : FaultCause -> String
  | unknownInstruction mnemonic => "Unknown instruction: " ++ mnemonic
  | unsupportedForm form => "Unsupported instruction form: " ++ form
  | unboundLabel label => "Unbound label: " ++ label.plain
  | outOfRange target size =>
      "No instruction at index " ++ target.plain ++ " (program has " ++ toString size ++ ")"

end FaultCause

namespace Fault

def message (fault : Fault) : String :=
  match fault.index with
  | none => fault.cause.message
  | some index =>
      let place := if fault.text.isEmpty then "" else ": " ++ fault.text
      fault.cause.message ++ " (instruction " ++ index.plain ++ place ++ ")"

end Fault
end LittleComputer
