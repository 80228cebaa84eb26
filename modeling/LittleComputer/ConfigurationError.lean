import LittleComputer.Value

/-!
# Configuration errors

The reasons for which a statement is refused while a program is being put together.  The last ones
are about the sort of a value: a condition and the operand of a trap have to be texts, a label is
bound to an integer, and a report that is asked for needs numerals for its numbers.
-/

namespace LittleComputer

inductive ConfigurationError where
  | invalidRegister (given : Value)
  | immediateOutOfRange (given : Value)
  | invalidLabel (given : Value)
  | invalidCondition (given : Value)
  | unsupportedTrap (given : Value)
  | expectedRegister (written : Value)
  | addressOutOfRange (given : Value)
  | constantOutOfRange (given : Value) (label : String)
  | baseOffsetAddressing (mnemonic : String)
  | notInstruction (shown : String)
  | emptyLabel
  | frozenLabels (name : String)
  | frozenProgram
  | alreadyExecuted
  | conditionNotText (given : Value)
  | trapOperandNotText (given : Value)
  | notInteger (given : Value)
  | unreportable (error : NumeralError)
  deriving DecidableEq

namespace ConfigurationError

def message : ConfigurationError -> String
  | invalidRegister given => "Invalid register: " ++ given.quoted
  | immediateOutOfRange given => "Immediate " ++ given.quoted ++ " outside [-16, 15]"
  | invalidLabel given => "Invalid label: " ++ given.quoted
  | invalidCondition given => "Invalid branch condition: " ++ given.quoted
  | unsupportedTrap given => "Unsupported trap vector: " ++ given.quoted
  | expectedRegister written => "Expected a register, got " ++ written.plain
  | addressOutOfRange given => "Address out of range: " ++ given.quoted
  | constantOutOfRange given label =>
      "Value " ++ given.plain ++ " for label " ++ label ++ " does not fit in 16 bits"
  | baseOffsetAddressing mnemonic =>
      mnemonic ++ " (base+offset addressing) is not implemented"
  | notInstruction shown => "Not an instruction: " ++ shown
  | emptyLabel => "Label name must not be empty"
  | frozenLabels name => "Cannot bind label " ++ name ++ " after execution has started"
  | frozenProgram => "Cannot append instructions after execution has started"
  | alreadyExecuted => "Program has already been executed"
  | conditionNotText given => "Branch condition is not a text: " ++ given.quoted
  | trapOperandNotText given => "Trap operand is not a text: " ++ given.quoted
  | notInteger given => "Not an integer: " ++ given.quoted
  | unreportable _ => "Binding cannot be reported"

def given? : ConfigurationError -> Option Value
  | invalidRegister given | immediateOutOfRange given | invalidLabel given
  | invalidCondition given | unsupportedTrap given | addressOutOfRange given
  | constantOutOfRange given _ | conditionNotText given | trapOperandNotText given
  | notInteger given | expectedRegister given => some given
  | _ => none

/-- Whether the message can be written: an integer in it may have too many digits. -/
def isWritable (error : ConfigurationError) : Bool :=
  error.given?.all Value.isWritable

end ConfigurationError
end LittleComputer
