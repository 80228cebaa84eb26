import LittleComputer.ConfigurationError

/-!
# Errors of a source line

A line is refused for what it says or for what the program says to it.  The error carries the number
of the line and the line as it was written.
-/

namespace LittleComputer
namespace Source

inductive LineError where
  | invalidLabel (word : String)
  | duplicateLabel (label : String)
  | fillWithoutLabel
  | unsupportedDirective (name : String)
  | unknownInstruction (word : String)
  | operandCount (expected : Nat) (keyword : String) (given : Nat)
  | expectedRegister (word : String)
  | invalidNumber (word : String)
  | numeralTooLong
  | unsupportedTrap (word : String)
  | configuration (error : ConfigurationError)
  deriving DecidableEq

namespace LineError

def message : LineError -> String
  | invalidLabel word => "Invalid label: " ++ word
  | duplicateLabel label => "Duplicate label: " ++ label
  | fillWithoutLabel => ".FILL needs a label"
  | unsupportedDirective name => "Unsupported directive: " ++ name
  | unknownInstruction word => "Unknown instruction: " ++ word
  | operandCount expected keyword given =>
      "Expected " ++ toString expected ++ " operands for " ++ keyword ++ ", got " ++
        toString given
  | expectedRegister word => "Expected a register, got " ++ word
  | invalidNumber word => "Invalid number: " ++ word
  | numeralTooLong => "Number of more than " ++ toString Decimal.maxDigits ++ " digits"
  | unsupportedTrap word => "Unsupported trap vector: " ++ word
  | configuration error => error.message

end LineError

structure ParseError where
  cause : LineError
  line : Nat
  text : String
  deriving DecidableEq

namespace ParseError

def message (error : ParseError) : String :=
  "line " ++ toString error.line ++ ": " ++ error.cause.message

end ParseError

/-- What stops an assembly: a line that is refused, or a label alone on its line which the program
refuses, and then the refusal carries no line. -/
inductive AssemblyError where
  | located (error : ParseError)
  | unlocated (error : ConfigurationError)
  deriving DecidableEq

end Source
end LittleComputer
