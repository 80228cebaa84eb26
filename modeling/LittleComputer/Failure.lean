import LittleComputer.Fault
import LittleComputer.Sheet.Error
import LittleComputer.Source.Error

/-!
# Failures

Everything that a call can fail with, as its caller sees it.  A refusal that would have to show an
integer of too many digits has no message, and shows as a numeral that is too long.
-/

namespace LittleComputer

inductive Failure where
  | configuration (error : ConfigurationError)
  | parse (error : Source.ParseError)
  | validation (error : ValidationError)
  | sheet (error : SheetError)
  | fault (fault : Fault)
  | outOfBounds
  | wrongType
  | noSuchOperation
  | numeralTooLong
  | notANumber
  | overflow
  | nestedTooDeep
  | undecodable
  | unencodable
  | notImplemented
  | unfinished

namespace Failure

def ofAccess : AccessError -> Failure
  | .outOfBounds => outOfBounds
  | .wrongType => wrongType

def ofNumeral : NumeralError -> Failure
  | .notNumber => wrongType
  | .nan => notANumber
  | .infinite => overflow
  | .tooLong => numeralTooLong

def ofConfiguration (error : ConfigurationError) : Failure :=
  match error with
  | .conditionNotText _ | .trapOperandNotText _ => noSuchOperation
  | .notInteger _ => wrongType
  | .unreportable error => ofNumeral error
  | error => if error.isWritable then configuration error else numeralTooLong

def ofLoad : LoadError -> Failure
  | .sheet error => sheet error
  | .undecodable => undecodable
  | .numeralTooLong => numeralTooLong
  | .nestedTooDeep => nestedTooDeep
  | .operandNotText => wrongType

/-- Only a refusal that has a message is told with its line. -/
def ofParse (error : Source.ParseError) : Failure :=
  match error.cause with
  | .numeralTooLong => numeralTooLong
  | .configuration cause =>
      match ofConfiguration cause with
      | configuration _ => parse error
      | other => other
  | _ => parse error

def ofAssembly : Source.AssemblyError -> Failure
  | .located error => ofParse error
  | .unlocated error => ofConfiguration error

def ofExecution : ExecutionError -> Failure
  | .fault error => fault error
  | .access error => ofAccess error

def message? : Failure -> Option String
  | configuration error => some error.message
  | parse error => some error.message
  | validation error => some error.message
  | sheet error => some error.message
  | fault error => some error.message
  | _ => none

end Failure
end LittleComputer
