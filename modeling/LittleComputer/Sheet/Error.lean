import LittleComputer.Json.Reader
import LittleComputer.Json.Writer
import LittleComputer.Sheet.Basic
import LittleComputer.Validation

/-!
# Errors of sheets

The reasons for which a sheet is not loaded.  Most are reported as errors of the sheet.  Four are
not: a file that is no text, a number in it with too many digits, arrays and objects nested too
deep, and a list of operands that cannot be described because something in it is no text.
-/

namespace LittleComputer

inductive SheetError where
  | notFound (source : SheetSource)
  | isDirectory (source : SheetSource)
  | invalidJson (source : SheetSource)
  | notObject
  | unsupportedVersion (given : Json)
  | missingName
  | unsupportedIsa (given : Json)
  | missingInstructions
  | entryWithoutMnemonic (entry : Json)
  | notImplemented (mnemonic : String)
  | missingSummary (mnemonic : String)
  | formsNotArray (mnemonic : String)
  | formWithoutOperands (mnemonic : String)
  | cannotTake (mnemonic : String) (layout : Layout) (encodings : List Layout)
  | duplicateMnemonic (mnemonic : String)

namespace SheetError

def message : SheetError -> String
  | notFound source => "Cheat sheet not found: " ++ source.text
  | isDirectory source =>
      "Failed to read cheat sheet: [Errno 21] Is a directory: '" ++ source.text ++ "'"
  | invalidJson source => "Invalid JSON in " ++ source.text
  | notObject => "Cheat sheet must be a JSON object."
  | unsupportedVersion given => "Unsupported schema_version: " ++ given.quoted
  | missingName => "name is required and must be a string."
  | unsupportedIsa given =>
      "Only 16-bit LC-3 sheets are supported, got isa " ++ given.quoted
  | missingInstructions => "instructions must be a non-empty array."
  | entryWithoutMnemonic entry => "Instruction entry needs a mnemonic: " ++ entry.quoted
  | notImplemented mnemonic =>
      "Instruction '" ++ mnemonic ++ "' is not implemented in the emulator."
  | missingSummary mnemonic => "Instruction " ++ mnemonic ++ " is missing summary."
  | formsNotArray mnemonic => "Instruction " ++ mnemonic ++ " forms must be an array."
  | formWithoutOperands mnemonic =>
      "Instruction " ++ mnemonic ++ " form must list its operands."
  | cannotTake mnemonic layout encodings =>
      mnemonic ++ " cannot take operands " ++ Layout.describe layout ++ " (expected " ++
        String.intercalate " | " (encodings.map Layout.describe) ++ ")"
  | duplicateMnemonic mnemonic => "Duplicate mnemonic in cheat sheet: " ++ mnemonic

end SheetError

inductive LoadError where
  | sheet (error : SheetError)
  | undecodable
  | numeralTooLong
  | nestedTooDeep
  | operandNotText

namespace LoadError

def ofRead (source : SheetSource) : Json.ReadError -> LoadError
  | .malformed => sheet (.invalidJson source)
  | .numeralTooLong => numeralTooLong
  | .nestedTooDeep => nestedTooDeep

end LoadError

end LittleComputer
