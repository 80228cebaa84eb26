import LittleComputer.Sheet.Error
import LittleComputer.Text.Blank
import LittleComputer.Text.LetterCase

/-!
# Reading sheets

A sheet is a JSON object with a version, a name, a machine and a list of instructions.  The parts
are checked in this order, and each instruction from its mnemonic to its layouts, so that a sheet
with several faults is refused for the first.
-/

namespace LittleComputer
namespace Sheet

inductive FileContent where
  | missing
  | directory
  | bytes (content : ByteArray)

def textField? (json : Json) (key : String) : Option String :=
  match (json.get? key).bind Json.string? with
  | some s =>
      let stripped := Text.stripString s
      if stripped.isEmpty then none else some stripped
  | none => none

/-! ## Instructions -/

/-- The texts of a list of operands, or none if something in it is no text. -/
def layout? (operands : List Json) : Option Layout :=
  operands.mapM Json.string?

def readForm (mnemonic : String) (encodings : List Layout) (form : Json) :
    Except LoadError Layout :=
  match form.get? "operands" with
  | some (.arr operands) =>
      match layout? operands with
      | some layout =>
          if encodings.contains layout then .ok layout
          else .error (.sheet (.cannotTake mnemonic layout encodings))
      | none => .error .operandNotText
  | _ => .error (.sheet (.formWithoutOperands mnemonic))

def mnemonicOf (written : String) : String :=
  Text.upperString (Text.stripString written)

def readEntry (entry : Json) : Except LoadError SheetEntry :=
  match (entry.get? "mnemonic").bind Json.string? with
  | none => .error (.sheet (.entryWithoutMnemonic entry))
  | some written =>
    let mnemonic := mnemonicOf written
    match encodable? mnemonic with
    | none => .error (.sheet (.notImplemented mnemonic))
    | some encodings =>
      match textField? entry "summary" with
      | none => .error (.sheet (.missingSummary mnemonic))
      | some summary =>
        match entry.get? "forms" with
        | some (.arr forms) => do
            let layouts ← forms.mapM (readForm mnemonic encodings)
            return ⟨mnemonic, summary, layouts⟩
        | _ => .error (.sheet (.formsNotArray mnemonic))

def readEntries (done : List SheetEntry) : List Json -> Except LoadError (List SheetEntry)
  | [] => .ok done
  | json :: rest => do
      let entry ← readEntry json
      if done.any fun earlier => earlier.mnemonic = entry.mnemonic then
        throw (.sheet (.duplicateMnemonic entry.mnemonic))
      else readEntries (done ++ [entry]) rest

/-! ## Sheets -/

def isMachine (isa : Json) : Bool :=
  (isa.get? "arch").any (Json.equalsString "lc3") && (isa.get? "word_bits").any (Json.equalsInt 16)

/-- The description of a sheet; what counts as absent is the empty text. -/
def readDescription (json : Json) : String :=
  match json.get? "description" with
  | some given => if given.isFalsy then "" else Text.stripString given.plain
  | none => ""

def ofJson (json : Json) : Except LoadError Sheet :=
  match json with
  | .obj _ =>
    if !(json.get? "schema_version").any (Json.equalsInt 1) then
      .error (.sheet (.unsupportedVersion ((json.get? "schema_version").getD .null)))
    else
      match textField? json "name" with
      | none => .error (.sheet .missingName)
      | some name =>
        if !(json.get? "isa").any isMachine then
          .error (.sheet (.unsupportedIsa ((json.get? "isa").getD .null)))
        else
          match json.get? "instructions" with
          | some (.arr (first :: rest)) => do
              let entries ← readEntries [] (first :: rest)
              return ⟨name, readDescription json, entries⟩
          | _ => .error (.sheet .missingInstructions)
  | _ => .error (.sheet .notObject)

/-- Reads the sheet that a file holds, in which values are nested no deeper than `depth`. -/
def ofFile (depth : Nat) (content : FileContent) : Except LoadError Sheet :=
  match content with
  | .missing => .error (.sheet (.notFound .file))
  | .directory => .error (.sheet (.isDirectory .file))
  | .bytes bytes =>
    match String.fromUTF8? bytes with
    | none => .error .undecodable
    | some text =>
      match Json.readWithin depth text with
      | .error error => .error (.ofRead .file error)
      | .ok json => ofJson json

def read (depth : Nat) (content : FileContent) : SheetSource -> Except LoadError Sheet
  | .bundled => .ok standard
  | .file => ofFile depth content

end Sheet
end LittleComputer
