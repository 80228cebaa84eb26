import LittleComputer.Decimal.Shortest
import LittleComputer.Json.Basic
import LittleComputer.Text.Quoted

/-!
# Writing JSON

Two spellings of a JSON value: the compact JSON text, with characters outside ASCII as they are, and
the form in which a value is shown inside a message.
-/

namespace LittleComputer
namespace Json

/-! ## JSON text -/

def escapePoint (point : CodePoint) : List Char :=
  if point = '"'.toNat then ['\\', '"']
  else if point = '\\'.toNat then ['\\', '\\']
  else if point < 0x20 ∨ (0xd800 ≤ point ∧ point < 0xe000) then
    '\\' :: 'u' :: Text.hexDigits 4 point
  else [Char.ofNat point]

def writeString (points : List CodePoint) : String :=
  String.ofList ('"' :: points.flatMap escapePoint ++ ['"'])

def writeFloat : Binary64 -> String
  | .nan => "NaN"
  | .infinite negative => if negative then "-Infinity" else "Infinity"
  | x => x.text

mutual

def writeAfter (done : String) : Json -> String
  | null => done ++ "null"
  | bool b => done ++ if b then "true" else "false"
  | int n => done ++ toString n
  | float x => done ++ writeFloat x
  | str points => done ++ writeString points
  | arr items => writeItemsAfter (done.push '[') true items |>.push ']'
  | obj fields => writeFieldsAfter (done.push '\x7b') true fields |>.push '\x7d'

def writeItemsAfter (done : String) (isFirst : Bool) : List Json -> String
  | [] => done
  | item :: rest =>
      let done := if isFirst then done else done.push ','
      writeItemsAfter (writeAfter done item) false rest

def writeFieldsAfter (done : String) (isFirst : Bool) : List (List CodePoint × Json) -> String
  | [] => done
  | (key, value) :: rest =>
      let done := if isFirst then done else done.push ','
      writeFieldsAfter (writeAfter (done ++ writeString key ++ ":") value) false rest

end

def write (json : Json) : String :=
  writeAfter "" json

/-! ## Inside a message -/

mutual

/-- The form in which a value is shown inside a message. -/
def quoted : Json -> String
  | null => "None"
  | bool b => if b then "True" else "False"
  | int n => toString n
  | float x => x.text
  | str points => Text.quotedPoints points
  | arr items => "[" ++ String.intercalate ", " (quotedItemsAfter [] items) ++ "]"
  | obj fields => "\x7b" ++ String.intercalate ", " (quotedFieldsAfter [] fields) ++ "\x7d"

def quotedItemsAfter (done : List String) : List Json -> List String
  | [] => done.reverse
  | item :: rest => quotedItemsAfter (item.quoted :: done) rest

def quotedFieldsAfter (done : List String) : List (List CodePoint × Json) -> List String
  | [] => done.reverse
  | (key, value) :: rest =>
      quotedFieldsAfter ((Text.quotedPoints key ++ ": " ++ value.quoted) :: done) rest

end

def plain : Json -> String
  | str points => Text.ofCodePoints points
  | json => json.quoted

end Json
end LittleComputer
