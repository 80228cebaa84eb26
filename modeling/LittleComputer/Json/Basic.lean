import LittleComputer.Decimal.Binary64
import LittleComputer.Table
import LittleComputer.Text.CodePoint

/-!
# JSON values

Integers and floating-point numbers are kept apart, strings are lists of code points since an escape
can stand for a lone surrogate, and the fields of an object keep the order in which their keys were
first written.
-/

namespace LittleComputer

inductive Json where
  | null
  | bool (b : Bool)
  | int (n : Int)
  | float (x : Binary64)
  | str (points : List CodePoint)
  | arr (items : List Json)
  | obj (fields : List (List CodePoint × Json))

namespace Json

instance : Inhabited Json :=
  ⟨null⟩

def ofString (s : String) : Json :=
  str (Text.codePoints s)

def ofFields (fields : List (String × Json)) : Json :=
  obj (fields.map fun field => (Text.codePoints field.1, field.2))

def get? (json : Json) (key : String) : Option Json :=
  match json with
  | obj fields => Entries.get? fields (Text.codePoints key)
  | _ => none

def string? : Json -> Option String
  | str points => some (Text.ofCodePoints points)
  | _ => none

def equalsInt (n : Int) : Json -> Bool
  | bool b => n == if b then 1 else 0
  | int m => n == m
  | float x => x.toInt? == some n
  | _ => false

def equalsString (s : String) : Json -> Bool
  | str points => points == Text.codePoints s
  | _ => false

def isFalsy : Json -> Bool
  | null => true
  | bool b => !b
  | int n => n == 0
  | float x => x.isZero
  | str points => points.isEmpty
  | arr items => items.isEmpty
  | obj fields => fields.isEmpty

end Json
end LittleComputer
