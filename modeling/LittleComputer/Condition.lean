import LittleComputer.ConfigurationError

/-!
# Branch conditions

A condition is a set of signs, written by the letters `n`, `z` and `p`.  The empty one stands for a
branch that is always taken.
-/

namespace LittleComputer

structure Condition where
  negative : Bool
  zero : Bool
  positive : Bool
  deriving DecidableEq

namespace Condition

def letters (condition : Condition) : List Char :=
  (if condition.negative then ['n'] else []) ++ (if condition.zero then ['z'] else []) ++
    (if condition.positive then ['p'] else [])

def text (condition : Condition) : String :=
  String.ofList condition.letters

def allTexts : List String :=
  ["", "n", "z", "p", "nz", "zp", "np", "nzp"]

def ofSigns (signs : List Char) : Condition :=
  ⟨signs.contains 'n', signs.contains 'z', signs.contains 'p'⟩

/-- Reads letters of either case in any order, none of them twice.  No character outside ASCII has
one of the three letters as its lower case. -/
def ofLetters? (written : List Char) : Option Condition :=
  let signs := written.map Char.toLower
  if signs.all ['n', 'z', 'p'].contains ∧ signs.Nodup then some (ofSigns signs) else none

def ofValue : Value -> Except ConfigurationError Condition
  | .text written =>
      match ofLetters? written.toList with
      | some condition => .ok condition
      | none => .error (.invalidCondition (.text written))
  | given => .error (.conditionNotText given)

/-! ## When a branch is taken -/

def signLetter (flag : Int) : Char :=
  if flag < 0 then 'n' else if flag = 0 then 'z' else 'p'

def lettersAdmit (letters : List Char) (flag : Int) : Bool :=
  letters.isEmpty || letters.contains (signLetter flag)

def admits (condition : Condition) (flag : Int) : Bool :=
  lettersAdmit condition.letters flag

/-- Whether a branch is taken on a flag of any sort.  Without letters it is; with letters, the flag
must be a number. -/
def admits? (condition : Condition) (flag : Value) : Option Bool :=
  if condition.letters.isEmpty then some true else flag.ofSameSign?.map condition.admits

def valueAdmits? (letters flag : Value) : Option Bool :=
  if letters.isFalsy then some true
  else
    match letters, flag.ofSameSign? with
    | .text letters, some flag => some (lettersAdmit letters.toList flag)
    | _, _ => none

end Condition
end LittleComputer
