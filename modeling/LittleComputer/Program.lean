import LittleComputer.Instruction.Candidate
import LittleComputer.Labels

/-!
# Programs

Instructions in order, the labels that they name, and the origin, which is recorded only.  A frozen
program takes no more instructions.
-/

namespace LittleComputer

structure Program where
  instructions : Array Instruction
  labels : Labels
  origin : Option Int
  frozen : Bool

namespace Program

def empty : Program where
  instructions := #[]
  labels := .empty
  origin := none
  frozen := false

def size (program : Program) : Nat :=
  program.instructions.size

def freeze (program : Program) : Program :=
  { program with frozen := true, labels := program.labels.freeze }

/-- Adds an instruction at the end and answers its index.  Nothing else can be added, and a refusal
leaves the program as it was. -/
def append (program : Program) (candidate : Candidate) :
    Except ConfigurationError Nat × Program :=
  if program.frozen then (.error .frozenProgram, program)
  else
    match candidate with
    | .instruction i =>
        (.ok program.size, { program with instructions := program.instructions.push i })
    | other => (.error (.notInstruction other.quoted), program)

def address (given : Value) : Except ConfigurationError Int :=
  match given with
  | .int n => if 0 ≤ n ∧ n < 0x10000 then .ok n else .error (.addressOutOfRange given)
  | _ => .error (.addressOutOfRange given)

def setOrigin (program : Program) (given : Value) : Except ConfigurationError Program := do
  let n ← address given
  return { program with origin := some n }

def fetch? (program : Program) (index : Int) : Option Instruction :=
  if 0 ≤ index then program.instructions[index.toNat]? else none

inductive FetchError where
  | outOfRange
  | wrongType
  deriving DecidableEq

/-- The instruction at an index of any sort.  A number with a fraction is compared with the places
before it is found to be none of them. -/
def fetch (program : Program) (index : Value) : Except FetchError Instruction :=
  match index.asInt? with
  | some n =>
      match program.fetch? n with
      | some i => .ok i
      | none => .error .outOfRange
  | none =>
      match index.isWithin? 0 program.size with
      | some isWithin =>
          if isWithin && !index.equals (.int program.size) then .error .wrongType
          else .error .outOfRange
      | none => .error .wrongType

/-! ## Bindings -/

inductive Binding where
  | position
  | constant (value : Value)
  deriving DecidableEq

def bind (program : Program) (name : Value) (binding : Binding) :
    Except ConfigurationError Program := do
  let labels ←
    match binding with
    | .position => program.labels.bind name (.int program.size)
    | .constant value => program.labels.define name value
  return { program with labels := labels }

def attemptReport (program : Program) (name : Value) : Binding -> Report
  | .position =>
      .ofNumeral .builder (.int program.size) fun position =>
        "Label " ++ name.plain ++ " -> instruction " ++ position
  | .constant value =>
      .ofNumeral .builder value fun constant =>
        "Label " ++ name.plain ++ " -> constant " ++ constant

/-- What a binding reports: the attempt, even if it fails, and then what the labels report. -/
def bindReport (program : Program) (name : Value) (binding : Binding) : Report :=
  (program.attemptReport name binding).append
    (match binding with
    | .position => program.labels.bindReport name (.int program.size)
    | .constant value => program.labels.defineReport name value)

/-! ## Labels that are named -/

def addNew (names : List String) (name : String) : List String :=
  if names.contains name then names else names ++ [name]

/-- The labels named by instructions, each once, in order of first use. -/
def namedLabels (program : Program) : List String :=
  (program.instructions.toList.filterMap Instruction.label?).foldl addNew []

def unboundLabels (program : Program) : List String :=
  program.namedLabels.filter fun name => !program.labels.contains (.text name)

end Program
end LittleComputer
