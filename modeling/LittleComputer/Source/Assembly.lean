import LittleComputer.Program
import LittleComputer.Source.Line
import LittleComputer.Text.Lines

/-!
# Assembly

A text is assembled into a program line by line.  What earlier lines did stays done when a line is
refused; nothing after `.END` is looked at.  A label can be declared once in a text.

A verbose assembly reports each binding before it is made.
-/

namespace LittleComputer
namespace Source

/-- A program in the making, the labels declared so far, and what was reported if anybody asks. -/
structure Assembly where
  program : Program
  declared : List String
  verbose : Bool
  log : Array Record

inductive Verdict where
  | next
  | stop
  | failed (error : AssemblyError)
  deriving DecidableEq

namespace Assembly

def start (verbose : Bool) (program : Program) : Assembly :=
  ⟨program, [], verbose, #[]⟩

/-- Reports what a binding has to report, and answers what it breaks off at. -/
def report (assembly : Assembly) (name : Value) (binding : Program.Binding) :
    Option NumeralError × Assembly :=
  if assembly.verbose then
    let report := assembly.program.bindReport name binding
    (report.obstacle, { assembly with log := assembly.log ++ report.records })
  else (none, assembly)

def bind (assembly : Assembly) (label : LabelName) (binding : Program.Binding) :
    Option ConfigurationError × Assembly :=
  let name := Value.text label.name
  match assembly.report name binding with
  | (some obstacle, assembly) => (some (.unreportable obstacle), assembly)
  | (none, ⟨program, declared, verbose, log⟩) =>
    match program.bind name binding with
    | .ok bound => (none, ⟨bound, declared, verbose, log⟩)
    | .error error => (some error, ⟨program, declared, verbose, log⟩)

def bindHere (assembly : Assembly) (label : Option LabelName) :
    Option ConfigurationError × Assembly :=
  match label with
  | some label => assembly.bind label .position
  | none => (none, assembly)

def append (assembly : Assembly) (i : Instruction) : Option ConfigurationError × Assembly :=
  match assembly with
  | ⟨program, declared, verbose, log⟩ =>
    match program.append (.instruction i) with
    | (.ok _, program) => (none, ⟨program, declared, verbose, log⟩)
    | (.error error, program) => (some error, ⟨program, declared, verbose, log⟩)

def verdict (locate : LineError -> AssemblyError) (onward : Verdict)
    (result : Option ConfigurationError × Assembly) : Verdict × Assembly :=
  match result with
  | (none, assembly) => (onward, assembly)
  | (some error, assembly) => (.failed (locate (.configuration error)), assembly)

def enact (locate : LineError -> AssemblyError) (label : Option LabelName) (assembly : Assembly) :
    Clause -> Verdict × Assembly
  | .nothing =>
      match assembly.bindHere label with
      | (none, assembly) => (.next, assembly)
      | (some error, assembly) => (.failed (.unlocated error), assembly)
  | .stop => verdict locate .stop (assembly.bindHere label)
  | .origin address =>
      match assembly.program.setOrigin (.int address) with
      | .ok program =>
          verdict locate .next ({ assembly with program := program }.bindHere label)
      | .error error => (.failed (locate (.configuration error)), assembly)
  | .constant value =>
      match label with
      | some label => verdict locate .next (assembly.bind label (.constant (.int value)))
      | none => (.failed (locate .fillWithoutLabel), assembly)
  | .instruction reading =>
      match assembly.bindHere label with
      | (some error, assembly) => (.failed (locate (.configuration error)), assembly)
      | (none, assembly) =>
        match reading with
        | .error error => (.failed (locate error), assembly)
        | .ok i => verdict locate .next (assembly.append i)

def isDeclared (assembly : Assembly) (label : Option LabelName) : Bool :=
  label.any fun label => assembly.declared.contains label.name

def declare (assembly : Assembly) (label : Option LabelName) : Assembly :=
  match label with
  | some label => { assembly with declared := label.name :: assembly.declared }
  | none => assembly

def line (traps : Traps) (number : Nat) (raw : List Char) (assembly : Assembly) :
    Verdict × Assembly :=
  let locate (cause : LineError) : AssemblyError := .located ⟨cause, number, String.ofList raw⟩
  match readLine traps raw with
  | .error error => (.failed (locate error), assembly)
  | .ok none => (.next, assembly)
  | .ok (some line) =>
      if assembly.isDeclared line.label then
        (.failed (locate (.duplicateLabel ((line.label.map LabelName.name).getD ""))), assembly)
      else
        match line.clause with
        | .error error => (.failed (locate error), assembly)
        | .ok clause => enact locate line.label (assembly.declare line.label) clause

def lines (traps : Traps) (number : Nat) :
    List (List Char) -> Assembly -> Option AssemblyError × Assembly
  | [], assembly => (none, assembly)
  | raw :: rest, assembly =>
      match line traps number raw assembly with
      | (.next, assembly) => lines traps (number + 1) rest assembly
      | (.stop, assembly) => (none, assembly)
      | (.failed error, assembly) => (some error, assembly)

end Assembly

def assemble (traps : Traps) (verbose : Bool) (text : String) (program : Program) :
    Option AssemblyError × Assembly :=
  Assembly.lines traps 1 (Text.lines text.toList) (Assembly.start verbose program)

end Source
end LittleComputer
