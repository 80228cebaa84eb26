import LittleComputer.Cells
import LittleComputer.Engine
import LittleComputer.Failure
import LittleComputer.Source.Assembly
import LittleComputer.Statement

/-!
# Builders

A builder holds a program, the processor that will execute it, and the run once there is one.  The
first execution freezes the program for good, before the active definitions are asked whether it is
valid.
-/

namespace LittleComputer

structure Builder where
  program : Program
  processor : Processor
  run : Option Run

namespace Builder

def ofProcessor (processor : Processor) : Builder where
  program := .empty
  processor := processor
  run := none

def empty : Builder :=
  ofProcessor .initial

def onProgram {α : Type} (change : Program -> α × Program) (builder : Builder) : α × Builder :=
  match builder with
  | ⟨program, processor, run⟩ =>
    match change program with
    | (answer, program) => (answer, ⟨program, processor, run⟩)

def onProcessor {α : Type} (change : Processor -> α × Processor) (builder : Builder) :
    α × Builder :=
  match builder with
  | ⟨program, processor, run⟩ =>
    match change processor with
    | (answer, processor) => (answer, ⟨program, processor, run⟩)

def onEngine {α : Type} (change : Engine -> α × Engine) (builder : Builder) :
    Option α × Builder :=
  match builder with
  | ⟨program, processor, some run⟩ =>
    match change ⟨processor, program, run⟩ with
    | (answer, ⟨processor, program, run⟩) => (some answer, ⟨program, processor, some run⟩)
  | ⟨program, processor, none⟩ => (none, ⟨program, processor, none⟩)

/-! ## Memory and registers -/

/-- Writes to memory.  The address is checked first, then the value must count as an integer. -/
def writeMemory (address value : Value) (builder : Builder) : Except Failure Unit × Builder :=
  match Program.address address, value.asInt? with
  | .error error, _ => (.error (.ofConfiguration error), builder)
  | .ok _, none => (.error .wrongType, builder)
  | .ok n, some content =>
      if builder.processor.hasCell n then
        builder.onProcessor fun processor => (.ok (), processor.write n content)
      else (.error .outOfBounds, builder)

def readMemory (address : Value) (builder : Builder) : Except Failure Value :=
  match Program.address address with
  | .error error => .error (.ofConfiguration error)
  | .ok n =>
    match builder.processor.read? n with
    | some value => .ok value
    | none => .error .outOfBounds

def readRegister (register : Value) (builder : Builder) : Except Failure Value :=
  match register.registerArgument with
  | .error error => .error (.ofConfiguration error)
  | .ok value =>
    match value.asInt? with
    | none => .error .wrongType
    | some index =>
      match builder.processor.register? index with
      | some content => .ok content
      | none => .error .outOfBounds

/-! ## Execution -/

/-- Starts a run from the present labels, whatever state the program is in. -/
def startRun (builder : Builder) : Builder :=
  { builder with run := some (.start builder.program.labels.table) }

def prepare (isa : Isa) (builder : Builder) : Except Failure Unit × Builder :=
  if builder.program.frozen then (.error (.configuration .alreadyExecuted), builder)
  else
    let builder := { builder with program := builder.program.freeze }
    match isa.validate builder.program with
    | some error => (.error (.validation error), builder)
    | none => (.ok (), builder)

def startRecords (builder : Builder) : List Record :=
  let program := builder.program
  let missing := program.unboundLabels
  let warning : List Record :=
    if missing.isEmpty then []
    else [⟨.warning, .builder,
      "Program references unbound labels: " ++ String.intercalate ", " missing⟩]
  warning ++ [⟨.info, .builder,
    "Executing " ++ toString program.size ++ " instructions with " ++
      toString program.labels.table.size ++ " labels"⟩]

def eventFailure? : Event -> Option Failure
  | .faulted fault | .repeatedFault fault => some (.fault fault)
  | .failed error => some (.ofAccess error)
  | .executed | .halted | .repeatedHalt => none

def runAnswer (event : Option Event) (steps : Nat) : Except Failure Nat :=
  match event with
  | some .halted | some .repeatedHalt => .ok steps
  | some event => .error ((eventFailure? event).getD .unfinished)
  | none => .error .unfinished

def runEngine {σ : Type} (isa : Isa) (observe : Engine -> Event -> σ -> σ) (limit : Nat) (seen : σ)
    (builder : Builder) : Except Failure Nat × σ × Builder :=
  match builder with
  | ⟨program, processor, none⟩ => (.error .noSuchOperation, seen, ⟨program, processor, none⟩)
  | ⟨program, processor, some run⟩ =>
    match Engine.drive isa observe limit none seen ⟨processor, program, run⟩ with
    | ((event, seen), ⟨processor, program, run⟩) =>
        (runAnswer event run.steps, seen, ⟨program, processor, some run⟩)

/-- Executes the program from the start.  `announce` receives the records of the start. -/
def execute {σ : Type} (isa : Isa) (announce : List Record -> σ -> σ)
    (observe : Engine -> Event -> σ -> σ) (limit : Nat) (seen : σ) (builder : Builder) :
    Except Failure Nat × σ × Builder :=
  match builder.prepare isa with
  | (.error failure, builder) => (.error failure, seen, builder)
  | (.ok (), builder) =>
      builder.startRun.runEngine isa observe limit (announce builder.startRecords seen)

/-! ## Source texts -/

/-- Writes memory from left to right up to the first pair that is refused. -/
def writeCells (builder : Builder) : List (Value × Value) -> Except Failure Unit × Builder
  | [] => (.ok (), builder)
  | (address, value) :: rest =>
    match builder.writeMemory address value with
    | (.ok (), builder) => builder.writeCells rest
    | (.error failure, builder) => (.error failure, builder)

def runText (isa : Isa) (limit : Nat) (text : String) (memory : Cells) :
    Except Failure Unit × Builder :=
  match Source.assemble isa.traps false text .empty with
  | (some error, assembly) =>
      (.error (.ofAssembly error), { empty with program := assembly.program })
  | (none, assembly) =>
    match { empty with program := assembly.program }.writeCells memory.pairs with
    | (.error failure, builder) => (.error failure, builder)
    | (.ok (), builder) =>
      match builder.execute isa (fun _ seen => seen) (fun _ _ seen => seen) limit () with
      | (.ok _, _, builder) => (.ok (), builder)
      | (.error failure, _, builder) => (.error failure, builder)

end Builder
end LittleComputer
