import LittleComputer.Isa

/-!
# The engine

The engine executes a program one instruction at a time.  A fault or a halting trap ends the run:
from then on a step does nothing but report the end again.  `reset` starts over, with the processor
cleared and the labels as they were when the engine was created.
-/

namespace LittleComputer

structure Run where
  index : Value
  steps : Nat
  halted : Bool
  fault : Option Fault
  previous : Option (Value × Instruction)
  initialLabels : Table Key Value

structure Engine where
  processor : Processor
  program : Program
  run : Run

namespace Run

def start (labels : Table Key Value) : Run where
  index := .int 0
  steps := 0
  halted := false
  fault := none
  previous := none
  initialLabels := labels

end Run

/-- What a call of `step` came to.  A failure is no fault of the program, and leaves the run as it
was. -/
inductive Event where
  | executed
  | halted
  | faulted (fault : Fault)
  | repeatedHalt
  | repeatedFault (fault : Fault)
  | failed (error : AccessError)
  deriving DecidableEq

namespace Event

def isExecuted : Event -> Bool
  | executed => true
  | _ => false

def isPerformed : Event -> Bool
  | executed | halted => true
  | _ => false

def fault? : Event -> Option Fault
  | faulted fault | repeatedFault fault => some fault
  | _ => none

def isHalt : Event -> Bool
  | halted | repeatedHalt => true
  | _ => false

end Event

namespace Engine

def create (processor : Processor) (program : Program) : Engine where
  processor := processor
  program := program
  run := .start program.labels.table

def reset (engine : Engine) : Engine where
  processor := .initial
  program := { engine.program with
    labels := engine.program.labels.restore engine.run.initialLabels }
  run := .start engine.run.initialLabels

/-! ## One step -/

def abort (engine : Engine) (fault : Fault) : Event × Engine :=
  (.faulted fault,
    { engine with run := { engine.run with halted := true, fault := some fault } })

/-- The fault of an index without an instruction.  It blames the instruction executed before. -/
def outOfRangeFault (traps : Traps) (engine : Engine) : Fault :=
  let cause := FaultCause.outOfRange engine.run.index engine.program.size
  match engine.run.previous with
  | some (index, instruction) => ⟨cause, some index, instruction.text traps⟩
  | none => ⟨cause, none, ""⟩

def effect (isa : Isa) (engine : Engine) (instruction : Instruction) :
    Except ExecutionError Effect :=
  match isa.definition? instruction with
  | some definition =>
      definition.executor.effect isa.traps engine.program.labels engine.processor
        (some engine.run.index) instruction
  | none =>
      .error (.fault ⟨.unknownInstruction instruction.mnemonic, some engine.run.index,
        instruction.text isa.traps⟩)

def following (index : Value) : Value :=
  match index.asInt? with
  | some n => .int (n + 1)
  | none => index

/-- The run after an effect: a halt stays at its instruction. -/
def advance (run : Run) (instruction : Instruction) (effect : Effect) : Run :=
  { run with
    index := if effect.halts then run.index else effect.target?.getD (following run.index)
    steps := run.steps + 1
    halted := effect.halts
    previous := some (run.index, instruction) }

def perform (engine : Engine) (instruction : Instruction) (effect : Effect) : Engine :=
  match engine with
  | ⟨processor, program, run⟩ =>
    { processor := effect.onProcessor processor
      program := { program with labels := effect.onLabels program.labels }
      run := advance run instruction effect }

def step (isa : Isa) (engine : Engine) : Event × Engine :=
  match engine.run.fault with
  | some fault => (.repeatedFault fault, engine)
  | none =>
    if engine.run.halted then (.repeatedHalt, engine)
    else
      match engine.program.fetch engine.run.index with
      | .error .outOfRange => engine.abort (outOfRangeFault isa.traps engine)
      | .error .wrongType => (.failed .wrongType, engine)
      | .ok instruction =>
        match engine.effect isa instruction with
        | .error (.fault fault) => engine.abort fault
        | .error (.access error) => (.failed error, engine)
        | .ok effect =>
            (if effect.halts then .halted else .executed, engine.perform instruction effect)

/-! ## Records

A step is the same whether anybody wants its records or not, and integers of any size are written out
in them. -/

def listText (values : List Value) : String :=
  "[" ++ String.intercalate ", " (values.map Value.quoted) ++ "]"

def padRight (width : Nat) (s : String) : String :=
  s ++ String.ofList (List.replicate (width - Text.length s) ' ')

def emulatorRecord (level : Level) (message : String) : Record :=
  ⟨level, .emulator, message⟩

def indexText (index : Value) : String :=
  (index.asInt?.map toString).getD index.plain

/-- A flag as it is reported.  One that is no number is shown like a register. -/
def flagText (flag : Value) : String :=
  match flag.numeral with
  | .ok numeral => numeral
  | .error _ => flag.quoted

def trace (traps : Traps) (engine : Engine) : List Record :=
  match engine.run.previous with
  | some (index, instruction) =>
      [emulatorRecord .debug ("step " ++ toString engine.run.steps ++ " @" ++ indexText index ++
        " " ++ padRight 16 (instruction.text traps) ++ " regs=" ++
        listText engine.processor.registers.toList ++ " flag=" ++
        flagText engine.processor.flag)]
  | none => []

def records (traps : Traps) (engine : Engine) : Event -> List Record
  | .executed => engine.trace traps
  | .halted =>
      engine.trace traps ++
        [emulatorRecord .info ("Halted at instruction " ++ indexText engine.run.index ++
          " after " ++ toString engine.run.steps ++ " steps")]
  | .faulted fault => [emulatorRecord .warning ("Execution aborted: " ++ fault.message)]
  | _ => []

/-! ## Runs -/

/-- Steps until the run ends, at most `limit` times, and collects what `observe` makes of each
step.  The event is the last one; `last` is the one before the first step. -/
def drive {σ : Type} (isa : Isa) (observe : Engine -> Event -> σ -> σ) :
    Nat -> Option Event -> σ -> Engine -> (Option Event × σ) × Engine
  | 0, last, seen, engine => ((last, seen), engine)
  | limit + 1, _, seen, engine =>
      match engine.step isa with
      | (event, engine) =>
        let seen := observe engine event seen
        if event.isExecuted then drive isa observe limit (some event) seen engine
        else ((some event, seen), engine)

structure Row where
  index : Value
  steps : Nat
  flag : Value
  registers : Array Value
  deriving DecidableEq

def row (engine : Engine) : Row :=
  ⟨engine.run.index, engine.run.steps, engine.processor.flag, engine.processor.registers⟩

end Engine
end LittleComputer
