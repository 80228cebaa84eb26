import LittleComputer.Builder
import LittleComputer.Sheet.Manager

/-!
# Commands and answers

What can be asked of a session, and the forms of its answers.
-/

namespace LittleComputer

inductive LabelCommand where
  | bind (name value : Value)
  | define (name value : Value)
  | store (name value : Value)
  | freeze
  | lookUp (name : Value)
  | find (name : Value)
  | contains (name : Value)
  | size
  | names
  | entries
  | save
  | pokeSaved (name value : Value)
  | restoreSaved
  | restore (entries : List (Value × Value))

inductive ProcessorCommand where
  | readRegister (index : Value)
  | writeRegister (index value : Value)
  | read (address : Value)
  | write (address value : Value)
  | reset
  | load (cells : Cells)
  | setFlag (value : Value)

inductive EngineCommand where
  | create
  | run
  | reset
  | step (count : Nat)
  | trace (count : Nat)

/-- Commands to the manager of sheets.  A command with a content first puts it into the file. -/
inductive SheetCommand where
  | load (content : Sheet.FileContent)
  | loadDefault
  | newManager (content : Option Sheet.FileContent)
  | active

/-- Commands to the registries.  Definitions are set up to one whose mnemonic is no text; `isWhole`
tells that there is none. -/
inductive RegistryCommand where
  | definitions
  | setDefinitions (definitions : List Definition) (isWhole : Bool)
  | withExecutor (mnemonic : String) (executor : Option Executor)
  | executor (mnemonic : String)
  | withTrap (trap : Trap)
  | trap (vector : Value)
  | trapOfOperand (written : String)
  | traps

inductive Command where
  | newBuilder (processor : Option Processor)
  | statement (statement : Statement)
  | append (candidate : Candidate)
  | assemble (text : String)
  | execute
  | writeMemory (address value : Value)
  | readMemory (address : Value)
  | readRegister (register : Value)
  | flag
  | current
  | fetch (index : Value)
  | freeze
  | dump
  | validate
  | labels (command : LabelCommand)
  | processor (command : ProcessorCommand)
  | engine (command : EngineCommand)
  | sheet (command : SheetCommand)
  | registry (command : RegistryCommand)

inductive Answer where
  | nothing
  | value (v : Value)
  | values (items : List Value)
  | labels (entries : List (Value × Value))
  | program (program : Program)
  | outcome (event : Option Event)
  | trace (rows : Array Engine.Row) (event : Option Event)
  | trap (trap : Option Trap)
  | traps (traps : List Trap)
  | sheet (sheet : Option Sheet)
  | definitions (entries : List (String × Definition))
  | executor (executor : Option Executor)

end LittleComputer
