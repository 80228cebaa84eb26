import LittleComputer.Executor

/-!
# The instruction set

Three registries: the traps, the executor of each mnemonic, and the definitions that are active.
Mnemonics are keys in upper case.  An executor can be withdrawn, after which its mnemonic has an
entry and no executor.
-/

namespace LittleComputer

structure Definition where
  mnemonic : String
  summary : String
  layouts : List Layout
  executor : Executor
  deriving DecidableEq

structure Isa where
  traps : Traps
  executors : Table String (Option Executor)
  definitions : Table String Definition

namespace Isa

/-- The built-in executors and the halting trap, with no definition active. -/
def bare : Isa where
  traps := .standard
  executors := .ofList (Executor.all.map fun executor => (executor.mnemonic, some executor))
  definitions := ∅

def withTrap (isa : Isa) (trap : Trap) : Isa :=
  { isa with traps := isa.traps.register trap }

/-- Enters the executor of a mnemonic, or withdraws it. -/
def withExecutor (isa : Isa) (mnemonic : String) (executor : Option Executor) : Isa :=
  { isa with executors := isa.executors.insert (Text.upperString mnemonic) executor }

def executor? (isa : Isa) (mnemonic : String) : Option Executor :=
  (isa.executors.get? (Text.upperString mnemonic)).join

theorem executor?_withExecutor (isa : Isa) (mnemonic other : String)
    (executor : Option Executor) :
    (isa.withExecutor mnemonic executor).executor? other =
      if Text.upperString mnemonic = Text.upperString other then executor
      else isa.executor? other := by
  unfold executor? withExecutor
  rw [Table.get?_insert]
  by_cases hupper : Text.upperString mnemonic = Text.upperString other
  · simp [hupper]
  · simp [hupper]

def activate (isa : Isa) (definitions : List Definition) : Isa :=
  { isa with
    definitions := .ofList (definitions.map fun definition =>
      (Text.upperString definition.mnemonic, definition)) }

def definition? (isa : Isa) (instruction : Instruction) : Option Definition :=
  isa.definitions.get? instruction.mnemonic

end Isa
end LittleComputer
