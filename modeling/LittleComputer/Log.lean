import LittleComputer.Value

/-!
# Log records

What the parts of the machine report while they work.  A record has a level, the component that
emitted it, and a message.  A report breaks off where a record needs the numeral of a value that has
none.
-/

namespace LittleComputer

inductive Level where
  | debug
  | info
  | warning
  deriving DecidableEq

inductive Component where
  | builder
  | symbols
  | emulator
  | cheatsheet
  deriving DecidableEq

structure Record where
  level : Level
  component : Component
  message : String
  deriving DecidableEq

/-- Records, and why there are no more of them if the report breaks off. -/
structure Report where
  records : List Record
  obstacle : Option NumeralError
  deriving DecidableEq

namespace Level

def name : Level -> String
  | debug => "DEBUG"
  | info => "INFO"
  | warning => "WARNING"

end Level

namespace Component

def name : Component -> String
  | builder => "builder"
  | symbols => "symbols"
  | emulator => "emulator"
  | cheatsheet => "cheatsheet"

end Component

namespace Report

def silent : Report :=
  ⟨[], none⟩

def ofNumeral (component : Component) (value : Value) (message : String -> String) : Report :=
  match value.numeral with
  | .ok numeral => ⟨[⟨.debug, component, message numeral⟩], none⟩
  | .error error => ⟨[], some error⟩

def append (first second : Report) : Report :=
  match first.obstacle with
  | some _ => first
  | none => ⟨first.records ++ second.records, second.obstacle⟩

end Report
end LittleComputer
