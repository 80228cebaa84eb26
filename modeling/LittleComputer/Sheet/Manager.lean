import LittleComputer.Sheet.Reader

/-!
# The manager of sheets

Loading a sheet reads it, finds an executor for each of its mnemonics, makes its definitions the
active ones, and remembers it as the manager's sheet.  A load that fails at any point changes
nothing.
-/

namespace LittleComputer

structure Manager where
  source : SheetSource
  active : Option Sheet

namespace Sheet

def define (isa : Isa) (entry : SheetEntry) : Except LoadError Definition :=
  match isa.executor? entry.mnemonic with
  | some executor => .ok ⟨entry.mnemonic, entry.summary, entry.layouts, executor⟩
  | none => .error (.sheet (.notImplemented entry.mnemonic))

def activate (sheet : Sheet) (isa : Isa) : Except LoadError Isa := do
  return isa.activate (← sheet.entries.mapM (define isa))

end Sheet

namespace Manager

/-- The sheet of a source, with the instruction set in which it is active. -/
def load (depth : Nat) (content : Sheet.FileContent) (source : SheetSource) (isa : Isa) :
    Except LoadError (Sheet × Isa) := do
  let sheet ← Sheet.read depth content source
  let isa ← sheet.activate isa
  return (sheet, isa)

def loadRecord (source : SheetSource) (sheet : Sheet) : Record :=
  ⟨.info, .cheatsheet,
    "Loaded instruction sheet " ++ Text.quoted sheet.name ++ " from " ++ source.text⟩

def standard : Manager :=
  ⟨.bundled, some .standard⟩

end Manager

namespace Isa

def standard : Isa :=
  match Sheet.standard.activate bare with
  | .ok isa => isa
  | .error _ => bare

end Isa
end LittleComputer
