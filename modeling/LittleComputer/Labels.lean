import LittleComputer.ConfigurationError
import LittleComputer.Log
import LittleComputer.Table
import LittleComputer.Word

/-!
# Labels

The table of labels maps names to words.  Positions in the program and constants share it, with no
mark to tell them apart; the instruction that reads a label decides what its value means.  Binding
a name again replaces its value.  A frozen table takes no more bindings, but the values of bound
names can still be stored to.

A table that is put back is not checked, so a name can stand for what is no word, and for nothing.
Names are texts as a rule, but any value that does not count as absent can be a name.
-/

namespace LittleComputer

structure Labels where
  table : Table Key Value
  frozen : Bool

namespace Labels

def empty : Labels :=
  ⟨∅, false⟩

def get? (labels : Labels) (name : Value) : Option Value :=
  labels.table.get? ⟨name⟩

def contains (labels : Labels) (name : Value) : Bool :=
  labels.table.contains ⟨name⟩

def resolve? (labels : Labels) (name : Value) : Option Value :=
  (labels.get? name).filter (· ≠ .null)

def entries (labels : Labels) : List (Value × Value) :=
  labels.table.entries.map fun entry => (entry.1.value, entry.2)

def freeze (labels : Labels) : Labels :=
  { labels with frozen := true }

/-- Puts back a table taken earlier, also when frozen. -/
def restore (labels : Labels) (table : Table Key Value) : Labels :=
  { labels with table := table }

/-! ## Binding -/

def insert (labels : Labels) (name : Value) (value : Int) : Labels :=
  { labels with table := labels.table.insert ⟨name⟩ (.int (Word.signed value)) }

theorem get?_insert (labels : Labels) (name other : Value) (value : Int) :
    (labels.insert name value).get? other =
      if name.equals other then some (.int (Word.signed value)) else labels.get? other :=
  Table.get?_insert labels.table ⟨name⟩ ⟨other⟩ _

def bind (labels : Labels) (name value : Value) : Except ConfigurationError Labels :=
  if labels.frozen then .error (.frozenLabels name.plain)
  else if name.isFalsy then .error .emptyLabel
  else
    match value.asInt? with
    | some n => .ok (labels.insert name n)
    | none => .error (.notInteger value)

/-- Whether a number fits in sixteen bits, signed or not; what is no number has no answer. -/
def isConstant? (value : Value) : Option Bool :=
  value.isWithin? (-0x8000) 0xffff

def define (labels : Labels) (name value : Value) : Except ConfigurationError Labels :=
  match isConstant? value with
  | some true => labels.bind name value
  | some false => .error (.constantOutOfRange value name.plain)
  | none => .error (.notInteger value)

def bindReport (labels : Labels) (name value : Value) : Report :=
  if labels.frozen || name.isFalsy then .silent
  else
    match labels.get? name, value.asInt? with
    | some old, some n =>
        .ofNumeral .symbols old fun old =>
          "Rebinding label " ++ name.plain ++ " (" ++ old ++ " -> " ++
            toString (Word.signed n) ++ ")"
    | _, _ => .silent

def defineReport (labels : Labels) (name value : Value) : Report :=
  if isConstant? value = some true then labels.bindReport name value else .silent

/-! ## Storing -/

/-- Stores the word of a number under a bound name; an unbound name stays unbound. -/
def store (labels : Labels) (name : Value) (value : Int) : Labels :=
  if labels.contains name then labels.insert name value else labels

theorem keys_store (labels : Labels) (name : Value) (value : Int) :
    (labels.store name value).table.keys = labels.table.keys := by
  unfold store
  split
  · next hbound =>
      obtain ⟨other, hmem, heq⟩ := Table.contains_iff.1 hbound
      exact Table.keys_insert_of_mem _ hmem heq
  · rfl

end Labels
end LittleComputer
