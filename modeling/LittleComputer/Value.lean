import LittleComputer.Decimal.Numeral
import LittleComputer.Decimal.Shortest
import LittleComputer.Text.Quoted

/-!
# Loosely typed values

What a caller hands over: a number, a truth value, a text, nothing at all, or an operand.  Arguments
are checked by the constructors of instructions and by the builder, so a value of the wrong sort is
reported and not excluded.  Where nothing is checked, a value is kept as it was given, and only a
computation with it tells whether it is an integer.

A value has two spellings: the plain one for running text, and the quoted one for the place in a
message that shows what was given.  Values can be equal without being the same.
-/

namespace LittleComputer

/-- An operand carries the kind that it claims to be, its value, and the text it was written as.
None of the three is checked. -/
inductive Value where
  | int (n : Int)
  | float (x : Binary64)
  | bool (b : Bool)
  | text (s : String)
  | null
  | operand (kind value written : Value)
  deriving DecidableEq

inductive NumeralError where
  | notNumber
  | nan
  | infinite
  | tooLong
  deriving DecidableEq

namespace Value

instance : Inhabited Value :=
  ⟨null⟩

/-! ## Spelling -/

def quoted : Value -> String
  | int n => toString n
  | float x => x.text
  | bool b => if b then "True" else "False"
  | text s => Text.quoted s
  | null => "None"
  | operand kind value written =>
      "Operand(type=" ++ kind.quoted ++ ", value=" ++ value.quoted ++ ", text=" ++
        written.quoted ++ ")"

def plain : Value -> String
  | text s => s
  | value => value.quoted

def isWritable : Value -> Bool
  | int n => Decimal.isWritable n
  | operand kind value written => kind.isWritable && value.isWritable && written.isWritable
  | _ => true

/-! ## Numbers -/

/-- The integer that a value counts as, truth values being 1 and 0. -/
def asInt? : Value -> Option Int
  | int n => some n
  | bool b => some (if b then 1 else 0)
  | _ => none

def isWithin? (low high : Int) : Value -> Option Bool
  | float x => some (x.between low high)
  | value => value.asInt?.map fun n => low ≤ n && n ≤ high

/-- An integer of the same sign as a number.  Being neither below zero nor zero, `nan` goes with the
positive numbers. -/
def ofSameSign? : Value -> Option Int
  | float x => some (if x.isZero then 0 else if x.isNegative then -1 else 1)
  | value => value.asInt?

def numeral : Value -> Except NumeralError String
  | float .nan => .error .nan
  | float (.infinite _) => .error .infinite
  | float (.finite negative significand exponent) =>
      .ok (toString (Binary64.truncate negative significand exponent))
  | value =>
      match value.asInt? with
      | some n => if Decimal.isWritable n then .ok (toString n) else .error .tooLong
      | none => .error .notNumber

def isFalsy : Value -> Bool
  | int n => n == 0
  | float x => x.isZero
  | bool b => !b
  | text s => s.isEmpty
  | null => true
  | operand _ _ _ => false

/-! ## Equality -/

/-- The value that stands for all that are equal to a value: numbers of all sorts are equal by what
they count, and operands are equal field by field. -/
def canonical : Value -> Value
  | bool b => int (if b then 1 else 0)
  | float x =>
      match x.toInt? with
      | some n => int n
      | none => float x
  | operand kind value written => operand kind.canonical value.canonical written.canonical
  | value => value

/-- Whether a value is equal to itself, as `nan` is not. -/
def isReflexive : Value -> Bool
  | float .nan => false
  | operand kind value written => kind.isReflexive && value.isReflexive && written.isReflexive
  | _ => true

def equals (v w : Value) : Bool :=
  let v := v.canonical
  v.isReflexive && v = w.canonical

theorem equals_iff {v w : Value} :
    v.equals w = true ↔ v.canonical.isReflexive = true ∧ v.canonical = w.canonical := by
  simp [equals]

theorem equals_symm {v w : Value} (h : v.equals w = true) : w.equals v = true := by
  obtain ⟨hrefl, heq⟩ := equals_iff.1 h
  exact equals_iff.2 ⟨heq ▸ hrefl, heq.symm⟩

theorem equals_trans {u v w : Value} (huv : u.equals v = true) (hvw : v.equals w = true) :
    u.equals w = true := by
  obtain ⟨hrefl, heq⟩ := equals_iff.1 huv
  exact equals_iff.2 ⟨hrefl, heq.trans (equals_iff.1 hvw).2⟩

theorem equals_int (m n : Int) : (int m).equals (int n) = decide (m = n) := by
  simp [equals, canonical, isReflexive]

theorem equals_text (s t : String) : (text s).equals (text t) = decide (s = t) := by
  simp [equals, canonical, isReflexive]

end Value

/-! ## Values as keys -/

/-- A value in the place of a key: equal values are one key. -/
structure Key where
  value : Value

namespace Key

instance : BEq Key :=
  ⟨fun a b => a.value.equals b.value⟩

instance : PartialEquivBEq Key where
  symm h := Value.equals_symm h
  trans h h' := Value.equals_trans h h'

def int (n : Int) : Key :=
  ⟨.int n⟩

def text (s : String) : Key :=
  ⟨.text s⟩

theorem text_beq_text (s t : String) : (text s == text t) = decide (s = t) :=
  Value.equals_text s t

theorem int_beq_int (m n : Int) : (int m == int n) = decide (m = n) :=
  Value.equals_int m n

end Key
end LittleComputer
