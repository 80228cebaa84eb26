import LittleComputer.Instruction.Candidate
import LittleComputer.Source.Error
import LittleComputer.Source.Keyword
import LittleComputer.Source.Number

/-!
# Source lines

What a line of assembly says, read from the line alone: an optional label, and a clause.  A comment
starts at the first semicolon.  The first word is a label unless it is a keyword.  Operands are
separated by commas and blanks in any mixture.

An instruction whose operands cannot be read is still a clause, because the label in front of it is
bound before its operands are looked at.
-/

namespace LittleComputer
namespace Source

inductive Clause where
  | nothing
  | stop
  | origin (address : Int)
  | constant (value : Int)
  | instruction (reading : Except LineError Instruction)

structure Line where
  label : Option LabelName
  clause : Except LineError Clause

/-! ## Operands -/

def isOperandSeparator (c : Char) : Bool :=
  c == ',' || Text.isBlank c

def operandWords (written : List Char) : List (List Char) :=
  Text.fields isOperandSeparator written

def registerOperand (word : List Char) : Except LineError Register :=
  match readRegister? word with
  | some register => .ok register
  | none => .error (.expectedRegister (String.ofList word))

def numberOperand (word : List Char) : Except LineError Int :=
  match readNumber word with
  | .ok n => .ok n
  | .error .malformed => .error (.invalidNumber (String.ofList word))
  | .error .tooLong => .error .numeralTooLong

def labelOperand (word : List Char) : Except LineError LabelName :=
  match readLabel? word with
  | some label => .ok label
  | none => .error (.invalidLabel (String.ofList word))

def immediateOperand (word : List Char) : Except LineError Immediate := do
  let n ← numberOperand word
  (Immediate.ofValue (.int n)).mapError .configuration

def conditionOperand (letters : List Char) : Except LineError Condition :=
  match Condition.ofLetters? letters with
  | some condition => .ok condition
  | none =>
      .error (.configuration (.invalidCondition (.text (String.ofList letters))))

/-! ## Instructions -/

def arithmetic (withRegister : Register -> Register -> Register -> Instruction)
    (withImmediate : Register -> Register -> Immediate -> Instruction)
    (dest src1 src2 : List Char) : Except LineError Instruction := do
  let dest ← registerOperand dest
  let src1 ← registerOperand src1
  match readRegister? src2 with
  | some src2 => return withRegister dest src1 src2
  | none => return withImmediate dest src1 (← immediateOperand src2)

def registerAndLabel (make : Register -> LabelName -> Instruction) (register label : List Char) :
    Except LineError Instruction := do
  let register ← registerOperand register
  let label ← labelOperand label
  return make register label

/-- Addressing by base and offset can be written and is refused. -/
def baseOffset (mnemonic : String) (register base offset : List Char) :
    Except LineError Instruction := do
  let _ ← registerOperand register
  let _ ← registerOperand base
  let _ ← numberOperand offset
  throw (.configuration (.baseOffsetAddressing mnemonic))

def countError (expected : Nat) (keyword : Keyword) (words : List (List Char)) : LineError :=
  .operandCount expected keyword.name words.length

def readOperation (traps : Traps) (operation : Operation) (words : List (List Char)) :
    Except LineError Instruction :=
  let wrongCount (expected : Nat) : Except LineError Instruction :=
    .error (countError expected (.operation operation) words)
  match operation, words with
  | .add, [dest, src1, src2] => arithmetic .addRegister .addImmediate dest src1 src2
  | .and, [dest, src1, src2] => arithmetic .andRegister .andImmediate dest src1 src2
  | .not, [dest, src] => do
      let dest ← registerOperand dest
      let src ← registerOperand src
      return .not dest src
  | .ld, [register, label] => registerAndLabel .load register label
  | .ldi, [register, label] => registerAndLabel .loadIndirect register label
  | .st, [register, label] => registerAndLabel .store register label
  | .sti, [register, label] => registerAndLabel .storeIndirect register label
  | .ldr, [register, base, offset] => baseOffset "LDR" register base offset
  | .str, [register, base, offset] => baseOffset "STR" register base offset
  | .trap, [word] =>
      match traps.ofOperand word with
      | .ok (some trap) => (Instruction.ofVector traps trap.vector).mapError .configuration
      | .ok none => .error (.unsupportedTrap (String.ofList word))
      | .error operand => .error (.configuration (.trapOperandNotText operand))
  | .halt, [] =>
      (Instruction.ofVector traps (.int Trap.haltVector)).mapError .configuration
  | .add, _ | .and, _ | .ldr, _ | .str, _ => wrongCount 3
  | .not, _ | .ld, _ | .ldi, _ | .st, _ | .sti, _ => wrongCount 2
  | .trap, _ => wrongCount 1
  | .halt, _ => wrongCount 0

def readBranch (letters : List Char) (words : List (List Char)) : Except LineError Instruction :=
  match words with
  | [word] => do
      let label ← labelOperand word
      let condition ← conditionOperand letters
      return .branch condition label
  | _ => .error (countError 1 (.branch letters) words)

/-! ## Clauses -/

def directiveNumber (directive : Directive) (words : List (List Char)) : Except LineError Int :=
  match words with
  | [word] => numberOperand word
  | _ => .error (countError 1 (.directive directive) words)

def readDirective (isLabelled : Bool) (directive : Directive) (words : List (List Char)) :
    Except LineError Clause :=
  match directive with
  | .stop => .ok .stop
  | .orig => (directiveNumber .orig words).map .origin
  | .fill =>
      if isLabelled then (directiveNumber .fill words).map .constant
      else .error .fillWithoutLabel
  | .blkw | .stringz => .error (.unsupportedDirective directive.name)

def readClause (traps : Traps) (isLabelled : Bool) (written : List Char) :
    Except LineError Clause :=
  if written.isEmpty then .ok .nothing
  else
    let (word, rest) := Text.firstWord written
    let words := operandWords rest
    match Keyword.read? word with
    | none => .error (.unknownInstruction (String.ofList word))
    | some (.directive directive) => readDirective isLabelled directive words
    | some (.operation operation) => .ok (.instruction (readOperation traps operation words))
    | some (.branch letters) => .ok (.instruction (readBranch letters words))

def code (raw : List Char) : List Char :=
  Text.strip (raw.takeWhile (· != ';'))

def readLine (traps : Traps) (raw : List Char) : Except LineError (Option Line) :=
  let written := code raw
  if written.isEmpty then .ok none
  else
    let (word, rest) := Text.firstWord written
    if (Keyword.read? word).isSome then
      .ok (some ⟨none, readClause traps false written⟩)
    else
      match readLabel? word with
      | some label => .ok (some ⟨some label, readClause traps true rest⟩)
      | none => .error (.invalidLabel (String.ofList word))

end Source
end LittleComputer
