import LittleComputer.Proofs.Engine.Step
import LittleComputer.Proofs.Reference.Machine
import LittleComputer.Proofs.Sheet.Soundness

/-!
# The engine refines the reference machine

An engine represents a reference machine if its registers and cells, which may hold integers of any
size at first, stand for the machine's words, its labels for the machine's labels, and its flag for
the machine's sign.  Every instruction keeps this relation, and so does every number of steps.
-/

namespace LittleComputer
namespace Reference

open Function

/-!
# The relation
-/

def Shows (fault : Fault) : Status -> Prop
  | .unboundLabel name => fault.cause = .unboundLabel (.text name)
  | .outOfRange target size =>
      ∃ index : Value, fault.cause = .outOfRange index size ∧ index.toInt = target
  | .running | .halted => False

def HasStatus (run : Run) (status : Status) : Prop :=
  match status with
  | .running => run.halted = false ∧ run.fault = none
  | .halted => run.halted = true ∧ run.fault = none
  | _ => run.halted = true ∧ ∃ fault : Fault, run.fault = some fault ∧ Shows fault status

def Reports (event : Event) (status : Status) : Prop :=
  match event with
  | .executed => status = .running
  | .halted | .repeatedHalt => status = .halted
  | .faulted fault | .repeatedFault fault => Shows fault status
  | .failed _ => False

structure Represents (code : List Instruction) (engine : Engine) (machine : Machine) : Prop where
  isWhole : engine.IsWhole
  code : engine.program.instructions.toList = code
  registers : ∀ register : Register,
    Word.bits (engine.processor.registerValue register) = machine.registers register
  memory : ∀ address : BitVec 16,
    Word.bits (engine.processor.cellValue address.toNat) = machine.memory address
  labels : ∀ name : String,
    (engine.program.labels.get? (.text name)).map Value.toInt =
      (machine.labels name).map BitVec.toInt
  sign : Sign.ofInt engine.processor.flagValue = machine.sign
  index : engine.run.index.toInt = machine.index
  status : HasStatus engine.run machine.status

/-- The machine that has the words of a processor and of labels, at the start of a run. -/
def Machine.ofState (processor : Processor) (labels : Labels) : Machine where
  registers register := Word.bits (processor.registerValue register)
  memory address := Word.bits (processor.cellValue address.toNat)
  labels name := (labels.get? (.text name)).map fun value => Word.bits value.toInt
  sign := .ofInt processor.flagValue
  index := 0
  status := .running

def AreWords (labels : Labels) : Prop :=
  ∀ (name value : Value), labels.get? name = some value ->
    value.IsInteger ∧ -0x8000 ≤ value.toInt ∧ value.toInt ≤ 0x7fff

theorem represents_create {processor : Processor} {program : Program}
    (hprocessor : processor.IsWhole) (hlabels : AreWords program.labels) :
    Represents program.instructions.toList (.create processor program)
      (.ofState processor program.labels) where
  isWhole := Engine.isWhole_create hprocessor fun name value hget =>
    (hlabels name value hget).left
  code := rfl
  registers _ := rfl
  memory _ := rfl
  labels name := by
    show (program.labels.get? (.text name)).map Value.toInt =
      ((program.labels.get? (.text name)).map fun value => Word.bits value.toInt).map BitVec.toInt
    cases hget : program.labels.get? (.text name) with
    | none => rfl
    | some value =>
        rcases hlabels _ value hget with ⟨-, hlow, hhigh⟩
        exact congrArg some (Word.toInt_bits_of_mem hlow hhigh).symm
  sign := rfl
  index := rfl
  status := ⟨rfl, rfl⟩

/-!
# Words and signs
-/

theorem bits_immediate (imm : Immediate) : Word.bits imm.value = immediateWord imm := by
  have hlow := imm.le_value
  have hhigh := imm.value_le
  have hsigned : (BitVec.ofInt 5 imm.value).toInt = imm.value := by
    apply BitVec.toInt_ofInt_eq_self (by decide) <;> omega
  apply BitVec.eq_of_toInt_eq
  unfold immediateWord
  rw [BitVec.toInt_signExtend_of_le (by decide), hsigned]
  exact Word.toInt_bits_of_mem (by omega) (by omega)

theorem admits_eq_isTaken (condition : Condition) (flag : Int) :
    condition.admits flag = isTaken condition (.ofInt flag) := by
  rcases condition with ⟨negative, zero, positive⟩
  unfold Condition.admits Condition.lettersAdmit Condition.signLetter Sign.ofInt
  split
  · cases negative <;> cases zero <;> cases positive <;> rfl
  · split
    · cases negative <;> cases zero <;> cases positive <;> rfl
    · cases negative <;> cases zero <;> cases positive <;> rfl

/-!
# Effects
-/

section Effects

variable {code : List Instruction} {engine : Engine} {machine : Machine}
  (h : Represents code engine machine) (hrunning : machine.status = .running)
include h

theorem label_of_get?_some {name : String} {value : Value}
    (hget : engine.program.labels.get? (.text name) = some value) :
    ∃ word : BitVec 16, machine.labels name = some word ∧ value.toInt = word.toInt := by
  have hlabel := h.labels name
  rw [hget] at hlabel
  rcases Option.map_eq_some_iff.mp hlabel.symm with ⟨word, hword, heq⟩
  exact ⟨word, hword, heq.symm⟩

theorem label_of_get?_none {name : String}
    (hget : engine.program.labels.get? (.text name) = none) : machine.labels name = none := by
  have hlabel := h.labels name
  rw [hget] at hlabel
  exact Option.map_eq_none_iff.mp hlabel.symm

theorem toInt_following : (Engine.following engine.run.index).toInt = machine.index + 1 := by
  unfold Engine.following
  rw [Value.asInt?_of_isInteger h.isWhole.index_isInteger, ← h.index]
  rfl

include hrunning

theorem isRunning_of_represents : engine.IsRunning := by
  have hstatus := h.status
  rw [hrunning] at hstatus
  exact ⟨hstatus.right, hstatus.left⟩

theorem hasStatus_perform (i : Instruction) {effect : Effect} (hgoesOn : effect.halts = false) :
    HasStatus (engine.perform i effect).run machine.status := by
  rw [hrunning]
  exact ⟨hgoesOn, (isRunning_of_represents h hrunning).left⟩

theorem represents_result {i : Instruction} {dest : Register} {value : Int} {word : BitVec 16}
    (hwhole : (engine.perform i (.result dest value)).IsWhole)
    (hword : Word.bits value = word) :
    Represents code (engine.perform i (.result dest value)) (machine.withResult dest word) where
  isWhole := hwhole
  code := h.code
  registers register := by
    show Word.bits ((engine.processor.putResult dest value).registerValue register) =
      update machine.registers dest word register
    rw [Processor.registerValue_putResult h.isWhole.processor_isWhole]
    by_cases heq : dest = register
    · rw [if_pos heq, Word.bits_signed, hword, heq, update_self]
    · rw [if_neg heq, update_of_ne (Ne.symm heq)]
      exact h.registers register
  memory := h.memory
  labels := h.labels
  sign := by
    show Sign.ofInt (Word.signed value) = .ofInt word.toInt
    rw [Word.signed_eq_toInt_bits, hword]
  index := toInt_following h
  status := hasStatus_perform h hrunning i rfl

theorem represents_proceed {i : Instruction} (hwhole : (engine.perform i .proceed).IsWhole) :
    Represents code (engine.perform i .proceed) machine.advance where
  isWhole := hwhole
  code := h.code
  registers := h.registers
  memory := h.memory
  labels := h.labels
  sign := h.sign
  index := toInt_following h
  status := hasStatus_perform h hrunning i rfl

theorem represents_jump {i : Instruction} {target : Value} {word : BitVec 16}
    (hwhole : (engine.perform i (.jump target)).IsWhole) (hword : target.toInt = word.toInt) :
    Represents code (engine.perform i (.jump target))
      { machine with index := word.toInt } where
  isWhole := hwhole
  code := h.code
  registers := h.registers
  memory := h.memory
  labels := h.labels
  sign := h.sign
  index := hword
  status := hasStatus_perform h hrunning i rfl

theorem represents_label {i : Instruction} {label : LabelName} {value : Int} {word : BitVec 16}
    (hwhole : (engine.perform i (.label label value)).IsWhole)
    (hbound : (engine.program.labels.get? (.text label.name)).isSome = true)
    (hword : Word.bits value = word) :
    Represents code (engine.perform i (.label label value))
      { machine with
        labels := update machine.labels label.name (some word)
        index := machine.index + 1 } where
  isWhole := hwhole
  code := h.code
  registers := h.registers
  memory := h.memory
  labels name := by
    show ((engine.program.labels.store (.text label.name) value).get? (.text name)).map
        Value.toInt = (update machine.labels label.name (some word) name).map BitVec.toInt
    rw [Labels.get?_store, Value.equals_text]
    by_cases heq : label.name = name
    · rw [if_pos ⟨hbound, decide_eq_true heq⟩, heq, update_self]
      show some (Word.signed value) = some word.toInt
      rw [Word.signed_eq_toInt_bits, hword]
    · rw [if_neg (fun hcond => heq (of_decide_eq_true hcond.right)),
        update_of_ne (Ne.symm heq)]
      exact h.labels name
  sign := h.sign
  index := toInt_following h
  status := hasStatus_perform h hrunning i rfl

theorem represents_cell {i : Instruction} {address value : Int} {place word : BitVec 16}
    (hwhole : (engine.perform i (.cell address value)).IsWhole)
    (hplace : Word.bits address = place) (hword : Word.bits value = word) :
    Represents code (engine.perform i (.cell address value))
      { machine with
        memory := update machine.memory place word
        index := machine.index + 1 } where
  isWhole := hwhole
  code := h.code
  registers := h.registers
  memory other := by
    show Word.bits ((engine.processor.write address value).cellValue other.toNat) =
      update machine.memory place word other
    rw [Processor.cellValue_write h.isWhole.processor_isWhole, Processor.cell_eq_toNat_bits,
      hplace]
    by_cases heq : place = other
    · rw [if_pos (congrArg _ heq), Word.bits_signed, hword, heq, update_self]
    · rw [if_neg (fun hnat => heq (BitVec.eq_of_toNat_eq hnat)), update_of_ne (Ne.symm heq)]
      exact h.memory other
  labels := h.labels
  sign := h.sign
  index := toInt_following h
  status := hasStatus_perform h hrunning i rfl

theorem represents_halt {i : Instruction} (hwhole : (engine.perform i .halt).IsWhole) :
    Represents code (engine.perform i .halt) { machine with status := .halted } where
  isWhole := hwhole
  code := h.code
  registers := h.registers
  memory := h.memory
  labels := h.labels
  sign := h.sign
  index := h.index
  status := ⟨rfl, (isRunning_of_represents h hrunning).left⟩

theorem represents_perform {traps : Traps} {i : Instruction} {effect : Effect}
    (houtcome : i.outcome? traps engine.program.labels engine.processor = some effect) :
    Represents code (engine.perform i effect) (machine.execute traps.halts i) := by
  have hwhole := Engine.isWhole_perform h.isWhole houtcome
  cases i with
  | addRegister dest src1 src2 =>
      cases houtcome
      apply represents_result h hrunning hwhole
      simp [h.registers]
  | addImmediate dest src1 imm =>
      cases houtcome
      apply represents_result h hrunning hwhole
      simp [h.registers, bits_immediate]
  | andRegister dest src1 src2 =>
      cases houtcome
      apply represents_result h hrunning hwhole
      simp [h.registers]
  | andImmediate dest src1 imm =>
      cases houtcome
      apply represents_result h hrunning hwhole
      simp [h.registers, bits_immediate]
  | not dest src =>
      cases houtcome
      apply represents_result h hrunning hwhole
      simp [h.registers]
  | branch condition label =>
      rcases Option.map_eq_some_iff.mp houtcome with ⟨target, hget, heffect⟩
      rcases label_of_get?_some h hget with ⟨word, hlabel, hword⟩
      rw [admits_eq_isTaken, h.sign] at heffect
      simp only [Machine.execute, Machine.onLabel_of_some hlabel]
      by_cases htaken : isTaken condition machine.sign = true
      · rw [if_pos htaken] at heffect ⊢
        subst heffect
        exact represents_jump h hrunning hwhole hword
      · rw [if_neg htaken] at heffect ⊢
        subst heffect
        exact represents_proceed h hrunning hwhole
  | load dest label =>
      rcases Option.map_eq_some_iff.mp houtcome with ⟨value, hget, rfl⟩
      rcases label_of_get?_some h hget with ⟨word, hlabel, hword⟩
      simp only [Machine.execute, Machine.onLabel_of_some hlabel]
      apply represents_result h hrunning hwhole
      simp [hword]
  | loadIndirect dest label =>
      rcases Option.map_eq_some_iff.mp houtcome with ⟨address, hget, rfl⟩
      rcases label_of_get?_some h hget with ⟨word, hlabel, hword⟩
      simp only [Machine.execute, Machine.onLabel_of_some hlabel]
      apply represents_result h hrunning hwhole
      simp [Processor.cell_eq_toNat_bits, hword, h.memory]
  | store src label =>
      rcases Option.map_eq_some_iff.mp houtcome with ⟨old, hget, rfl⟩
      rcases label_of_get?_some h hget with ⟨word, hlabel, -⟩
      have hbound : (engine.program.labels.get? (.text label.name)).isSome = true := by
        rw [hget]
        rfl
      simp only [Machine.execute, Machine.onLabel_of_some hlabel]
      exact represents_label h hrunning hwhole hbound (h.registers src)
  | storeIndirect src label =>
      rcases Option.map_eq_some_iff.mp houtcome with ⟨address, hget, rfl⟩
      rcases label_of_get?_some h hget with ⟨word, hlabel, hword⟩
      have hplace : Word.bits address.toInt = word := by
        simp [hword]
      simp only [Machine.execute, Machine.onLabel_of_some hlabel]
      exact represents_cell h hrunning hwhole hplace (h.registers src)
  | trap vector =>
      cases houtcome
      simp only [Machine.execute]
      by_cases hhalts : traps.halts vector = true
      · simp only [if_pos hhalts] at hwhole ⊢
        exact represents_halt h hrunning hwhole
      · simp only [if_neg hhalts] at hwhole ⊢
        exact represents_proceed h hrunning hwhole

omit hrunning in
/-- An instruction has no outcome only for want of a label, and then the machine stops for it. -/
theorem execute_of_outcome?_none {traps : Traps} {i : Instruction}
    (houtcome : i.outcome? traps engine.program.labels engine.processor = none) :
    machine.execute traps.halts i =
      { machine with status := .unboundLabel (i.label?.getD "") } := by
  cases i with
  | branch condition label | load dest label | loadIndirect dest label | store src label
  | storeIndirect src label =>
      have hlabel := label_of_get?_none h (Option.map_eq_none_iff.mp houtcome)
      exact Machine.onLabel_of_none hlabel _
  | addRegister dest src1 src2 | addImmediate dest src1 imm | andRegister dest src1 src2
  | andImmediate dest src1 imm | not dest src | trap vector => cases houtcome

omit hrunning in
theorem represents_abort {fault : Fault} {status : Status} (hshows : Shows fault status) :
    Represents code (engine.abort fault).2 { machine with status := status } where
  isWhole := ⟨h.isWhole.processor_isWhole, h.isWhole.labels_areIntegers,
    h.isWhole.index_isInteger⟩
  code := h.code
  registers := h.registers
  memory := h.memory
  labels := h.labels
  sign := h.sign
  index := h.index
  status := by
    cases status with
    | running => exact hshows.elim
    | halted => exact hshows.elim
    | unboundLabel name => exact ⟨rfl, fault, rfl, hshows⟩
    | outOfRange target size => exact ⟨rfl, fault, rfl, hshows⟩

end Effects

/-!
# Steps and runs
-/

theorem fetch?_eq {code : List Instruction} {engine : Engine} {machine : Machine}
    (h : Represents code engine machine) :
    engine.program.fetch? engine.run.index.toInt = Machine.fetch? code machine.index := by
  unfold Program.fetch? Machine.fetch?
  rw [h.index, ← h.code, Array.getElem?_toList]

theorem reports_of_performed {engine : Engine} (hrunning : engine.IsRunning) {i : Instruction}
    {effect : Effect} {status : Status} (hstatus : HasStatus (engine.perform i effect).run status) :
    Reports (if effect.halts then .halted else .executed) status := by
  have hfault : (engine.perform i effect).run.fault = none := hrunning.left
  cases status with
  | running =>
      have hgoesOn : effect.halts = false := hstatus.left
      rw [hgoesOn]
      rfl
  | halted =>
      have hhalts : effect.halts = true := hstatus.left
      rw [hhalts]
      rfl
  | unboundLabel name | outOfRange target size =>
      rcases hstatus with ⟨-, fault, hsome, -⟩
      rw [hfault] at hsome
      cases hsome

theorem reports_of_stopped {isa : Isa} {engine : Engine} {status : Status}
    (hstatus : HasStatus engine.run status) (hstopped : status ≠ .running) :
    Reports (engine.step isa).1 status := by
  cases status with
  | running => exact absurd rfl hstopped
  | halted =>
      rcases hstatus with ⟨hhalted, hfault⟩
      unfold Engine.step
      rw [hfault]
      simp only [if_pos hhalted]
      rfl
  | unboundLabel name | outOfRange target size =>
      rcases hstatus with ⟨-, fault, hfault, hshows⟩
      unfold Engine.step
      rw [hfault]
      exact hshows

theorem not_isRunning_of_hasStatus {engine : Engine} {status : Status}
    (hstatus : HasStatus engine.run status) (hstopped : status ≠ .running) :
    ¬engine.IsRunning := by
  rintro ⟨hfault, hhalted⟩
  cases status with
  | running => exact hstopped rfl
  | halted => exact Bool.false_ne_true (hhalted.symm.trans hstatus.left)
  | unboundLabel name | outOfRange target size =>
      exact Bool.false_ne_true (hhalted.symm.trans hstatus.left)

/-- One step of the engine is one step of the machine, and its answer tells how the machine
stands. -/
theorem represents_step {isa : Isa} {code : List Instruction} {engine : Engine}
    {machine : Machine} (hisa : isa.Supports engine.program)
    (h : Represents code engine machine) :
    Represents code (engine.next isa) (machine.step code isa.traps.halts) ∧
      Reports (engine.step isa).1 (machine.step code isa.traps.halts).status := by
  by_cases hrunning : machine.status = .running
  · have hfetch := fetch?_eq h
    unfold Engine.next
    rw [Engine.step_of_running hisa h.isWhole (isRunning_of_represents h hrunning),
      Machine.step_of_running hrunning, hfetch]
    cases Machine.fetch? code machine.index with
    | none =>
        have hshows : Shows (Engine.outOfRangeFault isa.traps engine)
            (.outOfRange machine.index code.length) := by
          refine ⟨engine.run.index, ?_, h.index⟩
          unfold Engine.outOfRangeFault
          rw [← h.code, Array.length_toList]
          cases engine.run.previous <;> rfl
        exact ⟨represents_abort h hshows, hshows⟩
    | some i =>
        cases houtcome : i.outcome? isa.traps engine.program.labels engine.processor with
        | none =>
            have hshows : Shows (i.unboundFault isa.traps (some engine.run.index))
                (.unboundLabel (i.label?.getD "")) := rfl
            simp only [houtcome, execute_of_outcome?_none h houtcome]
            exact ⟨represents_abort h hshows, hshows⟩
        | some effect =>
            have hafter := represents_perform h hrunning houtcome
            simp only [houtcome]
            exact ⟨hafter,
              reports_of_performed (isRunning_of_represents h hrunning) hafter.status⟩
  · have hstopped := not_isRunning_of_hasStatus h.status hrunning
    rw [Machine.step_of_stopped _ _ hrunning, Engine.next_of_not_running isa hstopped]
    exact ⟨h, reports_of_stopped h.status hrunning⟩

theorem represents_iterate {isa : Isa} {code : List Instruction} {engine : Engine}
    {machine : Machine} (hisa : isa.Supports engine.program)
    (h : Represents code engine machine) (n : Nat) :
    Represents code ((Engine.next isa)^[n] engine)
      ((Machine.step code isa.traps.halts)^[n] machine) := by
  induction n with
  | zero => exact h
  | succ n ih =>
      rw [iterate_succ_apply', iterate_succ_apply']
      exact (represents_step (Engine.supports_iterate_next hisa n) ih).left

/-- Under the bundled sheet, any number of steps from the start of a run goes as on the reference
machine, and so does the answer to the next one.  The processor may hold integers of any size. -/
theorem steps_refine_reference {isa : Isa} (hisa : isa.definitions = Isa.standard.definitions)
    {processor : Processor} (hprocessor : processor.IsWhole) {program : Program}
    (hlabels : AreWords program.labels) (n : Nat) :
    let code := program.instructions.toList
    let engine := (Engine.next isa)^[n] (.create processor program)
    let machine := (Machine.step code isa.traps.halts)^[n] (.ofState processor program.labels)
    Represents code engine machine ∧
      Reports (engine.step isa).1 (machine.step code isa.traps.halts).status := by
  intro code engine machine
  have hsupports : isa.Supports (Engine.create processor program).program := by
    intro i _
    exact Isa.carriesOut_of_standard hisa i
  have hrepresents : Represents code engine machine :=
    represents_iterate hsupports (represents_create hprocessor hlabels) n
  exact ⟨hrepresents,
    (represents_step (Engine.supports_iterate_next hsupports n) hrepresents).right⟩

theorem steps_refine_reference_wide :
    let processor : Processor :=
      ⟨.replicate 8 (.int 70000), .replicate Processor.memorySize (.int (-99999)), .int 65536⟩
    let labels := Labels.empty.insert (.text "A") 0xffff
    let program : Program :=
      ⟨#[.not 1 2, .storeIndirect 1 ⟨"A", by decide⟩, .branch ⟨true, false, true⟩ ⟨"A", by decide⟩],
        labels, none, true⟩
    processor.IsWhole ∧ AreWords labels ∧
      Represents program.instructions.toList
        ((Engine.next Isa.standard)^[3] (.create processor program))
        ((Machine.step program.instructions.toList Isa.standard.traps.halts)^[3]
          (.ofState processor labels)) := by
  intro processor labels program
  have hprocessor : processor.IsWhole :=
    ⟨Array.size_replicate, Array.size_replicate, Processor.isInteger_replicate 8 70000,
      Processor.isInteger_replicate Processor.memorySize (-99999), rfl⟩
  have hlabels : AreWords program.labels := by
    intro name value hget
    rw [Labels.get?_insert] at hget
    split at hget
    · cases hget
      exact ⟨rfl, by decide, by decide⟩
    · cases hget
  have hrefines := steps_refine_reference rfl hprocessor hlabels 3
  exact ⟨hprocessor, hlabels, hrefines.left⟩

end Reference
end LittleComputer
