import LittleComputer.Proofs.Reference.Machine
import Mathlib.Logic.Function.Iterate

/-!
# Executing blocks on the reference machine

Between two branches a program is a block of instructions that set registers.  A machine that
stands at a block executes all of it, and a branch then takes it to the next block.  What a program
makes of a machine is put together from such ways by `Reaches.trans`.
-/

namespace LittleComputer
namespace Reference
namespace Machine

variable {code : List Instruction} {halts : Int -> Bool} {machine last : Machine}

def Reaches (code : List Instruction) (halts : Int -> Bool) (limit : Nat) (machine last : Machine) :
    Prop :=
  ∃ n ≤ limit, (step code halts)^[n] machine = last

theorem Reaches.refl (machine : Machine) : Reaches code halts 0 machine machine :=
  ⟨0, Nat.le_refl 0, rfl⟩

theorem Reaches.trans {first second : Nat} {middle : Machine}
    (h : Reaches code halts first machine middle) (hlast : Reaches code halts second middle last) :
    Reaches code halts (first + second) machine last := by
  rcases h with ⟨m, hm, rfl⟩
  rcases hlast with ⟨n, hn, rfl⟩
  refine ⟨n + m, ?_, Function.iterate_add_apply _ n m machine⟩
  omega

theorem Reaches.mono {limit larger : Nat} (h : Reaches code halts limit machine last)
    (hle : limit ≤ larger) : Reaches code halts larger machine last := by
  rcases h with ⟨n, hn, heq⟩
  exact ⟨n, Nat.le_trans hn hle, heq⟩

theorem reaches_execute {i : Instruction} (hrunning : machine.status = .running)
    (hfetch : fetch? code machine.index = some i) :
    Reaches code halts 1 machine (machine.execute halts i) := by
  refine ⟨1, Nat.le_refl 1, ?_⟩
  rw [Function.iterate_one, step_of_running hrunning, hfetch]

/-- Rounds of a loop, each of which counts up, lead to the bound of the count. -/
theorem Reaches.loop {P : Nat -> Machine -> Prop} {cost bound : Nat}
    (hround : ∀ (count : Nat) (machine : Machine), P count machine -> count < bound ->
      ∃ (later : Nat) (next : Machine), count < later ∧ later ≤ bound ∧
        Reaches code halts cost machine next ∧ P later next)
    {count : Nat} (h : P count machine) (hcount : count ≤ bound) :
    ∃ last : Machine, Reaches code halts (cost * (bound - count)) machine last ∧ P bound last := by
  induction hleft : bound - count using Nat.strongRecOn generalizing count machine with
  | ind left ih =>
      by_cases hbound : count = bound
      · rw [hbound] at h
        exact ⟨machine, (Reaches.refl machine).mono (Nat.zero_le _), h⟩
      · rcases hround count machine h (by omega) with ⟨later, next, hlater, hle, hreaches, hnext⟩
        rcases ih (bound - later) (by omega) hnext hle rfl with ⟨last, hrest, hlast⟩
        refine ⟨last, (hreaches.trans hrest).mono ?_, hlast⟩
        rw [Nat.add_comm, ← Nat.mul_add_one]
        exact Nat.mul_le_mul_left cost (by omega)

/-!
# Where a machine stands
-/

/-- A running machine at a place of the program, with the memory and the labels of the start. -/
structure StandsAt (start : Machine) (place : Nat) (machine : Machine) : Prop where
  index_eq : machine.index = place
  status_eq : machine.status = .running
  memory_eq : machine.memory = start.memory
  labels_eq : machine.labels = start.labels

theorem fetch?_natCast (code : List Instruction) (place : Nat) :
    fetch? code place = code[place]? :=
  if_pos (Int.natCast_nonneg place)

section StandsAt

variable {start : Machine} {place : Nat} (h : StandsAt start place machine)
include h

theorem StandsAt.reaches_execute {i : Instruction} (hcode : code[place]? = some i) :
    Reaches code halts 1 machine (machine.execute halts i) := by
  apply Machine.reaches_execute h.status_eq
  rw [h.index_eq, fetch?_natCast]
  exact hcode

theorem StandsAt.withResult (dest : Register) (word : BitVec 16) :
    StandsAt start (place + 1) (machine.withResult dest word) where
  index_eq := by
    show machine.index + 1 = _
    rw [h.index_eq]
    rfl
  status_eq := h.status_eq
  memory_eq := h.memory_eq
  labels_eq := h.labels_eq

end StandsAt

/-!
# Blocks
-/

/-- Whether an instruction sets a register.  If it loads, its label has to be bound. -/
def sets (labels : String -> Option (BitVec 16)) : Instruction -> Bool
  | .addRegister _ _ _ | .addImmediate _ _ _ | .andRegister _ _ _ | .andImmediate _ _ _
  | .not _ _ => true
  | .load _ label | .loadIndirect _ label => (labels label.name).isSome
  | .branch _ _ | .store _ _ | .storeIndirect _ _ | .trap _ => false

theorem exists_execute_eq_withResult {i : Instruction} (h : sets machine.labels i = true) :
    ∃ (dest : Register) (word : BitVec 16),
      machine.execute halts i = machine.withResult dest word := by
  cases i with
  | addRegister _ _ _ | addImmediate _ _ _ | andRegister _ _ _ | andImmediate _ _ _ | not _ _ =>
      exact ⟨_, _, rfl⟩
  | load dest label | loadIndirect dest label =>
      rcases Option.isSome_iff_exists.mp h with ⟨word, hword⟩
      exact ⟨_, _, onLabel_of_some hword _⟩
  | branch _ _ | store _ _ | storeIndirect _ _ | trap _ => cases h

theorem StandsAt.block {start : Machine} {place : Nat} (h : StandsAt start place machine)
    {block rest : List Instruction} (hcode : code.drop place = block ++ rest)
    (hblock : block.all (sets start.labels) = true) :
    Reaches code halts block.length machine (block.foldl (execute halts) machine) ∧
      StandsAt start (place + block.length) (block.foldl (execute halts) machine) := by
  induction block generalizing place machine with
  | nil => exact ⟨.refl machine, h⟩
  | cons i block ih =>
      have hfirst : code[place]? = some i := by
        rw [← List.head?_drop, hcode]
        rfl
      have hdrop : code.drop (place + 1) = block ++ rest := by
        rw [← List.tail_drop, hcode]
        rfl
      rw [List.all_cons, Bool.and_eq_true] at hblock
      have hsets : sets machine.labels i = true := by
        rw [h.labels_eq]
        exact hblock.left
      have hnext : StandsAt start (place + 1) (machine.execute halts i) := by
        rcases @exists_execute_eq_withResult halts machine i hsets with ⟨dest, word, heq⟩
        rw [heq]
        exact h.withResult dest word
      rcases ih hnext hdrop hblock.right with ⟨hreaches, hstands⟩
      rw [List.foldl_cons, List.length_cons, Nat.add_comm block.length, ← Nat.add_assoc]
      exact ⟨(h.reaches_execute hfirst).trans hreaches, hstands⟩

/-!
# Branches and stores
-/

def PointsTo (labels : String -> Option (BitVec 16)) (label : LabelName) (place : Nat) : Prop :=
  ∃ word : BitVec 16, labels label.name = some word ∧ word.toInt = place

section Branch

variable {start : Machine} {place target : Nat} (h : StandsAt start place machine)
  {condition : Condition} {label : LabelName}
  (hcode : code[place]? = some (.branch condition label))
  (hlabel : PointsTo start.labels label target)
include h hcode hlabel

theorem StandsAt.branch_taken (htaken : isTaken condition machine.sign = true) :
    Reaches code halts 1 machine { machine with index := target } ∧
      StandsAt start target { machine with index := target } := by
  rcases hlabel with ⟨word, hword, htarget⟩
  have hexecute : machine.execute halts (.branch condition label) =
      { machine with index := target } := by
    rw [← h.labels_eq] at hword
    show machine.onLabel label _ = _
    rw [onLabel_of_some hword, if_pos htaken, htarget]
  constructor
  · rw [← hexecute]
    exact h.reaches_execute hcode
  · exact ⟨rfl, h.status_eq, h.memory_eq, h.labels_eq⟩

theorem StandsAt.branch_passed (htaken : isTaken condition machine.sign = false) :
    Reaches code halts 1 machine machine.advance ∧
      StandsAt start (place + 1) machine.advance := by
  rcases hlabel with ⟨word, hword, -⟩
  have hexecute : machine.execute halts (.branch condition label) = machine.advance := by
    rw [← h.labels_eq] at hword
    show machine.onLabel label _ = _
    rw [onLabel_of_some hword, if_neg (Bool.eq_false_iff.mp htaken)]
  constructor
  · rw [← hexecute]
    exact h.reaches_execute hcode
  · refine ⟨?_, h.status_eq, h.memory_eq, h.labels_eq⟩
    show machine.index + 1 = _
    rw [h.index_eq]
    rfl

end Branch

section BlockBranch

variable {start : Machine} {place target : Nat} (h : StandsAt start place machine)
  {block rest : List Instruction} {condition : Condition} {label : LabelName}
  (hcode : code.drop place = block ++ .branch condition label :: rest)
  (hblock : block.all (sets start.labels) = true)
  (hlabel : PointsTo start.labels label target)
include h hcode hblock hlabel

omit h hblock hlabel in
theorem getElem?_of_block : code[place + block.length]? = some (.branch condition label) := by
  rw [← List.getElem?_drop, hcode, List.getElem?_append_right (Nat.le_refl _), Nat.sub_self]
  rfl

/-- A block is executed, and the branch at its end is taken on the sign that the block has left. -/
theorem StandsAt.block_taken
    (htaken : isTaken condition (block.foldl (execute halts) machine).sign = true) :
    ∃ next : Machine, Reaches code halts (block.length + 1) machine next ∧
      next.registers = (block.foldl (execute halts) machine).registers ∧
      StandsAt start target next := by
  rcases @StandsAt.block code halts machine start place h block _ hcode hblock with
    ⟨hreaches, hstands⟩
  rcases @StandsAt.branch_taken code halts _ start _ _ hstands _ _ (getElem?_of_block hcode) hlabel
    htaken with ⟨hjump, hnext⟩
  exact ⟨_, hreaches.trans hjump, rfl, hnext⟩

theorem StandsAt.block_passed
    (htaken : isTaken condition (block.foldl (execute halts) machine).sign = false) :
    ∃ next : Machine, Reaches code halts (block.length + 1) machine next ∧
      next.registers = (block.foldl (execute halts) machine).registers ∧
      StandsAt start (place + (block.length + 1)) next := by
  rcases @StandsAt.block code halts machine start place h block _ hcode hblock with
    ⟨hreaches, hstands⟩
  rcases @StandsAt.branch_passed code halts _ start _ _ hstands _ _ (getElem?_of_block hcode) hlabel
    htaken with ⟨hpass, hnext⟩
  exact ⟨_, hreaches.trans hpass, rfl, hnext⟩

end BlockBranch

def withCell (machine : Machine) (address word : BitVec 16) : Machine :=
  { machine with
    memory := Function.update machine.memory address word
    index := machine.index + 1 }

theorem execute_storeIndirect {label : LabelName} {address : BitVec 16}
    (h : machine.labels label.name = some address) (src : Register) :
    machine.execute halts (.storeIndirect src label) =
      machine.withCell address (machine.registers src) :=
  onLabel_of_some h _

theorem execute_trap {vector : Int} (h : halts vector = true) :
    machine.execute halts (.trap vector) = { machine with status := .halted } :=
  if_pos h

/-- A program that stores a register and halts leaves all other cells as they were. -/
theorem StandsAt.output {start : Machine} {place : Nat} (h : StandsAt start place machine)
    {src : Register} {label : LabelName} {vector : Int} {rest : List Instruction}
    (hcode : code.drop place = .storeIndirect src label :: .trap vector :: rest)
    {address : BitVec 16} (hlabel : start.labels label.name = some address)
    (hhalts : halts vector = true) :
    ∃ last : Machine, Reaches code halts 2 machine last ∧ last.status = .halted ∧
      last.memory = Function.update start.memory address (machine.registers src) := by
  have hstore : code[place]? = some (.storeIndirect src label) := by
    rw [← List.head?_drop, hcode]
    rfl
  have htrap : code[place + 1]? = some (.trap vector) := by
    rw [← List.head?_drop, ← List.tail_drop, hcode]
    rfl
  rw [← h.labels_eq] at hlabel
  let stored := machine.withCell address (machine.registers src)
  have hstored : Reaches code halts 1 machine stored := by
    show Reaches code halts 1 machine (machine.withCell address (machine.registers src))
    rw [← execute_storeIndirect hlabel]
    exact h.reaches_execute hstore
  have hfetch : fetch? code stored.index = some (.trap vector) := by
    show fetch? code (machine.index + 1) = _
    rw [h.index_eq]
    exact (fetch?_natCast code (place + 1)).trans htrap
  have hhalted : Reaches code halts 1 stored { stored with status := .halted } := by
    rw [← execute_trap hhalts]
    exact Machine.reaches_execute h.status_eq hfetch
  refine ⟨_, hstored.trans hhalted, rfl, ?_⟩
  rw [← h.memory_eq]
  rfl

end Machine
end Reference
end LittleComputer
