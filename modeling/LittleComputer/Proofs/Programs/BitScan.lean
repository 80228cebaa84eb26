import LittleComputer.Proofs.Reference.Execution

/-!
# Reading a word bit by bit

A program can read a word from its high end on.  It tests the highest bit with a mask and then
shifts the word by adding it to itself, while a register counts the bits that are left.  One round of
such a loop begins with two tests: whether any bit is left, and what the next one is.
-/

namespace LittleComputer

namespace Immediate

def zero : Immediate :=
  ⟨0, by decide, by decide⟩

def one : Immediate :=
  ⟨1, by decide, by decide⟩

def eight : Immediate :=
  ⟨8, by decide, by decide⟩

def minusOne : Immediate :=
  ⟨-1, by decide, by decide⟩

end Immediate

namespace Reference

/-!
# Conditions on words
-/

theorem isTaken_zero (n : Int) :
    isTaken ⟨false, true, false⟩ (.ofInt n) = decide (n = 0) := by
  unfold Sign.ofInt
  split
  · next hlt => exact (decide_eq_false (by omega)).symm
  · split
    · next hzero => exact (decide_eq_true hzero).symm
    · next hne => exact (decide_eq_false hne).symm

theorem isTaken_nonzero (n : Int) :
    isTaken ⟨true, false, true⟩ (.ofInt n) = decide (n ≠ 0) := by
  unfold Sign.ofInt
  split
  · next hlt => exact (decide_eq_true (by omega)).symm
  · split
    · next hzero => exact (decide_eq_false fun hne => hne hzero).symm
    · next hne => exact (decide_eq_true hne).symm

theorem isTaken_positive (n : Int) :
    isTaken ⟨false, false, true⟩ (.ofInt n) = decide (0 < n) := by
  unfold Sign.ofInt
  split
  · next hlt => exact (decide_eq_false (by omega)).symm
  · split
    · next hzero => exact (decide_eq_false (by omega)).symm
    · next hne => exact (decide_eq_true (by omega)).symm

theorem isTaken_bare (sign : Sign) : isTaken ⟨false, false, false⟩ sign = true := rfl

theorem isTaken_any (sign : Sign) : isTaken ⟨true, true, true⟩ sign = true := by
  cases sign <;> rfl

theorem toInt_eq_zero_iff {word : BitVec 16} : word.toInt = 0 ↔ word = 0 := by
  constructor
  · intro h
    exact BitVec.eq_of_toInt_eq h
  · intro h
    rw [h]
    rfl

/-!
# Shifting and counting
-/

theorem immediateWord_zero : immediateWord .zero = 0 := by
  decide

theorem add_immediateWord_zero (word : BitVec 16) : word + immediateWord .zero = word := by
  rw [immediateWord_zero]
  exact BitVec.add_zero word

theorem and_immediateWord_zero (word : BitVec 16) : word &&& immediateWord .zero = 0 := by
  rw [immediateWord_zero]
  exact BitVec.and_zero

theorem shiftLeft_add_shiftLeft (word : BitVec 16) (n : Nat) :
    word <<< n + word <<< n = word <<< (n + 1) := by
  rw [BitVec.shiftLeft_add]
  generalize word <<< n = shifted
  apply BitVec.eq_of_toNat_eq
  rw [BitVec.toNat_add, BitVec.toNat_shiftLeft, Nat.shiftLeft_eq]
  omega

theorem ofNat_add_one (n : Nat) :
    BitVec.ofNat 16 n + immediateWord .one = BitVec.ofNat 16 (n + 1) :=
  (BitVec.ofNat_add n 1).symm

theorem ofNat_left_add_minusOne {seen : Nat} (h : seen < 16) :
    BitVec.ofNat 16 (16 - seen) + immediateWord .minusOne = BitVec.ofNat 16 (16 - (seen + 1)) := by
  have hword : immediateWord .minusOne = BitVec.ofNat 16 0xffff := by
    decide
  rw [hword, ← BitVec.ofNat_add]
  apply BitVec.eq_of_toNat_eq
  rw [BitVec.toNat_ofNat, BitVec.toNat_ofNat]
  omega

theorem ofNat_eq_zero_iff {n : Nat} (h : n < 0x10000) : BitVec.ofNat 16 n = 0 ↔ n = 0 := by
  constructor
  · intro heq
    have hnat := congrArg BitVec.toNat heq
    rw [BitVec.toNat_ofNat, Nat.mod_eq_of_lt h] at hnat
    exact hnat
  · intro heq
    rw [heq]
    rfl

/-- The mask keeps the highest bit of what is left of a word. -/
theorem shiftLeft_and_mask_eq_zero_iff (word : BitVec 16) (n : Nat) :
    word <<< n &&& 0x8000 = 0 ↔ word.getMsbD n = false := by
  have hmask : word <<< n &&& 0x8000 =
      if (word <<< n).getLsbD 15 then BitVec.twoPow 16 15 else 0 :=
    BitVec.and_twoPow (word <<< n) 15
  rw [hmask, ← BitVec.msb_shiftLeft, BitVec.msb_eq_getLsbD_last]
  cases (word <<< n).getLsbD 15 with
  | false => exact iff_of_true rfl rfl
  | true => exact iff_of_false (by decide) (by decide)

theorem isTaken_mask (word : BitVec 16) (n : Nat) :
    isTaken ⟨false, true, false⟩ (.ofInt (word <<< n &&& 0x8000).toInt) = !word.getMsbD n ∧
      isTaken ⟨true, false, true⟩ (.ofInt (word <<< n &&& 0x8000).toInt) = word.getMsbD n := by
  have hzero : (word <<< n &&& 0x8000).toInt = 0 ↔ word.getMsbD n = false :=
    toInt_eq_zero_iff.trans (shiftLeft_and_mask_eq_zero_iff word n)
  rw [isTaken_zero, isTaken_nonzero]
  cases hbit : word.getMsbD n with
  | false =>
      have heq := hzero.mpr hbit
      exact ⟨decide_eq_true heq, decide_eq_false fun hne => hne heq⟩
  | true =>
      have hne (heq : (word <<< n &&& 0x8000).toInt = 0) : False :=
        Bool.false_ne_true ((hzero.mp heq).symm.trans hbit)
      exact ⟨decide_eq_false hne, decide_eq_true hne⟩

namespace Machine

/-- A word of which some bits were shifted out, how many bits are left of it, and the mask. -/
structure Scans (word : BitVec 16) (counter mask : Register) (seen : Nat) (machine : Machine) :
    Prop where
  word_eq : machine.registers 0 = word <<< seen
  left_eq : machine.registers counter = BitVec.ofNat 16 (16 - seen)
  mask_eq : machine.registers mask = 0x8000

section Scans

variable {word : BitVec 16} {counter mask : Register} {seen : Nat} {machine after : Machine}

theorem Scans.next (h : Scans word counter mask seen machine) (hseen : seen < 16)
    (hword : after.registers 0 = machine.registers 0 + machine.registers 0)
    (hleft : after.registers counter = machine.registers counter + immediateWord .minusOne)
    (hmask : after.registers mask = machine.registers mask) :
    Scans word counter mask (seen + 1) after where
  word_eq := by
    rw [hword, h.word_eq, shiftLeft_add_shiftLeft]
  left_eq := by
    rw [hleft, h.left_eq, ofNat_left_add_minusOne hseen]
  mask_eq := hmask.trans h.mask_eq

theorem Scans.of_registers_eq (h : Scans word counter mask seen machine)
    (hword : after.registers 0 = machine.registers 0)
    (hleft : after.registers counter = machine.registers counter)
    (hmask : after.registers mask = machine.registers mask) :
    Scans word counter mask seen after :=
  ⟨hword.trans h.word_eq, hleft.trans h.left_eq, hmask.trans h.mask_eq⟩

/-!
# A round of the loop
-/

variable {code rest : List Instruction} {halts : Int -> Bool} {start : Machine}
  {place exit target : Nat} {finish found : LabelName}
  (hfinish : PointsTo start.labels finish exit) (hfound : PointsTo start.labels found target)
  (hstands : StandsAt start place machine) (hscans : Scans word counter mask seen machine)

theorem foldl_execute_zero (halts : Int -> Bool) (machine : Machine) (counter : Register) :
    let checked := [Instruction.addImmediate counter counter .zero].foldl (execute halts) machine
    checked.registers = machine.registers ∧
      checked.sign = .ofInt (machine.registers counter).toInt := by
  have hsame := add_immediateWord_zero (machine.registers counter)
  constructor
  · show Function.update machine.registers counter (_ + immediateWord .zero) = _
    rw [hsame, Function.update_eq_self]
  · show Sign.ofInt (_ + immediateWord .zero).toInt = _
    rw [hsame]

section Check

variable (hcode : code.drop place =
  .addImmediate counter counter .zero :: .branch ⟨false, true, false⟩ finish :: rest)
include hcode hfinish hstands hscans

theorem Scans.leaves (hseen : seen = 16) :
    ∃ next : Machine, Reaches code halts 2 machine next ∧ next.registers = machine.registers ∧
      StandsAt start exit next := by
  rcases foldl_execute_zero halts machine counter with ⟨hregisters, hsign⟩
  have hzero : machine.registers counter = 0 := by
    rw [hscans.left_eq, hseen]
    rfl
  have htaken : isTaken ⟨false, true, false⟩
      ([Instruction.addImmediate counter counter .zero].foldl (execute halts) machine).sign =
        true := by
    rw [hsign, isTaken_zero, hzero]
    rfl
  rcases hstands.block_taken hcode rfl hfinish htaken with ⟨next, hreaches, heq, hnext⟩
  exact ⟨next, hreaches, heq.trans hregisters, hnext⟩

theorem Scans.stays (hseen : seen < 16) :
    ∃ next : Machine, Reaches code halts 2 machine next ∧ next.registers = machine.registers ∧
      StandsAt start (place + 2) next := by
  rcases foldl_execute_zero halts machine counter with ⟨hregisters, hsign⟩
  have htaken : isTaken ⟨false, true, false⟩
      ([Instruction.addImmediate counter counter .zero].foldl (execute halts) machine).sign =
        false := by
    rw [hsign, isTaken_zero, decide_eq_false_iff_not, toInt_eq_zero_iff, hscans.left_eq,
      ofNat_eq_zero_iff (by omega)]
    omega
  rcases hstands.block_passed hcode rfl hfinish htaken with ⟨next, hreaches, heq, hnext⟩
  exact ⟨next, hreaches, heq.trans hregisters, hnext⟩

theorem Scans.finishes (hseen : seen = 16) {src : Register} {output : LabelName} {vector : Int}
    {others : List Instruction}
    (houtput : code.drop exit = .storeIndirect src output :: .trap vector :: others)
    {address : BitVec 16} (haddress : start.labels output.name = some address)
    (hhalts : halts vector = true) :
    ∃ last : Machine, Reaches code halts 4 machine last ∧ last.status = .halted ∧
      last.memory = Function.update start.memory address (machine.registers src) := by
  rcases @Scans.leaves word counter mask seen machine code rest halts start place exit finish hfinish
    hstands hscans hcode hseen with ⟨left, hleft, hregisters, hleftStands⟩
  rcases hleftStands.output houtput haddress hhalts with ⟨last, hlast, hhalted, hmemory⟩
  refine ⟨last, hleft.trans hlast, hhalted, ?_⟩
  rw [hmemory, hregisters]

end Check

variable (hcounter : counter ≠ 1) (hmask : mask ≠ 1)
include hcounter hmask hfound hstands hscans

/-- The second test tells the next bit and spoils one register. -/
theorem Scans.decides
    (hcode : code.drop place =
      .andRegister 1 0 mask :: .branch ⟨false, true, false⟩ found :: rest) :
    ∃ next : Machine, Reaches code halts 2 machine next ∧
      (∀ register : Register, register ≠ 1 ->
        next.registers register = machine.registers register) ∧
      Scans word counter mask seen next ∧
      StandsAt start (if word.getMsbD seen then place + 2 else target) next := by
  let tested := machine.withResult 1 (machine.registers 0 &&& machine.registers mask)
  have hblock : [Instruction.andRegister 1 0 mask].all (sets start.labels) = true := rfl
  have hsign : isTaken ⟨false, true, false⟩ tested.sign = !word.getMsbD seen := by
    show isTaken _ (.ofInt (machine.registers 0 &&& machine.registers mask).toInt) = _
    rw [hscans.word_eq, hscans.mask_eq]
    exact (isTaken_mask word seen).left
  have hkept {next : Machine} (heq : next.registers = tested.registers) (register : Register)
      (hne : register ≠ 1) : next.registers register = machine.registers register :=
    (congrFun heq register).trans (Function.update_of_ne hne _ _)
  have hscansNext {next : Machine} (heq : next.registers = tested.registers) :
      Scans word counter mask seen next :=
    hscans.of_registers_eq (hkept heq 0 (by decide)) (hkept heq counter hcounter)
      (hkept heq mask hmask)
  cases hbit : word.getMsbD seen with
  | false =>
      rw [hbit] at hsign
      rcases hstands.block_taken hcode hblock hfound hsign with ⟨next, hreaches, heq, hnext⟩
      exact ⟨next, hreaches, hkept heq, hscansNext heq, hnext⟩
  | true =>
      rw [hbit] at hsign
      rcases hstands.block_passed hcode hblock hfound hsign with ⟨next, hreaches, heq, hnext⟩
      exact ⟨next, hreaches, hkept heq, hscansNext heq, hnext⟩

include hfinish

/-- As long as there are bits, a round reads the next one. -/
theorem Scans.reads
    (hcode : code.drop place =
      .addImmediate counter counter .zero :: .branch ⟨false, true, false⟩ finish ::
        .andRegister 1 0 mask :: .branch ⟨false, true, false⟩ found :: rest)
    (hseen : seen < 16) :
    ∃ next : Machine, Reaches code halts 4 machine next ∧
      (∀ register : Register, register ≠ 1 ->
        next.registers register = machine.registers register) ∧
      Scans word counter mask seen next ∧
      StandsAt start (if word.getMsbD seen then place + 4 else target) next := by
  rcases @Scans.stays word counter mask seen machine code _ halts start place exit finish hfinish
    hstands hscans hcode hseen with ⟨middle, hfirst, hsame, hmiddle⟩
  have hcodeMiddle : code.drop (place + 2) =
      .andRegister 1 0 mask :: .branch ⟨false, true, false⟩ found :: rest := by
    rw [← List.drop_drop, hcode]
    rfl
  have hscansMiddle : Scans word counter mask seen middle :=
    hscans.of_registers_eq (congrFun hsame 0) (congrFun hsame counter) (congrFun hsame mask)
  rcases @Scans.decides word counter mask seen middle code rest halts start (place + 2) target
    found hfound hmiddle hscansMiddle hcounter hmask hcodeMiddle with
    ⟨next, hsecond, hkept, hscansNext, hnext⟩
  refine ⟨next, hfirst.trans hsecond, ?_, hscansNext, hnext⟩
  intro register hne
  rw [hkept register hne, hsame]

end Scans

end Machine
end Reference
end LittleComputer
