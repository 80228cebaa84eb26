import LittleComputer.Proofs.Programs.Texts

/-!
# The longest run of zero bits

A program that reads the word at x3100 and writes the length of its longest run of zero bits to
x3101.  Register 3 holds the longest run that was found and register 4 the run that ends with the
bit read last.
-/

namespace LittleComputer
namespace ZeroRun

open Reference Reference.Machine

/-!
# Runs of zero bits
-/

/-- So many zero bits stand in a word from a position on, which counts from the high end. -/
def IsRun (word : BitVec 16) (position length : Nat) : Prop :=
  ∀ i < length, word.getMsbD (position + i) = false

structure IsLongest (word : BitVec 16) (seen length : Nat) : Prop where
  exists_run : ∃ position : Nat, position + length ≤ seen ∧ IsRun word position length
  le_length : ∀ position other : Nat, position + other ≤ seen -> IsRun word position other ->
    other ≤ length

structure IsLongestAtEnd (word : BitVec 16) (seen length : Nat) : Prop where
  exists_run : ∃ position : Nat, position + length = seen ∧ IsRun word position length
  le_length : ∀ position other : Nat, position + other = seen -> IsRun word position other ->
    other ≤ length

section Runs

variable {word : BitVec 16} {seen best current : Nat}

theorem isRun_zero (word : BitVec 16) (position : Nat) : IsRun word position 0 :=
  fun _ hi => absurd hi (Nat.not_lt_zero _)

theorem isRun_succ_iff {position length : Nat} :
    IsRun word position (length + 1) ↔
      IsRun word position length ∧ word.getMsbD (position + length) = false :=
  Nat.forall_lt_succ_right

theorem IsLongest.le (h : IsLongest word seen best) : best ≤ seen := by
  rcases h.exists_run with ⟨position, hle, -⟩
  omega

theorem IsLongestAtEnd.le (h : IsLongestAtEnd word seen current) : current ≤ seen := by
  rcases h.exists_run with ⟨position, heq, -⟩
  omega

theorem isLongest_zero (word : BitVec 16) : IsLongest word 0 0 where
  exists_run := ⟨0, Nat.le_refl 0, isRun_zero word 0⟩
  le_length := by
    intro position other hle _
    omega

theorem isLongestAtEnd_zero (word : BitVec 16) : IsLongestAtEnd word 0 0 where
  exists_run := ⟨0, rfl, isRun_zero word 0⟩
  le_length := by
    intro position other heq _
    omega

theorem isLongestAtEnd_of_one (hbit : word.getMsbD seen = true) :
    IsLongestAtEnd word (seen + 1) 0 where
  exists_run := ⟨seen + 1, rfl, isRun_zero word (seen + 1)⟩
  le_length := by
    intro position other heq hrun
    cases other with
    | zero => exact Nat.le_refl 0
    | succ other =>
        have hlast := (isRun_succ_iff.mp hrun).right
        have hposition : position + other = seen := by
          omega
        rw [hposition, hbit] at hlast
        cases hlast

theorem IsLongestAtEnd.of_zero (h : IsLongestAtEnd word seen current)
    (hbit : word.getMsbD seen = false) : IsLongestAtEnd word (seen + 1) (current + 1) where
  exists_run := by
    rcases h.exists_run with ⟨position, heq, hrun⟩
    refine ⟨position, by omega, isRun_succ_iff.mpr ⟨hrun, ?_⟩⟩
    rw [heq]
    exact hbit
  le_length := by
    intro position other heq hrun
    cases other with
    | zero => exact Nat.zero_le _
    | succ other =>
        have hother := h.le_length position other (by omega) (isRun_succ_iff.mp hrun).left
        omega

/-- A run among more bits is a run among the bits before, or it ends with the last one. -/
theorem IsLongest.concat (h : IsLongest word seen best)
    (hend : IsLongestAtEnd word (seen + 1) current) :
    IsLongest word (seen + 1) (max best current) where
  exists_run := by
    rcases Nat.le_total best current with hle | hle
    · rcases hend.exists_run with ⟨position, heq, hrun⟩
      rw [Nat.max_eq_right hle]
      exact ⟨position, Nat.le_of_eq heq, hrun⟩
    · rcases h.exists_run with ⟨position, hposition, hrun⟩
      rw [Nat.max_eq_left hle]
      exact ⟨position, Nat.le_succ_of_le hposition, hrun⟩
  le_length := by
    intro position other hle hrun
    by_cases heq : position + other = seen + 1
    · exact Nat.le_trans (hend.le_length position other heq hrun) (Nat.le_max_right best current)
    · exact Nat.le_trans (h.le_length position other (by omega) hrun)
        (Nat.le_max_left best current)

end Runs

/-!
# The loop
-/

abbrev start (memory : Cells) : Machine :=
  .loaded labels memory

abbrev given (memory : Cells) : BitVec 16 :=
  Word.bits (memory.given 0x3100)

section Labels

variable (memory : Cells)

theorem pointsTo_again : PointsTo (start memory).labels .again 4 :=
  ⟨4, rfl, rfl⟩

theorem pointsTo_found : PointsTo (start memory).labels .found 12 :=
  ⟨12, rfl, rfl⟩

theorem pointsTo_better : PointsTo (start memory).labels better 20 :=
  ⟨20, rfl, rfl⟩

theorem pointsTo_finish : PointsTo (start memory).labels finish 24 :=
  ⟨24, rfl, rfl⟩

end Labels

/-- What holds whenever the loop begins. -/
structure AtLoop (memory : Cells) (seen : Nat) (machine : Machine) : Prop where
  standsAt : StandsAt (start memory) 4 machine
  scans : Scans (given memory) 2 5 seen machine
  exists_best : ∃ best : Nat, machine.registers 3 = BitVec.ofNat 16 best ∧
    IsLongest (given memory) seen best
  exists_current : ∃ current : Nat, machine.registers 4 = BitVec.ofNat 16 current ∧
    IsLongestAtEnd (given memory) seen current

theorem reaches_loop (memory : Cells) :
    ∃ machine : Machine, Reaches code standardHalts 4 (start memory) machine ∧
      AtLoop memory 0 machine := by
  have hstands : StandsAt (start memory) 0 (start memory) :=
    ⟨rfl, rfl, rfl, rfl⟩
  have hcode : code.drop 0 = code.take 4 ++ code.drop 4 := rfl
  rcases @StandsAt.block code standardHalts _ _ 0 hstands _ _ hcode rfl with ⟨hreaches, hnext⟩
  refine ⟨_, hreaches, hnext, ⟨?_, ?_, ?_⟩, ⟨0, ?_, isLongest_zero _⟩,
    ⟨0, ?_, isLongestAtEnd_zero _⟩⟩
  · rw [BitVec.shiftLeft_zero]
    rfl
  · rfl
  · rfl
  · rfl
  · rfl

theorem toInt_difference {m n : Nat} (hm : m ≤ 16) (hn : n ≤ 16) :
    (BitVec.ofNat 16 m + (~~~BitVec.ofNat 16 n + immediateWord .one)).toInt = (m : Int) - n := by
  have hneg : ~~~BitVec.ofNat 16 n + immediateWord .one = -BitVec.ofNat 16 n :=
    (BitVec.neg_eq_not_add _).symm
  have hdifference : BitVec.ofNat 16 m + -BitVec.ofNat 16 n = BitVec.ofInt 16 (m - n) := by
    rw [Int.sub_eq_add_neg, BitVec.ofInt_add, BitVec.ofInt_neg, BitVec.ofInt_natCast,
      BitVec.ofInt_natCast]
  rw [hneg, hdifference]
  apply BitVec.toInt_ofInt_eq_self (by decide) <;> omega

/-- What holds after the comparison of the current run, which the last bit has made longer, with the
best one among the bits before. -/
structure HasCompared (memory : Cells) (seen best current : Nat) (machine : Machine) : Prop where
  standsAt : StandsAt (start memory) (if best < current then 20 else 18) machine
  word_eq : machine.registers 0 = given memory <<< (seen + 1)
  left_eq : machine.registers 2 = BitVec.ofNat 16 (16 - seen)
  mask_eq : machine.registers 5 = 0x8000
  best_eq : machine.registers 3 = BitVec.ofNat 16 best
  current_eq : machine.registers 4 = BitVec.ofNat 16 current
  isLongest : IsLongest (given memory) seen best
  isLongestAtEnd : IsLongestAtEnd (given memory) (seen + 1) current

section Round

variable {memory : Cells} {seen : Nat} {machine : Machine} (h : AtLoop memory seen machine)
  (hseen : seen < 16)
include h hseen

theorem AtLoop.reads :
    ∃ next : Machine, Reaches code standardHalts 4 machine next ∧
      (∀ register : Register, register ≠ 1 ->
        next.registers register = machine.registers register) ∧
      Scans (given memory) 2 5 seen next ∧
      StandsAt (start memory) (if (given memory).getMsbD seen then 8 else 12) next :=
  Scans.reads (pointsTo_finish memory) (pointsTo_found memory) h.standsAt h.scans (by decide)
    (by decide) rfl hseen

theorem AtLoop.reads_one (hbit : (given memory).getMsbD seen = true) :
    ∃ next : Machine, Reaches code standardHalts 8 machine next ∧
      AtLoop memory (seen + 1) next := by
  rcases h.reads hseen with ⟨middle, hread, hkept, hscans, hmiddle⟩
  rw [if_pos hbit] at hmiddle
  have hcode : code.drop 8 =
      [.addRegister 0 0 0, .andImmediate 4 4 .zero, .addImmediate 2 2 .minusOne] ++
        .branch ⟨true, true, true⟩ .again :: code.drop 12 := rfl
  rcases hmiddle.block_taken hcode rfl (pointsTo_again memory) (isTaken_any _) with
    ⟨next, hreaches, hregisters, hnext⟩
  rcases h.exists_best with ⟨best, hbest, hlongest⟩
  have hend := isLongestAtEnd_of_one hbit
  have hconcat := hlongest.concat hend
  rw [Nat.max_zero] at hconcat
  refine ⟨next, hread.trans hreaches, hnext, ?_, ⟨best, ?_, hconcat⟩, ⟨0, ?_, hend⟩⟩
  · exact hscans.next hseen (congrFun hregisters 0) (congrFun hregisters 2) (congrFun hregisters 5)
  · exact (congrFun hregisters 3).trans ((hkept 3 (by decide)).trans hbest)
  · exact (congrFun hregisters 4).trans (and_immediateWord_zero (middle.registers 4))

theorem AtLoop.reads_zero (hbit : (given memory).getMsbD seen = false) :
    ∃ (next : Machine) (best current : Nat), Reaches code standardHalts 10 machine next ∧
      HasCompared memory seen best current next := by
  rcases h.reads hseen with ⟨middle, hread, hkept, hscans, hmiddle⟩
  rw [if_neg (Bool.eq_false_iff.mp hbit)] at hmiddle
  rcases h.exists_best with ⟨best, hbest, hlongest⟩
  rcases h.exists_current with ⟨current, hcurrent, hlongestAtEnd⟩
  have hend := hlongestAtEnd.of_zero hbit
  have hcurrentLe := hend.le
  have hbestLe := hlongest.le
  have hword : middle.registers 0 + middle.registers 0 = given memory <<< (seen + 1) := by
    rw [hscans.word_eq, shiftLeft_add_shiftLeft]
  have hbestKept : middle.registers 3 = BitVec.ofNat 16 best :=
    (hkept 3 (by decide)).trans hbest
  have hcurrentNext : middle.registers 4 + immediateWord .one = BitVec.ofNat 16 (current + 1) := by
    rw [hkept 4 (by decide), hcurrent, ofNat_add_one]
  let block : List Instruction := [.addRegister 0 0 0, .addImmediate 4 4 .one, .not 7 3,
    .addImmediate 7 7 .one, .addRegister 6 4 7]
  have hcode : code.drop 12 = block ++ .branch ⟨false, false, true⟩ better :: code.drop 18 := rfl
  -- The branch is taken on the difference of the runs, which are too short for it to wrap.
  have htaken : isTaken ⟨false, false, true⟩ (block.foldl (execute standardHalts) middle).sign =
      decide (best < current + 1) := by
    show isTaken _ (.ofInt (middle.registers 4 + immediateWord .one +
      (~~~middle.registers 3 + immediateWord .one)).toInt) = _
    rw [isTaken_positive, hcurrentNext, hbestKept, toInt_difference (by omega) (by omega)]
    exact decide_eq_decide.mpr (by omega)
  have hcompared {next : Machine}
      (hregisters : next.registers = (block.foldl (execute standardHalts) middle).registers)
      (hstands : StandsAt (start memory) (if best < current + 1 then 20 else 18) next) :
      HasCompared memory seen best (current + 1) next := by
    refine ⟨hstands, ?_, ?_, ?_, ?_, ?_, hlongest, hend⟩
    · exact (congrFun hregisters 0).trans hword
    · exact (congrFun hregisters 2).trans hscans.left_eq
    · exact (congrFun hregisters 5).trans hscans.mask_eq
    · exact (congrFun hregisters 3).trans hbestKept
    · exact (congrFun hregisters 4).trans hcurrentNext
  by_cases hlonger : best < current + 1
  · rw [decide_eq_true hlonger] at htaken
    rcases hmiddle.block_taken hcode rfl (pointsTo_better memory) htaken with
      ⟨next, hreaches, hregisters, hnext⟩
    refine ⟨next, best, current + 1, hread.trans hreaches, hcompared hregisters ?_⟩
    rw [if_pos hlonger]
    exact hnext
  · rw [decide_eq_false hlonger] at htaken
    rcases hmiddle.block_passed hcode rfl (pointsTo_better memory) htaken with
      ⟨next, hreaches, hregisters, hnext⟩
    refine ⟨next, best, current + 1, hread.trans hreaches, hcompared hregisters ?_⟩
    rw [if_neg hlonger]
    exact hnext

end Round

section Comparison

variable {memory : Cells} {seen best current : Nat} {machine : Machine}
  (h : HasCompared memory seen best current machine) (hseen : seen < 16)
include h hseen

theorem HasCompared.left_next : machine.registers 2 + immediateWord .minusOne =
    BitVec.ofNat 16 (16 - (seen + 1)) := by
  rw [h.left_eq, ofNat_left_add_minusOne hseen]

theorem HasCompared.replaces (hlonger : best < current) :
    ∃ next : Machine, Reaches code standardHalts 4 machine next ∧
      AtLoop memory (seen + 1) next := by
  have hstands := h.standsAt
  rw [if_pos hlonger] at hstands
  have hcode : code.drop 20 =
      [.andImmediate 3 3 .zero, .addRegister 3 4 3, .addImmediate 2 2 .minusOne] ++
        .branch ⟨true, true, true⟩ .again :: code.drop 24 := rfl
  rcases hstands.block_taken hcode rfl (pointsTo_again memory) (isTaken_any _) with
    ⟨next, hreaches, hregisters, hnext⟩
  have hbest : machine.registers 4 + (machine.registers 3 &&& immediateWord .zero) =
      BitVec.ofNat 16 current := by
    rw [and_immediateWord_zero, h.current_eq]
    exact BitVec.add_zero _
  have hlongest := h.isLongest.concat h.isLongestAtEnd
  rw [Nat.max_eq_right (Nat.le_of_lt hlonger)] at hlongest
  refine ⟨next, hreaches, hnext, ⟨?_, ?_, ?_⟩, ⟨current, ?_, hlongest⟩,
    ⟨current, ?_, h.isLongestAtEnd⟩⟩
  · exact (congrFun hregisters 0).trans h.word_eq
  · exact (congrFun hregisters 2).trans (h.left_next hseen)
  · exact (congrFun hregisters 5).trans h.mask_eq
  · exact (congrFun hregisters 3).trans hbest
  · exact (congrFun hregisters 4).trans h.current_eq

theorem HasCompared.keeps (hlonger : ¬best < current) :
    ∃ next : Machine, Reaches code standardHalts 2 machine next ∧
      AtLoop memory (seen + 1) next := by
  have hstands := h.standsAt
  rw [if_neg hlonger] at hstands
  have hcode : code.drop 18 =
      [.addImmediate 2 2 .minusOne] ++ .branch ⟨true, true, true⟩ .again :: code.drop 20 := rfl
  rcases hstands.block_taken hcode rfl (pointsTo_again memory) (isTaken_any _) with
    ⟨next, hreaches, hregisters, hnext⟩
  have hlongest := h.isLongest.concat h.isLongestAtEnd
  rw [Nat.max_eq_left (Nat.le_of_not_lt hlonger)] at hlongest
  refine ⟨next, hreaches, hnext, ⟨?_, ?_, ?_⟩, ⟨best, ?_, hlongest⟩,
    ⟨current, ?_, h.isLongestAtEnd⟩⟩
  · exact (congrFun hregisters 0).trans h.word_eq
  · exact (congrFun hregisters 2).trans (h.left_next hseen)
  · exact (congrFun hregisters 5).trans h.mask_eq
  · exact (congrFun hregisters 3).trans h.best_eq
  · exact (congrFun hregisters 4).trans h.current_eq

end Comparison

theorem AtLoop.round {memory : Cells} {seen : Nat} {machine : Machine}
    (h : AtLoop memory seen machine) (hseen : seen < 16) :
    ∃ next : Machine, Reaches code standardHalts 14 machine next ∧
      AtLoop memory (seen + 1) next := by
  cases hbit : (given memory).getMsbD seen with
  | true =>
      rcases h.reads_one hseen hbit with ⟨next, hreaches, hnext⟩
      exact ⟨next, hreaches.mono (by decide), hnext⟩
  | false =>
      rcases h.reads_zero hseen hbit with ⟨middle, best, current, hcompares, hmiddle⟩
      by_cases hlonger : best < current
      · rcases hmiddle.replaces hseen hlonger with ⟨next, hreaches, hnext⟩
        exact ⟨next, hcompares.trans hreaches, hnext⟩
      · rcases hmiddle.keeps hseen hlonger with ⟨next, hreaches, hnext⟩
        exact ⟨next, (hcompares.trans hreaches).mono (by decide), hnext⟩

/-!
# The run
-/

theorem exists_halted (memory : Cells) :
    ∃ (last : Machine) (best : Nat), Reaches code standardHalts 232 (start memory) last ∧
      last.status = .halted ∧ IsLongest (given memory) 16 best ∧
      last.memory = Function.update (start memory).memory 0x3101 (BitVec.ofNat 16 best) := by
  have hround (seen : Nat) (machine : Machine) (h : AtLoop memory seen machine)
      (hseen : seen < 16) :
      ∃ (later : Nat) (next : Machine), seen < later ∧ later ≤ 16 ∧
        Reaches code standardHalts 14 machine next ∧ AtLoop memory later next := by
    rcases h.round hseen with ⟨next, hreaches, hnext⟩
    exact ⟨seen + 1, next, Nat.lt_succ_self seen, hseen, hreaches, hnext⟩
  rcases reaches_loop memory with ⟨first, hfirst, hatLoop⟩
  rcases Reaches.loop hround hatLoop (Nat.zero_le 16) with ⟨read, hread, hatEnd⟩
  have hcheck : code.drop 4 =
      .addImmediate 2 2 .zero :: .branch ⟨false, true, false⟩ finish :: code.drop 6 := rfl
  have hcode : code.drop 24 = [.storeIndirect 3 output, .trap 25] := rfl
  have hlabel : (start memory).labels output.name = some 0x3101 := rfl
  have hhalts : standardHalts 25 = true := rfl
  rcases hatEnd.scans.finishes (pointsTo_finish memory) hatEnd.standsAt hcheck rfl hcode hlabel
    hhalts with ⟨last, hlast, hhalted, hmemory⟩
  rcases hatEnd.exists_best with ⟨best, hbest, hlongest⟩
  refine ⟨last, best, (hfirst.trans hread).trans hlast, hhalted, hlongest, ?_⟩
  rw [hmemory, hbest]

/-- Whatever integers memory is filled with, the program halts, writes the length of a longest run
of zero bits in the word at x3100 to x3101, and leaves all other cells as they were filled. -/
theorem run_writes_longest {memory : Cells} (hmemory : memory.IsImage) :
    ∃ (builder : Builder) (length : Nat),
      IsLongest (Word.bits (memory.given 0x3100)) 16 length ∧
      (∀ limit : Nat, 232 ≤ limit ->
        Builder.runText Isa.standard limit source memory = (.ok (), builder)) ∧
      ∀ place : Nat, place < 0x10000 -> builder.processor.memory[place]? =
        some (.int (if place = 0x3101 then (length : Int)
          else Word.signed (memory.given place))) := by
  rcases exists_halted memory with ⟨last, best, hreaches, hhalted, hlongest, houtput⟩
  have hbest := hlongest.le
  rcases runText_of_output assembles_source hmemory hreaches hhalted (by omega) houtput with
    ⟨builder, hrun, hcells⟩
  exact ⟨builder, best, hlongest, hrun, hcells⟩

theorem run_writes_longest_wrapped :
    let memory : Cells := .ofPairs [(.int 0x3100, .int 0x50f0f), (.int 0x3101, .int 7),
      (.int 5, .int 70000), (.int 0xffff, .bool true)]
    memory.IsImage ∧ ∃ (builder : Builder) (length : Nat),
      IsLongest 0x0f0f 16 length ∧
      Builder.runText Isa.standard 232 source memory = (.ok (), builder) ∧
      builder.processor.memory[0x3101]? = some (.int length) ∧
      builder.processor.memory[5]? = some (.int 4464) ∧
      builder.processor.memory[0xffff]? = some (.int 1) := by
  intro memory
  have hmemory : memory.IsImage := by
    intro pair hpair
    have hcases : pair ∈ [(Value.int 0x3100, Value.int 0x50f0f), (.int 0x3101, .int 7),
        (.int 5, .int 70000), (.int 0xffff, .bool true)] := hpair
    simp only [List.mem_cons, List.not_mem_nil, or_false] at hcases
    rcases hcases with rfl | rfl | rfl | rfl <;>
      exact ⟨⟨_, rfl, by decide, by decide⟩, rfl⟩
  rcases run_writes_longest hmemory with ⟨builder, length, hlongest, hrun, hcells⟩
  exact ⟨hmemory, builder, length, hlongest, hrun 232 (Nat.le_refl 232), hcells 0x3101 (by decide),
    hcells 5 (by decide), hcells 0xffff (by decide)⟩

end ZeroRun
end LittleComputer
