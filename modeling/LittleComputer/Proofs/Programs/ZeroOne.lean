import LittleComputer.Proofs.Programs.Texts

/-!
# Zero bits that are followed by one bits

A program that reads the word at x3100, from its high end on, and writes to x3101 how often a zero
bit is followed by a one bit.  Where this is so, one round of the loop reads two bits.
-/

namespace LittleComputer
namespace ZeroOne

open Reference Reference.Machine

/-!
# Counting
-/

/-- How many of the first bits of a word are zero bits with a one bit after them. -/
def pairs (word : BitVec 16) (seen : Nat) : Nat :=
  (List.range seen).countP fun i => !word.getMsbD i && word.getMsbD (i + 1)

theorem pairs_succ (word : BitVec 16) (seen : Nat) :
    pairs word (seen + 1) =
      pairs word seen + if !word.getMsbD seen && word.getMsbD (seen + 1) then 1 else 0 := by
  unfold pairs
  rw [List.range_succ, List.countP_append, List.countP_singleton]

theorem pairs_succ_of_one {word : BitVec 16} {seen : Nat} (h : word.getMsbD seen = true) :
    pairs word (seen + 1) = pairs word seen := by
  rw [pairs_succ, h]
  rfl

theorem pairs_succ_of_zero {word : BitVec 16} {seen : Nat} (h : word.getMsbD (seen + 1) = false) :
    pairs word (seen + 1) = pairs word seen := by
  rw [pairs_succ, h, Bool.and_false]
  rfl

theorem pairs_le (word : BitVec 16) (seen : Nat) : pairs word seen ≤ seen := by
  have hle := @List.countP_le_length _ (fun i => !word.getMsbD i && word.getMsbD (i + 1))
    (List.range seen)
  rw [List.length_range] at hle
  exact hle

theorem pairs_all (word : BitVec 16) : pairs word 16 = pairs word 15 :=
  pairs_succ_of_zero (BitVec.getMsbD_of_ge word 16 (Nat.le_refl 16))

/-!
# The loop
-/

abbrev start (memory : Cells) : Machine :=
  .loaded labels memory

abbrev given (memory : Cells) : BitVec 16 :=
  Word.bits (memory.given 0x3100)

section Labels

variable (memory : Cells)

theorem pointsTo_again : PointsTo (start memory).labels .again 4 :=
  ⟨4, rfl, rfl⟩

theorem pointsTo_found : PointsTo (start memory).labels .found 11 :=
  ⟨11, rfl, rfl⟩

theorem pointsTo_yes : PointsTo (start memory).labels yes 16 :=
  ⟨16, rfl, rfl⟩

theorem pointsTo_finish : PointsTo (start memory).labels finish 20 :=
  ⟨20, rfl, rfl⟩

end Labels

/-- What holds at a place when some bits were read and the pairs that begin with the first of them
were counted. -/
structure Counts (memory : Cells) (place seen first : Nat) (machine : Machine) : Prop where
  standsAt : StandsAt (start memory) place machine
  scans : Scans (given memory) 3 4 seen machine
  count_eq : machine.registers 2 = BitVec.ofNat 16 (pairs (given memory) first)

theorem reaches_loop (memory : Cells) :
    ∃ machine : Machine, Reaches code standardHalts 4 (start memory) machine ∧
      Counts memory 4 0 0 machine := by
  have hstands : StandsAt (start memory) 0 (start memory) :=
    ⟨rfl, rfl, rfl, rfl⟩
  have hcode : code.drop 0 = code.take 4 ++ code.drop 4 := rfl
  rcases @StandsAt.block code standardHalts _ _ 0 hstands _ _ hcode rfl with ⟨hreaches, hnext⟩
  refine ⟨_, hreaches, hnext, ⟨?_, ?_, ?_⟩, ?_⟩
  · rw [BitVec.shiftLeft_zero]
    rfl
  · rfl
  · rfl
  · rfl

section Round

variable {memory : Cells} {seen : Nat} {machine : Machine}

theorem Counts.reads (h : Counts memory 4 seen seen machine) (hseen : seen < 16) :
    ∃ next : Machine, Reaches code standardHalts 4 machine next ∧
      Counts memory (if (given memory).getMsbD seen then 8 else 11) seen seen next := by
  have hcode : code.drop 4 =
      .addImmediate 3 3 .zero :: .branch ⟨false, true, false⟩ finish ::
        .andRegister 1 0 4 :: .branch ⟨false, true, false⟩ .found :: code.drop 8 := rfl
  rcases Scans.reads (pointsTo_finish memory) (pointsTo_found memory) h.standsAt h.scans (by decide)
    (by decide) hcode hseen with ⟨next, hreaches, hkept, hscans, hnext⟩
  exact ⟨next, hreaches, hnext, hscans, (hkept 2 (by decide)).trans h.count_eq⟩

theorem Counts.round_of_one (h : Counts memory 8 seen seen machine) (hseen : seen < 16)
    (hbit : (given memory).getMsbD seen = true) :
    ∃ next : Machine, Reaches code standardHalts 3 machine next ∧
      Counts memory 4 (seen + 1) (seen + 1) next := by
  have hcode : code.drop 8 = [.addRegister 0 0 0, .addImmediate 3 3 .minusOne] ++
      .branch ⟨false, false, false⟩ .again :: code.drop 11 := rfl
  rcases h.standsAt.block_taken hcode rfl (pointsTo_again memory) (isTaken_bare _) with
    ⟨next, hreaches, hregisters, hnext⟩
  refine ⟨next, hreaches, hnext, ?_, ?_⟩
  · exact h.scans.next hseen (congrFun hregisters 0) (congrFun hregisters 3)
      (congrFun hregisters 4)
  · rw [pairs_succ_of_one hbit]
    exact (congrFun hregisters 2).trans h.count_eq

/-- After a zero bit the next one is tested too, which is harmless if there is none. -/
theorem Counts.tests (h : Counts memory 11 seen seen machine) (hseen : seen < 16) :
    ∃ next : Machine, Reaches code standardHalts 4 machine next ∧
      Counts memory (if (given memory).getMsbD (seen + 1) then 16 else 15) (seen + 1) seen
        next := by
  let block : List Instruction :=
    [.addRegister 0 0 0, .addImmediate 3 3 .minusOne, .andRegister 1 0 4]
  have hcode : code.drop 11 = block ++ .branch ⟨true, false, true⟩ yes :: code.drop 15 := rfl
  have htaken : isTaken ⟨true, false, true⟩ (block.foldl (execute standardHalts) machine).sign =
      (given memory).getMsbD (seen + 1) := by
    show isTaken _
      (.ofInt (machine.registers 0 + machine.registers 0 &&& machine.registers 4).toInt) = _
    rw [h.scans.word_eq, h.scans.mask_eq, shiftLeft_add_shiftLeft]
    exact (isTaken_mask (given memory) (seen + 1)).right
  have hcounts {place : Nat} {next : Machine}
      (hregisters : next.registers = (block.foldl (execute standardHalts) machine).registers)
      (hstands : StandsAt (start memory) place next) :
      Counts memory place (seen + 1) seen next := by
    refine ⟨hstands, ?_, (congrFun hregisters 2).trans h.count_eq⟩
    exact h.scans.next hseen (congrFun hregisters 0) (congrFun hregisters 3)
      (congrFun hregisters 4)
  cases hbit : (given memory).getMsbD (seen + 1) with
  | true =>
      rw [hbit] at htaken
      rcases h.standsAt.block_taken hcode rfl (pointsTo_yes memory) htaken with
        ⟨next, hreaches, hregisters, hnext⟩
      exact ⟨next, hreaches, hcounts hregisters hnext⟩
  | false =>
      rw [hbit] at htaken
      rcases h.standsAt.block_passed hcode rfl (pointsTo_yes memory) htaken with
        ⟨next, hreaches, hregisters, hnext⟩
      exact ⟨next, hreaches, hcounts hregisters hnext⟩

theorem Counts.round_of_zero (h : Counts memory 15 (seen + 1) seen machine)
    (hnext : (given memory).getMsbD (seen + 1) = false) :
    ∃ next : Machine, Reaches code standardHalts 1 machine next ∧
      Counts memory 4 (seen + 1) (seen + 1) next := by
  have hcode : code.drop 15 = [] ++ .branch ⟨false, false, false⟩ .again :: code.drop 16 := rfl
  rcases h.standsAt.block_taken hcode rfl (pointsTo_again memory) (isTaken_bare _) with
    ⟨next, hreaches, hregisters, hstands⟩
  refine ⟨next, hreaches, hstands, ?_, ?_⟩
  · exact h.scans.of_registers_eq (congrFun hregisters 0) (congrFun hregisters 3)
      (congrFun hregisters 4)
  · rw [pairs_succ_of_zero hnext]
    exact (congrFun hregisters 2).trans h.count_eq

theorem Counts.round_of_pair (h : Counts memory 16 (seen + 1) seen machine)
    (hbit : (given memory).getMsbD seen = false)
    (hnext : (given memory).getMsbD (seen + 1) = true) :
    ∃ next : Machine, Reaches code standardHalts 4 machine next ∧
      Counts memory 4 (seen + 2) (seen + 2) next := by
  have hcode : code.drop 16 =
      [.addImmediate 2 2 .one, .addRegister 0 0 0, .addImmediate 3 3 .minusOne] ++
        .branch ⟨false, false, false⟩ .again :: code.drop 20 := rfl
  rcases h.standsAt.block_taken hcode rfl (pointsTo_again memory) (isTaken_bare _) with
    ⟨next, hreaches, hregisters, hstands⟩
  have hpairs : pairs (given memory) (seen + 2) = pairs (given memory) seen + 1 := by
    rw [pairs_succ_of_one hnext, pairs_succ, hbit, hnext]
    rfl
  refine ⟨next, hreaches, hstands, ?_, ?_⟩
  · exact h.scans.next (BitVec.lt_of_getMsbD hnext) (congrFun hregisters 0)
      (congrFun hregisters 3) (congrFun hregisters 4)
  · rw [hpairs, ← ofNat_add_one, ← h.count_eq]
    exact congrFun hregisters 2

theorem Counts.round (h : Counts memory 4 seen seen machine) (hseen : seen < 16) :
    ∃ (later : Nat) (next : Machine), seen < later ∧ later ≤ 16 ∧
      Reaches code standardHalts 12 machine next ∧ Counts memory 4 later later next := by
  rcases h.reads hseen with ⟨middle, hread, hmiddle⟩
  cases hbit : (given memory).getMsbD seen with
  | true =>
      rw [if_pos hbit] at hmiddle
      rcases hmiddle.round_of_one hseen hbit with ⟨next, hreaches, hnext⟩
      exact ⟨seen + 1, next, by omega, hseen, (hread.trans hreaches).mono (by decide), hnext⟩
  | false =>
      rw [if_neg (Bool.eq_false_iff.mp hbit)] at hmiddle
      rcases hmiddle.tests hseen with ⟨tested, htest, htested⟩
      cases hsecond : (given memory).getMsbD (seen + 1) with
      | true =>
          rw [if_pos hsecond] at htested
          rcases htested.round_of_pair hbit hsecond with ⟨next, hreaches, hnext⟩
          have hlater := BitVec.lt_of_getMsbD hsecond
          exact ⟨seen + 2, next, by omega, hlater, (hread.trans htest).trans hreaches, hnext⟩
      | false =>
          rw [if_neg (Bool.eq_false_iff.mp hsecond)] at htested
          rcases htested.round_of_zero hsecond with ⟨next, hreaches, hnext⟩
          exact ⟨seen + 1, next, by omega, hseen,
            ((hread.trans htest).trans hreaches).mono (by decide), hnext⟩

end Round

/-!
# The run
-/

theorem exists_halted (memory : Cells) :
    ∃ last : Machine, Reaches code standardHalts 200 (start memory) last ∧ last.status = .halted ∧
      last.memory = Function.update (start memory).memory 0x3101
        (BitVec.ofNat 16 (pairs (given memory) 15)) := by
  rcases reaches_loop memory with ⟨first, hfirst, hatLoop⟩
  rcases Reaches.loop (fun _ _ h hseen => Counts.round h hseen) hatLoop (Nat.zero_le 16) with
    ⟨read, hread, hatEnd⟩
  have hcheck : code.drop 4 =
      .addImmediate 3 3 .zero :: .branch ⟨false, true, false⟩ finish :: code.drop 6 := rfl
  have hcode : code.drop 20 = [.storeIndirect 2 output, .trap 25] := rfl
  have hlabel : (start memory).labels output.name = some 0x3101 := rfl
  have hhalts : standardHalts 25 = true := rfl
  rcases hatEnd.scans.finishes (pointsTo_finish memory) hatEnd.standsAt hcheck rfl hcode hlabel
    hhalts with ⟨last, hlast, hhalted, hmemory⟩
  refine ⟨last, (hfirst.trans hread).trans hlast, hhalted, ?_⟩
  rw [hmemory, hatEnd.count_eq, pairs_all]

/-- Whatever integers memory is filled with, the program halts, writes to x3101 how many of the
fifteen higher bits of the word at x3100 are zero bits with a one bit after them, and leaves all
other cells as they were filled. -/
theorem run_writes_count {memory : Cells} (hmemory : memory.IsImage) :
    ∃ builder : Builder,
      (∀ limit : Nat, 200 ≤ limit ->
        Builder.runText Isa.standard limit source memory = (.ok (), builder)) ∧
      ∀ place : Nat, place < 0x10000 -> builder.processor.memory[place]? =
        some (.int (if place = 0x3101 then (pairs (Word.bits (memory.given 0x3100)) 15 : Int)
          else Word.signed (memory.given place))) := by
  rcases exists_halted memory with ⟨last, hreaches, hhalted, houtput⟩
  have hpairs := pairs_le (given memory) 15
  exact runText_of_output assembles_source hmemory hreaches hhalted (by omega) houtput

theorem run_writes_count_wrapped :
    let memory : Cells := .ofPairs [(.int 0x3100, .int (-0x5fff4)), (.int 5, .int 70000),
      (.int 0xffff, .bool true)]
    memory.IsImage ∧ ∃ builder : Builder,
      Builder.runText Isa.standard 200 source memory = (.ok (), builder) ∧
      builder.processor.memory[0x3100]? = some (.int 12) ∧
      builder.processor.memory[0x3101]? = some (.int 1) ∧
      builder.processor.memory[5]? = some (.int 4464) ∧
      builder.processor.memory[0xffff]? = some (.int 1) := by
  intro memory
  have hmemory : memory.IsImage := by
    intro pair hpair
    have hcases : pair ∈ [(Value.int 0x3100, Value.int (-0x5fff4)), (.int 5, .int 70000),
        (.int 0xffff, .bool true)] := hpair
    simp only [List.mem_cons, List.not_mem_nil, or_false] at hcases
    rcases hcases with rfl | rfl | rfl <;> exact ⟨⟨_, rfl, by decide, by decide⟩, rfl⟩
  rcases run_writes_count hmemory with ⟨builder, hrun, hcells⟩
  have hpairs : pairs (Word.bits (memory.given 0x3100)) 15 = 1 := by
    decide +kernel
  rw [hpairs] at hcells
  exact ⟨hmemory, builder, hrun 200 (Nat.le_refl 200), hcells 0x3100 (by decide),
    hcells 0x3101 (by decide), hcells 5 (by decide), hcells 0xffff (by decide)⟩

end ZeroOne
end LittleComputer
