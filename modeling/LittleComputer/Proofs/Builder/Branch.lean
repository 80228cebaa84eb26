import LittleComputer.Proofs.Builder.Position
import LittleComputer.Proofs.Sheet.Soundness

/-!
# Branches to positions

A branch goes to the word of the position that its label was given.  That is the position itself as
long as it is less than 32768.  Positions beyond are wrapped like any other value of a label, and
nothing undoes that: the branch goes to a negative index, or to an earlier instruction.
-/

namespace LittleComputer

/-!
# Words of positions
-/

theorem Word.signed_natCast (n : Nat) :
    signed n = if n % 0x10000 < 0x8000 then (n % 0x10000 : Int) else n % 0x10000 - 0x10000 := by
  unfold signed Int.bmod modulus
  split
  · rw [if_pos (by omega)]
    rfl
  · rw [if_neg (by omega)]
    rfl

namespace Engine

/-!
# Taken branches
-/

def TakesBranch (isa : Isa) (engine : Engine) (label : String) : Prop :=
  (engine.step isa).1 = .executed ∧
    ∃ (condition : Condition) (name : LabelName) (target : Value), name.name = label ∧
      engine.program.fetch engine.run.index = .ok (.branch condition name) ∧
      engine.effect isa (.branch condition name) = .ok (.jump target)

theorem next_of_executed {isa : Isa} {engine : Engine} {i : Instruction} {effect : Effect}
    (hexecuted : (engine.step isa).1 = .executed)
    (hfetch : engine.program.fetch engine.run.index = .ok i)
    (heffect : engine.effect isa i = .ok effect) :
    engine.IsRunning ∧ engine.next isa = engine.perform i effect := by
  have hends := step_ends isa engine
  unfold next
  generalize engine.step isa = result at hends hexecuted ⊢
  cases hends with
  | performed hrunning hother hotherEffect =>
      rw [hfetch] at hother
      cases hother
      rw [heffect] at hotherEffect
      cases hotherEffect
      exact ⟨hrunning, rfl⟩
  | repeatedFault _ | repeatedHalt _ _ | failed _ _ => cases hexecuted
  | outOfRange _ _ | faulted _ _ _ => cases hexecuted

theorem index_of_takesBranch {isa : Isa} {engine : Engine} {label : String}
    {n : Int} (htakes : engine.TakesBranch isa label)
    (hentry : engine.program.labels.get? (.text label) = some (.int n)) :
    (engine.next isa).IsRunning ∧ (engine.next isa).run.index = .int n := by
  rcases htakes with ⟨hexecuted, condition, name, target, rfl, hfetch, heffect⟩
  rcases next_of_executed hexecuted hfetch heffect with ⟨hrunning, hnext⟩
  rcases exists_definition_of_effect heffect with ⟨definition, -, hexecutor⟩
  have hresolve := Executor.resolve?_of_effect_jump hexecutor
  unfold Labels.resolve? at hresolve
  rw [hentry] at hresolve
  cases hresolve
  rw [hnext]
  exact ⟨⟨hrunning.left, rfl⟩, rfl⟩

theorem takesBranch_of_entry {isa : Isa} {engine : Engine} {condition : Condition}
    {name : LabelName} {n : Int} (hisa : isa.CarriesOut (.branch condition name))
    (hrunning : engine.IsRunning)
    (hfetch : engine.program.fetch engine.run.index = .ok (.branch condition name))
    (hcondition : condition.letters = [])
    (hentry : engine.program.labels.get? (.text name.name) = some (.int n)) :
    engine.TakesBranch isa name.name := by
  have hlookUp (index : Option Value) (i : Instruction) :
      engine.program.labels.lookUp isa.traps name index i = .ok (.int n) := by
    unfold Labels.lookUp Labels.resolve?
    rw [hentry]
    rfl
  have hdecide : condition.decideOn engine.processor.flag = .ok true := by
    unfold Condition.decideOn Condition.admits?
    rw [hcondition]
    rfl
  have heffect : engine.effect isa (.branch condition name) = .ok (.jump (.int n)) := by
    rcases hisa with ⟨definition, hdefinition, hexecutor⟩
    unfold Engine.effect
    rw [hdefinition]
    simp only [hexecutor, Executor.ofInstruction, Executor.effect, hlookUp, hdecide, ok_bind]
    rfl
  constructor
  · show (engine.step isa).1 = .executed
    unfold step
    rw [hrunning.left]
    simp only [hrunning.right, hfetch, heffect]
    rfl
  · exact ⟨condition, name, .int n, rfl, hfetch, heffect⟩

/-!
# Going on at a place
-/

/-- A running engine goes on at a place: the next step carries out the instruction there, or faults
naming the place if there is none. -/
structure ContinuesAt (engine : Engine) (place : Nat) : Prop where
  isRunning : engine.IsRunning
  index : engine.run.index = .int place
  fetch (h : place < engine.program.instructions.size) :
    engine.program.fetch engine.run.index = .ok engine.program.instructions[place]
  fault (isa : Isa) : engine.program.size ≤ place ->
    ∃ fault : Fault, (engine.step isa).1 = .faulted fault ∧
      fault.cause = .outOfRange (.int place) engine.program.size

theorem continuesAt_iff {engine : Engine} (hrunning : engine.IsRunning) (place : Nat) :
    engine.ContinuesAt place ↔ engine.run.index = .int place := by
  constructor
  · intro h
    exact h.index
  · intro hindex
    refine ⟨hrunning, hindex, ?_, ?_⟩
    · intro hplace
      rw [hindex, Program.fetch_natCast, Array.getElem?_eq_getElem hplace]
    · intro isa hsize
      have hfetch : engine.program.fetch engine.run.index = .error .outOfRange := by
        rw [hindex, Program.fetch_natCast, Array.getElem?_eq_none hsize]
      exists outOfRangeFault isa.traps engine
      constructor
      · unfold step
        rw [hrunning.left]
        simp only [hrunning.right, hfetch]
        rfl
      · rw [← hindex]
        unfold outOfRangeFault
        split <;> rfl

end Engine

namespace Builder

theorem index_of_holdsPosition {builder : Builder} {label : String} {position : Nat}
    (hholds : HoldsPosition label position builder) {engine : Engine}
    (hprogram : engine.program = builder.program) {isa : Isa}
    (htakes : engine.TakesBranch isa label) :
    (engine.next isa).IsRunning ∧ (engine.next isa).run.index = .int (Word.signed position) := by
  apply Engine.index_of_takesBranch htakes
  rw [hprogram]
  exact hholds.entry

/-!
# A branch at the start
-/

theorem reachable_append {processor : Processor} (more done : List Instruction)
    (h : Reachable ⟨⟨done.toArray, .empty, none, false⟩, processor, none⟩) :
    Reachable ⟨⟨(done ++ more).toArray, .empty, none, false⟩, processor, none⟩ := by
  induction more generalizing done with
  | nil =>
      rw [List.append_nil]
      exact h
  | cons i rest ih =>
      have hnext : Reachable ⟨⟨(done ++ [i]).toArray, .empty, none, false⟩, processor, none⟩ := by
        rw [← List.push_toArray]
        exact .call .bare (.append (.instruction i)) h
      rw [List.append_cons]
      exact ih (done ++ [i]) hnext

theorem reachable_of_instructions (processor : Processor) (code : List Instruction) :
    Reachable ⟨⟨code.toArray, .empty, none, false⟩, processor, none⟩ :=
  reachable_append code [] (.create processor)

theorem begin_of_valid {isa : Isa} {builder : Builder} (hfrozen : builder.program.frozen = false)
    (hvalid : isa.validate builder.program.freeze = none) :
    builder.begin isa = { builder with
      program := builder.program.freeze
      run := some (.start builder.program.labels.table) } := by
  unfold begin prepare
  rw [hfrozen]
  dsimp only
  rw [if_neg Bool.false_ne_true, hvalid]
  rfl

theorem takes_branch_to_end (name : LabelName) (code : List Instruction) :
    let instructions := (Instruction.branch ⟨false, false, false⟩ name :: code).toArray
    let first : Builder := ⟨⟨instructions, .empty, none, false⟩, .initial, none⟩
    let call := Call.perform (.label (.text name.name))
    let last := (first.after .standard call).after .standard .start
    call.Binds .standard first name.name .position (code.length + 1) ∧
      Leads name.name (first.after .standard call) last ∧ ∃ run : Run, last.run = some run ∧
        Engine.TakesBranch .standard ⟨last.processor, last.program, run⟩ name.name := by
  intro instructions first call last
  have hbind : first.program.bind (.text name.name) .position = .ok { first.program with
      labels := Labels.empty.insert (.text name.name) instructions.size } := by
    rw [Program.bind_eq]
    unfold Program.bindLabels Labels.bind
    rw [name.isFalsy_text]
    rfl
  have hbound : first.after .standard call = { first with program := { first.program with
      labels := Labels.empty.insert (.text name.name) instructions.size } } := by
    show { first with program :=
      (first.program.perform Isa.standard.traps (.label (.text name.name))).2 } = _
    unfold Program.perform
    dsimp only [Statement.instruction?, Statement.binding?]
    rw [hbind]
  have hstarted : last = { first.after .standard call with
      program := (first.after .standard call).program.freeze
      run := some (.start (first.after .standard call).program.labels.table) } := by
    apply begin_of_valid
    · rw [hbound]
    · apply Isa.validate_eq_none_iff.mpr
      intro i _
      exact Isa.objection?_of_standard rfl i
  have hsize : first.program.size = code.length + 1 := by
    show instructions.size = code.length + 1
    rw [List.size_toArray, List.length_cons]
  have hname : (Value.text name.name).equals (.text name.name) = true := by
    rw [Value.equals_text, decide_eq_true rfl]
  constructor
  · exact ⟨hsize, .text name.name, _, rfl, hname, hbind⟩
  · constructor
    · apply Leads.call _ _ .none
      · intro binding size hbinds
        exact hbinds
      · intro hstores
        exact hstores
    · rw [hstarted, hbound]
      refine ⟨_, rfl, ?_⟩
      apply Engine.takesBranch_of_entry (Isa.carriesOut_of_standard rfl _) ⟨rfl, rfl⟩
      · exact Program.fetch_natCast _ 0
      · rfl
      · show (Labels.empty.insert (.text name.name) instructions.size).get? (.text name.name) = _
        rw [Labels.get?_insert, if_pos hname]

/-- A branch that an engine on the builder's program takes to a position label goes on at the word of
the position.  It goes on at the position itself exactly if that is less than 32768, and at another
instruction exactly if the position is larger and its word is not negative. -/
theorem branch_to_position {first : Builder} (hreachable : Reachable first) {isa : Isa}
    {call : Call} {label : String} {position : Nat}
    (hbinds : call.Binds isa first label .position position) {last : Builder}
    (hleads : Leads label (first.after isa call) last) {engine : Engine}
    (hprogram : engine.program = last.program) {current : Isa}
    (htakes : engine.TakesBranch current label) :
    let next := engine.next current
    position ≤ next.program.size ∧
      next.IsRunning ∧ next.run.index = .int (Word.signed position) ∧
      (next.ContinuesAt position ↔ position < 0x8000) ∧
      ((∃ place : Nat, place ≠ position ∧ place < next.program.size ∧ next.ContinuesAt place) ↔
        0x8000 ≤ position ∧ position % 0x10000 < 0x8000) := by
  intro next
  have hholds := holdsPosition_of_leads hleads
    (holdsPosition_of_binds (runsFrozen_of_reachable hreachable) hbinds)
  rcases index_of_holdsPosition hholds hprogram htakes with ⟨hrunning, hindex⟩
  have hsize : position ≤ next.program.size := by
    show position ≤ next.program.instructions.size
    rw [Engine.instructions_next, hprogram]
    exact hholds.le_size
  have hcontinues (place : Nat) :
      next.ContinuesAt place ↔ Word.signed position = place := by
    rw [Engine.continuesAt_iff hrunning, hindex, Value.int.injEq]
  rw [Word.signed_natCast] at hcontinues
  refine ⟨hsize, hrunning, hindex, ?_, ?_⟩
  · rw [hcontinues]
    split <;> omega
  · constructor
    · rintro ⟨place, hne, hplace, hat⟩
      have hword := (hcontinues place).mp hat
      split at hword <;> omega
    · rintro ⟨hlarge, hword⟩
      exists position % 0x10000
      constructor
      · omega
      · constructor
        · omega
        · rw [hcontinues, if_pos hword]
          rfl

theorem branch_to_position_end :
    let name : LabelName := ⟨"L", by decide⟩
    let first : Builder := ⟨⟨#[.branch ⟨false, false, false⟩ name], .empty, none, false⟩,
      .initial, none⟩
    let call := Call.perform (.label (.text "L"))
    let last := (first.after .standard call).after .standard .start
    Reachable first ∧ call.Binds .standard first "L" .position 1 ∧
      Leads "L" (first.after .standard call) last ∧ ∃ run : Run,
        let engine : Engine := ⟨last.processor, last.program, run⟩
        engine.TakesBranch .standard "L" ∧ (engine.next .standard).ContinuesAt 1 := by
  intro name first call last
  have hreachable : Reachable first := reachable_of_instructions .initial _
  rcases takes_branch_to_end name [] with ⟨hbinds, hleads, run, -, htakes⟩
  have hbranch := branch_to_position hreachable hbinds hleads rfl htakes
  exact ⟨hreachable, hbinds, hleads, run, htakes, hbranch.right.right.right.left.mpr (by decide)⟩

theorem branch_to_end_wraps_of_length (name : LabelName) {code : List Instruction}
    (hlength : code.length = 65536) :
    let first : Builder := ⟨⟨(.branch ⟨false, false, false⟩ name :: code).toArray, .empty, none,
      false⟩, .initial, none⟩
    let call := Call.perform (.label (.text name.name))
    let last := (first.after .standard call).after .standard .start
    Reachable first ∧ call.Binds .standard first name.name .position 65537 ∧
      Leads name.name (first.after .standard call) last ∧ ∃ engine : Engine,
        engine.program = last.program ∧ 65537 ≤ last.program.size ∧
          engine.TakesBranch .standard name.name ∧
          (engine.next .standard).ContinuesAt 1 ∧
          ¬(engine.next .standard).ContinuesAt 65537 := by
  intro first call last
  have hreachable : Reachable first := reachable_of_instructions .initial _
  rcases takes_branch_to_end name code with ⟨hbinds, hleads, run, -, htakes⟩
  rw [hlength] at hbinds
  have hholds := holdsPosition_of_leads hleads
    (holdsPosition_of_binds (runsFrozen_of_reachable hreachable) hbinds)
  rcases index_of_holdsPosition hholds rfl htakes with ⟨hrunning, hindex⟩
  refine ⟨hreachable, hbinds, hleads, _, rfl, hholds.le_size, htakes, ?_, ?_⟩
  · rw [Engine.continuesAt_iff hrunning, hindex, Word.signed_natCast]
    rfl
  · rw [Engine.continuesAt_iff hrunning, hindex, Word.signed_natCast, Value.int.injEq]
    decide

/-- A branch that is taken to a label declared after 65537 instructions goes on at the second
instruction. -/
theorem branch_to_end_wraps :
    ∃ (first last : Builder) (call : Call) (engine : Engine), Reachable first ∧
      call.Binds .standard first "L" .position 65537 ∧
      Leads "L" (first.after .standard call) last ∧ engine.program = last.program ∧
      65537 ≤ last.program.size ∧ engine.TakesBranch .standard "L" ∧
      (engine.next .standard).ContinuesAt 1 ∧ ¬(engine.next .standard).ContinuesAt 65537 := by
  have hlength : (List.replicate 65536 (Instruction.trap Trap.haltVector)).length = 65536 :=
    List.length_replicate
  rcases branch_to_end_wraps_of_length ⟨"L", by decide⟩ hlength with
    ⟨hreachable, hbinds, hleads, engine, hprogram, hwraps⟩
  exact ⟨_, _, _, engine, hreachable, hbinds, hleads, hprogram, hwraps⟩

end Builder
end LittleComputer
