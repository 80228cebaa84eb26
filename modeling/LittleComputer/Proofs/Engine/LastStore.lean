import LittleComputer.Proofs.Engine.Calls
import LittleComputer.Proofs.Engine.Effects
import LittleComputer.Sheet.Manager

/-!
# Loads and the last stores before them

Only indirect stores change memory, and only stores change labels.  So a load finds what the last
store to the same place put there, or what was there when the run began.  Which cell a store or a
load goes to is told by the integer that its label stands for at that very step, and integers with
the same residue modulo 65536 share a cell.

Nothing is assumed of the engine that the run begins with, nor of the executors that it finds.
-/

namespace LittleComputer

namespace Engine

/-!
# What places hold
-/

def labelInt? (engine : Engine) (name : String) : Option Int :=
  (engine.program.labels.get? (.text name)).bind Value.asInt?

def registerInt? (engine : Engine) (register : Register) : Option Int :=
  engine.processor.registers[register.val]?.bind Value.asInt?

def cellInt? (engine : Engine) (address : Int) : Option Int :=
  (engine.processor.read? address).bind Value.asInt?

/-- The next step carries out an indirect store of an integer, through a label that stands for an
address with the same residue. -/
def PutsInCell (isa : Isa) (engine : Engine) (address value : Int) : Prop :=
  ∃ (src : Register) (label : LabelName) (other : Int),
    engine.Executes isa (.storeIndirect src label) ∧ engine.labelInt? label.name = some other ∧
      other % 0x10000 = address % 0x10000 ∧ engine.registerInt? src = some value

/-- The next step carries out a store of an integer to a label. -/
def PutsInLabel (isa : Isa) (engine : Engine) (name : String) (value : Int) : Prop :=
  ∃ (src : Register) (label : LabelName),
    engine.Executes isa (.store src label) ∧ label.name = name ∧
      engine.registerInt? src = some value

theorem labelInt?_of_resolve? {engine : Engine} {name : String} {value : Value} {n : Int}
    (hresolve : engine.program.labels.resolve? (.text name) = some value)
    (hvalue : value.asInt? = some n) : engine.labelInt? name = some n := by
  unfold labelInt?
  rw [Labels.get?_of_resolve? hresolve]
  exact hvalue

theorem registerInt?_of_getElem? {engine : Engine} {register : Register} {value : Value} {n : Int}
    (hget : engine.processor.registers[register.val]? = some value)
    (hvalue : value.asInt? = some n) : engine.registerInt? register = some n := by
  unfold registerInt?
  rw [hget]
  exact hvalue

theorem cellInt?_of_read? {engine : Engine} {address : Int} {value : Value} {n : Int}
    (hread : engine.processor.read? address = some value) (hvalue : value.asInt? = some n) :
    engine.cellInt? address = some n := by
  unfold cellInt?
  rw [hread]
  exact hvalue

/-!
# What one step changes
-/

theorem decides_of_effect {isa : Isa} {engine : Engine} {i : Instruction} {effect : Effect}
    (h : engine.effect isa i = .ok effect) :
    Decides engine.program.labels engine.processor i effect := by
  rcases exists_definition_of_effect h with ⟨definition, -, hexecutor⟩
  exact Executor.decides_of_effect hexecutor

theorem executes_of_isPerformed {isa : Isa} {engine : Engine} {i : Instruction}
    (hfetch : (engine.program.fetch engine.run.index).toOption = some i)
    (h : (engine.step isa).1.isPerformed = true) : engine.Executes isa i := by
  have hends := step_ends isa engine
  generalize engine.step isa = result at hends h
  cases hends with
  | repeatedFault _ | repeatedHalt _ _ | failed _ _ | outOfRange _ _ | faulted _ _ _ => cases h
  | @performed other effect hrunning hother heffect =>
      rw [hother] at hfetch
      cases hfetch
      exact ⟨hrunning, hother, effect, heffect⟩

theorem next_of_executes {isa : Isa} {engine : Engine} {i : Instruction}
    (h : engine.Executes isa i) :
    ∃ effect : Effect, Decides engine.program.labels engine.processor i effect ∧
      engine.next isa = engine.perform i effect := by
  rcases h with ⟨⟨hfault, hhalted⟩, hfetch, effect, heffect⟩
  refine ⟨effect, decides_of_effect heffect, ?_⟩
  unfold next step
  simp [hfault, hhalted, hfetch, heffect]

theorem memory_next_of_not_executes {isa : Isa} {engine : Engine}
    (h : ∀ (src : Register) (label : LabelName),
      ¬engine.Executes isa (.storeIndirect src label)) :
    (engine.next isa).processor.memory = engine.processor.memory := by
  have hmoves := next_moves isa engine
  generalize engine.next isa = after at hmoves ⊢
  cases hmoves with
  | stays | aborted _ => rfl
  | @performed i effect hrunning hfetch heffect =>
      have hdecides := decides_of_effect heffect
      cases effect with
      | cell address value =>
          cases hdecides with
          | storeIndirect _ _ _ _ _ => exact absurd ⟨hrunning, hfetch, _, heffect⟩ (h _ _)
          | serve hserved => rcases hserved with hserved | hserved <;> cases hserved
      | result dest value | label name value | jump target | proceed | halt => rfl

theorem labels_next_of_not_executes {isa : Isa} {engine : Engine}
    (h : ∀ (src : Register) (label : LabelName), ¬engine.Executes isa (.store src label)) :
    (engine.next isa).program.labels = engine.program.labels := by
  have hmoves := next_moves isa engine
  generalize engine.next isa = after at hmoves ⊢
  cases hmoves with
  | stays | aborted _ => rfl
  | @performed i effect hrunning hfetch heffect =>
      have hdecides := decides_of_effect heffect
      cases effect with
      | label name value =>
          cases hdecides with
          | store _ _ _ => exact absurd ⟨hrunning, hfetch, _, heffect⟩ (h _ _)
          | serve hserved => rcases hserved with hserved | hserved <;> cases hserved
      | result dest value | cell address value | jump target | proceed | halt => rfl

/-!
# What one step puts in a place
-/

theorem perform_of_executes_storeIndirect {isa : Isa} {engine : Engine} {src : Register}
    {label : LabelName} (h : engine.Executes isa (.storeIndirect src label)) :
    ∃ address value : Int, engine.labelInt? label.name = some address ∧
      engine.registerInt? src = some value ∧ engine.processor.hasCell address = true ∧
      (engine.next isa).processor = engine.processor.write address value := by
  rcases next_of_executes h with ⟨effect, hdecides, hnext⟩
  cases hdecides with
  | compute hlabel _ => cases hlabel
  | @storeIndirect _ _ _ _ address value hresolve haddress hget hvalue hcell =>
      refine ⟨address, value, labelInt?_of_resolve? hresolve haddress,
        registerInt?_of_getElem? hget hvalue, hcell, ?_⟩
      rw [hnext]
      rfl

theorem perform_of_executes_store {isa : Isa} {engine : Engine} {src : Register}
    {label : LabelName} (h : engine.Executes isa (.store src label)) :
    ∃ value : Int, engine.registerInt? src = some value ∧
      engine.program.labels.contains (.text label.name) = true ∧
      (engine.next isa).program.labels =
        engine.program.labels.store (.text label.name) value := by
  rcases next_of_executes h with ⟨effect, hdecides, hnext⟩
  cases hdecides with
  | compute hlabel _ => cases hlabel
  | @store _ _ old _ value hresolve hget hvalue =>
      refine ⟨value, registerInt?_of_getElem? hget hvalue, ?_, ?_⟩
      · have hold := Labels.get?_of_resolve? hresolve
        exact Option.isSome_of_eq_some hold
      · rw [hnext]
        rfl

theorem cellInt?_next_of_puts {isa : Isa} {engine : Engine} {address value : Int}
    (h : engine.PutsInCell isa address value) :
    (engine.next isa).cellInt? address = some (Word.signed value) := by
  rcases h with ⟨src, label, other, hexecutes, hother, hresidue, hvalue⟩
  rcases perform_of_executes_storeIndirect hexecutes with
    ⟨found, stored, hfound, hstored, hcell, hnext⟩
  rw [hother] at hfound
  cases hfound
  rw [hvalue] at hstored
  cases hstored
  unfold cellInt?
  rw [hnext, Processor.read?_write hcell,
    if_pos (Processor.cell_eq_iff.mpr hresidue)]
  rfl

theorem cellInt?_next_of_not_puts {isa : Isa} {engine : Engine} {address : Int}
    (h : ∀ value : Int, ¬engine.PutsInCell isa address value) :
    (engine.next isa).cellInt? address = engine.cellInt? address := by
  by_cases hstores : ∃ (src : Register) (label : LabelName),
      engine.Executes isa (.storeIndirect src label)
  · rcases hstores with ⟨src, label, hexecutes⟩
    rcases perform_of_executes_storeIndirect hexecutes with
      ⟨other, stored, hother, hstored, hcell, hnext⟩
    have hne : ¬Processor.cell other = Processor.cell address := by
      intro heq
      exact h stored ⟨src, label, other, hexecutes, hother, Processor.cell_eq_iff.mp heq, hstored⟩
    unfold cellInt?
    rw [hnext, Processor.read?_write hcell, if_neg hne]
  · have hmemory := memory_next_of_not_executes
      (fun src label hexecutes => hstores ⟨src, label, hexecutes⟩)
    unfold cellInt? Processor.read?
    rw [hmemory]

theorem labelInt?_next_of_puts {isa : Isa} {engine : Engine} {name : String} {value : Int}
    (h : engine.PutsInLabel isa name value) :
    (engine.next isa).labelInt? name = some (Word.signed value) := by
  rcases h with ⟨src, label, hexecutes, rfl, hvalue⟩
  rcases perform_of_executes_store hexecutes with ⟨stored, hstored, hbound, hnext⟩
  rw [hvalue] at hstored
  cases hstored
  have hself : (Value.text label.name).equals (.text label.name) = true := by
    rw [Value.equals_text, decide_eq_true rfl]
  unfold labelInt?
  rw [hnext, Labels.get?_store, if_pos ⟨hbound, hself⟩]
  rfl

theorem labelInt?_next_of_not_puts {isa : Isa} {engine : Engine} {name : String}
    (h : ∀ value : Int, ¬engine.PutsInLabel isa name value) :
    (engine.next isa).labelInt? name = engine.labelInt? name := by
  have hkept : (engine.next isa).program.labels.get? (.text name) =
      engine.program.labels.get? (.text name) := by
    apply get?_next_of_not_executes
    intro src label hname hexecutes
    rcases perform_of_executes_store hexecutes with ⟨stored, hstored, -, -⟩
    exact h stored ⟨src, label, hexecutes, hname, hstored⟩
  unfold labelInt?
  rw [hkept]

/-!
# Runs and their last stores
-/

/-- The steps that lead from one engine to another: the engine before each of them, with the
instruction set that the step found. -/
inductive Passes (first : Engine) : List (Isa × Engine) -> Engine -> Prop where
  | start : Passes first [] first
  | step {seen : List (Isa × Engine)} {engine : Engine} (isa : Isa) :
      Passes first seen engine ->
      Passes first (seen ++ [(isa, engine)]) (engine.next isa)

/-- The last of the steps that put an integer in a place put the given one there; or else none of
them did, and it was there at first. -/
def LastPut (puts : Isa -> Engine -> Int -> Prop) (atFirst : Option Int)
    (seen : List (Isa × Engine)) (value : Int) : Prop :=
  (∃ (before : List (Isa × Engine)) (step : Isa × Engine) (after : List (Isa × Engine)),
    seen = before ++ step :: after ∧ puts step.1 step.2 value ∧
      ∀ later ∈ after, ∀ other : Int, ¬puts later.1 later.2 other) ∨
  (∀ step ∈ seen, ∀ other : Int, ¬puts step.1 step.2 other) ∧ atFirst = some value

section Passes

variable {first last : Engine} {seen : List (Isa × Engine)}

theorem passes_after (h : Passes first seen last) {calls : List Call}
    (hreset : Call.reset ∉ calls) :
    ∃ more : List (Isa × Engine), Passes first (seen ++ more) (last.after calls) := by
  apply holds_after (P := fun later => ∃ more, Passes first (seen ++ more) later)
  · rintro isa later ⟨more, hmore⟩
    refine ⟨more ++ [(isa, later)], ?_⟩
    rw [← List.append_assoc]
    exact .step isa hmore
  · intro hmem
    exact absurd hmem hreset
  · refine ⟨[], ?_⟩
    rw [List.append_nil]
    exact h

variable {puts : Isa -> Engine -> Int -> Prop} {atFirst : Option Int} {isa : Isa} {engine : Engine}

theorem lastPut_of_puts {value : Int} (h : puts isa engine value) :
    LastPut puts atFirst (seen ++ [(isa, engine)]) value := by
  refine Or.inl ⟨seen, (isa, engine), [], rfl, h, ?_⟩
  intro later hlater
  cases hlater

theorem LastPut.concat {value : Int} (h : LastPut puts atFirst seen value)
    (hnone : ∀ other : Int, ¬puts isa engine other) :
    LastPut puts atFirst (seen ++ [(isa, engine)]) value := by
  rcases h with ⟨before, step, after, rfl, hputs, hafter⟩ | ⟨hseen, hfirst⟩
  · refine Or.inl ⟨before, step, after ++ [(isa, engine)], ?_, hputs, ?_⟩
    · rw [List.append_assoc, List.cons_append]
    · intro later hlater
      rcases List.mem_append.mp hlater with hlater | hlater
      · exact hafter later hlater
      · rw [List.mem_singleton.mp hlater]
        exact hnone
  · refine Or.inr ⟨?_, hfirst⟩
    intro step hstep
    rcases List.mem_append.mp hstep with hstep | hstep
    · exact hseen step hstep
    · rw [List.mem_singleton.mp hstep]
      exact hnone

/-- A place in which every step leaves the word of what it puts there, and that is left alone by all
other steps, holds the word of what was put there last. -/
theorem exists_lastPut (content : Engine -> Option Int)
    (hputs : ∀ (isa : Isa) (engine : Engine) (value : Int),
      puts isa engine value -> content (engine.next isa) = some (Word.signed value))
    (hkeeps : ∀ (isa : Isa) (engine : Engine),
      (∀ value : Int, ¬puts isa engine value) -> content (engine.next isa) = content engine)
    (h : Passes first seen last) {value : Int} (hvalue : content last = some value) :
    ∃ source : Int, LastPut puts (content first) seen source ∧
      Word.signed value = Word.signed source := by
  induction h generalizing value with
  | start =>
      refine ⟨value, Or.inr ⟨?_, hvalue⟩, rfl⟩
      intro step hstep
      cases hstep
  | @step seen engine isa _ ih =>
      by_cases hput : ∃ source : Int, puts isa engine source
      · rcases hput with ⟨source, hsource⟩
        rw [hputs isa engine source hsource] at hvalue
        cases hvalue
        exact ⟨source, lastPut_of_puts hsource, Word.signed_signed source⟩
      · have hnone : ∀ other : Int, ¬puts isa engine other := by
          intro other hother
          exact hput ⟨other, hother⟩
        rw [hkeeps isa engine hnone] at hvalue
        rcases ih hvalue with ⟨source, hlast, hword⟩
        exact ⟨source, hlast.concat hnone, hword⟩

end Passes

/-!
# Loads
-/

theorem registers_putResult {processor : Processor} {dest : Register}
    (hdest : dest.val < processor.registers.size) (value : Int) :
    (processor.putResult dest value).registers[dest.val]? = some (.int (Word.signed value)) :=
  Array.getElem?_setIfInBounds_self_of_lt hdest

theorem perform_of_executes_loadIndirect {isa : Isa} {engine : Engine} {dest : Register}
    {label : LabelName} (h : engine.Executes isa (.loadIndirect dest label)) :
    ∃ address value : Int, engine.labelInt? label.name = some address ∧
      engine.cellInt? address = some value ∧
      (engine.next isa).processor.registers[dest.val]? =
        some (.int (Word.signed value)) := by
  rcases next_of_executes h with ⟨effect, hdecides, hnext⟩
  cases hdecides with
  | compute hlabel _ => cases hlabel
  | @loadIndirect _ _ _ _ address value hresolve haddress hread hvalue hdest =>
      refine ⟨address, value, labelInt?_of_resolve? hresolve haddress,
        cellInt?_of_read? hread hvalue, ?_⟩
      rw [hnext]
      exact registers_putResult hdest value

theorem perform_of_executes_load {isa : Isa} {engine : Engine} {dest : Register}
    {label : LabelName} (h : engine.Executes isa (.load dest label)) :
    ∃ value : Int, engine.labelInt? label.name = some value ∧
      (engine.next isa).processor.registers[dest.val]? =
        some (.int (Word.signed value)) := by
  rcases next_of_executes h with ⟨effect, hdecides, hnext⟩
  cases hdecides with
  | compute hlabel _ => cases hlabel
  | @load _ _ _ value hresolve hvalue hdest =>
      refine ⟨value, labelInt?_of_resolve? hresolve hvalue, ?_⟩
      rw [hnext]
      exact registers_putResult hdest value

/-- After any steps, an indirect load puts into its register the word of what the last indirect
store to the same cell found in its own register, or else of what was in the cell at first.  A load
does the same with the last store to its label, or else with what the label stood for at first.
Memory is changed by indirect stores only, and labels by stores only.  All steps and runs lead on by
steps. -/
theorem loads_see_last_store {first last : Engine} {seen : List (Isa × Engine)}
    (h : Passes first seen last) (isa : Isa) :
    let next := last.next isa
    (∀ (dest : Register) (label : LabelName), last.Executes isa (.loadIndirect dest label) ->
      ∃ address source : Int, last.labelInt? label.name = some address ∧
        LastPut (fun isa engine => engine.PutsInCell isa address) (first.cellInt? address) seen
          source ∧
        next.processor.registers[dest.val]? = some (.int (Word.signed source))) ∧
    (∀ (dest : Register) (label : LabelName), last.Executes isa (.load dest label) ->
      ∃ source : Int,
        LastPut (fun isa engine => engine.PutsInLabel isa label.name)
          (first.labelInt? label.name) seen source ∧
        next.processor.registers[dest.val]? = some (.int (Word.signed source))) ∧
    (next.processor.memory ≠ last.processor.memory ->
      ∃ (src : Register) (label : LabelName), last.Executes isa (.storeIndirect src label)) ∧
    (next.program.labels ≠ last.program.labels ->
      ∃ (src : Register) (label : LabelName), last.Executes isa (.store src label)) ∧
    ∀ calls : List Call, Call.reset ∉ calls ->
      ∃ more : List (Isa × Engine), Passes first (seen ++ more) (last.after calls) := by
  intro next
  refine ⟨?_, ?_, ?_, ?_, ?_⟩
  · intro dest label hexecutes
    rcases perform_of_executes_loadIndirect hexecutes with
      ⟨address, value, haddress, hvalue, hregister⟩
    have hlast := exists_lastPut (fun engine => engine.cellInt? address)
      (fun isa engine value hput => cellInt?_next_of_puts hput)
      (fun isa engine hnone => cellInt?_next_of_not_puts hnone) h hvalue
    rcases hlast with ⟨source, hlast, hword⟩
    refine ⟨address, source, haddress, hlast, ?_⟩
    rw [← hword]
    exact hregister
  · intro dest label hexecutes
    rcases perform_of_executes_load hexecutes with ⟨value, hvalue, hregister⟩
    have hlast := exists_lastPut (fun engine => engine.labelInt? label.name)
      (fun isa engine value hput => labelInt?_next_of_puts hput)
      (fun isa engine hnone => labelInt?_next_of_not_puts hnone) h hvalue
    rcases hlast with ⟨source, hlast, hword⟩
    refine ⟨source, hlast, ?_⟩
    rw [← hword]
    exact hregister
  · intro hchanged
    by_contra hnone
    refine hchanged (memory_next_of_not_executes ?_)
    intro src label hexecutes
    exact hnone ⟨src, label, hexecutes⟩
  · intro hchanged
    by_contra hnone
    refine hchanged (labels_next_of_not_executes ?_)
    intro src label hexecutes
    exact hnone ⟨src, label, hexecutes⟩
  · intro calls hreset
    exact passes_after h hreset

theorem loads_see_last_store_alias :
    let table : Table Key Value := .ofList [(⟨.text "A"⟩, .int 7), (⟨.text "B"⟩, .int 65543)]
    let program : Program :=
      ⟨#[.storeIndirect 1 ⟨"A", by decide⟩, .loadIndirect 2 ⟨"B", by decide⟩],
        Labels.empty.restore table, none, true⟩
    let first := create ⟨.replicate 8 (.int 70000), .replicate 8 (.int 0), .int 0⟩ program
    let last := first.next .standard
    Passes first [(.standard, first)] last ∧ ∃ source : Int,
      LastPut (fun isa engine => engine.PutsInCell isa 65543) (first.cellInt? 65543)
        [(.standard, first)] source ∧
      (last.next .standard).processor.registers[2]? = some (.int (Word.signed source)) := by
  intro table program first last
  have hpasses : Passes first [(.standard, first)] last := Passes.start.step .standard
  have hexecutes : last.Executes .standard (.loadIndirect 2 ⟨"B", by decide⟩) :=
    executes_of_isPerformed (by decide +kernel) (by decide +kernel)
  rcases (loads_see_last_store hpasses .standard).left 2 _ hexecutes with
    ⟨address, source, haddress, hlast, hregister⟩
  have hbound : last.labelInt? "B" = some 65543 := by
    decide +kernel
  rw [hbound] at haddress
  cases haddress
  exact ⟨hpasses, source, hlast, hregister⟩

end Engine
end LittleComputer
