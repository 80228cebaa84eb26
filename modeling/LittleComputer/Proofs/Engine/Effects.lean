import LittleComputer.Proofs.Engine.Step

/-!
# Effects of executors

Whatever executors are registered and whatever an engine holds, the effect that an instruction is
carried out to tells what was read for it, by `Decides`.  So only a store writes to a label, and only
to the one that it names, and a branch jumps to nothing but the value of its label.
-/

namespace LittleComputer

/-!
# Effects of executors
-/

section Reading

variable {processor : Processor} {labels : Labels}

theorem Value.asInt?_of_integer {value : Value} {n : Int} (h : value.integer = .ok n) :
    value.asInt? = some n := by
  unfold integer at h
  split at h
  · next hvalue =>
      cases h
      exact hvalue
  · cases h

theorem Labels.resolve?_of_lookUp {traps : Traps} {label : LabelName} {index : Option Value}
    {i : Instruction} {value : Value} (h : labels.lookUp traps label index i = .ok value) :
    labels.resolve? (.text label.name) = some value := by
  unfold lookUp at h
  split at h
  · next hresolve =>
      cases h
      exact hresolve
  · cases h

theorem Labels.get?_of_resolve? {name value : Value} (h : labels.resolve? name = some value) :
    labels.get? name = some value :=
  (Option.filter_eq_some_iff.mp h).left

theorem Processor.getElem?_of_fetchRegister {register : Register} {value : Value}
    (h : processor.fetchRegister register = .ok value) :
    processor.registers[register.val]? = some value := by
  unfold fetchRegister at h
  split at h
  · next hget =>
      cases h
      exact hget
  · cases h

theorem Processor.read?_of_fetchCell {address : Int} {value : Value}
    (h : processor.fetchCell address = .ok value) : processor.read? address = some value := by
  unfold fetchCell at h
  split at h
  · next hread =>
      cases h
      exact hread
  · cases h

theorem Processor.eq_of_resultEffect {dest : Register} {n : Int} {effect : Effect}
    (h : processor.resultEffect dest n = .ok effect) :
    dest.val < processor.registers.size ∧ effect = .result dest n := by
  unfold resultEffect at h
  split at h
  · next hlt =>
      cases h
      exact ⟨hlt, rfl⟩
  · cases h

theorem Processor.eq_of_cellEffect {address n : Int} {effect : Effect}
    (h : processor.cellEffect address n = .ok effect) :
    processor.hasCell address = true ∧ effect = .cell address n := by
  unfold cellEffect at h
  split at h
  · next hcell =>
      cases h
      exact ⟨hcell, rfl⟩
  · cases h

end Reading

/-- What the instructions can be carried out to, with what they have read for it. -/
inductive Decides (labels : Labels) (processor : Processor) : Instruction -> Effect -> Prop where
  | compute {i : Instruction} {dest : Register} {n : Int} :
      i.label? = none -> dest.val < processor.registers.size ->
      Decides labels processor i (.result dest n)
  | jump {condition : Condition} {label : LabelName} {target : Value} :
      labels.resolve? (.text label.name) = some target ->
      Decides labels processor (.branch condition label) (.jump target)
  | pass {condition : Condition} {label : LabelName} :
      Decides labels processor (.branch condition label) .proceed
  | load {dest : Register} {label : LabelName} {value : Value} {n : Int} :
      labels.resolve? (.text label.name) = some value -> value.asInt? = some n ->
      dest.val < processor.registers.size ->
      Decides labels processor (.load dest label) (.result dest n)
  | loadIndirect {dest : Register} {label : LabelName} {address value : Value} {m n : Int} :
      labels.resolve? (.text label.name) = some address -> address.asInt? = some m ->
      processor.read? m = some value -> value.asInt? = some n ->
      dest.val < processor.registers.size ->
      Decides labels processor (.loadIndirect dest label) (.result dest n)
  | store {src : Register} {label : LabelName} {old value : Value} {n : Int} :
      labels.resolve? (.text label.name) = some old ->
      processor.registers[src.val]? = some value -> value.asInt? = some n ->
      Decides labels processor (.store src label) (.label label n)
  | storeIndirect {src : Register} {label : LabelName} {address value : Value} {m n : Int} :
      labels.resolve? (.text label.name) = some address -> address.asInt? = some m ->
      processor.registers[src.val]? = some value -> value.asInt? = some n ->
      processor.hasCell m = true ->
      Decides labels processor (.storeIndirect src label) (.cell m n)
  | serve {vector : Int} {effect : Effect} :
      effect = .halt ∨ effect = .proceed -> Decides labels processor (.trap vector) effect

namespace Executor

variable {traps : Traps} {labels : Labels} {processor : Processor} {index : Option Value}

/-- An executor carries out only the instructions that it is the own executor of. -/
theorem eq_ofInstruction_of_effect {executor : Executor} {i : Instruction} {effect : Effect}
    (h : executor.effect traps labels processor index i = .ok effect) :
    executor = ofInstruction i := by
  by_contra hne
  rw [effect_of_ne_ofInstruction hne] at h
  cases h

theorem decides_of_effect {executor : Executor} {i : Instruction} {effect : Effect}
    (h : executor.effect traps labels processor index i = .ok effect) :
    Decides labels processor i effect := by
  rcases eq_ofInstruction_of_effect h with rfl
  cases i with
  | addRegister dest src1 src2 | andRegister dest src1 src2 =>
      rcases exists_of_bind_ok h with ⟨left, -, h⟩
      rcases exists_of_bind_ok h with ⟨right, -, h⟩
      rcases exists_of_bind_ok h with ⟨m, -, h⟩
      rcases exists_of_bind_ok h with ⟨n, -, h⟩
      rcases Processor.eq_of_resultEffect h with ⟨hdest, rfl⟩
      exact .compute rfl hdest
  | addImmediate dest src1 imm | andImmediate dest src1 imm | not dest src =>
      rcases exists_of_bind_ok h with ⟨left, -, h⟩
      rcases exists_of_bind_ok h with ⟨m, -, h⟩
      rcases Processor.eq_of_resultEffect h with ⟨hdest, rfl⟩
      exact .compute rfl hdest
  | branch condition label =>
      rcases exists_of_bind_ok h with ⟨target, htarget, h⟩
      rcases exists_of_bind_ok h with ⟨isTaken, -, h⟩
      cases isTaken with
      | false =>
          cases h
          exact .pass
      | true =>
          cases h
          exact .jump (Labels.resolve?_of_lookUp htarget)
  | load dest label =>
      rcases exists_of_bind_ok h with ⟨value, hvalue, h⟩
      rcases exists_of_bind_ok h with ⟨n, hn, h⟩
      rcases Processor.eq_of_resultEffect h with ⟨hdest, rfl⟩
      exact .load (Labels.resolve?_of_lookUp hvalue) (Value.asInt?_of_integer hn) hdest
  | loadIndirect dest label =>
      rcases exists_of_bind_ok h with ⟨address, haddress, h⟩
      rcases exists_of_bind_ok h with ⟨m, hm, h⟩
      rcases exists_of_bind_ok h with ⟨value, hvalue, h⟩
      rcases exists_of_bind_ok h with ⟨n, hn, h⟩
      rcases Processor.eq_of_resultEffect h with ⟨hdest, rfl⟩
      exact .loadIndirect (Labels.resolve?_of_lookUp haddress) (Value.asInt?_of_integer hm)
        (Processor.read?_of_fetchCell hvalue) (Value.asInt?_of_integer hn) hdest
  | store src label =>
      rcases exists_of_bind_ok h with ⟨old, hold, h⟩
      rcases exists_of_bind_ok h with ⟨value, hvalue, h⟩
      rcases exists_of_bind_ok h with ⟨n, hn, h⟩
      cases h
      exact .store (Labels.resolve?_of_lookUp hold) (Processor.getElem?_of_fetchRegister hvalue)
        (Value.asInt?_of_integer hn)
  | storeIndirect src label =>
      rcases exists_of_bind_ok h with ⟨address, haddress, h⟩
      rcases exists_of_bind_ok h with ⟨value, hvalue, h⟩
      rcases exists_of_bind_ok h with ⟨m, hm, h⟩
      rcases exists_of_bind_ok h with ⟨n, hn, h⟩
      rcases Processor.eq_of_cellEffect h with ⟨hcell, rfl⟩
      exact .storeIndirect (Labels.resolve?_of_lookUp haddress) (Value.asInt?_of_integer hm)
        (Processor.getElem?_of_fetchRegister hvalue) (Value.asInt?_of_integer hn) hcell
  | trap vector =>
      apply Decides.serve
      cases hhalts : traps.halts vector with
      | false =>
          simp only [ofInstruction, Executor.effect, hhalts] at h
          cases h
          exact Or.inr rfl
      | true =>
          simp only [ofInstruction, Executor.effect, hhalts] at h
          cases h
          exact Or.inl rfl

theorem exists_store_of_effect {executor : Executor} {i : Instruction} {label : LabelName}
    {value : Int} (h : executor.effect traps labels processor index i = .ok (.label label value)) :
    ∃ src : Register, i = .store src label := by
  cases decides_of_effect h with
  | store _ _ _ => exact ⟨_, rfl⟩
  | serve heffect => rcases heffect with heffect | heffect <;> cases heffect

theorem resolve?_of_effect_jump {executor : Executor} {condition : Condition} {label : LabelName}
    {target : Value}
    (h : executor.effect traps labels processor index (.branch condition label) =
      .ok (.jump target)) : labels.resolve? (.text label.name) = some target := by
  cases decides_of_effect h with
  | jump htarget => exact htarget

end Executor

/-!
# Steps of engines
-/

namespace Labels

theorem frozen_store (labels : Labels) (name : Value) (value : Int) :
    (labels.store name value).frozen = labels.frozen := by
  unfold store
  split <;> rfl

theorem frozen_onLabels (labels : Labels) (effect : Effect) :
    (effect.onLabels labels).frozen = labels.frozen := by
  cases effect with
  | label name value => exact frozen_store labels _ value
  | result dest value | cell address value | jump target | proceed | halt => rfl

theorem get?_onLabels_of_ne {labels : Labels} {effect : Effect} {label : String}
    (h : ∀ (name : LabelName) (value : Int), effect = .label name value -> name.name ≠ label) :
    (effect.onLabels labels).get? (.text label) = labels.get? (.text label) := by
  cases effect with
  | label name value =>
      have hne : ¬((Value.text name.name).equals (.text label) = true) := by
        rw [Value.equals_text, decide_eq_true_iff]
        exact h name value rfl
      show (labels.store (.text name.name) value).get? (.text label) = _
      rw [get?_store, if_neg fun hstored => hne hstored.right]
  | result dest value | cell address value | jump target | proceed | halt => rfl

end Labels

namespace Engine

def Executes (isa : Isa) (engine : Engine) (i : Instruction) : Prop :=
  engine.IsRunning ∧ engine.program.fetch engine.run.index = .ok i ∧
    ∃ effect : Effect, engine.effect isa i = .ok effect

theorem exists_definition_of_effect {isa : Isa} {engine : Engine} {i : Instruction}
    {effect : Effect} (h : engine.effect isa i = .ok effect) :
    ∃ definition : Definition, isa.definition? i = some definition ∧
      definition.executor.effect isa.traps engine.program.labels engine.processor
        (some engine.run.index) i = .ok effect := by
  unfold Engine.effect at h
  split at h
  · next definition hdefinition => exact ⟨definition, hdefinition, h⟩
  · cases h

theorem get?_next_of_not_executes {isa : Isa} {engine : Engine} {label : String}
    (h : ∀ (src : Register) (name : LabelName), name.name = label ->
      ¬engine.Executes isa (.store src name)) :
    (engine.next isa).program.labels.get? (.text label) =
      engine.program.labels.get? (.text label) := by
  have hmoves := next_moves isa engine
  generalize engine.next isa = after at hmoves ⊢
  cases hmoves with
  | stays | aborted _ => rfl
  | @performed i effect hrunning hfetch heffect =>
      apply Labels.get?_onLabels_of_ne
      rintro name value rfl hname
      rcases exists_definition_of_effect heffect with ⟨definition, -, hexecutor⟩
      rcases Executor.exists_store_of_effect hexecutor with ⟨src, rfl⟩
      exact h src name hname ⟨hrunning, hfetch, _, heffect⟩

theorem frozen_next (isa : Isa) (engine : Engine) :
    (engine.next isa).program.labels.frozen = engine.program.labels.frozen := by
  have hmoves := next_moves isa engine
  generalize engine.next isa = after at hmoves ⊢
  cases hmoves with
  | stays | aborted _ => rfl
  | @performed i effect _ _ _ => exact Labels.frozen_onLabels _ effect

theorem initialLabels_next (isa : Isa) (engine : Engine) :
    (engine.next isa).run.initialLabels = engine.run.initialLabels := by
  have hmoves := next_moves isa engine
  generalize engine.next isa = after at hmoves ⊢
  cases hmoves <;> rfl

end Engine
end LittleComputer
