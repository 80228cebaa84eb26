import LittleComputer.Proofs.Engine.Atomicity
import LittleComputer.Proofs.Engine.Effects
import LittleComputer.Proofs.Engine.Fault
import LittleComputer.Proofs.Engine.Trail

/-!
# Who is to blame for a fault

A fault at an instruction names that instruction.  An index without an instruction is noticed a step
after it was reached, so the fault names the instruction that was carried out last, and that is the
one that led to the index.  What an engine remembers is enough for this through any history of
steps, runs and resets.
-/

namespace LittleComputer

/-!
# Where an instruction leads
-/

/-- The index at which execution goes on after an instruction, given the flag and the labels that it
leaves: a branch that is taken goes to the value of its label, and all else to the next index. -/
inductive LeadsTo (flag : Value) (labels : Labels) (index : Value) :
    Instruction -> Value -> Prop where
  | taken {condition : Condition} {label : LabelName} {target : Value} :
      condition.admits? flag = some true -> labels.resolve? (.text label.name) = some target ->
      LeadsTo flag labels index (.branch condition label) target
  | onward {i : Instruction} {n : Int} :
      (∀ (condition : Condition) (label : LabelName),
        i = .branch condition label -> condition.admits? flag = some false) ->
      index.asInt? = some n -> LeadsTo flag labels index i (.int (n + 1))

section LeadsTo

variable {traps : Traps} {labels : Labels} {processor : Processor}

theorem Condition.admits?_of_decideOn {condition : Condition} {flag : Value} {isTaken : Bool}
    (h : condition.decideOn flag = .ok isTaken) : condition.admits? flag = some isTaken := by
  unfold decideOn at h
  split at h
  · next hadmits =>
      cases h
      exact hadmits
  · cases h

theorem Executor.effect_branch {executor : Executor} {index : Option Value}
    {condition : Condition} {label : LabelName} {effect : Effect}
    (h : executor.effect traps labels processor index (.branch condition label) = .ok effect) :
    (∃ target : Value, condition.admits? processor.flag = some true ∧
      labels.resolve? (.text label.name) = some target ∧ effect = .jump target) ∨
    condition.admits? processor.flag = some false ∧ effect = .proceed := by
  rcases eq_ofInstruction_of_effect h with rfl
  rcases exists_of_bind_ok h with ⟨target, htarget, h⟩
  rcases exists_of_bind_ok h with ⟨isTaken, hdecide, h⟩
  have hadmits := Condition.admits?_of_decideOn hdecide
  cases isTaken with
  | false =>
      cases h
      exact Or.inr ⟨hadmits, rfl⟩
  | true =>
      cases h
      exact Or.inl ⟨target, hadmits, Labels.resolve?_of_lookUp htarget, rfl⟩

theorem Executor.target?_of_effect {executor : Executor} {index : Option Value} {i : Instruction}
    {effect : Effect} (h : executor.effect traps labels processor index i = .ok effect)
    (hbranch : ∀ (condition : Condition) (label : LabelName), i ≠ .branch condition label) :
    effect.target? = none := by
  have hdecides := decides_of_effect h
  cases hdecides with
  | jump _ => exact absurd rfl (hbranch _ _)
  | serve heffect => rcases heffect with rfl | rfl <;> rfl
  | compute _ _ | pass | load _ _ _ | loadIndirect _ _ _ _ _ | store _ _ _
  | storeIndirect _ _ _ _ _ => rfl

end LeadsTo

theorem Program.asInt?_of_fetch_ok {program : Program} {index : Value} {i : Instruction}
    (h : program.fetch index = .ok i) : ∃ n : Int, index.asInt? = some n := by
  unfold fetch at h
  split at h
  · next n hn => exact ⟨n, hn⟩
  · split at h
    · split at h <;> cases h
    · cases h

namespace Engine

/-- An instruction that is carried out stays where it is if it halts, and else leads to the index of
the engine after it.  A branch touches neither the flag nor the labels, so that both can be read off
the engine after it. -/
theorem leadsTo_perform {isa : Isa} {engine : Engine} {i : Instruction} {effect : Effect}
    (hfetch : engine.program.fetch engine.run.index = .ok i)
    (heffect : engine.effect isa i = .ok effect) :
    (engine.perform i effect).run.index = engine.run.index ∨
      LeadsTo (engine.perform i effect).processor.flag (engine.perform i effect).program.labels
        engine.run.index i (engine.perform i effect).run.index := by
  rcases exists_definition_of_effect heffect with ⟨definition, -, hexecutor⟩
  rcases Program.asInt?_of_fetch_ok hfetch with ⟨n, hn⟩
  have hfollowing : following engine.run.index = .int (n + 1) := by
    unfold following
    rw [hn]
  by_cases hhalts : effect.halts = true
  · exact Or.inl (if_pos hhalts)
  · have hindex : (engine.perform i effect).run.index =
        effect.target?.getD (following engine.run.index) := if_neg hhalts
    right
    rw [hindex]
    by_cases hbranch : ∃ (condition : Condition) (label : LabelName), i = .branch condition label
    · rcases hbranch with ⟨condition, label, rfl⟩
      rcases Executor.effect_branch hexecutor with ⟨target, hadmits, hresolve, rfl⟩ | ⟨hadmits, rfl⟩
      · exact .taken hadmits hresolve
      · show LeadsTo _ _ _ _ (following engine.run.index)
        rw [hfollowing]
        apply LeadsTo.onward _ hn
        rintro other name ⟨⟩
        exact hadmits
    · have hother : ∀ (condition : Condition) (label : LabelName), i ≠ .branch condition label :=
        fun condition label h => hbranch ⟨condition, label, h⟩
      rw [Executor.target?_of_effect hexecutor hother, Option.getD_none, hfollowing]
      apply LeadsTo.onward _ hn
      intro condition label h
      exact absurd h (hother condition label)

/-!
# What an engine remembers
-/

/-- An engine together with its trail: it remembers the last instruction of the trail, and stands
where that led, or at the instruction itself if it halted.  Without a trail it stands at the
start. -/
structure Remembers (program : Program) (seen : List (Value × Instruction)) (engine : Engine) :
    Prop where
  instructions_eq : engine.program.instructions = program.instructions
  previous_eq : engine.run.previous = seen.getLast?
  index_of_nil : seen = [] -> engine.run.index = .int 0
  index_of_getLast? : ∀ (index : Value) (i : Instruction), seen.getLast? = some (index, i) ->
    program.fetch index = .ok i ∧
      (engine.run.index = index ∨
        LeadsTo engine.processor.flag engine.program.labels index i engine.run.index)

section Remembers

variable {program : Program} {seen : List (Value × Instruction)} {engine later : Engine}

theorem Remembers.create (processor : Processor) (program : Program) :
    Remembers program [] (create processor program) where
  instructions_eq := rfl
  previous_eq := rfl
  index_of_nil := fun _ => rfl
  index_of_getLast? := nofun

theorem Remembers.reset (h : Remembers program seen engine) :
    Remembers program [] engine.reset where
  instructions_eq := h.instructions_eq
  previous_eq := rfl
  index_of_nil := fun _ => rfl
  index_of_getLast? := nofun

theorem Remembers.fetch_eq (h : Remembers program seen engine) (index : Value) :
    engine.program.fetch index = program.fetch index :=
  Program.fetch_congr h.instructions_eq index

theorem Remembers.stay (h : Remembers program seen engine)
    (hprocessor : later.processor = engine.processor) (hprogram : later.program = engine.program)
    (hindex : later.run.index = engine.run.index)
    (hprevious : later.run.previous = engine.run.previous) : Remembers program seen later where
  instructions_eq := by
    rw [hprogram]
    exact h.instructions_eq
  previous_eq := hprevious.trans h.previous_eq
  index_of_nil := fun hnil => hindex.trans (h.index_of_nil hnil)
  index_of_getLast? := by
    rw [hprocessor, hprogram, hindex]
    exact h.index_of_getLast?

theorem Remembers.perform (h : Remembers program seen engine) {isa : Isa} {i : Instruction}
    {effect : Effect} (hfetch : engine.program.fetch engine.run.index = .ok i)
    (heffect : engine.effect isa i = .ok effect) :
    Remembers program (seen ++ [(engine.run.index, i)]) (engine.perform i effect) where
  instructions_eq := h.instructions_eq
  previous_eq := List.getLast?_concat.symm
  index_of_nil := by
    intro hnil
    exact absurd hnil (List.append_ne_nil_of_right_ne_nil seen (List.cons_ne_nil _ []))
  index_of_getLast? := by
    intro index j hlast
    rw [List.getLast?_concat] at hlast
    cases hlast
    exact ⟨(h.fetch_eq _).symm.trans hfetch, leadsTo_perform hfetch heffect⟩

theorem Remembers.next (h : Remembers program seen engine) (isa : Isa) :
    Remembers program (seen ++ (engine.performed? isa).toList) (engine.next isa) := by
  have hends := step_ends isa engine
  have hsame : (engine.step isa).1.isPerformed = false ->
      seen ++ (engine.performed? isa).toList = seen :=
    fun hperformed => append_performed?_of_not_performed hperformed seen
  unfold Engine.next
  generalize hstep : engine.step isa = result at hends hsame ⊢
  cases hends with
  | repeatedFault _ | repeatedHalt _ _ | failed _ _ | outOfRange _ _ | faulted _ _ _ =>
      rw [hsame rfl]
      exact h.stay rfl rfl rfl rfl
  | performed _ hfetch heffect =>
      rw [performed?_of_performed hstep hfetch, Option.toList_some]
      exact h.perform hfetch heffect

end Remembers

/-!
# Faults
-/

structure Names (program : Program) (traps : Traps) (fault : Fault) (index : Value)
    (i : Instruction) : Prop where
  fetch_eq : program.fetch index = .ok i
  index_eq : fault.index = some index
  text_eq : fault.text = i.text traps

/-- A fault of an engine with a trail names the instruction that is guilty of what is wrong.  That
is the one at the index of the engine, or, if there is none, the one that was carried out last and
led to that index; no instruction is guilty if none was carried out, since then the program is
empty. -/
def Blames (program : Program) (traps : Traps) (seen : List (Value × Instruction))
    (engine : Engine) (fault : Fault) : Prop :=
  match fault.cause with
  | .unknownInstruction mnemonic =>
      ∃ i : Instruction, Names program traps fault engine.run.index i ∧ mnemonic = i.mnemonic
  | .unsupportedForm form =>
      ∃ i : Instruction, Names program traps fault engine.run.index i ∧ form = i.form.name
  | .unboundLabel label =>
      ∃ (i : Instruction) (name : String), Names program traps fault engine.run.index i ∧
        i.label? = some name ∧ label = .text name
  | .outOfRange target size =>
      target = engine.run.index ∧ size = program.size ∧
        match seen.getLast? with
        | some (index, i) =>
            Names program traps fault index i ∧
              LeadsTo engine.processor.flag engine.program.labels index i target
        | none => fault.index = none ∧ fault.text = "" ∧ size = 0

section Blames

variable {program : Program} {seen : List (Value × Instruction)} {engine : Engine}

theorem blames_outOfRangeFault (h : Remembers program seen engine)
    (hfetch : engine.program.fetch engine.run.index = .error .outOfRange) (traps : Traps) :
    Blames program traps seen engine (outOfRangeFault traps engine) := by
  have hsize : engine.program.size = program.size := congrArg Array.size h.instructions_eq
  have hprevious := h.previous_eq
  rw [h.fetch_eq] at hfetch
  unfold outOfRangeFault Blames
  cases hlast : seen.getLast? with
  | none =>
      have hnil : seen = [] := List.getLast?_eq_none_iff.mp hlast
      have hempty : program.size = 0 := by
        rw [h.index_of_nil hnil] at hfetch
        by_contra hne
        have hlt : 0 < program.instructions.size := Nat.pos_of_ne_zero hne
        have hfirst := Program.fetch_natCast program 0
        rw [Array.getElem?_eq_getElem hlt] at hfirst
        exact absurd (hfetch.symm.trans hfirst) nofun
      rw [hprevious, hlast]
      exact ⟨rfl, hsize, rfl, rfl, hsize.trans hempty⟩
  | some last =>
      rcases last with ⟨index, i⟩
      rcases h.index_of_getLast? index i hlast with ⟨hthere, hleads⟩
      rw [hprevious, hlast]
      refine ⟨rfl, hsize, ⟨hthere, rfl, rfl⟩, ?_⟩
      rcases hleads with hstays | hleads
      · rw [hstays, hthere] at hfetch
        cases hfetch
      · exact hleads

theorem blames_of_effect (h : Remembers program seen engine) {isa : Isa} {i : Instruction}
    {fault : Fault} (hfetch : engine.program.fetch engine.run.index = .ok i)
    (heffect : engine.effect isa i = .error (.fault fault)) :
    Blames program isa.traps seen engine fault := by
  have hthere := (h.fetch_eq _).symm.trans hfetch
  unfold effect at heffect
  split at heffect
  · rcases Executor.blames_of_effect heffect with rfl | ⟨name, hname, rfl⟩
    · exact ⟨i, ⟨hthere, rfl, rfl⟩, rfl⟩
    · exact ⟨i, name, ⟨hthere, rfl, rfl⟩, hname, rfl⟩
  · cases heffect
    exact ⟨i, ⟨hthere, rfl, rfl⟩, rfl⟩

theorem blames_of_faulted (h : Remembers program seen engine) {isa : Isa}
    {fault : Fault} (hfault : (engine.step isa).1 = .faulted fault) :
    Blames program isa.traps seen engine fault := by
  have hends := step_ends isa engine
  generalize engine.step isa = result at hends hfault
  cases hends with
  | repeatedFault _ | repeatedHalt _ _ | failed _ _ => cases hfault
  | outOfRange _ hfetch =>
      cases hfault
      exact blames_outOfRangeFault h hfetch isa.traps
  | faulted _ hfetch heffect =>
      cases hfault
      exact blames_of_effect h hfetch heffect
  | performed _ _ _ =>
      dsimp only at hfault
      split at hfault <;> cases hfault

theorem exists_blames_next {Q : Isa -> Prop} (h : Remembers program seen engine)
    (hfaults : ∀ fault : Fault, engine.run.fault = some fault ->
      ∃ isa : Isa, Q isa ∧ Blames program isa.traps seen engine fault)
    {isa : Isa} (hisa : Q isa) {fault : Fault}
    (hfault : (engine.next isa).run.fault = some fault) :
    ∃ isa' : Isa, Q isa' ∧ Blames program isa'.traps (seen ++ (engine.performed? isa).toList)
      (engine.next isa) fault := by
  rcases fault_next hfault with hearlier | hnew
  · have hstep := step_of_faulted hearlier isa
    have hperformed : (engine.step isa).1.isPerformed = false := by
      rw [hstep]
      rfl
    have hafter : engine.next isa = engine := congrArg Prod.snd hstep
    rw [append_performed?_of_not_performed hperformed, hafter]
    exact hfaults fault hearlier
  · have hanswer : (engine.step isa).1.fault? = some fault := by
      rw [hnew]
      rfl
    have hperformed : (engine.step isa).1.isPerformed = false := by
      rw [hnew]
      rfl
    have hblames := blames_of_faulted h hnew
    rw [append_performed?_of_not_performed hperformed]
    rcases step_of_fault hanswer with ⟨hearlier, -⟩ | ⟨-, hstep⟩
    · rw [step_of_faulted hearlier] at hnew
      cases hnew
    · have hafter : engine.next isa = (engine.abort fault).2 := congrArg Prod.snd hstep
      rw [hafter]
      exact ⟨isa, hisa, hblames⟩

end Blames

/-- After any history of steps, runs and resets, the fault that ended the run names the guilty
instruction, by its text under the instruction set of one of the calls.  The trail is that since the
last reset. -/
theorem fault_names_guilty {processor : Processor} {program : Program} {calls : List Call}
    {fault : Fault} (h : ((create processor program).after calls).run.fault = some fault) :
    ∃ isa : Isa, (∃ call ∈ calls, call.isa? = some isa) ∧
      Blames program isa.traps ((create processor program).trail calls)
        ((create processor program).after calls) fault := by
  have hkept := holds_trailFrom (Q := fun isa => ∃ call ∈ calls, call.isa? = some isa)
    (P := fun seen engine => Remembers program seen engine ∧
      ∀ fault : Fault, engine.run.fault = some fault ->
        ∃ isa : Isa, (∃ call ∈ calls, call.isa? = some isa) ∧
          Blames program isa.traps seen engine fault)
    (fun isa seen engine hisa hengine =>
      ⟨hengine.left.next isa,
        fun _ => exists_blames_next hengine.left hengine.right hisa⟩)
    (fun seen engine hengine => ⟨hengine.left.reset, nofun⟩)
    (fun call hcall isa hisa => ⟨call, hcall, hisa⟩)
    ⟨Remembers.create processor program, nofun⟩
  exact hkept.right fault h

theorem fault_names_guilty_branch :
    let isa := Isa.bare.activate
      [⟨"NOT", "", [["reg", "reg"]], .not⟩, ⟨"BR", "", [["label"]], .br⟩]
    let branch : Instruction := .branch ⟨true, false, false⟩ ⟨"AWAY", by decide⟩
    let program : Program := ⟨#[.not 1 1, branch], .insert .empty (.text "AWAY") 7, none, true⟩
    let engine := create .initial program
    let calls : List Call := [.step isa, .reset, .step isa, .run isa 10]
    let fault : Fault := ⟨.outOfRange (.int 7) 2, some (.int 1), "BRn AWAY"⟩
    (engine.after calls).run.fault = some fault ∧
      ∃ isa : Isa, (∃ call ∈ calls, call.isa? = some isa) ∧
        Blames program isa.traps (engine.trail calls) (engine.after calls) fault := by
  intro isa branch program engine calls fault
  have hfault : (engine.after calls).run.fault = some fault := by
    decide +kernel
  exact ⟨hfault, fault_names_guilty hfault⟩

end Engine
end LittleComputer
