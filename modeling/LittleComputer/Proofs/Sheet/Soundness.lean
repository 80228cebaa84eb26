import LittleComputer.Proofs.Engine.Fault
import LittleComputer.Proofs.Outcome
import LittleComputer.Sheet.Manager

/-!
# Soundness of validation

A loaded sheet takes its executors from the registry, under the mnemonics of its entries.  As long
as the built-in executors are the registered ones, an instruction that has an active definition is
carried out by its own executor, whatever the sheet says.  A valid program has a definition for each
instruction.
-/

namespace LittleComputer

/-!
# The registry of executors
-/

namespace Isa

def HasBuiltInExecutors (isa : Isa) : Prop :=
  ∀ executor : Executor, isa.executor? executor.mnemonic = some executor

theorem hasBuiltInExecutors_bare : bare.HasBuiltInExecutors := by
  intro executor
  cases executor <;> rfl

theorem executor?_of_instruction {isa : Isa} (h : isa.HasBuiltInExecutors) (i : Instruction) :
    isa.executor? i.mnemonic = some (.ofInstruction i) := by
  rw [← Executor.mnemonic_ofInstruction i]
  exact h (.ofInstruction i)

end Isa

theorem Executor.upperString_mnemonic (executor : Executor) :
    Text.upperString executor.mnemonic = executor.mnemonic := by
  cases executor <;> decide

theorem Instruction.upperString_mnemonic (i : Instruction) :
    Text.upperString i.mnemonic = i.mnemonic := by
  rw [← Executor.mnemonic_ofInstruction i]
  exact Executor.upperString_mnemonic (.ofInstruction i)

/-!
# Active definitions
-/

namespace Sheet

theorem executor?_of_define {isa : Isa} {entry : SheetEntry} {definition : Definition}
    (h : define isa entry = .ok definition) :
    definition.mnemonic = entry.mnemonic ∧
      isa.executor? definition.mnemonic = some definition.executor := by
  unfold define at h
  split at h
  · next executor hexecutor =>
      cases h
      exact ⟨rfl, hexecutor⟩
  · cases h

/-- An active definition has the executor that is registered for the instruction. -/
theorem executor?_of_activate {sheet : Sheet} {isa loaded : Isa}
    (h : sheet.activate isa = .ok loaded) {i : Instruction} {definition : Definition}
    (hdefinition : loaded.definition? i = some definition) :
    isa.executor? i.mnemonic = some definition.executor := by
  rcases exists_of_bind_ok h with ⟨definitions, hdefinitions, h⟩
  cases h
  rcases Table.get?_ofList_some hdefinition with ⟨pair, hpair, hkey, rfl⟩
  rcases List.mem_map.mp hpair with ⟨found, hfound, rfl⟩
  rcases exists_of_mem_mapM hdefinitions hfound with ⟨entry, -, hentry⟩
  have hexecutor := (executor?_of_define hentry).right
  have hupper : Text.upperString found.mnemonic = i.mnemonic := eq_of_beq hkey
  unfold Isa.executor? at hexecutor ⊢
  rw [i.upperString_mnemonic, ← hupper]
  exact hexecutor

theorem activate_of_load {depth : Nat} {content : FileContent} {source : SheetSource}
    {isa loaded : Isa} {sheet : Sheet}
    (h : Manager.load depth content source isa = .ok (sheet, loaded)) :
    sheet.activate isa = .ok loaded := by
  rcases exists_of_bind_ok h with ⟨read, -, h⟩
  rcases exists_of_bind_ok h with ⟨active, hactive, h⟩
  cases h
  exact hactive

end Sheet

/-!
# Valid programs
-/

namespace Isa

theorem objection?_eq_none_iff {isa : Isa} {i : Instruction} :
    isa.objection? i = none ↔
      ∃ definition : Definition,
        isa.definition? i = some definition ∧ i.layout ∈ definition.layouts := by
  unfold objection?
  cases isa.definition? i with
  | none =>
      constructor
      · intro h
        cases h
      · rintro ⟨definition, h, -⟩
        cases h
  | some definition =>
      dsimp only
      split
      · next hlayout =>
          constructor
          · intro _
            exact ⟨definition, rfl, hlayout⟩
          · intro _
            rfl
      · next hlayout =>
          constructor
          · intro h
            cases h
          · rintro ⟨other, hother, hmem⟩
            cases hother
            exact absurd hmem hlayout

theorem validateFrom_eq_none_iff {isa : Isa} {index : Nat} {instructions : List Instruction} :
    isa.validateFrom index instructions = none ↔ ∀ i ∈ instructions, isa.objection? i = none := by
  induction instructions generalizing index with
  | nil =>
      constructor
      · intro _ i hi
        cases hi
      · intro _
        rfl
  | cons i rest ih =>
      rw [List.forall_mem_cons]
      unfold validateFrom
      cases hobjection : isa.objection? i with
      | some cause =>
          constructor
          · intro h
            cases h
          · intro h
            cases h.left
      | none =>
          apply ih.trans
          constructor
          · intro h
            exact ⟨rfl, h⟩
          · intro h
            exact h.right

theorem validate_eq_none_iff {isa : Isa} {program : Program} :
    isa.validate program = none ↔ ∀ i ∈ program.instructions, isa.objection? i = none := by
  unfold validate
  rw [validateFrom_eq_none_iff]
  simp only [Array.mem_toList_iff]

theorem supports_of_validate {depth : Nat} {content : Sheet.FileContent} {source : SheetSource}
    {isa loaded : Isa} {sheet : Sheet} (hisa : isa.HasBuiltInExecutors)
    (hload : Manager.load depth content source isa = .ok (sheet, loaded)) {program : Program}
    (hvalid : loaded.validate program = none) : loaded.Supports program := by
  intro i hi
  rcases objection?_eq_none_iff.mp (validate_eq_none_iff.mp hvalid i hi) with
    ⟨definition, hdefinition, -⟩
  have hexecutor :=
    Sheet.executor?_of_activate (Sheet.activate_of_load hload) hdefinition
  rw [executor?_of_instruction hisa i] at hexecutor
  exact ⟨definition, hdefinition, (Option.some.inj hexecutor).symm⟩

end Isa

/-!
# The bundled sheet
-/

namespace Sheet

theorem exists_executor_of_mem_standard :
    ∀ entry ∈ standard.entries, ∃ executor ∈ Executor.all,
      entry.mnemonic = executor.mnemonic := by
  decide

theorem define_congr {isa other : Isa} (hisa : isa.HasBuiltInExecutors)
    (hother : other.HasBuiltInExecutors) {entry : SheetEntry} {executor : Executor}
    (hentry : entry.mnemonic = executor.mnemonic) : define isa entry = define other entry := by
  unfold define
  rw [hentry, hisa executor, hother executor]

/-- The bundled sheet can be activated wherever the built-in executors are registered, and gives the
same definitions everywhere. -/
theorem activate_standard {isa : Isa} (hisa : isa.HasBuiltInExecutors) :
    standard.activate isa = .ok { isa with definitions := Isa.standard.definitions } := by
  have hbare : standard.activate Isa.bare = .ok Isa.standard := rfl
  rcases exists_of_bind_ok hbare with ⟨definitions, hdefinitions, hstandard⟩
  have hmapM : standard.entries.mapM (define isa) = .ok definitions := by
    rw [← hdefinitions]
    apply mapM_congr_of_mem
    intro entry hentry
    rcases exists_executor_of_mem_standard entry hentry with ⟨executor, -, hexecutor⟩
    exact define_congr hisa Isa.hasBuiltInExecutors_bare hexecutor
  unfold activate
  rw [hmapM, ← Except.ok.inj hstandard]
  rfl

end Sheet

theorem Isa.carriesOut_of_standard {isa : Isa} (h : isa.definitions = Isa.standard.definitions)
    (i : Instruction) : isa.CarriesOut i := by
  unfold CarriesOut definition?
  rw [h]
  cases i <;> exact ⟨_, rfl, rfl⟩

theorem Isa.objection?_of_standard {isa : Isa}
    (h : isa.definitions = Isa.standard.definitions) (i : Instruction) :
    isa.objection? i = none := by
  unfold objection? definition?
  rw [h]
  cases i <;> rfl

namespace Sheet

/-- A program that a loaded sheet validates can be executed under the definitions of the sheet for
any number of steps, and faults at most for a label that is not bound or an index without an
instruction.  The bundled sheet can be loaded and validates every program. -/
theorem validation_sound {isa : Isa} (hisa : isa.HasBuiltInExecutors) :
    (∀ (depth : Nat) (content : FileContent) (source : SheetSource) (sheet : Sheet) (loaded : Isa),
      Manager.load depth content source isa = .ok (sheet, loaded) ->
      ∀ program : Program, loaded.validate program = none ->
      ∀ (processor : Processor) (engine : Engine),
        Engine.Reaches loaded.definitions (.create processor program) engine ->
        ∀ current : Isa, current.definitions = loaded.definitions ->
          (∀ fault : Fault, (engine.step current).1.fault? = some fault ->
            fault.IsOfLabelOrRange) ∧
          (processor.IsWhole -> program.labels.AreIntegers ->
            ∀ error : AccessError, (engine.step current).1 ≠ .failed error)) ∧
    (∀ (depth : Nat) (content : FileContent), ∃ loaded : Isa,
      Manager.load depth content .bundled isa = .ok (standard, loaded) ∧
        ∀ program : Program, loaded.validate program = none) := by
  constructor
  · intro depth content source sheet loaded hload program hvalid processor engine hreaches
      current hcurrent
    have hsupports : loaded.Supports (Engine.create processor program).program :=
      Isa.supports_of_validate hisa hload hvalid
    have hengine := Engine.supports_of_reaches hreaches hsupports rfl hcurrent
    constructor
    · intro fault hfault
      have hcreate := Engine.missesLabelOrRange_create processor program
      exact Engine.isOfLabelOrRange_of_step hengine
        (Engine.missesLabelOrRange_of_reaches hreaches hsupports rfl hcreate) hfault
    · intro hprocessor hlabels error
      have hcreate := Engine.isWhole_create hprocessor hlabels
      exact Engine.not_failed_of_step hengine
        (Engine.isWhole_of_reaches hreaches hcreate) error
  · intro depth content
    exists { isa with definitions := Isa.standard.definitions }
    constructor
    · show (do
          let loaded ← standard.activate isa
          return (standard, loaded)) = Except.ok (standard, _)
      rw [activate_standard hisa]
      rfl
    · intro program
      apply Isa.validate_eq_none_iff.mpr
      intro i _
      exact Isa.objection?_of_standard rfl i

theorem validation_sound_load :
    let content := FileContent.bytes ("\x7b\"schema_version\":1,\"name\":\"s\",\"isa\":" ++
      "\x7b\"arch\":\"lc3\",\"word_bits\":16\x7d,\"instructions\":[\x7b\"mnemonic\":\"ld\"," ++
      "\"summary\":\"l\",\"forms\":[\x7b\"operands\":[\"reg\",\"label\"]\x7d]\x7d]\x7d").toUTF8
    let program : Program := ⟨#[.load 1 ⟨"A", by decide⟩], .empty, none, true⟩
    let engine := Engine.create .initial program
    Isa.bare.HasBuiltInExecutors ∧ ∃ (sheet : Sheet) (loaded : Isa) (fault : Fault),
      Manager.load Json.standardDepth content .file .bare = .ok (sheet, loaded) ∧
        loaded.validate program = none ∧
        (engine.step loaded).1.fault? = some fault ∧ fault.IsOfLabelOrRange := by
  intro content program engine
  have hbare := Isa.hasBuiltInExecutors_bare
  have hruns : (Manager.load Json.standardDepth content .file .bare).toOption.map (fun result =>
      (result.2.validate program, (engine.step result.2).1.fault?)) =
        some (none, some ⟨.unboundLabel (.text "A"), some (.int 0), "LD R1, A"⟩) := by
    decide +kernel
  cases hload : Manager.load Json.standardDepth content .file .bare with
  | error error =>
      rw [hload] at hruns
      cases hruns
  | ok result =>
      rw [hload] at hruns
      rcases Prod.mk.inj (Option.some.inj hruns) with ⟨hvalid, hfault⟩
      have hsound := (validation_sound hbare).left _ content .file result.1 result.2 hload program
        hvalid .initial engine .start result.2 rfl
      exact ⟨hbare, result.1, result.2, _, rfl, hvalid, hfault, hsound.left _ hfault⟩

end Sheet
end LittleComputer
