import LittleComputer.Proofs.Builder.Calls
import LittleComputer.Proofs.Engine.Words
import LittleComputer.Session.Basic

/-!
# Words through sessions

From its start on, a session holds words in all registers, in all cells of memory, in the flag and
under all labels, whatever commands it is given and whether they fail.  Commands that put given
values in without wrapping them have to be given words.
-/

namespace LittleComputer

/-- What the command puts in without wrapping it are words. -/
def Command.GivesWords : Command -> Prop
  | newBuilder (some given) => given.HoldsWords
  | labels (.pokeSaved _ value) => value.IsWord
  | labels (.restore entries) => ∀ entry ∈ entries, entry.2.IsWord
  | processor (.setFlag value) => value.IsWord
  | _ => True

/-!
# Builders
-/

namespace Builder

/-- The labels that a reset puts back are words as well. -/
structure HoldsWords (builder : Builder) : Prop where
  processor : builder.processor.HoldsWords
  labels : builder.program.labels.table.HoldsWords
  initialLabels : ∀ run : Run, builder.run = some run -> run.initialLabels.HoldsWords

theorem holdsWords_ofProcessor {processor : Processor} (h : processor.HoldsWords) :
    (ofProcessor processor).HoldsWords where
  processor := h
  labels := Table.holdsWords_empty
  initialLabels := by
    intro run hrun
    cases hrun

theorem holdsWords_of_engine {engine : Engine} (h : engine.HoldsWords) :
    (Builder.mk engine.program engine.processor (some engine.run)).HoldsWords where
  processor := h.processor
  labels := h.labels
  initialLabels := by
    rintro run ⟨⟩
    exact h.initialLabels

section HoldsWords

variable {builder : Builder} (h : builder.HoldsWords)
include h

theorem HoldsWords.engine {run : Run} (hrun : builder.run = some run) :
    (Engine.mk builder.processor builder.program run).HoldsWords :=
  ⟨h.processor, h.labels, h.initialLabels run hrun⟩

theorem HoldsWords.startRun : builder.startRun.HoldsWords := by
  have hengine : (Engine.create builder.processor builder.program).HoldsWords :=
    ⟨h.processor, h.labels, h.labels⟩
  exact holdsWords_of_engine hengine

theorem HoldsWords.of_beginEnds {isa : Isa} {begun : Builder}
    (hends : BeginEnds isa builder begun) : begun.HoldsWords := by
  cases hends with
  | refused _ => exact h
  | invalid _ _ => exact ⟨h.processor, h.labels, h.initialLabels⟩
  | started _ _ => exact ⟨h.processor, h.labels, h.startRun.initialLabels⟩

theorem HoldsWords.after (isa : Isa) (call : Call) : (builder.after isa call).HoldsWords := by
  have hends := after_ends isa call builder
  generalize builder.after isa call = later at hends ⊢
  cases hends with
  | idle => exact h
  | edited hedits => exact ⟨h.processor, hedits.holdsWords h.labels, h.initialLabels⟩
  | written address value =>
      exact ⟨h.processor.write address value, h.labels, h.initialLabels⟩
  | begun hends => exact h.of_beginEnds hends
  | stepped hrun hengine =>
      subst hengine
      exact holdsWords_of_engine ((h.engine hrun).next isa)
  | restarted hrun hengine =>
      subst hengine
      exact holdsWords_of_engine (h.engine hrun).reset

theorem HoldsWords.execute {σ : Type} (isa : Isa) (announce : List Record -> σ -> σ)
    (observe : Engine -> Event -> σ -> σ) (limit : Nat) (seen : σ) :
    (builder.execute isa announce observe limit seen).2.2.HoldsWords := by
  rcases execute_eq_steps isa announce observe limit seen builder with ⟨n, hn⟩
  rw [hn]
  clear hn
  induction n with
  | zero => exact h.after isa .start
  | succ n ih =>
      rw [Function.iterate_succ_apply']
      exact ih.after isa .step

theorem HoldsWords.runEngine {σ : Type} (isa : Isa) (observe : Engine -> Event -> σ -> σ)
    (limit : Nat) (seen : σ) :
    (builder.runEngine isa observe limit seen).2.2.HoldsWords := by
  rcases builder with ⟨program, processor, run⟩
  cases run with
  | none => exact h
  | some run =>
      exact holdsWords_of_engine ((h.engine rfl).drive isa observe limit none seen)

end HoldsWords

end Builder

/-!
# Parts of a session
-/

namespace Session

structure HoldsWords (session : Session) : Prop where
  builder : session.builder.HoldsWords
  saved : session.saved.HoldsWords

theorem note_eq (records : List Record) (session : Session) :
    (session.note records).builder = session.builder ∧
      (session.note records).saved = session.saved := by
  unfold note
  split <;> exact ⟨rfl, rfl⟩

theorem report_eq (report : Report) (session : Session) :
    (session.report report).2.builder = session.builder ∧
      (session.report report).2.saved = session.saved := by
  unfold Session.report
  split
  · exact session.note_eq report.records
  · exact ⟨rfl, rfl⟩

theorem loadFrom_eq (source : SheetSource) (answer : Sheet -> Answer) (session : Session) :
    (session.loadFrom source answer).2.builder = session.builder ∧
      (session.loadFrom source answer).2.saved = session.saved := by
  unfold loadFrom
  split
  · exact ⟨rfl, rfl⟩
  · exact note_eq _ session

theorem makeManager_eq (source : SheetSource) (session : Session) :
    (session.makeManager source).2.builder = session.builder ∧
      (session.makeManager source).2.saved = session.saved := by
  have heq := session.loadFrom_eq source fun _ => .nothing
  unfold makeManager
  generalize session.loadFrom source (fun _ => .nothing) = result at heq ⊢
  rcases result with ⟨answer, after⟩
  cases answer <;> exact heq

section HoldsWords

variable {session : Session} (h : session.HoldsWords)
include h

theorem HoldsWords.of_eq {after : Session}
    (heq : after.builder = session.builder ∧ after.saved = session.saved) : after.HoldsWords where
  builder := by
    rw [heq.left]
    exact h.builder
  saved := by
    rw [heq.right]
    exact h.saved

theorem HoldsWords.onBuilder {α : Type} {change : Isa -> Builder -> α × Builder}
    (hchange : (change session.isa session.builder).2.HoldsWords) :
    (session.onBuilder change).2.HoldsWords :=
  ⟨hchange, h.saved⟩

theorem HoldsWords.onBuilderObserved {α : Type}
    {change : Isa -> Bool -> Array Record -> Builder -> α × Array Record × Builder}
    (hchange :
      (change session.isa session.verbose session.log session.builder).2.2.HoldsWords) :
    (session.onBuilderObserved change).2.HoldsWords :=
  ⟨hchange, h.saved⟩

theorem HoldsWords.withLabels {labels : Labels} (hlabels : labels.table.HoldsWords) :
    (session.withLabels labels).HoldsWords :=
  ⟨⟨h.builder.processor, hlabels, h.builder.initialLabels⟩, h.saved⟩

theorem HoldsWords.bindLabels (report : Report) {bound : Except ConfigurationError Labels}
    (hbound : ∀ labels : Labels, bound = .ok labels -> labels.table.HoldsWords) :
    (session.bindLabels report bound).2.HoldsWords := by
  have hreport := h.of_eq (session.report_eq report)
  unfold Session.bindLabels
  generalize session.report report = result at hreport ⊢
  rcases result with ⟨obstacle, after⟩
  cases obstacle with
  | some error => exact hreport
  | none =>
      cases bound with
      | ok labels => exact hreport.withLabels (hbound labels rfl)
      | error error => exact hreport

theorem HoldsWords.onRun {idle : Except Failure Answer}
    {change : Isa -> Bool -> Array Record -> Engine ->
      (Except Failure Answer × Array Record) × Engine}
    (hchange : ∀ engine : Engine, engine.HoldsWords ->
      (change session.isa session.verbose session.log engine).2.HoldsWords) :
    (session.onRun idle change).2.HoldsWords := by
  apply h.onBuilderObserved
  have hbuilder := h.builder
  generalize session.builder = builder at hbuilder ⊢
  rcases builder with ⟨program, processor, run⟩
  cases run with
  | none => exact hbuilder
  | some run => exact Builder.holdsWords_of_engine (hchange _ (hbuilder.engine rfl))

end HoldsWords

/-!
# Commands
-/

theorem holdsWords_loadCells {processor : Processor} (h : processor.HoldsWords)
    (cells : List (Value × Value)) : (loadCells cells processor).2.HoldsWords := by
  unfold loadCells
  rcases Cells.integers cells with ⟨written, isWhole⟩
  have hload := h.load written
  dsimp only
  generalize processor.load written = result at hload ⊢
  rcases result with ⟨after, isLoaded⟩
  cases isLoaded <;> exact hload

theorem holdsWords_processorAnswer {command : ProcessorCommand}
    (hcommand : (Command.processor command).GivesWords) {processor : Processor}
    (h : processor.HoldsWords) : (processorAnswer command processor).2.HoldsWords := by
  cases command with
  | readRegister index | read address =>
      unfold processorAnswer
      dsimp only
      split <;> exact h
  | writeRegister index value =>
      unfold processorAnswer
      dsimp only
      split
      · split
        · next hset => exact h.setRegister? hset
        · exact h
      · exact h
  | write address value => exact holdsWords_loadCells h [(address, value)]
  | reset => exact Processor.holdsWords_initial
  | load cells => exact holdsWords_loadCells h cells.pairs
  | setFlag value =>
      exact ⟨h.registers_size, h.memory_size, h.register_isWord, h.cell_isWord, hcommand⟩

section HoldsWords

variable {session : Session} (h : session.HoldsWords)
include h

theorem HoldsWords.applyLabels {command : LabelCommand}
    (hcommand : (Command.labels command).GivesWords) :
    (session.applyLabels command).2.HoldsWords := by
  have hlabels := h.builder.labels
  have hbound (name value : Value) (labels : Labels)
      (hbind : session.builder.program.labels.bind name value = .ok labels) :
      labels.table.HoldsWords := by
    rcases Labels.bind_eq_ok hbind with ⟨-, n, -, rfl⟩
    exact Labels.holdsWords_insert hlabels name n
  unfold Session.applyLabels
  cases command with
  | bind name value => exact h.bindLabels _ (hbound name value)
  | define name value =>
      apply h.bindLabels
      intro labels hdefine
      exact hbound name value labels (Labels.bind_of_define_eq_ok hdefine)
  | store name value =>
      dsimp only
      split
      · split
        · exact h.withLabels (Labels.holdsWords_store hlabels name _)
        · exact h
      · exact h
  | freeze => exact h.withLabels hlabels
  | lookUp name =>
      dsimp only
      split <;> exact h
  | find _ | contains _ | size | names | entries => exact h
  | save => exact ⟨h.builder, hlabels⟩
  | pokeSaved name value => exact ⟨h.builder, h.saved.insert ⟨name⟩ hcommand⟩
  | restoreSaved => exact h.withLabels h.saved
  | restore entries =>
      apply h.withLabels
      apply Table.holdsWords_ofList
      intro pair hpair
      rcases List.mem_map.mp hpair with ⟨entry, hentry, rfl⟩
      exact hcommand entry hentry

theorem HoldsWords.applyEngine (limit : Nat) (command : EngineCommand) :
    (session.applyEngine limit command).2.HoldsWords := by
  cases command with
  | create => exact h.onBuilder h.builder.startRun
  | reset => exact h.onRun fun engine hengine => hengine.reset
  | run => exact h.onBuilderObserved (h.builder.runEngine _ _ _ _)
  | step count => exact h.onRun fun engine hengine => hengine.drive _ _ _ _ _
  | trace count => exact h.onRun fun engine hengine => hengine.drive _ _ _ _ _

theorem HoldsWords.applySheet (command : SheetCommand) :
    (session.applySheet command).2.HoldsWords := by
  cases command with
  | load content =>
      exact h.of_eq ({ session with file := content }.loadFrom_eq .file _)
  | loadDefault => exact h.of_eq (session.loadFrom_eq session.manager.source _)
  | newManager content =>
      cases content with
      | none => exact h.of_eq (session.makeManager_eq .bundled)
      | some content => exact h.of_eq ({ session with file := content }.makeManager_eq .file)
  | active => exact h

theorem HoldsWords.applyRegistry (command : RegistryCommand) :
    (session.applyRegistry command).2.HoldsWords := by
  cases command with
  | trapOfOperand written =>
      unfold Session.applyRegistry
      dsimp only
      split <;> exact h
  | definitions | setDefinitions _ _ | withExecutor _ _ | executor _ | withTrap _ | trap _
  | traps => exact h.of_eq ⟨rfl, rfl⟩

theorem HoldsWords.perform (statement : Statement) :
    (session.perform statement).2.HoldsWords := by
  have hreport := h.of_eq
    (session.report_eq (session.builder.program.performReport statement))
  unfold Session.perform
  generalize session.report _ = result at hreport ⊢
  rcases result with ⟨obstacle, after⟩
  cases obstacle with
  | some error => exact hreport
  | none =>
      show (after.onBuilder fun isa builder =>
        builder.onProgram (Program.perform isa.traps statement)).2.HoldsWords
      exact hreport.onBuilder (hreport.builder.after after.isa (.perform statement))

theorem HoldsWords.assemble (text : String) : (session.assemble text).2.HoldsWords := by
  have hbuilder := h.builder.after session.isa (.assemble session.verbose text)
  unfold Session.assemble
  dsimp only
  generalize hresult : session.onBuilder _ = result
  have hassembled : result.2.HoldsWords := by
    rw [← hresult]
    exact h.onBuilder hbuilder
  rcases result with ⟨⟨error, log⟩, after⟩
  have hnote := hassembled.of_eq (after.note_eq log.toList)
  cases error <;> exact hnote

theorem HoldsWords.apply (limit : Nat) {command : Command} (hcommand : command.GivesWords) :
    (session.apply limit command).2.HoldsWords := by
  cases command with
  | newBuilder processor =>
      refine ⟨?_, h.saved⟩
      cases processor with
      | none => exact Builder.holdsWords_ofProcessor Processor.holdsWords_initial
      | some processor => exact Builder.holdsWords_ofProcessor hcommand
  | statement statement => exact h.perform statement
  | append candidate =>
      show (session.onBuilder fun _ builder =>
        builder.onProgram fun program => program.append candidate).2.HoldsWords
      exact h.onBuilder (h.builder.after session.isa (.append candidate))
  | assemble text => exact h.assemble text
  | execute => exact h.onBuilderObserved (h.builder.execute _ _ _ _ _)
  | writeMemory address value =>
      show (session.onBuilder fun _ builder =>
        builder.writeMemory address value).2.HoldsWords
      exact h.onBuilder (h.builder.after session.isa (.writeMemory address value))
  | readMemory _ | readRegister _ | flag | current | dump => exact h
  | fetch index =>
      unfold Session.apply
      dsimp only
      split <;> exact h
  | freeze =>
      exact h.onBuilder ⟨h.builder.processor, h.builder.labels, h.builder.initialLabels⟩
  | validate =>
      unfold Session.apply
      dsimp only
      split <;> exact h
  | labels command => exact h.applyLabels hcommand
  | processor command =>
      have hanswer := holdsWords_processorAnswer hcommand h.builder.processor
      exact h.onBuilder ⟨hanswer, h.builder.labels, h.builder.initialLabels⟩
  | engine command => exact h.applyEngine limit command
  | sheet command => exact h.applySheet command
  | registry command => exact h.applyRegistry command

end HoldsWords

/-!
# Histories
-/

def afterAll (limit : Nat) (commands : List Command) (session : Session) : Session :=
  commands.foldl (fun session command => (session.apply limit command).2) session

theorem holdsWords_start (verbose : Bool) : (start verbose).HoldsWords where
  builder := Builder.holdsWords_ofProcessor Processor.holdsWords_initial
  saved := Table.holdsWords_empty

theorem HoldsWords.afterAll {session : Session} (h : session.HoldsWords) (limit : Nat)
    {commands : List Command} (hcommands : ∀ command ∈ commands, command.GivesWords) :
    (session.afterAll limit commands).HoldsWords := by
  induction commands generalizing session with
  | nil => exact h
  | cons command rest ih =>
      apply ih (h.apply limit (hcommands command (List.mem_cons_self ..)))
      intro other hother
      exact hcommands other (List.mem_cons_of_mem command hother)

/-- After any commands to a new session, successful or not, there are eight registers and 65536
cells, and all of them, the flag and whatever the labels stand for are words.  So the labels may be
put back at any time later. -/
theorem words_after_commands (verbose : Bool) (limit : Nat) {commands : List Command}
    (hcommands : ∀ command ∈ commands, command.GivesWords) :
    let builder := ((start verbose).afterAll limit commands).builder
    builder.processor.registers.size = 8 ∧
      builder.processor.memory.size = 0x10000 ∧
      (∀ value ∈ builder.processor.registers, value.IsWord) ∧
      (∀ value ∈ builder.processor.memory, value.IsWord) ∧
      builder.processor.flag.IsWord ∧
      (∀ entry ∈ builder.program.labels.entries, entry.2.IsWord) ∧
      (Command.labels (.restore builder.program.labels.entries)).GivesWords := by
  intro builder
  have hbuilder : builder.HoldsWords :=
    ((holdsWords_start verbose).afterAll limit hcommands).builder
  have hentries : ∀ entry ∈ builder.program.labels.entries, entry.2.IsWord := by
    intro entry hentry
    rcases List.mem_map.mp hentry with ⟨found, hfound, rfl⟩
    exact hbuilder.labels found hfound
  exact ⟨hbuilder.processor.registers_size, hbuilder.processor.memory_size,
    hbuilder.processor.register_isWord, hbuilder.processor.cell_isWord,
    hbuilder.processor.flag_isWord, hentries, hentries⟩

theorem words_after_commands_wrapped :
    let commands : List Command :=
      [.processor (.writeRegister (.int 3) (.int 70000)), .labels (.bind (.text "A") (.int 40000)),
        .labels (.restore [(.text "B", .int 5)]), .writeMemory (.int 9) (.int 65535),
        .assemble "ST R3, B\nHALT", .execute]
    (∀ command ∈ commands, command.GivesWords) ∧
      (∀ value ∈ ((start true).afterAll 9 commands).builder.processor.registers, value.IsWord) ∧
      ∀ entry ∈ ((start true).afterAll 9 commands).builder.program.labels.entries,
        entry.2.IsWord := by
  intro commands
  have hrestored : ∀ entry ∈ [(Value.text "B", Value.int 5)], entry.2.IsWord := by
    intro entry hentry
    rw [List.mem_singleton.mp hentry]
    exact Value.isWord_signed 5
  have hcommands : ∀ command ∈ commands, command.GivesWords := by
    intro command hcommand
    simp only [commands, List.mem_cons, List.not_mem_nil, or_false] at hcommand
    rcases hcommand with rfl | rfl | rfl | rfl | rfl | rfl
    · trivial
    · trivial
    · exact hrestored
    · trivial
    · trivial
    · trivial
  rcases words_after_commands true 9 hcommands with
    ⟨-, -, hregisters, -, -, hentries, -⟩
  exact ⟨hcommands, hregisters, hentries⟩

end Session
end LittleComputer
