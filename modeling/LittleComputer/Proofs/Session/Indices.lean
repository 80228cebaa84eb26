import LittleComputer.Proofs.Session.Assembling
import LittleComputer.Proofs.Session.Operations
import LittleComputer.Proofs.Sheet.Soundness
import LittleComputer.Proofs.Source.Growth

/-!
# Indices of instructions

The index that an operation answers is that of its instruction through all that happens to the
builder later.  The instructions of a builder that was new once are well-formed, and the indices
answered for them have no gaps.
-/

namespace LittleComputer

namespace Command

def KeepsBuilder : Command -> Prop
  | newBuilder _ => False
  | _ => True

end Command

/-!
# Places of instructions
-/

namespace Program

theorem Grows.fetch_eq {traps : Traps} {program after : Program} (h : Grows traps program after)
    {index : Nat} {i : Instruction} (hfetch : program.fetch (.int index) = .ok i) :
    after.fetch (.int index) = .ok i := by
  rcases h with ⟨added, hadded, -⟩
  rw [fetch_natCast, ← Array.getElem?_toList] at hfetch ⊢
  cases hplace : program.instructions.toList[index]? with
  | none =>
      rw [hplace] at hfetch
      cases hfetch
  | some other =>
      rw [hadded, List.getElem?_append_left (List.getElem?_eq_some_iff.mp hplace).fst, hplace]
      rw [hplace] at hfetch
      exact hfetch

theorem fetch_push (program : Program) (i : Instruction) :
    (program.push i).fetch (.int program.size) = .ok i := by
  have hplace : (program.push i).instructions[program.size]? = some i :=
    Array.getElem?_push_size
  rw [fetch_natCast, hplace]

end Program

namespace Session

/-!
# Commands that keep the instructions
-/

/-- The instructions are the same, and no trap has been withdrawn. -/
structure Keeps (session after : Session) : Prop where
  instructions_eq :
    after.builder.program.instructions = session.builder.program.instructions
  contains : ∀ key : Key, session.isa.traps.contains key = true ->
    after.isa.traps.contains key = true

section Keeps

variable {session after : Session}

theorem Keeps.of_eq
    (hinstructions : after.builder.program.instructions = session.builder.program.instructions)
    (htraps : after.isa.traps = session.isa.traps) : Keeps session after where
  instructions_eq := hinstructions
  contains := by
    intro key hkey
    rw [htraps]
    exact hkey

theorem Keeps.refl (session : Session) : Keeps session session :=
  .of_eq rfl rfl

theorem Keeps.trans (hfirst : Keeps session after) {last : Session} (hlast : Keeps after last) :
    Keeps session last where
  instructions_eq := hlast.instructions_eq.trans hfirst.instructions_eq
  contains := fun key hkey => hlast.contains key (hfirst.contains key hkey)

theorem keeps_onBuilderObserved {α : Type}
    {change : Isa -> Bool -> Array Record -> Builder -> α × Array Record × Builder}
    (hchange : (change session.isa session.verbose session.log
      session.builder).2.2.program.instructions = session.builder.program.instructions) :
    Keeps session (session.onBuilderObserved change).2 :=
  .of_eq hchange rfl

theorem keeps_report (report : Report) (session : Session) :
    Keeps session (session.report report).2 := by
  apply Keeps.of_eq
  · rw [(session.report_eq report).left]
  · rw [session.isa_report report]

theorem keeps_withLabels (labels : Labels) (session : Session) :
    Keeps session (session.withLabels labels) :=
  .of_eq rfl rfl

theorem keeps_bindLabels (report : Report) (bound : Except ConfigurationError Labels)
    (session : Session) : Keeps session (session.bindLabels report bound).2 := by
  have hreport := keeps_report report session
  unfold Session.bindLabels
  generalize session.report report = result at hreport ⊢
  rcases result with ⟨obstacle, reported⟩
  cases obstacle with
  | some error => exact hreport
  | none =>
      cases bound with
      | ok labels => exact hreport.trans (keeps_withLabels labels reported)
      | error error => exact hreport

theorem keeps_onRun {idle : Except Failure Answer}
    {change : Isa -> Bool -> Array Record -> Engine ->
      (Except Failure Answer × Array Record) × Engine}
    (hchange : ∀ (isa : Isa) (verbose : Bool) (log : Array Record) (engine : Engine),
      (change isa verbose log engine).2.program.instructions = engine.program.instructions)
    (session : Session) : Keeps session (session.onRun idle change).2 := by
  rcases session with ⟨⟨program, processor, run⟩, isa, manager, file, depth, saved, verbose, log⟩
  cases run with
  | none => exact .refl _
  | some run => exact .of_eq (hchange isa verbose log _) rfl

theorem keeps_applyLabels (command : LabelCommand) (session : Session) :
    Keeps session (session.applyLabels command).2 := by
  unfold Session.applyLabels
  cases command with
  | bind name value | define name value => exact keeps_bindLabels _ _ session
  | store name value =>
      dsimp only
      split
      · split
        · exact keeps_withLabels _ session
        · exact .refl session
      · exact .refl session
  | freeze | restoreSaved | restore _ => exact keeps_withLabels _ session
  | lookUp name =>
      dsimp only
      split <;> exact .refl session
  | find _ | contains _ | size | names | entries => exact .refl session
  | save | pokeSaved _ _ => exact .of_eq rfl rfl

theorem keeps_applyEngine (limit : Nat) (command : EngineCommand) (session : Session) :
    Keeps session (session.applyEngine limit command).2 := by
  cases command with
  | create => exact .of_eq rfl rfl
  | reset => exact keeps_onRun (fun _ _ _ _ => rfl) session
  | run => exact keeps_onBuilderObserved (Builder.instructions_runEngine _ _ _ _ _)
  | step count =>
      apply keeps_onRun
      intro isa verbose log engine
      exact Engine.instructions_drive _ _ _ _ _ engine
  | trace count =>
      apply keeps_onRun
      intro isa verbose log engine
      exact Engine.instructions_drive _ _ _ _ _ engine

theorem keeps_loadFrom (source : SheetSource) (answer : Sheet -> Answer) (session : Session) :
    Keeps session (session.loadFrom source answer).2 := by
  apply Keeps.of_eq
  · rw [(session.loadFrom_eq source answer).left]
  · unfold loadFrom
    split
    · rfl
    · next sheet isa hload =>
        rcases exists_of_bind_ok (Sheet.activate_of_load hload) with ⟨definitions, -, hisa⟩
        cases hisa
        rfl

theorem keeps_makeManager (source : SheetSource) (session : Session) :
    Keeps session (session.makeManager source).2 := by
  have hload := keeps_loadFrom source (fun _ => .nothing) session
  unfold makeManager
  generalize session.loadFrom source (fun _ => .nothing) = result at hload ⊢
  rcases result with ⟨answer, loaded⟩
  cases answer with
  | error failure => exact hload
  | ok answer => exact hload.trans (.of_eq rfl rfl)

theorem keeps_applySheet (command : SheetCommand) (session : Session) :
    Keeps session (session.applySheet command).2 := by
  cases command with
  | load content =>
      have hload := keeps_loadFrom .file (fun sheet => .sheet (some sheet))
        { session with file := content }
      exact ⟨hload.instructions_eq, hload.contains⟩
  | loadDefault => exact keeps_loadFrom session.manager.source _ session
  | newManager content =>
      cases content with
      | none => exact keeps_makeManager .bundled session
      | some content =>
          have hmake := keeps_makeManager .file { session with file := content }
          exact ⟨hmake.instructions_eq, hmake.contains⟩
  | active => exact .refl session

theorem contains_register {traps : Traps} (trap : Trap) {key : Key}
    (h : traps.contains key = true) : (traps.register trap).contains key = true := by
  unfold Traps.register Table.contains
  rw [Table.get?_insert]
  split
  · rfl
  · exact h

theorem keeps_applyRegistry (command : RegistryCommand) (session : Session) :
    Keeps session (session.applyRegistry command).2 := by
  cases command with
  | withTrap trap => exact ⟨rfl, fun _ hkey => contains_register trap hkey⟩
  | trapOfOperand written =>
      unfold Session.applyRegistry
      dsimp only
      split <;> exact .refl session
  | definitions | setDefinitions _ _ | withExecutor _ _ | executor _ | trap _ | traps =>
      exact .of_eq rfl rfl

end Keeps

/-!
# Histories
-/

def answeredIndex? : Command × Except Failure Answer -> Option Int
  | (.statement _, .ok (.value (.int n))) | (.append _, .ok (.value (.int n))) => some n
  | _ => none

inductive ApplyEnds (session : Session) (command : Command) :
    Except Failure Answer × Session -> Prop where
  | kept {answer : Except Failure Answer} {after : Session} :
      Keeps session after -> answeredIndex? (command, answer) = none ->
      ApplyEnds session command (answer, after)
  | added {i : Instruction} {after : Session} :
      command.AddsInstruction -> i.IsWellFormed session.isa.traps ->
      after.builder.program = session.builder.program.push i -> after.isa = session.isa ->
      ApplyEnds session command (.ok (.value (.int session.builder.program.size)), after)
  | assembled {text : String} {answer : Except Failure Answer} {after : Session} :
      command = .assemble text ->
      session.builder.program.Grows session.isa.traps after.builder.program ->
      after.isa = session.isa -> ApplyEnds session command (answer, after)

section ApplyEnds

variable {session : Session} {command : Command} {result : Except Failure Answer × Session}

theorem OperationEnds.applyEnds (h : OperationEnds session command result)
    (hbuilt : command.OffersBuilt session.isa.traps) : ApplyEnds session command result := by
  cases h with
  | refused hbuilder hisa =>
      refine .kept (.of_eq (by rw [hbuilder]) (by rw [hisa])) ?_
      cases command <;> rfl
  | added hadds hvalid hbuilder hisa => exact .added hadds (hvalid hbuilt) (by rw [hbuilder]) hisa
  | done _ hinstructions hisa =>
      refine .kept (.of_eq hinstructions (by rw [hisa])) ?_
      cases command <;> rfl

theorem ApplyEnds.of_keeps (h : Keeps session result.2)
    (hnone : ∀ answer : Except Failure Answer, answeredIndex? (command, answer) = none) :
    ApplyEnds session command result :=
  .kept h (hnone result.1)

theorem apply_ends (limit : Nat) (hkeeps : command.KeepsBuilder)
    (hbuilt : command.OffersBuilt session.isa.traps) :
    ApplyEnds session command (session.apply limit command) := by
  cases command with
  | newBuilder _ => exact hkeeps.elim
  | statement _ | append _ | writeMemory _ _ =>
      refine (operation_ends limit ?_ session).applyEnds hbuilt
      trivial
  | assemble text =>
      rcases session.assemble_eq text with ⟨-, hbuilder, hisa, -⟩
      have hgrows := Source.grows_assemble session.isa.traps session.verbose text
        session.builder.program
      refine .assembled rfl ?_ hisa
      show session.builder.program.Grows _ (session.assemble text).2.builder.program
      rw [hbuilder]
      exact hgrows
  | execute =>
      refine .of_keeps ?_ fun _ => rfl
      exact keeps_onBuilderObserved (Builder.instructions_execute _ _ _ _ _ _)
  | readMemory _ | readRegister _ | flag | current | dump =>
      exact .of_keeps (.refl session) fun _ => rfl
  | fetch index =>
      refine .of_keeps ?_ fun _ => rfl
      unfold Session.apply
      dsimp only
      split <;> exact .refl session
  | freeze => exact .of_keeps (.of_eq rfl rfl) fun _ => rfl
  | validate =>
      refine .of_keeps ?_ fun _ => rfl
      unfold Session.apply
      dsimp only
      split <;> exact .refl session
  | labels command => exact .of_keeps (keeps_applyLabels command session) fun _ => rfl
  | processor command => exact .of_keeps (.of_eq rfl rfl) fun _ => rfl
  | engine command => exact .of_keeps (keeps_applyEngine limit command session) fun _ => rfl
  | sheet command => exact .of_keeps (keeps_applySheet command session) fun _ => rfl
  | registry command => exact .of_keeps (keeps_applyRegistry command session) fun _ => rfl

end ApplyEnds

/-- A session comes after another one with the same builder, by commands that were answered or
failed. -/
inductive Continues (first : Session) :
    List (Command × Except Failure Answer) -> Session -> Prop where
  | start : Continues first [] first
  | command {history : List (Command × Except Failure Answer)} {session : Session} (limit : Nat)
      {command : Command} :
      Continues first history session -> command.KeepsBuilder ->
      command.OffersBuilt session.isa.traps ->
      Continues first (history ++ [(command, (session.apply limit command).1)])
        (session.apply limit command).2

structure Grows (session after : Session) : Prop where
  program : session.builder.program.Grows after.isa.traps after.builder.program
  contains : ∀ key : Key, session.isa.traps.contains key = true ->
    after.isa.traps.contains key = true

theorem Grows.trans {session after last : Session} (hfirst : Grows session after)
    (hlast : Grows after last) : Grows session last where
  program := (hfirst.program.mono hlast.contains).trans hlast.program
  contains := fun key hkey => hlast.contains key (hfirst.contains key hkey)

theorem ApplyEnds.grows {session : Session} {command : Command}
    {result : Except Failure Answer × Session} (h : ApplyEnds session command result) :
    Grows session result.2 := by
  cases h with
  | kept hkeeps _ => exact ⟨.of_eq hkeeps.instructions_eq, hkeeps.contains⟩
  | added _ hvalid hprogram hisa =>
      constructor
      · dsimp only
        rw [hprogram, hisa]
        exact Program.grows_push hvalid
      · intro key hkey
        rw [hisa]
        exact hkey
  | assembled _ hgrows hisa =>
      constructor
      · dsimp only
        rw [hisa]
        exact hgrows
      · intro key hkey
        rw [hisa]
        exact hkey

section Continues

variable {first session : Session} {history : List (Command × Except Failure Answer)}

theorem Continues.grows (h : Continues first history session) : Grows first session := by
  induction h with
  | start => exact ⟨.of_eq rfl, fun _ hkey => hkey⟩
  | command limit _ hkeeps hbuilt ih => exact ih.trans (apply_ends limit hkeeps hbuilt).grows

def indices (program : Program) : List Int :=
  (List.range program.size).map Int.ofNat

theorem indices_push (program : Program) (i : Instruction) :
    indices (program.push i) = indices program ++ [(program.size : Int)] := by
  have hsize : (program.push i).size = program.size + 1 := Array.size_push i
  unfold indices
  rw [hsize, List.range_succ, List.map_append]
  rfl

theorem ApplyEnds.indices_eq {command : Command} {result : Except Failure Answer × Session}
    (h : ApplyEnds session command result)
    (hcommand : ∀ text : String, command ≠ .assemble text) :
    indices result.2.builder.program =
      indices session.builder.program ++ (answeredIndex? (command, result.1)).toList := by
  cases h with
  | kept hkeeps hnone =>
      dsimp only
      rw [hnone, Option.toList_none, List.append_nil]
      unfold indices Program.size
      rw [hkeeps.instructions_eq]
  | added hadds _ hprogram _ =>
      dsimp only
      rw [hprogram, indices_push]
      cases command with
      | statement _ | append _ => rfl
      | _ => exact hadds.elim
  | assembled htext _ _ => exact absurd htext (hcommand _)

/-- Where no text is assembled, the indices of all instructions have been answered. -/
theorem Continues.indices_eq (h : Continues first history session)
    (hhistory : ∀ entry ∈ history, ∀ text : String, entry.1 ≠ .assemble text) :
    indices session.builder.program =
      indices first.builder.program ++ history.filterMap answeredIndex? := by
  induction h with
  | start => exact (List.append_nil _).symm
  | @command history session limit command _ hkeeps hbuilt ih =>
      have hends := apply_ends limit hkeeps hbuilt
      have hcommand := hhistory _ (List.mem_append_right _ (List.mem_singleton_self _))
      have hbefore := ih fun entry hentry => hhistory entry (List.mem_append_left _ hentry)
      rw [hends.indices_eq hcommand, hbefore, List.filterMap_append, List.append_assoc]
      rfl

theorem Continues.isWellFormed (h : Continues first history session)
    (hfirst : first.builder.program.instructions = #[]) :
    ∀ i ∈ session.builder.program.instructions, i.IsWellFormed session.isa.traps := by
  rcases h.grows.program with ⟨added, hadded, hvalid⟩
  rw [hfirst] at hadded
  intro i hi
  apply hvalid
  rw [← Array.mem_toList_iff, hadded] at hi
  exact hi

end Continues

/-- An operation that fails leaves the builder as it was.  One that succeeds in adding an instruction
adds just that one, which is well-formed, and answers the index at which it is fetched ever after.
So a builder that was new once holds well-formed instructions only, and if all of them came from
operations, the indices answered are those from zero on, in order and without gaps. -/
theorem operations_atomic (limit : Nat) (session : Session) :
    (∀ command : Command, command.IsOperation -> ∀ failure : Failure,
      (session.apply limit command).1 = .error failure ->
        (session.apply limit command).2.builder = session.builder) ∧
    (∀ command : Command, command.AddsInstruction -> command.OffersBuilt session.isa.traps ->
      ∀ answer : Answer, (session.apply limit command).1 = .ok answer ->
        answer = .value (.int session.builder.program.size) ∧
        ∃ i : Instruction, i.IsWellFormed session.isa.traps ∧
          (session.apply limit command).2.builder =
            { session.builder with program := session.builder.program.push i } ∧
          ∀ (history : List (Command × Except Failure Answer)) (last : Session),
            Continues (session.apply limit command).2 history last ->
              last.builder.program.fetch (.int session.builder.program.size) = .ok i) ∧
    ∀ (first : Session) (history : List (Command × Except Failure Answer)),
      first.builder.program.instructions = #[] -> Continues first history session ->
        (∀ i ∈ session.builder.program.instructions, i.IsWellFormed session.isa.traps) ∧
        ((∀ entry ∈ history, ∀ text : String, entry.1 ≠ .assemble text) ->
          history.filterMap answeredIndex? = indices session.builder.program) := by
  refine ⟨?_, ?_, ?_⟩
  · intro command hoperation failure hfailure
    have hends := operation_ends limit hoperation session
    generalize session.apply limit command = result at hends hfailure ⊢
    cases hends with
    | refused hbuilder _ => exact hbuilder
    | added _ _ _ _ | done _ _ _ => cases hfailure
  · intro command hadds hbuilt answer hanswer
    have hoperation : command.IsOperation := by
      cases command with
      | statement _ | append _ => trivial
      | _ => exact hadds.elim
    have hends := operation_ends limit hoperation session
    generalize session.apply limit command = result at hends hanswer ⊢
    cases hends with
    | refused _ _ => cases hanswer
    | done hnot _ _ => exact absurd hadds hnot
    | @added i after _ hvalid hbuilder _ =>
        refine ⟨(Except.ok.inj hanswer).symm, i, hvalid hbuilt, hbuilder, ?_⟩
        intro history last hcontinues
        apply hcontinues.grows.program.fetch_eq
        dsimp only
        rw [hbuilder]
        exact session.builder.program.fetch_push i
  · intro first history hfirst hcontinues
    refine ⟨hcontinues.isWellFormed hfirst, ?_⟩
    intro hhistory
    rw [hcontinues.indices_eq hhistory]
    unfold indices Program.size
    rw [hfirst]
    rfl

theorem operations_atomic_refused :
    let add := Statement.add (.operand (.text "reg") (.int 7) (.text "R7")) (.int 0) (.int (-16))
    let added := (start false).apply 0 (.statement add)
    let refused := added.2.apply 0 (.statement (.not (.int 8) (.int 0)))
    let halted := refused.2.apply 0 (.append (.instruction (.trap Trap.haltVector)))
    (∃ failure : Failure, refused.1 = .error failure) ∧
      refused.2.builder = added.2.builder ∧
      added.1 = .ok (.value (.int 0)) ∧
      (∃ i : Instruction, i.IsWellFormed Isa.standard.traps ∧
        added.2.builder.program.fetch (.int 0) = .ok i ∧
        halted.2.builder.program.fetch (.int 0) = .ok i) ∧
      indices halted.2.builder.program = [0, 1] := by
  intro add added refused halted
  have hbuilt : (Command.append (.instruction (.trap Trap.haltVector))).OffersBuilt
      refused.2.isa.traps := by
    refine ⟨.trap, [.int Trap.haltVector], ?_⟩
    have hcontains : Isa.standard.traps.contains (.int Trap.haltVector) = true := by
      decide +kernel
    show some ((Instruction.ofVector Isa.standard.traps (.int Trap.haltVector)).map
      Candidate.instruction) = _
    unfold Instruction.ofVector
    dsimp only
    rw [if_pos hcontains]
    rfl
  have hlater : Continues added.2 _ halted.2 := .command 0 (.command 0 .start trivial trivial)
    trivial hbuilt
  have hadded : added.1 = .ok (.value (.int 0)) := rfl
  have hrefused : refused.1 = .error (.ofConfiguration (.invalidRegister (.int 8))) := rfl
  rcases operations_atomic 0 (start false) with ⟨-, hadds, -⟩
  rcases hadds (.statement add) trivial trivial _ hadded with ⟨-, i, hvalid, -, hfetch⟩
  rcases operations_atomic 0 added.2 with ⟨hatomic, -, -⟩
  rcases operations_atomic 0 halted.2 with ⟨-, -, hreached⟩
  rcases hreached (start false) _ rfl (.command 0 (.command 0 (.command 0 .start trivial trivial)
    trivial trivial) trivial hbuilt) with ⟨-, hindices⟩
  refine ⟨⟨_, hrefused⟩, hatomic _ trivial _ hrefused, hadded,
    ⟨i, hvalid, hfetch _ _ .start, hfetch _ _ hlater⟩, ?_⟩
  rw [← hindices]
  · rfl
  · intro entry hentry text htext
    simp only [List.nil_append, List.cons_append, List.mem_cons, List.not_mem_nil, or_false]
      at hentry
    rcases hentry with rfl | rfl | rfl <;> cases htext

end Session
end LittleComputer
