import LittleComputer.Session.Command

/-!
# Sessions

A session holds one builder, the registries that all its builders share, one manager of sheets, the
file that sheets are loaded from, the depth to which its text may be nested, and a saved copy of
labels.  A command answers or fails, and in either case leaves a session for the next one.  Records
are collected in a verbose session only.
-/

namespace LittleComputer

structure Session where
  builder : Builder
  isa : Isa
  manager : Manager
  file : Sheet.FileContent
  depth : Nat
  saved : Table Key Value
  verbose : Bool
  log : Array Record

namespace Session

def start (verbose : Bool) : Session where
  builder := .empty
  isa := .standard
  manager := .standard
  file := .missing
  depth := Json.standardDepth
  saved := ∅
  verbose := verbose
  log := #[]

/-! ## Reports -/

def note (records : List Record) (session : Session) : Session :=
  if session.verbose then { session with log := session.log ++ records } else session

/-- Reports if anybody asks, and answers what the report breaks off at. -/
def report (report : Report) (session : Session) : Option NumeralError × Session :=
  if session.verbose then (report.obstacle, session.note report.records) else (none, session)

def clearLog (session : Session) : Session :=
  { session with log := #[] }

def observe (verbose : Bool) (traps : Traps) (engine : Engine) (event : Event)
    (log : Array Record) : Array Record :=
  if verbose then log ++ engine.records traps event else log

/-! ## Parts of a session -/

def onBuilder {α : Type} (change : Isa -> Builder -> α × Builder) (session : Session) :
    α × Session :=
  match session with
  | ⟨builder, isa, manager, file, depth, saved, verbose, log⟩ =>
    match change isa builder with
    | (answer, builder) => (answer, ⟨builder, isa, manager, file, depth, saved, verbose, log⟩)

def onBuilderObserved {α : Type}
    (change : Isa -> Bool -> Array Record -> Builder -> α × Array Record × Builder)
    (session : Session) : α × Session :=
  match session with
  | ⟨builder, isa, manager, file, depth, saved, verbose, log⟩ =>
    match change isa verbose log builder with
    | (answer, log, builder) =>
        (answer, ⟨builder, isa, manager, file, depth, saved, verbose, log⟩)

def withLabels (labels : Labels) (session : Session) : Session :=
  (session.onBuilder fun _ builder =>
    builder.onProgram fun program => ((), { program with labels := labels })).2

/-! ## Labels -/

def bindLabels (report : Report) (bound : Except ConfigurationError Labels)
    (session : Session) : Except Failure Answer × Session :=
  match session.report report with
  | (some obstacle, session) => (.error (.ofNumeral obstacle), session)
  | (none, session) =>
    match bound with
    | .ok labels => (.ok .nothing, session.withLabels labels)
    | .error error => (.error (.ofConfiguration error), session)

def unbound (name : Value) : Failure :=
  .fault ⟨.unboundLabel name, none, ""⟩

def applyLabels (session : Session) : LabelCommand -> Except Failure Answer × Session
  | .bind name value =>
      let labels := session.builder.program.labels
      session.bindLabels (labels.bindReport name value) (labels.bind name value)
  | .define name value =>
      let labels := session.builder.program.labels
      session.bindLabels (labels.defineReport name value) (labels.define name value)
  | .store name value =>
      let labels := session.builder.program.labels
      if labels.contains name then
        match value.asInt? with
        | some n => (.ok .nothing, session.withLabels (labels.store name n))
        | none => (.error .wrongType, session)
      else (.error (unbound name), session)
  | .freeze => (.ok .nothing, session.withLabels session.builder.program.labels.freeze)
  | .lookUp name =>
      match session.builder.program.labels.resolve? name with
      | some value => (.ok (.value value), session)
      | none => (.error (unbound name), session)
  | .find name =>
      (.ok (.value ((session.builder.program.labels.get? name).getD .null)), session)
  | .contains name =>
      (.ok (.value (.bool (session.builder.program.labels.contains name))), session)
  | .size => (.ok (.value (.int session.builder.program.labels.table.size)), session)
  | .names =>
      (.ok (.values (session.builder.program.labels.table.keys.map Key.value)), session)
  | .entries => (.ok (.labels session.builder.program.labels.entries), session)
  | .save => (.ok .nothing, { session with saved := session.builder.program.labels.table })
  | .pokeSaved name value =>
      (.ok .nothing, { session with saved := session.saved.insert ⟨name⟩ value })
  | .restoreSaved =>
      (.ok .nothing,
        session.withLabels (session.builder.program.labels.restore session.saved))
  | .restore entries =>
      let table := Table.ofList (entries.map fun entry => (⟨entry.1⟩, entry.2))
      (.ok .nothing, session.withLabels (session.builder.program.labels.restore table))

/-! ## Processor -/

def orOutOfBounds (value : Option Value) : Except Failure Answer :=
  match value with
  | some value => .ok (.value value)
  | none => .error .outOfBounds

/-- Writes cells from left to right up to the first that cannot be written. -/
def loadCells (cells : List (Value × Value)) (processor : Processor) :
    Except Failure Answer × Processor :=
  let (cells, isWhole) := Cells.integers cells
  match processor.load cells with
  | (processor, false) => (.error .outOfBounds, processor)
  | (processor, true) => (if isWhole then .ok .nothing else .error .wrongType, processor)

def processorAnswer (command : ProcessorCommand) (processor : Processor) :
    Except Failure Answer × Processor :=
  match command with
  | .readRegister index =>
      match index.asInt? with
      | some index => (orOutOfBounds (processor.register? index), processor)
      | none => (.error .wrongType, processor)
  | .writeRegister index value =>
      match index.asInt?, value.asInt? with
      | some index, some value =>
          match processor.setRegister? index value with
          | some changed => (.ok (.value (.int (Word.signed value))), changed)
          | none => (.error .outOfBounds, processor)
      | _, _ => (.error .wrongType, processor)
  | .read address =>
      match address.asInt? with
      | some address => (orOutOfBounds (processor.read? address), processor)
      | none => (.error .wrongType, processor)
  | .write address value => loadCells [(address, value)] processor
  | .reset => (.ok .nothing, .initial)
  | .load cells => loadCells cells.pairs processor
  | .setFlag value => (.ok .nothing, { processor with flag := value })

/-! ## Engine -/

def stepsAnswer (answer : Answer) (event : Option Event) : Except Failure Answer :=
  match event with
  | some (.failed error) => .error (.ofAccess error)
  | _ => .ok answer

def idleAnswer (count : Nat) (answer : Answer) : Except Failure Answer :=
  if count = 0 then .ok answer else .error .noSuchOperation

def onRun (idle : Except Failure Answer) (change : Isa -> Bool -> Array Record -> Engine ->
    (Except Failure Answer × Array Record) × Engine) (session : Session) :
    Except Failure Answer × Session :=
  session.onBuilderObserved fun isa verbose log builder =>
    match builder with
    | ⟨program, processor, none⟩ => (idle, log, ⟨program, processor, none⟩)
    | ⟨program, processor, some run⟩ =>
      match change isa verbose log ⟨processor, program, run⟩ with
      | ((answer, log), ⟨processor, program, run⟩) =>
          (answer, log, ⟨program, processor, some run⟩)

def applyEngine (limit : Nat) (session : Session) :
    EngineCommand -> Except Failure Answer × Session
  | .create => session.onBuilder fun _ builder => (.ok .nothing, builder.startRun)
  | .reset =>
      session.onRun (.error .noSuchOperation) fun _ _ log engine =>
        ((.ok .nothing, log), engine.reset)
  | .run =>
      session.onBuilderObserved fun isa verbose log builder =>
        match builder.runEngine isa (observe verbose isa.traps) limit log with
        | (answer, log, builder) => (answer.map fun steps => .value (.int steps), log, builder)
  | .step count =>
      session.onRun (idleAnswer count (.outcome none)) fun isa verbose log engine =>
        match engine.drive isa (observe verbose isa.traps) count none log with
        | ((event, log), engine) => ((stepsAnswer (.outcome event) event, log), engine)
  | .trace count =>
      session.onRun (idleAnswer count (.trace #[] none)) fun isa verbose log engine =>
        let seen : Array Engine.Row × Array Record := (#[], log)
        let watch (engine : Engine) (event : Event) :
            Array Engine.Row × Array Record -> Array Engine.Row × Array Record
          | (rows, log) => (rows.push engine.row, observe verbose isa.traps engine event log)
        match engine.drive isa watch count none seen with
        | ((event, (rows, log)), engine) =>
            ((stepsAnswer (.trace rows event) event, log), engine)

/-! ## Sheets -/

def loadFrom (source : SheetSource) (answer : Sheet -> Answer) (session : Session) :
    Except Failure Answer × Session :=
  match Manager.load session.depth session.file source session.isa with
  | .error error => (.error (.ofLoad error), session)
  | .ok (sheet, isa) =>
      let session := session.note [Manager.loadRecord source sheet]
      (.ok (answer sheet),
        { session with isa := isa, manager := { session.manager with active := some sheet } })

/-- Makes a new manager, which loads its sheet at once; if that fails, the old one stays. -/
def makeManager (source : SheetSource) (session : Session) : Except Failure Answer × Session :=
  match session.loadFrom source (fun _ => .nothing) with
  | (.error failure, session) => (.error failure, session)
  | (.ok answer, session) =>
      (.ok answer, { session with manager := { session.manager with source := source } })

def applySheet (session : Session) : SheetCommand -> Except Failure Answer × Session
  | .load content =>
      { session with file := content }.loadFrom .file fun sheet => .sheet (some sheet)
  | .loadDefault => session.loadFrom session.manager.source fun sheet => .value (.text sheet.name)
  | .newManager none => session.makeManager .bundled
  | .newManager (some content) => { session with file := content }.makeManager .file
  | .active => (.ok (.sheet session.manager.active), session)

/-! ## Registries -/

def applyRegistry (session : Session) : RegistryCommand -> Except Failure Answer × Session
  | .definitions => (.ok (.definitions session.isa.definitions.entries), session)
  | .setDefinitions definitions isWhole =>
      (if isWhole then .ok .nothing else .error .noSuchOperation,
        { session with isa := session.isa.activate definitions })
  | .withExecutor mnemonic executor =>
      (.ok .nothing, { session with isa := session.isa.withExecutor mnemonic executor })
  | .executor mnemonic => (.ok (.executor (session.isa.executor? mnemonic)), session)
  | .withTrap trap => (.ok .nothing, { session with isa := session.isa.withTrap trap })
  | .trap vector => (.ok (.trap (session.isa.traps.get? ⟨vector⟩)), session)
  | .trapOfOperand written =>
      match session.isa.traps.ofOperand written.toList with
      | .ok found => (.ok (.trap found), session)
      | .error _ => (.error .noSuchOperation, session)
  | .traps => (.ok (.traps session.isa.traps.values), session)

/-! ## Commands -/

def indexAnswer (result : Except ConfigurationError (Option Nat)) : Except Failure Answer :=
  match result with
  | .ok (some index) => .ok (.value (.int index))
  | .ok none => .ok .nothing
  | .error error => .error (.ofConfiguration error)

def assemble (text : String) (session : Session) : Except Failure Answer × Session :=
  let verbose := session.verbose
  let (result, session) := session.onBuilder fun isa builder =>
    builder.onProgram fun program =>
      match Source.assemble isa.traps verbose text program with
      | (error, assembly) => ((error, assembly.log), assembly.program)
  let session := session.note result.2.toList
  match result.1 with
  | none => (.ok (.value (.bool true)), session)
  | some error => (.error (.ofAssembly error), session)

def execute (limit : Nat) (session : Session) : Except Failure Answer × Session :=
  session.onBuilderObserved fun isa verbose log builder =>
    let announce (records : List Record) (log : Array Record) : Array Record :=
      if verbose then log ++ records else log
    match builder.execute isa announce (observe verbose isa.traps) limit log with
    | (answer, log, builder) => (answer.map fun steps => .value (.int steps), log, builder)

def perform (statement : Statement) (session : Session) : Except Failure Answer × Session :=
  match session.report (session.builder.program.performReport statement) with
  | (some obstacle, session) => (.error (.ofNumeral obstacle), session)
  | (none, session) =>
    let (result, session) := session.onBuilder fun isa builder =>
      builder.onProgram (Program.perform isa.traps statement)
    (indexAnswer result, session)

def apply (limit : Nat) (command : Command) (session : Session) :
    Except Failure Answer × Session :=
  match command with
  | .newBuilder processor =>
      (.ok .nothing, { session with builder := .ofProcessor (processor.getD .initial) })
  | .statement statement => session.perform statement
  | .append candidate =>
      let (result, session) := session.onBuilder fun _ builder =>
        builder.onProgram fun program => program.append candidate
      (indexAnswer (result.map some), session)
  | .assemble text => session.assemble text
  | .execute => session.execute limit
  | .writeMemory address value =>
      let (result, session) := session.onBuilder fun _ builder => builder.writeMemory address value
      (result.map fun _ => .nothing, session)
  | .readMemory address => ((session.builder.readMemory address).map .value, session)
  | .readRegister register => ((session.builder.readRegister register).map .value, session)
  | .flag => (.ok (.value session.builder.processor.flag), session)
  | .current => (.ok (.value (.int session.builder.program.size)), session)
  | .fetch index =>
      match session.builder.program.fetch index with
      | .ok instruction => (.ok (.value (.text (instruction.text session.isa.traps))), session)
      | .error .outOfRange =>
          let size := session.builder.program.size
          (.error (.fault ⟨.outOfRange index size, none, ""⟩), session)
      | .error .wrongType => (.error .wrongType, session)
  | .freeze =>
      session.onBuilder fun _ builder =>
        builder.onProgram fun program => (.ok .nothing, program.freeze)
  | .dump => (.ok (.program session.builder.program), session)
  | .validate =>
      match session.isa.validate session.builder.program with
      | some error => (.error (.validation error), session)
      | none => (.ok .nothing, session)
  | .labels command => session.applyLabels command
  | .processor command =>
      session.onBuilder fun _ builder => builder.onProcessor (processorAnswer command)
  | .engine command => session.applyEngine limit command
  | .sheet command => session.applySheet command
  | .registry command => session.applyRegistry command

/-- Applies a command a number of times, up to its first failure.  The answer is the last one;
`last` is the one before the first time. -/
def applyTimes (limit : Nat) (command : Command) :
    Nat -> Except Failure Answer -> Session -> Except Failure Answer × Session
  | 0, last, session => (last, session)
  | times + 1, _, session =>
      match session.apply limit command with
      | (.ok answer, session) => applyTimes limit command times (.ok answer) session
      | (.error failure, session) => (.error failure, session)

end Session
end LittleComputer
