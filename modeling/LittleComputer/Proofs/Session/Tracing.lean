import LittleComputer.Proofs.Engine.Running
import LittleComputer.Session.Basic

/-!
# The trace of a session

A verbose session collects the records of every step that it takes.  Each step of a history of calls
is a moment, and the log is what the moments tell, one after another: an instruction with its number
since the engine was created or last reset, a halt after the instruction that halts, a fault, or
nothing once the run has ended.
-/

namespace LittleComputer
namespace Engine

/-!
# Logs and moments
-/

def logCall (log : Array Record) (engine : Engine) : Call -> Array Record
  | .step isa => (engine.drive isa (Session.observe true isa.traps) 1 none log).1.2
  | .run isa limit => (engine.drive isa (Session.observe true isa.traps) limit none log).1.2
  | .reset => log

def logFrom (log : Array Record) : List Call -> Engine -> Array Record
  | [], _ => log
  | call :: rest, engine => logFrom (engine.logCall log call) rest (engine.call call).2

def log (calls : List Call) (engine : Engine) : Array Record :=
  engine.logFrom #[] calls

/-- A step of a history of calls: the instruction set that it finds, the trail before it, and the
engine that takes it. -/
structure Moment where
  isa : Isa
  seen : List (Value × Instruction)
  engine : Engine

def momentsWithin (isa : Isa) : Nat -> List (Value × Instruction) -> Engine -> List Moment
  | 0, _, _ => []
  | limit + 1, seen, engine =>
      ⟨isa, seen, engine⟩ ::
        if (engine.step isa).1.isExecuted then
          momentsWithin isa limit (seen ++ (engine.performed? isa).toList) (engine.next isa)
        else []

def momentsOf (seen : List (Value × Instruction)) (engine : Engine) : Call -> List Moment
  | .step isa => [⟨isa, seen, engine⟩]
  | .run isa limit => momentsWithin isa limit seen engine
  | .reset => []

def momentsFrom (seen : List (Value × Instruction)) : List Call -> Engine -> List Moment
  | [], _ => []
  | call :: rest, engine =>
      engine.momentsOf seen call ++
        momentsFrom (engine.extendTrail seen call) rest (engine.call call).2

def moments (calls : List Call) (engine : Engine) : List Moment :=
  engine.momentsFrom [] calls

/-!
# Texts of a record
-/

theorem not_isRunning_of_fault {engine : Engine} {fault : Fault}
    (h : engine.run.fault = some fault) : ¬engine.IsRunning := by
  intro hrunning
  simp [hrunning.left] at h

theorem not_isRunning_of_halted {engine : Engine} (h : engine.run.halted = true) :
    ¬engine.IsRunning := by
  intro hrunning
  simp [hrunning.right] at h

theorem indexText_of_isInteger {index : Value} (h : index.IsInteger) :
    indexText index = toString index.toInt := by
  simp [indexText, Value.asInt?_of_isInteger h]

theorem flagText_of_isInteger {flag : Value} (h : flag.IsInteger) :
    flagText flag = toString flag.toInt := by
  unfold flagText
  cases flag with
  | int n =>
      cases hnumeral : (Value.int n).numeral with
      | error error => rfl
      | ok numeral =>
          have hwritten : numeral = toString n := by
            unfold Value.numeral at hnumeral
            dsimp only [Value.asInt?] at hnumeral
            split at hnumeral
            · exact (Except.ok.inj hnumeral).symm
            · cases hnumeral
          exact hwritten
  | bool b => cases b <;> rfl
  | float x | text s | null | operand kind value written => cases h

/-!
# What a moment tells
-/

namespace Moment

def records (moment : Moment) : List Record :=
  (moment.engine.next moment.isa).records moment.isa.traps (moment.engine.step moment.isa).1

def performed (moment : Moment) : List (Value × Instruction) :=
  (moment.engine.performed? moment.isa).toList

/-- The record of an instruction: its number since the engine was created or last reset, its index
and text, and the registers and the flag after it. -/
def entry (moment : Moment) (index : Value) (i : Instruction) : Record :=
  emulatorRecord .debug ("step " ++ toString (moment.seen.length + 1) ++ " @" ++
    toString index.toInt ++ " " ++ padRight 16 (i.text moment.isa.traps) ++ " regs=" ++
    listText (moment.engine.next moment.isa).processor.registers.toList ++ " flag=" ++
    toString (moment.engine.next moment.isa).processor.flagValue)

def haltEntry (moment : Moment) (index : Value) : Record :=
  emulatorRecord .info ("Halted at instruction " ++ toString index.toInt ++ " after " ++
    toString (moment.seen.length + 1) ++ " steps")

/-- The records of a step, by what it does. -/
inductive Tells (moment : Moment) : List Record -> Prop where
  | executed {index : Value} {i : Instruction} :
      moment.engine.performed? moment.isa = some (index, i) ->
      ¬i.IsHaltingTrap moment.isa.traps -> Tells moment [moment.entry index i]
  | halted {index : Value} {i : Instruction} :
      moment.engine.performed? moment.isa = some (index, i) ->
      i.IsHaltingTrap moment.isa.traps ->
      Tells moment [moment.entry index i, moment.haltEntry index]
  | faulted {fault : Fault} :
      moment.engine.IsRunning -> (moment.engine.step moment.isa).1 = .faulted fault ->
      Tells moment [emulatorRecord .warning ("Execution aborted: " ++ fault.message)]
  | ended : ¬moment.engine.IsRunning -> Tells moment []

section Tells

variable {moment : Moment} (hwhole : moment.engine.IsWhole)
  (hsteps : moment.engine.run.steps = moment.seen.length)
include hwhole hsteps

theorem trace_of_performed {i : Instruction} {effect : Effect}
    (hstep : moment.engine.step moment.isa =
      (if effect.halts then .halted else .executed, moment.engine.perform i effect)) :
    (moment.engine.next moment.isa).trace moment.isa.traps =
      [moment.entry moment.engine.run.index i] := by
  have hnext : moment.engine.next moment.isa = moment.engine.perform i effect :=
    congrArg Prod.snd hstep
  have hprevious :
      (moment.engine.next moment.isa).run.previous = some (moment.engine.run.index, i) := by
    rw [hnext]
    rfl
  have hnumber : (moment.engine.next moment.isa).run.steps = moment.seen.length + 1 := by
    rw [hnext, ← hsteps]
    rfl
  have hflag := flagText_of_isInteger
    (isWhole_next hwhole moment.isa).processor_isWhole.flag_isInteger
  unfold trace entry
  simp only [hprevious, hnumber, hflag, indexText_of_isInteger hwhole.index_isInteger]
  rfl

theorem tells_of_performed {i : Instruction} {effect : Effect}
    (hfetch : moment.engine.program.fetch moment.engine.run.index = .ok i)
    (heffect : moment.engine.effect moment.isa i = .ok effect)
    (hstep : moment.engine.step moment.isa =
      (if effect.halts then .halted else .executed, moment.engine.perform i effect)) :
    moment.Tells moment.records := by
  have hperformed := performed?_of_performed hstep hfetch
  have hhalts := Instruction.halts_outcome?_iff (outcome?_of_effect hwhole heffect)
  have htrace := trace_of_performed hwhole hsteps hstep
  unfold next at htrace
  rw [hstep] at htrace
  by_cases htrap : i.IsHaltingTrap moment.isa.traps
  · have hrecords : moment.records =
        [moment.entry moment.engine.run.index i, moment.haltEntry moment.engine.run.index] := by
      have hindex : (moment.engine.perform i effect).run.index = moment.engine.run.index :=
        if_pos (hhalts.mpr htrap)
      have hnumber : (moment.engine.perform i effect).run.steps = moment.seen.length + 1 :=
        congrArg Nat.succ hsteps
      simp [records, next, hstep, hhalts.mpr htrap, Engine.records, htrace, hindex, hnumber,
        haltEntry, indexText_of_isInteger hwhole.index_isInteger]
    rw [hrecords]
    exact .halted hperformed htrap
  · have hrecords : moment.records = [moment.entry moment.engine.run.index i] := by
      rw [records, next, hstep, if_neg (mt hhalts.mp htrap)]
      exact htrace
    rw [hrecords]
    exact .executed hperformed htrap

theorem tells_records : moment.Tells moment.records := by
  have houtcome := isOutcome_step moment.isa hwhole
  have hends := step_ends moment.isa moment.engine
  generalize hresult : moment.engine.step moment.isa = result at hends houtcome
  cases hends with
  | repeatedFault hfault =>
      rw [records, next, hresult]
      exact .ended (not_isRunning_of_fault hfault)
  | repeatedHalt _ hhalted =>
      rw [records, next, hresult]
      exact .ended (not_isRunning_of_halted hhalted)
  | failed error _ => exact absurd rfl (houtcome error)
  | outOfRange hrunning _ | faulted hrunning _ _ =>
      rw [records, next, hresult]
      exact .faulted hrunning (congrArg Prod.fst hresult)
  | performed _ hfetch heffect => exact tells_of_performed hwhole hsteps hfetch heffect hresult

end Tells

end Moment

/-!
# Histories of calls
-/

section Keeping

variable {P : List (Value × Instruction) -> Engine -> Prop}
  (hstep : ∀ (isa : Isa) (seen : List (Value × Instruction)) (engine : Engine),
    P seen engine -> P (seen ++ (engine.performed? isa).toList) (engine.next isa))
include hstep

theorem holds_momentsWithin {isa : Isa} {limit : Nat}
    {seen : List (Value × Instruction)} {engine : Engine} (h : P seen engine) :
    ∀ moment ∈ momentsWithin isa limit seen engine, P moment.seen moment.engine := by
  induction limit generalizing seen engine with
  | zero => simp [momentsWithin]
  | succ limit ih =>
      intro moment hmoment
      rcases List.mem_cons.mp hmoment with rfl | hmoment
      · exact h
      · split at hmoment
        · exact ih (hstep isa seen engine h) moment hmoment
        · cases hmoment

theorem holds_momentsFrom
    (hreset : ∀ (seen : List (Value × Instruction)) (engine : Engine),
      P seen engine -> P [] engine.reset)
    {calls : List Call} {seen : List (Value × Instruction)} {engine : Engine} (h : P seen engine) :
    ∀ moment ∈ engine.momentsFrom seen calls, P moment.seen moment.engine := by
  induction calls generalizing seen engine with
  | nil => simp [momentsFrom]
  | cons call rest ih =>
      intro moment hmoment
      rcases List.mem_append.mp hmoment with hmoment | hmoment
      · cases call with
        | step isa =>
            rw [List.mem_singleton.mp hmoment]
            exact h
        | run isa limit => exact holds_momentsWithin hstep h moment hmoment
        | reset => cases hmoment
      · have hnext : P (engine.trailFrom seen [call]) (engine.after [call]) :=
          holds_trailFrom (Q := fun _ => True) (fun isa seen engine _ => hstep isa seen engine) hreset
            (fun _ _ _ _ => trivial) h
        exact ih hnext moment hmoment

end Keeping

theorem performed_momentsWithin (isa : Isa) (limit : Nat)
    (seen : List (Value × Instruction)) (engine : Engine) :
    (momentsWithin isa limit seen engine).flatMap Moment.performed =
      engine.performedWithin isa limit := by
  induction limit generalizing seen engine with
  | zero => rfl
  | succ limit ih =>
      cases hexecuted : (engine.step isa).1.isExecuted with
      | true => simp [momentsWithin, performedWithin, hexecuted, ih, Moment.performed]
      | false => simp [momentsWithin, performedWithin, hexecuted, Moment.performed]

/-- Between resets, the moments carry out the trail. -/
theorem trailFrom_eq_append {calls : List Call} (h : Call.reset ∉ calls)
    (seen : List (Value × Instruction)) (engine : Engine) :
    engine.trailFrom seen calls =
      seen ++ (engine.momentsFrom seen calls).flatMap Moment.performed := by
  induction calls generalizing seen engine with
  | nil => simp [trailFrom, momentsFrom]
  | cons call rest ih =>
      have hrest : Call.reset ∉ rest := fun hmem => h (List.mem_cons_of_mem call hmem)
      have hcall : engine.extendTrail seen call =
          seen ++ (engine.momentsOf seen call).flatMap Moment.performed := by
        cases call with
        | step isa => simp [extendTrail, momentsOf, Moment.performed]
        | run isa limit => simp [extendTrail, momentsOf, performed_momentsWithin]
        | reset => exact absurd (List.mem_cons_self ..) h
      rw [trailFrom, ih hrest, momentsFrom, List.flatMap_append, ← List.append_assoc, ← hcall]

theorem log_drive (isa : Isa) (limit : Nat) (last : Option Event) (log : Array Record)
    (seen : List (Value × Instruction)) (engine : Engine) :
    (engine.drive isa (Session.observe true isa.traps) limit last log).1.2.toList =
      log.toList ++ (momentsWithin isa limit seen engine).flatMap Moment.records := by
  induction limit generalizing last log seen engine with
  | zero => simp [drive, momentsWithin]
  | succ limit ih =>
      have hrecords :
          (Session.observe true isa.traps (engine.next isa) (engine.step isa).1
            log).toList = log.toList ++ (Moment.mk isa seen engine).records := by
        simp [Session.observe, Moment.records]
      cases hexecuted : (engine.step isa).1.isExecuted with
      | true =>
          rw [drive_of_executed _ hexecuted, ih _ _ (seen ++ (engine.performed? isa).toList),
            hrecords]
          simp [momentsWithin, hexecuted]
      | false =>
          rw [drive_of_not_executed _ hexecuted, hrecords]
          simp [momentsWithin, hexecuted]

theorem log_call (call : Call) (log : Array Record) (seen : List (Value × Instruction))
    (engine : Engine) :
    (engine.logCall log call).toList =
      log.toList ++ (engine.momentsOf seen call).flatMap Moment.records := by
  cases call with
  | step isa =>
      have hone := log_drive isa 1 none log seen engine
      have hmoments : momentsWithin isa 1 seen engine = [⟨isa, seen, engine⟩] := by
        simp [momentsWithin]
      rw [hmoments] at hone
      exact hone
  | run isa limit => exact log_drive isa limit none log seen engine
  | reset => simp [logCall, momentsOf]

theorem log_calls (calls : List Call) (log : Array Record) (seen : List (Value × Instruction))
    (engine : Engine) :
    (engine.logFrom log calls).toList =
      log.toList ++ (engine.momentsFrom seen calls).flatMap Moment.records := by
  induction calls generalizing log seen engine with
  | nil => simp [logFrom, momentsFrom]
  | cons call rest ih =>
      rw [logFrom, ih _ (engine.extendTrail seen call), log_call call log seen, momentsFrom,
        List.flatMap_append, List.append_assoc]

theorem logFrom_append (log : Array Record) (calls later : List Call) (engine : Engine) :
    engine.logFrom log (calls ++ later) =
      (engine.after calls).logFrom (engine.logFrom log calls) later := by
  induction calls generalizing log engine with
  | nil => rfl
  | cons call rest ih =>
      rw [after_cons, List.cons_append]
      exact ih (engine.logCall log call) (engine.call call).2

theorem records_of_not_running {engine : Engine} (h : ¬engine.IsRunning) (isa : Isa) :
    (engine.next isa).records isa.traps (engine.step isa).1 = [] ∧
      (engine.step isa).1.isExecuted = false := by
  unfold next
  cases hfault : engine.run.fault with
  | some fault =>
      rw [step_of_faulted hfault]
      exact ⟨rfl, rfl⟩
  | none =>
      have hhalted : engine.run.halted = true := by
        by_contra hne
        exact h ⟨hfault, Bool.eq_false_iff.mpr hne⟩
      rw [step_of_hasHalted ⟨hhalted, hfault⟩]
      exact ⟨rfl, rfl⟩

theorem logCall_of_not_running {engine : Engine} (h : ¬engine.IsRunning) (log : Array Record)
    (call : Call) : engine.logCall log call = log := by
  have hdrive : ∀ (isa : Isa) (limit : Nat),
      (engine.drive isa (Session.observe true isa.traps) limit none log).1.2 = log := by
    intro isa limit
    rcases records_of_not_running h isa with ⟨hrecords, hexecuted⟩
    cases limit with
    | zero => rfl
    | succ limit =>
        rw [drive_of_not_executed _ hexecuted]
        simp [Session.observe, hrecords]
  cases call with
  | step isa => exact hdrive isa 1
  | run isa limit => exact hdrive isa limit
  | reset => rfl

/-- What an engine logs is what its steps tell, in their order: each instruction that is carried
out, with its number since the engine was created or last reset, and right after a halting trap the
halt; or the fault that ends the run.  Without a reset, its steps carry out its trail.  A reset logs
nothing, and neither does any call once the run has ended. -/
theorem log_exact {processor : Processor} (hprocessor : processor.IsWhole) {program : Program}
    (hlabels : program.labels.AreIntegers) (calls : List Call) :
    let engine := create processor program
    (engine.log calls).toList = (engine.moments calls).flatMap Moment.records ∧
    (∀ moment ∈ engine.moments calls, moment.Tells moment.records) ∧
    (Call.reset ∉ calls ->
      (engine.moments calls).flatMap Moment.performed = engine.trail calls) ∧
    ∀ call : Call, call = .reset ∨ ¬(engine.after calls).IsRunning ->
      engine.log (calls ++ [call]) = engine.log calls := by
  intro engine
  refine ⟨?_, ?_, ?_, ?_⟩
  · exact (log_calls calls #[] [] engine).trans (List.nil_append _)
  · have hcreated : OnTheWay program engine ∧ engine.run.steps = 0 :=
      ⟨.create hprocessor hlabels, rfl⟩
    intro moment hmoment
    have hhere := holds_momentsFrom
      (P := fun seen engine => OnTheWay program engine ∧ engine.run.steps = seen.length)
      (fun isa _ _ h => ⟨h.left.next isa, steps_next h.right⟩)
      (fun _ _ h => ⟨h.left.reset hlabels, rfl⟩) hcreated moment hmoment
    exact Moment.tells_records hhere.left.isWhole hhere.right
  · intro hreset
    exact (trailFrom_eq_append hreset [] engine).symm
  · intro call hcall
    show engine.logFrom #[] (calls ++ [call]) = _
    rw [logFrom_append]
    show (engine.after calls).logCall (engine.log calls) call = engine.log calls
    rcases hcall with hreset | hended
    · rw [hreset]
      rfl
    · exact logCall_of_not_running hended _ call

theorem log_exact_reset :
    let isa := Isa.bare.activate [⟨"NOT", "", [["reg", "reg"]], .not⟩,
      ⟨"TRAP", "", [["trapvect8"]], .trap⟩]
    let program : Program := ⟨#[.not 1 2, .trap 25], .empty, none, true⟩
    let engine := create .initial program
    let calls : List Call := [.step isa, .reset, .run isa 9]
    Processor.initial.IsWhole ∧ program.labels.AreIntegers ∧
      engine.log (calls ++ [.step isa]) = engine.log calls ∧
      (engine.log calls).toList.map Record.message =
        ["step 1 @0 NOT R1, R2       regs=[0, -1, 0, 0, 0, 0, 0, 0] flag=-1",
          "step 1 @0 NOT R1, R2       regs=[0, -1, 0, 0, 0, 0, 0, 0] flag=-1",
          "step 2 @1 TRAP x25         regs=[0, -1, 0, 0, 0, 0, 0, 0] flag=-1",
          "Halted at instruction 1 after 2 steps"] := by
  intro isa program engine calls
  have hprocessor := Processor.isWhole_initial
  have hlabels : program.labels.AreIntegers := Labels.areIntegers_empty
  have hended : ¬(engine.after calls).IsRunning := by
    apply not_isRunning_of_halted
    decide +kernel
  rcases log_exact hprocessor hlabels calls with ⟨hlog, -, -, hquiet⟩
  refine ⟨hprocessor, hlabels, hquiet _ (Or.inr hended), ?_⟩
  rw [hlog]
  decide +kernel

end Engine

/-!
# Commands of sessions
-/

namespace Session

def callOf? (limit : Nat) (isa : Isa) : EngineCommand -> Option Engine.Call
  | .step count => some (.run isa count)
  | .run => some (.run isa limit)
  | .reset => some .reset
  | .create | .trace _ => none

theorem applyEngine_eq_call {session : Session} (hverbose : session.verbose = true) {run : Run}
    (hrun : session.builder.run = some run) {limit : Nat} {command : EngineCommand}
    {call : Engine.Call} (hcall : callOf? limit session.isa command = some call) :
    let engine : Engine := ⟨session.builder.processor, session.builder.program, run⟩
    let after := (engine.call call).2
    (session.applyEngine limit command).2 =
      { session with
        builder := ⟨after.program, after.processor, some after.run⟩
        log := engine.logCall session.log call } := by
  rcases session with ⟨⟨program, processor, found⟩, isa, manager, file, depth, saved, verbose, log⟩
  cases hverbose
  cases hrun
  have hdrive : ∀ count : Nat,
      Engine.drive isa (observe true isa.traps) count none log
          ⟨processor, program, run⟩ =
        (((Engine.call ⟨processor, program, run⟩ (.run isa count)).1,
          Engine.logCall log ⟨processor, program, run⟩ (.run isa count)),
          (Engine.call ⟨processor, program, run⟩ (.run isa count)).2) := by
    intro count
    rcases Engine.drive_observe isa (observe true isa.traps)
      (fun _ _ seen => seen) count none log () ⟨processor, program, run⟩ with ⟨hevent, hlast⟩
    exact Prod.ext (Prod.ext hevent rfl) hlast
  cases command with
  | create | trace count => cases hcall
  | reset =>
      cases hcall
      rfl
  | run =>
      cases hcall
      simp [applyEngine, onBuilderObserved, Builder.runEngine, hdrive]
  | step count =>
      cases hcall
      simp [applyEngine, onRun, onBuilderObserved, hdrive]

end Session
end LittleComputer
