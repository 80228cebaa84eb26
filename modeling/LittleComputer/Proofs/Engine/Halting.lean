import LittleComputer.Proofs.Engine.Trail
import LittleComputer.Proofs.Engine.Unbound

/-!
# Where a run halts

A run halts at the last instruction of its trail, which is a trap that stops the machine and is the
only one in the trail, or it ends with a fault.  An index without an instruction is no way to halt:
it is the fault of every step from there.
-/

namespace LittleComputer

def Instruction.IsHaltingTrap (traps : Traps) (i : Instruction) : Prop :=
  ∃ (vector : Int) (trap : Trap), i = .trap vector ∧ traps.get? (.int vector) = some trap ∧
    trap.halts.isFalsy = false

namespace Traps

theorem halts_iff {traps : Traps} {vector : Int} :
    traps.halts vector = true ↔
      ∃ trap : Trap, traps.get? (.int vector) = some trap ∧ trap.halts.isFalsy = false := by
  unfold halts
  cases traps.get? (.int vector) with
  | none => simp
  | some trap => simp

end Traps

theorem Instruction.halts_outcome?_iff {traps : Traps} {labels : Labels} {processor : Processor}
    {i : Instruction} {effect : Effect} (h : i.outcome? traps labels processor = some effect) :
    effect.halts = true ↔ i.IsHaltingTrap traps := by
  have hother : (∀ vector : Int, i ≠ .trap vector) -> effect.halts = false ->
      (effect.halts = true ↔ i.IsHaltingTrap traps) := by
    intro hne hhalts
    constructor
    · intro htrue
      rw [hhalts] at htrue
      cases htrue
    · rintro ⟨vector, -, hi, -⟩
      exact absurd hi (hne vector)
  cases i with
  | trap vector =>
      have hhalts : effect.halts = traps.halts vector := by
        cases h
        cases traps.halts vector <;> rfl
      rw [hhalts, Traps.halts_iff]
      constructor
      · rintro ⟨trap, htrap⟩
        exact ⟨vector, trap, rfl, htrap⟩
      · rintro ⟨other, trap, hi, htrap⟩
        cases hi
        exact ⟨trap, htrap⟩
  | addRegister dest src1 src2 | addImmediate dest src1 imm | andRegister dest src1 src2
  | andImmediate dest src1 imm | not dest src =>
      refine hother (fun vector hi => by cases hi) ?_
      cases h
      rfl
  | branch condition label =>
      refine hother (fun vector hi => by cases hi) ?_
      rcases Option.map_eq_some_iff.mp h with ⟨target, -, rfl⟩
      split <;> rfl
  | load dest label | loadIndirect dest label | store src label | storeIndirect src label =>
      refine hother (fun vector hi => by cases hi) ?_
      rcases Option.map_eq_some_iff.mp h with ⟨value, -, rfl⟩
      rfl

namespace Engine

def HasHalted (engine : Engine) : Prop :=
  engine.run.halted = true ∧ engine.run.fault = none

def IsOutOfRange (engine : Engine) : Prop :=
  ∀ i : Instruction, engine.program.fetch engine.run.index ≠ .ok i

def IsRangeFault (engine : Engine) (fault : Fault) : Prop :=
  fault.cause = .outOfRange engine.run.index engine.program.size

/-!
# Engines and their trails
-/

/-- How an engine stands after the instructions of its trail.  Only the last one of them can be a
halting trap, and if it is one, the engine has halted there. -/
inductive Stands (traps : Traps) (seen : List (Value × Instruction)) (engine : Engine) : Prop where
  | running :
      engine.IsRunning -> (∀ entry ∈ seen, ¬entry.2.IsHaltingTrap traps) ->
      Stands traps seen engine
  | faulted {fault : Fault} :
      engine.run.fault = some fault -> engine.run.halted = true ->
      (engine.IsOutOfRange -> engine.IsRangeFault fault) ->
      (∀ entry ∈ seen, ¬entry.2.IsHaltingTrap traps) -> Stands traps seen engine
  | halted {before : List (Value × Instruction)} {i : Instruction} :
      engine.HasHalted -> seen = before ++ [(engine.run.index, i)] -> i.IsHaltingTrap traps ->
      (∀ entry ∈ before, ¬entry.2.IsHaltingTrap traps) -> Stands traps seen engine

/-- An engine on its way through a program, and the instructions of its trail, each of which stands
in the program at its index.  The last one is the one that the engine remembers. -/
structure Follows (program : Program) (traps : Traps) (seen : List (Value × Instruction))
    (engine : Engine) : Prop where
  onTheWay : OnTheWay program engine
  index_isInteger : ∀ entry ∈ seen, entry.1.IsInteger
  fetch_eq : ∀ entry ∈ seen, program.fetch entry.1 = .ok entry.2
  previous_eq : engine.run.previous = seen.getLast?
  stands : Stands traps seen engine

section Follows

variable {program : Program} {traps : Traps}

theorem Follows.create {processor : Processor} (hprocessor : processor.IsWhole)
    (hlabels : program.labels.AreIntegers) :
    Follows program traps [] (create processor program) where
  onTheWay := .create hprocessor hlabels
  index_isInteger := by
    intro entry hentry
    cases hentry
  fetch_eq := by
    intro entry hentry
    cases hentry
  previous_eq := rfl
  stands := by
    refine .running ⟨rfl, rfl⟩ ?_
    intro entry hentry
    cases hentry

theorem Follows.reset (hlabels : program.labels.AreIntegers)
    {seen : List (Value × Instruction)} {engine : Engine} (h : Follows program traps seen engine) :
    Follows program traps [] engine.reset where
  onTheWay := h.onTheWay.reset hlabels
  index_isInteger := by
    intro entry hentry
    cases hentry
  fetch_eq := by
    intro entry hentry
    cases hentry
  previous_eq := rfl
  stands := by
    refine .running ⟨rfl, rfl⟩ ?_
    intro entry hentry
    cases hentry

theorem stands_abort {seen : List (Value × Instruction)} {engine : Engine} {fault : Fault}
    (hfault : engine.IsOutOfRange -> engine.IsRangeFault fault)
    (hnone : ∀ entry ∈ seen, ¬entry.2.IsHaltingTrap traps) :
    Stands traps seen (engine.abort fault).2 :=
  .faulted rfl rfl hfault hnone

theorem stands_perform {seen : List (Value × Instruction)} {engine : Engine}
    (hrunning : engine.IsRunning) {i : Instruction} {effect : Effect}
    (hhalts : effect.halts = true ↔ i.IsHaltingTrap traps)
    (hnone : ∀ entry ∈ seen, ¬entry.2.IsHaltingTrap traps) :
    Stands traps (seen ++ [(engine.run.index, i)]) (engine.perform i effect) := by
  cases heffect : effect.halts with
  | true =>
      have hindex : (engine.perform i effect).run.index = engine.run.index := by
        show (if effect.halts then engine.run.index else _) = _
        rw [if_pos heffect]
      have hseen : seen ++ [(engine.run.index, i)] =
          seen ++ [((engine.perform i effect).run.index, i)] := by
        rw [hindex]
      exact .halted ⟨heffect, hrunning.left⟩ hseen (hhalts.mp heffect) hnone
  | false =>
      refine .running ⟨hrunning.left, heffect⟩ ?_
      intro entry hentry
      rcases List.mem_append.mp hentry with hentry | hentry
      · exact hnone entry hentry
      · rw [List.mem_singleton.mp hentry]
        intro htrap
        rw [hhalts.mpr htrap] at heffect
        cases heffect

theorem Stands.next {isa : Isa} (hisa : isa.traps = traps) {seen : List (Value × Instruction)}
    {engine : Engine} (hwhole : engine.IsWhole) (h : Stands traps seen engine) :
    Stands traps (seen ++ (engine.performed? isa).toList) (engine.next isa) := by
  have hsame : (engine.step isa).1.isPerformed = false ->
      seen ++ (engine.performed? isa).toList = seen := by
    intro hevent
    exact append_performed?_of_not_performed hevent seen
  have hquiet : engine.IsRunning -> ∀ entry ∈ seen, ¬entry.2.IsHaltingTrap traps := by
    rintro ⟨hfault, hhalted⟩
    cases h with
    | running _ hnone | faulted _ _ _ hnone => exact hnone
    | halted hended _ _ _ =>
        rw [hended.left] at hhalted
        cases hhalted
  have hends := step_ends isa engine
  unfold Engine.next
  generalize hresult : engine.step isa = result at hends hsame ⊢
  cases hends with
  | repeatedFault _ | repeatedHalt _ _ | failed _ _ =>
      rw [hsame rfl]
      exact h
  | outOfRange hrunning _ =>
      rw [hsame rfl]
      refine stands_abort ?_ (hquiet hrunning)
      intro _
      exact cause_outOfRangeFault isa.traps engine
  | faulted hrunning hfetch _ =>
      rw [hsame rfl]
      refine stands_abort ?_ (hquiet hrunning)
      intro hout
      exact absurd hfetch (hout _)
  | performed hrunning hfetch heffect =>
      rw [performed?_of_performed hresult hfetch]
      have hhalts := Instruction.halts_outcome?_iff (outcome?_of_effect hwhole heffect)
      rw [hisa] at hhalts
      exact stands_perform hrunning hhalts (hquiet hrunning)

theorem Follows.next {isa : Isa} (hisa : isa.traps = traps)
    {seen : List (Value × Instruction)} {engine : Engine} (h : Follows program traps seen engine) :
    Follows program traps (seen ++ (engine.performed? isa).toList) (engine.next isa) := by
  refine ⟨h.onTheWay.next isa, ?_, ?_, previous_next h.previous_eq,
    h.stands.next hisa h.onTheWay.isWhole⟩
  · intro entry hentry
    rcases List.mem_append.mp hentry with hentry | hentry
    · exact h.index_isInteger entry hentry
    · rw [(fetch_of_mem_performed? hentry).left]
      exact h.onTheWay.isWhole.index_isInteger
  · intro entry hentry
    rcases List.mem_append.mp hentry with hentry | hentry
    · exact h.fetch_eq entry hentry
    · rcases fetch_of_mem_performed? hentry with ⟨hindex, hfetch⟩
      rw [hindex, ← Program.fetch_congr h.onTheWay.instructions_eq]
      exact hfetch

theorem Follows.after (hlabels : program.labels.AreIntegers) {calls : List Call}
    (hcalls : ∀ call ∈ calls, ∀ isa : Isa, call.isa? = some isa -> isa.traps = traps)
    {seen : List (Value × Instruction)} {engine : Engine} (h : Follows program traps seen engine) :
    Follows program traps (engine.trailFrom seen calls) (engine.after calls) := by
  refine holds_trailFrom (Q := fun isa => isa.traps = traps) ?_ ?_ hcalls h
  · intro isa seen engine hisa h
    exact h.next hisa
  · intro seen engine h
    exact h.reset hlabels

end Follows

theorem step_of_hasHalted {engine : Engine} (h : engine.HasHalted) (isa : Isa) :
    engine.step isa = (.repeatedHalt, engine) := by
  unfold step
  rw [h.right, h.left]
  rfl

/-!
# Ends of calls
-/

/-- A step or a run after which nothing goes on. -/
def Finishes (engine : Engine) (call : Call) (event : Event) : Prop :=
  (engine.call call).1 = some event ∧ event.isExecuted = false

inductive Leaves (event : Event) (engine : Engine) : Prop where
  | halted : event.isHalt = true -> engine.HasHalted -> Leaves event engine
  | faulted {fault : Fault} :
      event.fault? = some fault -> engine.run.fault = some fault -> Leaves event engine

theorem leaves_of_step {isa : Isa} {engine : Engine} (hwhole : engine.IsWhole)
    (hexecuted : (engine.step isa).1.isExecuted = false) :
    Leaves (engine.step isa).1 (engine.next isa) := by
  have houtcome := isOutcome_step isa hwhole
  have hends := step_ends isa engine
  unfold next
  generalize engine.step isa = result at hends houtcome hexecuted ⊢
  cases hends with
  | repeatedFault hfault => exact .faulted rfl hfault
  | repeatedHalt hfault hhalted => exact .halted rfl ⟨hhalted, hfault⟩
  | failed error _ => exact absurd rfl (houtcome error)
  | outOfRange _ _ | faulted _ _ _ => exact .faulted rfl rfl
  | @performed i effect hrunning _ _ =>
      cases hhalts : effect.halts with
      | true => exact .halted rfl ⟨hhalts, hrunning.left⟩
      | false =>
          rw [hhalts] at hexecuted
          cases hexecuted

theorem leaves_of_drive {isa : Isa} {limit : Nat} {last : Option Event}
    (hlast : ∀ event : Event, last = some event -> event.isExecuted = true) {engine : Engine}
    (hwhole : engine.IsWhole) {event : Event}
    (h : (drive isa (fun _ _ seen => seen) limit last () engine).1.1 = some event)
    (hexecuted : event.isExecuted = false) :
    Leaves event (drive isa (fun _ _ seen => seen) limit last () engine).2 := by
  induction limit generalizing last engine with
  | zero =>
      rw [hlast event h] at hexecuted
      cases hexecuted
  | succ limit ih =>
      have hnext := isWhole_next hwhole isa
      have hleaves := @leaves_of_step isa engine hwhole
      unfold drive at h ⊢
      unfold next at hnext hleaves
      rcases hstep : engine.step isa with ⟨answer, later⟩
      simp only [hstep] at h hnext hleaves ⊢
      by_cases hanswer : answer.isExecuted = true
      · simp only [if_pos hanswer] at h ⊢
        apply ih _ hnext h
        rintro other ⟨⟩
        exact hanswer
      · simp only [if_neg hanswer] at h ⊢
        cases h
        exact hleaves hexecuted

theorem leaves_of_finishes {engine : Engine} (hwhole : engine.IsWhole) {call : Call} {event : Event}
    (h : engine.Finishes call event) : Leaves event (engine.call call).2 := by
  rcases h with ⟨hevent, hexecuted⟩
  cases call with
  | step isa =>
      cases hevent
      exact leaves_of_step hwhole hexecuted
  | run isa limit =>
      refine leaves_of_drive ?_ hwhole hevent hexecuted
      intro other hother
      cases hother
  | reset => cases hevent

/-!
# What a trail tells of its engine
-/

section

variable {program : Program} {traps : Traps} {seen : List (Value × Instruction)} {engine : Engine}

theorem Stands.halted_of_getLast? (h : Stands traps seen engine) {index : Value} {i : Instruction}
    (hlast : seen.getLast? = some (index, i)) (htrap : i.IsHaltingTrap traps) :
    engine.HasHalted ∧ engine.run.index = index ∧
      ∃ before : List (Value × Instruction), seen = before ++ [(index, i)] ∧
        ∀ entry ∈ before, ¬entry.2.IsHaltingTrap traps := by
  cases h with
  | running _ hnone | faulted _ _ _ hnone =>
      exact absurd htrap (hnone _ (List.mem_of_getLast? hlast))
  | @halted before _ hhalted hseen _ hnone =>
      rw [hseen, List.getLast?_concat] at hlast
      cases hlast
      exact ⟨hhalted, rfl, before, hseen, hnone⟩

theorem Stands.hasHalted_iff (h : Stands traps seen engine) :
    engine.HasHalted ↔ ∃ (index : Value) (i : Instruction),
      seen.getLast? = some (index, i) ∧ i.IsHaltingTrap traps := by
  constructor
  · rintro ⟨hhalted, hfault⟩
    cases h with
    | running hrunning _ =>
        rw [hrunning.right] at hhalted
        cases hhalted
    | faulted hfaulted _ _ _ =>
        rw [hfaulted] at hfault
        cases hfault
    | @halted before i _ hseen htrap _ =>
        refine ⟨engine.run.index, i, ?_, htrap⟩
        rw [hseen, List.getLast?_concat]
  · rintro ⟨index, i, hlast, htrap⟩
    exact (h.halted_of_getLast? hlast htrap).left

theorem Stands.halted_of_fault (h : Stands traps seen engine) (hfault : engine.run.fault ≠ none) :
    engine.run.halted = true := by
  cases h with
  | running hrunning _ => exact absurd hrunning.left hfault
  | faulted _ hhalted _ _ => exact hhalted
  | halted hended _ _ _ => exact hended.left

/-- The place of a halting trap occurs once in the trail, for the same instruction stands there. -/
theorem Follows.countP_eq_one (h : Follows program traps seen engine) {index : Value}
    {i : Instruction} (htrap : i.IsHaltingTrap traps) {before : List (Value × Instruction)}
    (hseen : seen = before ++ [(index, i)])
    (hnone : ∀ entry ∈ before, ¬entry.2.IsHaltingTrap traps) :
    (seen.countP fun entry => entry.1.equals index) = 1 := by
  have hlast : (index, i) ∈ seen := by
    rw [hseen]
    exact List.mem_concat_self
  have hinteger := h.index_isInteger _ hlast
  have hbefore : (before.countP fun entry => entry.1.equals index) = 0 := by
    rw [List.countP_eq_zero]
    intro entry hentry hequals
    have hmem : entry ∈ seen := by
      rw [hseen]
      exact List.mem_append_left _ hentry
    have hsame := Program.fetch_eq_of_equals program (h.index_isInteger entry hmem) hinteger hequals
    rw [h.fetch_eq entry hmem, h.fetch_eq _ hlast] at hsame
    apply hnone entry hentry
    rw [Except.ok.inj hsame]
    exact htrap
  have hself : index.equals index = true := (Value.equals_iff_of_isInteger hinteger hinteger).mpr rfl
  rw [hseen, List.countP_append, hbefore, List.countP_singleton, if_pos hself]

theorem Follows.fetch_of_hasHalted (h : Follows program traps seen engine)
    (hhalted : engine.HasHalted) :
    ∃ i : Instruction, engine.program.fetch engine.run.index = .ok i ∧ i.IsHaltingTrap traps := by
  rcases h.stands.hasHalted_iff.mp hhalted with ⟨index, i, hlast, htrap⟩
  have hfetch := h.fetch_eq _ (List.mem_of_getLast? hlast)
  refine ⟨i, ?_, htrap⟩
  rw [Program.fetch_congr h.onTheWay.instructions_eq,
    (h.stands.halted_of_getLast? hlast htrap).right.left]
  exact hfetch

theorem Follows.not_hasHalted (h : Follows program traps seen engine)
    (hprogram : ∀ i ∈ program.instructions, ¬i.IsHaltingTrap traps) : ¬engine.HasHalted := by
  intro hhalted
  rcases h.fetch_of_hasHalted hhalted with ⟨i, hfetch, htrap⟩
  have hmem := Program.mem_of_fetch_ok hfetch
  rw [h.onTheWay.instructions_eq] at hmem
  exact hprogram i hmem htrap

theorem Follows.isRangeFault (h : Follows program traps seen engine) (hout : engine.IsOutOfRange)
    {fault : Fault} (hfault : engine.run.fault = some fault) : engine.IsRangeFault fault := by
  cases h.stands with
  | running hrunning _ =>
      rw [hrunning.left] at hfault
      cases hfault
  | faulted hfaulted _ hrange _ =>
      rw [hfaulted] at hfault
      cases hfault
      exact hrange hout
  | halted hhalted _ _ _ =>
      rcases h.fetch_of_hasHalted hhalted with ⟨i, hfetch, -⟩
      exact absurd hfetch (hout i)

theorem Follows.step_of_isOutOfRange (h : Follows program traps seen engine)
    (hout : engine.IsOutOfRange) (isa : Isa) :
    ∃ fault : Fault, (engine.step isa).1.fault? = some fault ∧
      engine.IsRangeFault fault := by
  have houtcome := isOutcome_step isa h.onTheWay.isWhole
  have hends := step_ends isa engine
  generalize engine.step isa = result at hends houtcome ⊢
  cases hends with
  | @repeatedFault fault hfault => exact ⟨fault, rfl, h.isRangeFault hout hfault⟩
  | repeatedHalt hfault hhalted =>
      rcases h.fetch_of_hasHalted ⟨hhalted, hfault⟩ with ⟨i, hfetch, -⟩
      exact absurd hfetch (hout i)
  | failed error _ => exact absurd rfl (houtcome error)
  | outOfRange _ _ => exact ⟨_, rfl, cause_outOfRangeFault isa.traps engine⟩
  | faulted _ hfetch _ | performed _ hfetch _ => exact absurd hfetch (hout _)

end

/-- After any calls, an engine has halted without a fault exactly if the last instruction that it
carried out is a halting trap.  Then it stands at that trap, which it carried out once, and every
further step only reports the halt.  A fault halts it as well.  Without a halting trap in the
program, every call that goes on no more ends with a fault, and where there is no instruction, that
is the fault. -/
theorem halted_iff_halting_trap {processor : Processor} (hprocessor : processor.IsWhole)
    {program : Program} (hlabels : program.labels.AreIntegers) {traps : Traps} {calls : List Call}
    (hcalls : ∀ call ∈ calls, ∀ isa : Isa, call.isa? = some isa -> isa.traps = traps) :
    let engine := (create processor program).after calls
    let trail := (create processor program).trail calls
    engine.run.previous = trail.getLast? ∧
    (engine.HasHalted ↔ ∃ (index : Value) (i : Instruction),
      trail.getLast? = some (index, i) ∧ i.IsHaltingTrap traps) ∧
    (∀ (index : Value) (i : Instruction),
      trail.getLast? = some (index, i) -> i.IsHaltingTrap traps ->
      engine.run.index = index ∧ (trail.countP fun entry => entry.1.equals index) = 1 ∧
        ∀ isa : Isa, engine.step isa = (.repeatedHalt, engine)) ∧
    (engine.run.fault ≠ none -> engine.run.halted = true) ∧
    (engine.IsOutOfRange -> ∀ isa : Isa, ∃ fault : Fault,
      (engine.step isa).1.fault? = some fault ∧ engine.IsRangeFault fault) ∧
    ((∀ i ∈ program.instructions, ¬i.IsHaltingTrap traps) -> ¬engine.HasHalted) ∧
    ∀ (call : Call) (event : Event),
      (∀ isa : Isa, call.isa? = some isa -> isa.traps = traps) -> engine.Finishes call event ->
      ((∀ i ∈ program.instructions, ¬i.IsHaltingTrap traps) ->
        ∃ fault : Fault, event.fault? = some fault) ∧
      ((engine.call call).2.IsOutOfRange ->
        ∃ fault : Fault, event.fault? = some fault ∧ (engine.call call).2.IsRangeFault fault) := by
  intro engine trail
  have hfollows : Follows program traps trail engine :=
    (Follows.create hprocessor hlabels).after hlabels hcalls
  refine ⟨hfollows.previous_eq, hfollows.stands.hasHalted_iff, ?_, hfollows.stands.halted_of_fault,
    hfollows.step_of_isOutOfRange, hfollows.not_hasHalted, ?_⟩
  · intro index i hlast htrap
    rcases hfollows.stands.halted_of_getLast? hlast htrap with
      ⟨hhalted, hindex, before, hseen, hnone⟩
    refine ⟨hindex, hfollows.countP_eq_one htrap hseen hnone, ?_⟩
    intro isa
    exact step_of_hasHalted hhalted isa
  · intro call event hcall hfinishes
    have hcalls : ∀ other ∈ [call], ∀ isa : Isa, other.isa? = some isa -> isa.traps = traps := by
      intro other hother
      rw [List.mem_singleton.mp hother]
      exact hcall
    have hlast : Follows program traps (engine.extendTrail trail call) (engine.call call).2 :=
      hfollows.after hlabels hcalls
    cases leaves_of_finishes hfollows.onTheWay.isWhole hfinishes with
    | halted _ hhalted =>
        constructor
        · intro hprogram
          exact absurd hhalted (hlast.not_hasHalted hprogram)
        · intro hout
          rcases hlast.fetch_of_hasHalted hhalted with ⟨i, hfetch, -⟩
          exact absurd hfetch (hout i)
    | @faulted fault hevent hfault =>
        constructor
        · intro _
          exact ⟨fault, hevent⟩
        · intro hout
          exact ⟨fault, hevent, hlast.isRangeFault hout hfault⟩

theorem halted_iff_halting_trap_second :
    let out : Trap := ⟨.int 37, .text "OUT", .text "x37", .text "", .bool false⟩
    let isa := (Isa.bare.activate [⟨"TRAP", "", [["trapvect8"]], .trap⟩]).withTrap out
    let program : Program := ⟨#[.trap 37, .trap 25, .trap 37], .empty, none, true⟩
    let calls : List Call := [.step isa, .reset, .run isa 10]
    let engine := (create .initial program).after calls
    Processor.initial.IsWhole ∧ program.labels.AreIntegers ∧
      (∀ call ∈ calls, ∀ other : Isa, call.isa? = some other -> other.traps = isa.traps) ∧
      engine.HasHalted ∧ engine.run.index = .int 1 := by
  intro out isa program calls engine
  have hprocessor := Processor.isWhole_initial
  have hlabels : program.labels.AreIntegers := Labels.areIntegers_empty
  have hcalls : ∀ call ∈ calls, ∀ other : Isa, call.isa? = some other ->
      other.traps = isa.traps := by
    intro call hcall other hother
    simp only [calls, List.mem_cons, List.not_mem_nil, or_false] at hcall
    rcases hcall with rfl | rfl | rfl <;> cases hother <;> rfl
  have htrail : (create .initial program).trail calls =
      [(.int 0, .trap 37), (.int 1, .trap 25)] := by
    decide +kernel
  have htrap : Instruction.IsHaltingTrap isa.traps (.trap 25) := ⟨25, .halt, rfl, rfl, rfl⟩
  have hlast : ((create .initial program).trail calls).getLast? = some (.int 1, .trap 25) := by
    rw [htrail]
    rfl
  have hhalts := halted_iff_halting_trap hprocessor hlabels hcalls
  refine ⟨hprocessor, hlabels, hcalls, ?_, ?_⟩
  · exact hhalts.right.left.mpr ⟨.int 1, .trap 25, hlast, htrap⟩
  · exact (hhalts.right.right.left (.int 1) (.trap 25) hlast htrap).left

end Engine
end LittleComputer
