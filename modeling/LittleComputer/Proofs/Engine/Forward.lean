import LittleComputer.Proofs.Engine.Blame
import LittleComputer.Proofs.Engine.Running
import LittleComputer.Proofs.Sheet.Soundness

/-!
# Programs whose branches lead forward

If the label of every branch stands for a later place, or for none, and no store writes to the label
of a branch, then every instruction that does not end the run leads to a later place.  A store can
still change all other labels while the program runs, so that the labels of the branches have to be
kept as an invariant.  With it the run ends, since each step comes closer to the end of the program,
and what it carries out is known by `Ascends`.
-/

namespace LittleComputer

namespace Program

/-- Branches lead to later places, and stores keep it so. -/
structure IsForward (program : Program) : Prop where
  lt_target : ∀ (place : Nat) (condition : Condition) (label : LabelName) (target : Value),
    program.instructions[place]? = some (.branch condition label) ->
    program.labels.get? (.text label.name) = some target -> (place : Int) < target.toInt
  not_stored : ∀ (condition : Condition) (label stored : LabelName) (src : Register),
    .branch condition label ∈ program.instructions ->
    .store src stored ∈ program.instructions -> stored.name ≠ label.name

def IsStraight (program : Program) : Prop :=
  ∀ (condition : Condition) (label : LabelName), .branch condition label ∉ program.instructions

def Misses (program : Program) (i : Instruction) (name : String) : Prop :=
  i.label? = some name ∧ program.labels.contains (.text name) = false

/-- An instruction with the index that it is fetched by, which counts as its place. -/
structure Holds (program : Program) (place : Nat) (entry : Value × Instruction) : Prop where
  isInteger : entry.1.IsInteger
  toInt_eq : entry.1.toInt = place
  getElem?_eq : program.instructions[place]? = some entry.2

theorem Holds.lt_size {program : Program} {place : Nat} {entry : Value × Instruction}
    (h : program.Holds place entry) : place < program.size :=
  (Array.getElem?_eq_some_iff.mp h.getElem?_eq).1

theorem fetch_of_toInt_eq (program : Program) {index : Value} {place : Nat}
    (hindex : index.IsInteger) (hplace : index.toInt = place) :
    program.fetch index =
      match program.instructions[place]? with
      | some i => .ok i
      | none => .error .outOfRange := by
  rw [fetch_of_isInteger program hindex, hplace]
  unfold fetch?
  rw [if_pos (Int.natCast_nonneg place)]
  rfl

theorem Holds.fetch_eq {program : Program} {place : Nat} {entry : Value × Instruction}
    (h : program.Holds place entry) : program.fetch entry.1 = .ok entry.2 := by
  rw [fetch_of_toInt_eq program h.isInteger h.toInt_eq, h.getElem?_eq]

end Program

namespace Engine

/-!
# Ways through a program
-/

/-- The end of a run that has come to a place: the instruction that is carried out there, if any, and
the event. -/
inductive EndsAt (program : Program) (traps : Traps) (place : Nat) :
    List (Value × Instruction) -> Event -> Prop where
  | halted {entry : Value × Instruction} :
      program.Holds place entry -> entry.2.IsHaltingTrap traps ->
      EndsAt program traps place [entry] .halted
  | unbound {i : Instruction} {name : String} {fault : Fault} :
      program.instructions[place]? = some i -> program.Misses i name ->
      fault.cause = .unboundLabel (.text name) -> EndsAt program traps place [] (.faulted fault)
  | outOfRange {target : Value} {fault : Fault} :
      program.size ≤ place -> target.toInt = place ->
      fault.cause = .outOfRange target program.size -> EndsAt program traps place [] (.faulted fault)

/-- An instruction is carried out that does not end the run and leads to a later place, which is the
next one unless it is a branch. -/
structure LeadsOn (program : Program) (traps : Traps) (place : Nat) (entry : Value × Instruction)
    (later : Nat) : Prop where
  holds : program.Holds place entry
  not_halting : ¬entry.2.IsHaltingTrap traps
  not_misses : ∀ name : String, ¬program.Misses entry.2 name
  lt_later : place < later
  later_eq : (∀ (condition : Condition) (label : LabelName), entry.2 ≠ .branch condition label) ->
    later = place + 1

/-- What a run from a place carries out on its way to later places, and the event that ends it. -/
inductive Ascends (program : Program) (traps : Traps) :
    Nat -> List (Value × Instruction) -> Event -> Prop where
  | ends {place : Nat} {last : List (Value × Instruction)} {event : Event} :
      EndsAt program traps place last event -> Ascends program traps place last event
  | goesOn {place later : Nat} {entry : Value × Instruction} {rest : List (Value × Instruction)}
      {event : Event} :
      LeadsOn program traps place entry later -> Ascends program traps later rest event ->
      Ascends program traps place (entry :: rest) event

section Ascends

variable {program : Program} {traps : Traps} {place : Nat} {seen : List (Value × Instruction)}
  {event : Event}

theorem EndsAt.eq_halted_or_faulted (h : EndsAt program traps place seen event) :
    event = .halted ∨ ∃ fault : Fault, event = .faulted fault := by
  cases h with
  | halted _ _ => exact Or.inl rfl
  | unbound _ _ _ | outOfRange _ _ _ => exact Or.inr ⟨_, rfl⟩

theorem EndsAt.isExecuted_eq_false (h : EndsAt program traps place seen event) :
    event.isExecuted = false := by
  rcases h.eq_halted_or_faulted with rfl | ⟨fault, rfl⟩
  · rfl
  · rfl

theorem EndsAt.holds (h : EndsAt program traps place seen event) :
    ∀ entry ∈ seen, program.Holds place entry := by
  intro entry hentry
  cases h with
  | halted hholds _ =>
      rw [List.mem_singleton.mp hentry]
      exact hholds
  | unbound _ _ _ | outOfRange _ _ _ => cases hentry

theorem Ascends.eq_halted_or_faulted (h : Ascends program traps place seen event) :
    event = .halted ∨ ∃ fault : Fault, event = .faulted fault := by
  induction h with
  | ends hends => exact hends.eq_halted_or_faulted
  | goesOn _ _ ih => exact ih

theorem Ascends.exists_holds (h : Ascends program traps place seen event) :
    ∀ entry ∈ seen, ∃ other : Nat, place ≤ other ∧ program.Holds other entry := by
  induction h with
  | ends hends =>
      intro entry hentry
      exact ⟨_, Nat.le_refl _, hends.holds entry hentry⟩
  | @goesOn place later first rest event hleads _ ih =>
      intro entry hentry
      rcases List.mem_cons.mp hentry with rfl | hentry
      · exact ⟨place, Nat.le_refl place, hleads.holds⟩
      · rcases ih entry hentry with ⟨other, hle, hholds⟩
        exact ⟨other, Nat.le_trans (Nat.le_of_lt hleads.lt_later) hle, hholds⟩

theorem Ascends.pairwise_lt (h : Ascends program traps place seen event) :
    (seen.map fun entry => entry.1.toInt).Pairwise (· < ·) := by
  induction h with
  | ends hends =>
      cases hends with
      | halted _ _ => exact List.pairwise_singleton _ _
      | unbound _ _ _ | outOfRange _ _ _ => exact List.Pairwise.nil
  | @goesOn place later first rest event hleads hrest ih =>
      rw [List.map_cons, List.pairwise_cons]
      refine ⟨?_, ih⟩
      intro index hindex
      rcases List.mem_map.mp hindex with ⟨entry, hentry, rfl⟩
      rcases hrest.exists_holds entry hentry with ⟨other, hle, hholds⟩
      rw [hleads.holds.toInt_eq, hholds.toInt_eq]
      exact Int.ofNat_lt.mpr (Nat.lt_of_lt_of_le hleads.lt_later hle)

theorem Ascends.length_le (h : Ascends program traps place seen event) :
    seen.length ≤ program.size - place := by
  induction h with
  | @ends place last event hends =>
      cases hends with
      | halted hholds _ => exact Nat.le_sub_of_add_le' hholds.lt_size
      | unbound _ _ _ | outOfRange _ _ _ => exact Nat.zero_le _
  | @goesOn place later entry rest event hleads _ ih =>
      have hlt := hleads.holds.lt_size
      have hlater := hleads.lt_later
      rw [List.length_cons]
      omega

theorem Ascends.of_isStraight (hstraight : program.IsStraight)
    (h : Ascends program traps place seen event) :
    ∃ (stop : Nat) (last : List (Value × Instruction)),
      EndsAt program traps stop last event ∧
      (∀ other : Nat, place ≤ other -> other < stop ->
        ∃ i : Instruction, program.instructions[other]? = some i ∧ ¬i.IsHaltingTrap traps ∧
          ∀ name : String, ¬program.Misses i name) ∧
      seen.map (fun entry => entry.1.toInt) =
        (List.range' place (stop + last.length - place)).map Nat.cast ∧ place ≤ stop := by
  induction h with
  | @ends place last event hends =>
      refine ⟨place, last, hends, ?_, ?_, Nat.le_refl place⟩
      · intro other hle hlt
        exact absurd hlt (Nat.not_lt.mpr hle)
      · rw [Nat.add_sub_cancel_left]
        cases hends with
        | halted hholds _ =>
            exact congrArg (fun index => [index]) hholds.toInt_eq
        | unbound _ _ _ | outOfRange _ _ _ => rfl
  | @goesOn place later entry rest event hleads _ ih =>
      have hnext : later = place + 1 := by
        apply hleads.later_eq
        intro condition label hbranch
        apply hstraight condition label
        rw [← hbranch]
        exact Array.mem_of_getElem? hleads.holds.getElem?_eq
      rcases ih with ⟨stop, last, hends, hearlier, hplaces, hle⟩
      rw [hnext] at hearlier hplaces hle
      refine ⟨stop, last, hends, ?_, ?_, Nat.le_of_succ_le hle⟩
      · intro other hother hlt
        rcases Nat.eq_or_lt_of_le hother with rfl | hother
        · exact ⟨entry.2, hleads.holds.getElem?_eq, hleads.not_halting, hleads.not_misses⟩
        · exact hearlier other hother hlt
      · have hlength : stop + last.length - place = stop + last.length - (place + 1) + 1 := by
          omega
        rw [hlength, List.range'_succ, List.map_cons, List.map_cons, hplaces,
          hleads.holds.toInt_eq]

end Ascends

/-!
# Engines on their way forward
-/

/-- An engine that runs and has come to a place.  The labels of the branches are what they were at
the start. -/
structure GoesForward (program : Program) (place : Nat) (engine : Engine) : Prop where
  onTheWay : OnTheWay program engine
  isRunning : engine.IsRunning
  index_eq : engine.run.index.toInt = place
  get?_eq : ∀ (condition : Condition) (label : LabelName),
    .branch condition label ∈ program.instructions ->
    engine.program.labels.get? (.text label.name) = program.labels.get? (.text label.name)

section GoesForward

variable {program : Program} {place : Nat} {engine : Engine} {isa : Isa}

theorem GoesForward.create {processor : Processor} (hprocessor : processor.IsWhole)
    (hlabels : program.labels.AreIntegers) :
    GoesForward program 0 (create processor program) where
  onTheWay := .create hprocessor hlabels
  isRunning := ⟨rfl, rfl⟩
  index_eq := rfl
  get?_eq := fun _ _ _ => rfl

theorem GoesForward.fetch_eq (h : GoesForward program place engine) :
    engine.program.fetch engine.run.index =
      match program.instructions[place]? with
      | some i => .ok i
      | none => .error .outOfRange := by
  rw [Program.fetch_congr h.onTheWay.instructions_eq]
  exact Program.fetch_of_toInt_eq program h.onTheWay.isWhole.index_isInteger h.index_eq

theorem GoesForward.holds (h : GoesForward program place engine) {i : Instruction}
    (hfetch : engine.program.fetch engine.run.index = .ok i) :
    program.Holds place (engine.run.index, i) := by
  refine ⟨h.onTheWay.isWhole.index_isInteger, h.index_eq, ?_⟩
  rw [h.fetch_eq] at hfetch
  split at hfetch
  · next hget =>
      cases hfetch
      exact hget
  · cases hfetch

theorem GoesForward.size_le (h : GoesForward program place engine)
    (hfetch : engine.program.fetch engine.run.index = .error .outOfRange) :
    program.size ≤ place := by
  rw [h.fetch_eq] at hfetch
  split at hfetch
  · cases hfetch
  · next hget => exact Array.getElem?_eq_none_iff.mp hget

theorem OnTheWay.misses_iff (h : OnTheWay program engine) {i : Instruction} {name : String} :
    program.Misses i name ↔
      i.label? = some name ∧ engine.program.labels.contains (.text name) = false := by
  unfold Program.Misses
  rw [Labels.contains_congr h.keys_eq]

theorem GoesForward.exists_later (hforward : program.IsForward)
    (h : GoesForward program place engine) {i : Instruction} {effect : Effect}
    (hfetch : engine.program.fetch engine.run.index = .ok i)
    (heffect : engine.effect isa i = .ok effect) (hgoesOn : effect.halts = false) :
    ∃ later : Nat, (engine.perform i effect).run.index.toInt = later ∧ place < later ∧
      ((∀ (condition : Condition) (label : LabelName), i ≠ .branch condition label) ->
        later = place + 1) := by
  have hholds := h.holds hfetch
  have hindex : (engine.perform i effect).run.index =
      effect.target?.getD (following engine.run.index) := by
    refine if_neg ?_
    rw [hgoesOn]
    exact Bool.false_ne_true
  have hfollowing : (following engine.run.index).toInt = place + 1 := by
    unfold following
    rw [Value.asInt?_of_isInteger h.onTheWay.isWhole.index_isInteger, h.index_eq]
    rfl
  rcases exists_definition_of_effect heffect with ⟨definition, -, hexecutor⟩
  rw [hindex]
  by_cases hbranch : ∃ (condition : Condition) (label : LabelName), i = .branch condition label
  · rcases hbranch with ⟨condition, label, rfl⟩
    rcases Executor.effect_branch hexecutor with ⟨target, -, hresolve, rfl⟩ | ⟨-, rfl⟩
    · have hmem := Array.mem_of_getElem? hholds.getElem?_eq
      have hget := Labels.get?_of_resolve? hresolve
      rw [h.get?_eq condition label hmem] at hget
      have hlt := hforward.lt_target place condition label target hholds.getElem?_eq hget
      refine ⟨target.toInt.toNat, ?_, by omega, fun hne => absurd rfl (hne condition label)⟩
      show target.toInt = _
      omega
    · exact ⟨place + 1, hfollowing, Nat.lt_succ_self place, fun _ => rfl⟩
  · have hother : ∀ (condition : Condition) (label : LabelName), i ≠ .branch condition label :=
      fun condition label heq => hbranch ⟨condition, label, heq⟩
    rw [Executor.target?_of_effect hexecutor hother]
    exact ⟨place + 1, hfollowing, Nat.lt_succ_self place, fun _ => rfl⟩

theorem GoesForward.get?_next (hforward : program.IsForward)
    (h : GoesForward program place engine) {condition : Condition} {label : LabelName}
    (hmem : .branch condition label ∈ program.instructions) :
    (engine.next isa).program.labels.get? (.text label.name) =
      program.labels.get? (.text label.name) := by
  rw [← h.get?_eq condition label hmem]
  apply get?_next_of_not_executes
  intro src stored hname hexecutes
  have hstore := Program.mem_of_fetch_ok hexecutes.right.left
  rw [h.onTheWay.instructions_eq] at hstore
  exact hforward.not_stored condition label stored src hmem hstore hname

theorem GoesForward.not_misses (h : GoesForward program place engine) {i : Instruction}
    {effect : Effect} (heffect : engine.effect isa i = .ok effect) (name : String) :
    ¬program.Misses i name := by
  intro hmisses
  rcases h.onTheWay.misses_iff.mp hmisses with ⟨hname, hunbound⟩
  have hget := Labels.contains_eq_false_iff.mp hunbound
  have hdone := outcome?_of_effect h.onTheWay.isWhole heffect
  rw [Instruction.outcome?_eq_none_iff.mpr ⟨name, hname, hget⟩] at hdone
  cases hdone

inductive Advances (program : Program) (isa : Isa) (place : Nat) (engine : Engine) : Prop where
  | ends :
      EndsAt program isa.traps place (engine.performed? isa).toList (engine.step isa).1 ->
      Advances program isa place engine
  | goesOn {later : Nat} {entry : Value × Instruction} :
      (engine.step isa).1.isExecuted = true ->
      engine.performed? isa = some entry -> LeadsOn program isa.traps place entry later ->
      GoesForward program later (engine.next isa) ->
      Advances program isa place engine

theorem GoesForward.advances_of_performed (hforward : program.IsForward)
    (h : GoesForward program place engine) {i : Instruction} {effect : Effect}
    (hstep : engine.step isa =
      (if effect.halts then .halted else .executed, engine.perform i effect))
    (hfetch : engine.program.fetch engine.run.index = .ok i)
    (heffect : engine.effect isa i = .ok effect) :
    Advances program isa place engine := by
  have hperformed := performed?_of_performed hstep hfetch
  have htrap := Instruction.halts_outcome?_iff (outcome?_of_effect h.onTheWay.isWhole heffect)
  cases hhalts : effect.halts with
  | true =>
      apply Advances.ends
      rw [hstep, hperformed, hhalts]
      exact .halted (h.holds hfetch) (htrap.mp hhalts)
  | false =>
      rcases h.exists_later hforward hfetch heffect hhalts with ⟨later, hindex, hlt, hnext⟩
      have hnot : ¬i.IsHaltingTrap isa.traps := by
        intro hhalting
        rw [htrap.mpr hhalting] at hhalts
        cases hhalts
      have hafter : engine.next isa = engine.perform i effect := congrArg Prod.snd hstep
      refine .goesOn ?_ hperformed
        ⟨h.holds hfetch, hnot, h.not_misses heffect, hlt, hnext⟩
        ⟨h.onTheWay.next isa, ?_, ?_, ?_⟩
      · rw [hstep, hhalts]
        rfl
      · rw [hafter]
        exact ⟨h.isRunning.left, hhalts⟩
      · rw [hafter]
        exact hindex
      · intro condition label hmem
        exact h.get?_next hforward hmem

theorem GoesForward.advances (hforward : program.IsForward)
    (hisa : isa.definitions = Isa.standard.definitions)
    (h : GoesForward program place engine) :
    Advances program isa place engine := by
  have hwhole := h.onTheWay.isWhole
  have hsame : (engine.step isa).1.isPerformed = false ->
      (engine.performed? isa).toList = [] :=
    fun hevent => append_performed?_of_not_performed hevent []
  have houtcome := isOutcome_step isa hwhole
  have hends := step_ends isa engine
  generalize hstep : engine.step isa = result at hsame houtcome hends
  cases hends with
  | repeatedFault hfault =>
      rw [h.isRunning.left] at hfault
      cases hfault
  | repeatedHalt _ hhalted =>
      rw [h.isRunning.right] at hhalted
      cases hhalted
  | failed error _ => exact absurd rfl (houtcome error)
  | outOfRange _ hfetch =>
      apply Advances.ends
      rw [hstep, hsame rfl]
      refine .outOfRange (h.size_le hfetch) h.index_eq ?_
      rw [cause_outOfRangeFault]
      exact congrArg _ (congrArg Array.size h.onTheWay.instructions_eq)
  | @faulted i fault _ hfetch heffect =>
      apply Advances.ends
      rw [hstep, hsame rfl]
      rcases exists_label_of_effect hwhole (Isa.carriesOut_of_standard hisa i) heffect with
        ⟨name, hname, hunbound, hcause⟩
      exact .unbound (h.holds hfetch).getElem?_eq (h.onTheWay.misses_iff.mpr ⟨hname, hunbound⟩)
        hcause
  | performed _ hfetch heffect => exact h.advances_of_performed hforward hstep hfetch heffect

/-- A run comes to its end in fewer steps than there are places left, and one more. -/
theorem GoesForward.exists_runsTo (hforward : program.IsForward)
    (hisa : isa.definitions = Isa.standard.definitions) {limit : Nat}
    (hlimit : program.size - place < limit) (h : GoesForward program place engine) :
    ∃ (count : Nat) (event : Event) (last : Engine), count ≤ limit ∧
      RunsTo isa count engine event last ∧
        Ascends program isa.traps place (engine.performedWithin isa limit) event := by
  induction limit generalizing place engine with
  | zero => exact absurd hlimit (Nat.not_lt_zero _)
  | succ limit ih =>
      unfold performedWithin
      cases h.advances hforward hisa with
      | ends hends =>
          have hlast := hends.isExecuted_eq_false
          refine ⟨1, _, _, Nat.le_add_left 1 limit, .ends hlast, ?_⟩
          rw [if_neg (Bool.eq_false_iff.mp hlast), List.append_nil]
          exact .ends hends
      | @goesOn later entry hexecuted hperformed hleads hnext =>
          have hplaces := hleads.holds.lt_size
          have hlater := hleads.lt_later
          rcases ih (show program.size - later < limit by omega) hnext with
            ⟨count, event, last, hcount, hruns, hascends⟩
          refine ⟨count + 1, event, last, Nat.succ_le_succ hcount, .goesOn hexecuted hruns, ?_⟩
          rw [if_pos hexecuted, hperformed]
          exact .goesOn hleads hascends

end GoesForward

theorem finishes_of_runsTo {isa : Isa} {count limit : Nat} {engine last : Engine} {event : Event}
    (h : RunsTo isa count engine event last) (hend : event.isExecuted = false)
    (hlimit : count ≤ limit) : engine.Finishes (.run isa limit) event := by
  rcases drive_of_runsTo h (fun _ _ seen => seen) hlimit none () with ⟨found, hdrive⟩
  refine ⟨?_, hend⟩
  unfold call
  simp only [hdrive]

/-- A program whose branches lead forward, run from its start under the bundled definitions, halts or
faults after no more steps than it has instructions, and carries out each of them once at most, in
their order.  Without branches it carries out all of them up to the first halting trap, the first
label that is not bound or the end. -/
theorem forward_run_ends {processor : Processor} (hprocessor : processor.IsWhole)
    {program : Program} (hlabels : program.labels.AreIntegers) (hforward : program.IsForward)
    {isa : Isa} (hisa : isa.definitions = Isa.standard.definitions) {limit : Nat}
    (hlimit : program.size < limit) :
    let engine := create processor program
    let call : Call := .run isa limit
    let trail := engine.trail [call]
    ∃ event : Event, engine.Finishes call event ∧
      (event = .halted ∨ ∃ fault : Fault, event = .faulted fault) ∧
      (engine.call call).2.run.steps = trail.length ∧ trail.length ≤ program.size ∧
      (∀ entry ∈ trail, program.fetch entry.1 = .ok entry.2) ∧
      (trail.map fun entry => entry.1.toInt).Pairwise (· < ·) ∧
      (program.IsStraight -> ∃ (stop : Nat) (last : List (Value × Instruction)),
        EndsAt program isa.traps stop last event ∧
        (∀ place : Nat, place < stop -> ∃ i : Instruction,
          program.instructions[place]? = some i ∧ ¬i.IsHaltingTrap isa.traps ∧
            ∀ name : String, ¬program.Misses i name) ∧
        trail.map (fun entry => entry.1.toInt) =
          (List.range (stop + last.length)).map Nat.cast) := by
  intro engine call trail
  have hstart : GoesForward program 0 engine := .create hprocessor hlabels
  rcases hstart.exists_runsTo hforward hisa hlimit with
    ⟨count, event, last, hcount, hruns, hascends⟩
  have htrail : trail = engine.performedWithin isa limit := rfl
  rw [← htrail] at hascends
  have hevent := hascends.eq_halted_or_faulted
  have hend : event.isExecuted = false := by
    rcases hevent with rfl | ⟨fault, rfl⟩
    · rfl
    · rfl
  refine ⟨event, finishes_of_runsTo hruns hend hcount, hevent,
    steps_after processor program [call], hascends.length_le, ?_, hascends.pairwise_lt, ?_⟩
  · intro entry hentry
    rcases hascends.exists_holds entry hentry with ⟨place, -, hholds⟩
    exact hholds.fetch_eq
  · intro hstraight
    rcases hascends.of_isStraight hstraight with ⟨stop, last, hends, hearlier, hplaces, -⟩
    refine ⟨stop, last, hends, fun place => hearlier place (Nat.zero_le place), ?_⟩
    rw [hplaces, Nat.sub_zero, List.range_eq_range']

theorem forward_run_ends_branch :
    let flag : LabelName := ⟨"FLAG", by decide⟩
    let done : LabelName := ⟨"DONE", by decide⟩
    let labels := (Labels.empty.insert (.text "FLAG") 0).insert (.text "DONE") 3
    let program : Program :=
      ⟨#[.load 1 flag, .branch ⟨false, true, false⟩ done, .store 1 flag, .trap 25], labels, none,
        true⟩
    let engine := create .initial program
    let call : Call := .run Isa.standard 5
    program.IsForward ∧ engine.Finishes call .halted ∧
      (engine.trail [call]).map (fun entry => entry.1) = [.int 0, .int 1, .int 3] ∧
      (engine.trail [call]).length ≤ program.size := by
  intro flag done labels program engine call
  have hforward : program.IsForward := by
    constructor
    · intro place condition label target hbranch hget
      match place with
      | 0 | 2 | 3 => cases hbranch
      | 1 =>
          cases hbranch
          cases hget
          decide
      | _ + 4 => cases hbranch
    · intro condition label stored src hbranch hstore
      simp only [program, List.mem_toArray, List.mem_cons, List.not_mem_nil, or_false,
        reduceCtorEq, false_or, Instruction.branch.injEq, Instruction.store.injEq] at hbranch hstore
      rw [hbranch.right, hstore.right]
      decide
  have hlabels : program.labels.AreIntegers :=
    Labels.areIntegers_insert (Labels.areIntegers_insert Labels.areIntegers_empty _ _) _ _
  have hfinishes : engine.Finishes call .halted := by
    refine ⟨?_, rfl⟩
    decide +kernel
  have htrail : (engine.trail [call]).map (fun entry => entry.1) = [.int 0, .int 1, .int 3] := by
    decide +kernel
  rcases @forward_run_ends .initial Processor.isWhole_initial program hlabels hforward Isa.standard
    rfl 5 (by decide) with ⟨event, -, -, -, hlength, -⟩
  exact ⟨hforward, hfinishes, htrail, hlength⟩

end Engine
end LittleComputer
