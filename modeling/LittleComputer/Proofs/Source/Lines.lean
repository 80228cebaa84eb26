import LittleComputer.Proofs.Program.Binding
import LittleComputer.Source.Assembly

/-!
# Assembling line by line

An assembly goes on from line to line until one of them stops it or is refused.  A line acts on the
labels of the program by at most one binding, which `Assembly.bind` makes, and never takes away an
instruction or the mark of a declared label.
-/

namespace LittleComputer

namespace Source
namespace Assembly

/-!
# The lines of a text
-/

/-- Each of the lines, which are the first ones of a text, lets the assembly go on. -/
inductive GoesOn (traps : Traps) (start : Assembly) : List (List Char) -> Assembly -> Prop where
  | nil : GoesOn traps start [] start
  | snoc {before : List (List Char)} {raw : List Char} {middle last : Assembly} :
      GoesOn traps start before middle ->
      line traps (before.length + 1) raw middle = (.next, last) ->
      GoesOn traps start (before ++ [raw]) last

inductive Ends (traps : Traps) (start : Assembly) (raws : List (List Char)) :
    Option AssemblyError × Assembly -> Prop where
  | assembled {last : Assembly} :
      GoesOn traps start raws last -> Ends traps start raws (none, last)
  | stopped {before after : List (List Char)} {raw : List Char} {middle last : Assembly} :
      raws = before ++ raw :: after -> GoesOn traps start before middle ->
      line traps (before.length + 1) raw middle = (.stop, last) ->
      Ends traps start raws (none, last)
  | refused {before after : List (List Char)} {raw : List Char} {middle last : Assembly}
      {error : AssemblyError} :
      raws = before ++ raw :: after -> GoesOn traps start before middle ->
      line traps (before.length + 1) raw middle = (.failed error, last) ->
      Ends traps start raws (some error, last)

theorem lines_ends {traps : Traps} {start middle : Assembly} {before : List (List Char)}
    (h : GoesOn traps start before middle) (after : List (List Char)) :
    Ends traps start (before ++ after) (lines traps (before.length + 1) after middle) := by
  induction after generalizing before middle with
  | nil =>
      rw [List.append_nil]
      exact .assembled h
  | cons raw rest ih =>
      unfold lines
      rcases hline : line traps (before.length + 1) raw middle with ⟨verdict, last⟩
      cases verdict with
      | next =>
          have hrest := ih (.snoc h hline)
          rw [List.append_assoc, List.length_append] at hrest
          exact hrest
      | stop => exact .stopped rfl h hline
      | failed error => exact .refused rfl h hline

theorem assemble_ends (traps : Traps) (verbose : Bool) (text : String) (program : Program) :
    Ends traps (.start verbose program) (Text.lines text.toList)
      (assemble traps verbose text program) :=
  lines_ends .nil (Text.lines text.toList)

/-!
# Binding a label
-/

def Accepts (assembly : Assembly) (label : LabelName) (binding : Program.Binding)
    (labels : Labels) : Prop :=
  (assembly.verbose = true ->
    (assembly.program.bindReport (.text label.name) binding).obstacle = none) ∧
  Program.bindLabels assembly.program.labels assembly.program.size (.text label.name) binding =
    .ok labels

inductive BindEnds (assembly : Assembly) (label : LabelName) (binding : Program.Binding) :
    Option ConfigurationError × Assembly -> Prop where
  | unreportable (error : NumeralError) (log : Array Record) :
      (∀ labels : Labels, ¬assembly.Accepts label binding labels) ->
      BindEnds assembly label binding
        (some (.unreportable error), { assembly with log := log })
  | refused {error : ConfigurationError} (log : Array Record) :
      assembly.program.bind (.text label.name) binding = .error error ->
      (∀ labels : Labels, ¬assembly.Accepts label binding labels) ->
      BindEnds assembly label binding (some error, { assembly with log := log })
  | bound {labels : Labels} (log : Array Record) :
      assembly.Accepts label binding labels ->
      BindEnds assembly label binding
        (none, { assembly with program := { assembly.program with labels := labels }, log := log })

theorem report_eq (assembly : Assembly) (name : Value) (binding : Program.Binding) :
    ∃ log : Array Record,
      assembly.report name binding =
        (if assembly.verbose then (assembly.program.bindReport name binding).obstacle else none,
          { assembly with log := log }) := by
  unfold report
  split
  · exact ⟨_, rfl⟩
  · exact ⟨assembly.log, rfl⟩

theorem bind_ends (assembly : Assembly) (label : LabelName) (binding : Program.Binding) :
    BindEnds assembly label binding (assembly.bind label binding) := by
  rcases assembly.report_eq (.text label.name) binding with ⟨log, hreport⟩
  unfold bind
  dsimp only
  rw [hreport]
  cases hobstacle : (if assembly.verbose = true then
      (assembly.program.bindReport (.text label.name) binding).obstacle else none) with
  | some error =>
      refine .unreportable error log ?_
      intro labels haccepts
      split at hobstacle
      · next hverbose =>
          rw [haccepts.left hverbose] at hobstacle
          cases hobstacle
      · cases hobstacle
  | none =>
      dsimp only
      rw [Program.bind_eq]
      cases hlabels : Program.bindLabels assembly.program.labels assembly.program.size
          (.text label.name) binding with
      | ok labels =>
          refine .bound log ⟨?_, hlabels⟩
          intro hverbose
          rw [if_pos hverbose] at hobstacle
          exact hobstacle
      | error error =>
          refine .refused log ?_ ?_
          · rw [Program.bind_eq, hlabels]
          · intro labels haccepts
            rw [haccepts.right] at hlabels
            cases hlabels

/-- A position is refused only by frozen labels, unless the binding could not even be reported. -/
theorem refusal_of_bind_position {assembly : Assembly} {label : LabelName}
    {refusal : ConfigurationError} (h : (assembly.bind label .position).1 = some refusal) :
    (∃ error : NumeralError, refusal = .unreportable error) ∨
      assembly.program.labels.frozen = true ∧ refusal = .frozenLabels label.name := by
  have hends := bind_ends assembly label .position
  generalize assembly.bind label .position = result at hends h
  cases hends with
  | unreportable error log hnone =>
      cases h
      exact Or.inl ⟨error, rfl⟩
  | refused log hbind hnone =>
      cases h
      exact Or.inr (Program.bind_position_eq_error label.isFalsy_text hbind)
  | bound log haccepts => cases h

/-!
# What a line does to the labels
-/

end Assembly

/-- The binding that a clause makes of the label in front of it, if it gets as far as that. -/
def Clause.binding? : Clause -> Option Program.Binding
  | nothing | stop | instruction _ => some .position
  | origin address =>
      match Program.address (.int address) with
      | .ok _ => some .position
      | .error _ => none
  | constant value => some (.constant (.int value))

theorem Clause.binding?_origin (address : Int) :
    (origin address).binding? =
      match Program.address (.int address) with
      | .ok _ => some .position
      | .error _ => none := rfl

namespace Assembly

inductive Relabels (assembly : Assembly) (label : Option LabelName) (clause : Clause) :
    Labels -> Prop where
  | bound {name : LabelName} {binding : Program.Binding} {labels : Labels} :
      label = some name -> clause.binding? = some binding ->
      assembly.Accepts name binding labels -> Relabels assembly label clause labels
  | kept :
      (∀ (name : LabelName) (binding : Program.Binding) (labels : Labels),
        label = some name -> clause.binding? = some binding ->
        ¬assembly.Accepts name binding labels) ->
      Relabels assembly label clause assembly.program.labels

theorem accepts_withOrigin {assembly : Assembly} {origin : Option Int} {name : LabelName}
    {binding : Program.Binding} {labels : Labels} :
    Accepts { assembly with program := { assembly.program with origin := origin } } name binding
      labels ↔ assembly.Accepts name binding labels := by
  cases binding <;> exact Iff.rfl

theorem Relabels.of_withOrigin {assembly : Assembly} {origin : Option Int}
    {label : Option LabelName} {clause : Clause} {labels : Labels}
    (h : Relabels { assembly with program := { assembly.program with origin := origin } } label
      clause labels) : Relabels assembly label clause labels := by
  cases h with
  | bound hname hbinding haccepts =>
      exact .bound hname hbinding (accepts_withOrigin.mp haccepts)
  | kept hnone =>
      refine .kept ?_
      intro name binding labels hname hbinding haccepts
      exact hnone name binding labels hname hbinding (accepts_withOrigin.mpr haccepts)

theorem relabels_of_bind {assembly : Assembly} {name : LabelName} {clause : Clause}
    {binding : Program.Binding} (hbinding : clause.binding? = some binding) :
    Relabels assembly (some name) clause (assembly.bind name binding).2.program.labels := by
  have hends := bind_ends assembly name binding
  generalize assembly.bind name binding = result at hends ⊢
  cases hends with
  | unreportable error log hnone | refused log _ hnone =>
      refine .kept ?_
      intro other otherBinding labels hother hotherBinding
      cases hother
      rw [hbinding] at hotherBinding
      cases hotherBinding
      exact hnone labels
  | bound log haccepts => exact .bound rfl hbinding haccepts

theorem relabels_of_bindHere {assembly : Assembly} {label : Option LabelName} {clause : Clause}
    (hbinding : clause.binding? = some .position) :
    Relabels assembly label clause (assembly.bindHere label).2.program.labels := by
  cases label with
  | some name => exact relabels_of_bind hbinding
  | none =>
      refine .kept ?_
      intro name binding labels hname
      cases hname

theorem verdict_snd (locate : LineError -> AssemblyError) (onward : Verdict)
    (result : Option ConfigurationError × Assembly) :
    (verdict locate onward result).2 = result.2 := by
  rcases result with ⟨refusal, assembly⟩
  cases refusal <;> rfl

theorem labels_append (assembly : Assembly) (i : Instruction) :
    (assembly.append i).2.program.labels = assembly.program.labels := by
  unfold append Program.append
  dsimp only
  by_cases hfrozen : assembly.program.frozen = true
  · rw [if_pos hfrozen]
  · rw [if_neg hfrozen]

theorem relabels_enact (locate : LineError -> AssemblyError) (label : Option LabelName)
    (assembly : Assembly) (clause : Clause) :
    Relabels assembly label clause (enact locate label assembly clause).2.program.labels := by
  cases clause with
  | nothing =>
      have hbound : Relabels assembly label .nothing
          (assembly.bindHere label).2.program.labels := relabels_of_bindHere rfl
      unfold enact
      generalize assembly.bindHere label = result at hbound ⊢
      rcases result with ⟨refusal, after⟩
      cases refusal <;> exact hbound
  | stop =>
      unfold enact
      rw [verdict_snd]
      exact relabels_of_bindHere rfl
  | origin address =>
      unfold enact
      dsimp only
      rw [Program.setOrigin_eq]
      cases haddress : Program.address (.int address) with
      | error error =>
          refine .kept ?_
          intro name binding labels _ hbinding
          rw [Clause.binding?_origin, haddress] at hbinding
          cases hbinding
      | ok n =>
          have hbinding : (Clause.origin address).binding? = some .position := by
            rw [Clause.binding?_origin, haddress]
          dsimp only
          rw [verdict_snd]
          exact (relabels_of_bindHere hbinding).of_withOrigin
  | constant value =>
      cases label with
      | some name =>
          unfold enact
          dsimp only
          rw [verdict_snd]
          exact relabels_of_bind rfl
      | none =>
          refine .kept ?_
          intro name binding labels hname
          cases hname
  | instruction reading =>
      have hbound : Relabels assembly label (.instruction reading)
          (assembly.bindHere label).2.program.labels := relabels_of_bindHere rfl
      unfold enact
      dsimp only
      generalize assembly.bindHere label = result at hbound ⊢
      rcases result with ⟨refusal, after⟩
      cases refusal with
      | some error => exact hbound
      | none =>
          cases reading with
          | error error => exact hbound
          | ok i =>
              dsimp only
              rw [verdict_snd, labels_append]
              exact hbound

/-!
# What a line does
-/

/-- The ways in which a line can end: it says nothing, or it is refused for what it says, or its
clause is enacted. -/
inductive LineEnds (traps : Traps) (number : Nat) (raw : List Char) (assembly : Assembly) :
    Verdict × Assembly -> Prop where
  | blank :
      readLine traps raw = .ok none -> LineEnds traps number raw assembly (.next, assembly)
  | refused (cause : LineError) :
      (∀ (label : Option LabelName) (clause : Clause),
        readLine traps raw = .ok (some ⟨label, .ok clause⟩) ->
        assembly.isDeclared label = true) ->
      LineEnds traps number raw assembly
        (.failed (.located ⟨cause, number, String.ofList raw⟩), assembly)
  | enacted {label : Option LabelName} {clause : Clause} :
      readLine traps raw = .ok (some ⟨label, .ok clause⟩) ->
      assembly.isDeclared label = false ->
      LineEnds traps number raw assembly
        (enact (fun cause => .located ⟨cause, number, String.ofList raw⟩) label
          (assembly.declare label) clause)

theorem line_ends (traps : Traps) (number : Nat) (raw : List Char) (assembly : Assembly) :
    LineEnds traps number raw assembly (line traps number raw assembly) := by
  unfold line
  dsimp only
  cases hread : readLine traps raw with
  | error error =>
      refine .refused error ?_
      intro label clause h
      rw [hread] at h
      cases h
  | ok reading =>
      cases reading with
      | none => exact .blank hread
      | some written =>
          rcases written with ⟨label, clause⟩
          dsimp only
          by_cases hdeclared : assembly.isDeclared label = true
          · rw [if_pos hdeclared]
            refine .refused _ ?_
            intro other clause h
            rw [hread] at h
            cases h
            exact hdeclared
          · rw [if_neg hdeclared]
            cases clause with
            | error error =>
                refine .refused error ?_
                intro label clause h
                rw [hread] at h
                cases h
            | ok clause => exact .enacted hread (Bool.eq_false_iff.mpr hdeclared)

def Binds (traps : Traps) (assembly : Assembly) (raw : List Char) (name : LabelName)
    (binding : Program.Binding) (labels : Labels) : Prop :=
  ∃ clause : Clause, readLine traps raw = .ok (some ⟨some name, .ok clause⟩) ∧
    assembly.isDeclared (some name) = false ∧ clause.binding? = some binding ∧
    assembly.Accepts name binding labels

theorem accepts_declare {assembly : Assembly} {label : Option LabelName} {name : LabelName}
    {binding : Program.Binding} {labels : Labels} :
    (assembly.declare label).Accepts name binding labels ↔
      assembly.Accepts name binding labels := by
  cases label with
  | none => exact Iff.rfl
  | some declared => cases binding <;> exact Iff.rfl

theorem program_declare (assembly : Assembly) (label : Option LabelName) :
    (assembly.declare label).program = assembly.program := by
  cases label <;> rfl

theorem labels_line (traps : Traps) (number : Nat) (raw : List Char) (assembly : Assembly) :
    (∃ (name : LabelName) (binding : Program.Binding),
      Binds traps assembly raw name binding (line traps number raw assembly).2.program.labels) ∨
    ((line traps number raw assembly).2.program.labels = assembly.program.labels ∧
      ∀ (name : LabelName) (binding : Program.Binding) (labels : Labels),
        ¬Binds traps assembly raw name binding labels) := by
  have hends := line_ends traps number raw assembly
  generalize line traps number raw assembly = result at hends ⊢
  cases hends with
  | blank hread =>
      refine Or.inr ⟨rfl, ?_⟩
      rintro name binding labels ⟨clause, hclause, -⟩
      rw [hread] at hclause
      cases hclause
  | refused cause hrefused =>
      refine Or.inr ⟨rfl, ?_⟩
      rintro name binding labels ⟨clause, hclause, hdeclared, -⟩
      rw [hrefused (some name) clause hclause] at hdeclared
      cases hdeclared
  | @enacted label clause hread hdeclared =>
      have hrelabels := relabels_enact
        (fun cause => .located ⟨cause, number, String.ofList raw⟩) label
        (assembly.declare label) clause
      generalize enact _ _ _ _ = result at hrelabels ⊢
      rcases result with ⟨verdict, after⟩
      dsimp only at hrelabels ⊢
      generalize after.program.labels = labels at hrelabels ⊢
      cases hrelabels with
      | bound hname hbinding haccepts =>
          cases hname
          exact Or.inl ⟨_, _, clause, hread, hdeclared, hbinding, accepts_declare.mp haccepts⟩
      | kept hnone =>
          refine Or.inr ⟨by rw [program_declare], ?_⟩
          rintro name binding labels ⟨other, hother, -, hbinding, haccepts⟩
          rw [hread] at hother
          cases hother
          exact hnone name binding labels rfl hbinding (accepts_declare.mpr haccepts)

/-!
# Frozen labels
-/

theorem frozen_of_accepts {assembly : Assembly} {name : LabelName} {binding : Program.Binding}
    {labels : Labels} (h : assembly.Accepts name binding labels) :
    labels.frozen = assembly.program.labels.frozen := by
  rcases Program.bindLabels_eq_ok h.right with ⟨-, n, -, rfl⟩
  rfl

theorem frozen_line (traps : Traps) (number : Nat) (raw : List Char) (assembly : Assembly) :
    (line traps number raw assembly).2.program.labels.frozen = assembly.program.labels.frozen := by
  rcases labels_line traps number raw assembly with ⟨name, binding, hbinds⟩ | ⟨hkept, -⟩
  · rcases hbinds with ⟨clause, -, -, -, haccepts⟩
    exact frozen_of_accepts haccepts
  · rw [hkept]

theorem frozen_of_goesOn {traps : Traps} {start last : Assembly} {raws : List (List Char)}
    (h : GoesOn traps start raws last) :
    last.program.labels.frozen = start.program.labels.frozen := by
  induction h with
  | nil => rfl
  | @snoc before raw middle last _ hline ih =>
      rw [← ih, ← frozen_line traps (before.length + 1) raw middle, hline]

end Assembly
end Source
end LittleComputer
