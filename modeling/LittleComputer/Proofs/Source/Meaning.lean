import LittleComputer.Proofs.Source.Layout
import LittleComputer.Proofs.Source.Lines
import LittleComputer.Proofs.Source.Readings
import Mathlib.Data.List.Basic
import Mathlib.Data.List.Induction

/-!
# What a text says

A text says something line by line, up to the first line that says `.END`, and what a line says
depends on the words that it is written of.  A program is read off from this without going through
it step by step: its instructions are those of the lines in order, and a label stands for its
constant or for the number of instructions before its line.

An accepted text is assembled into exactly that program.
-/

namespace LittleComputer

namespace Source

/-- What a line says: a label, if there is one, and a clause. -/
abbrev Saying := Option LabelName × Clause

def said? (traps : Traps) (wording : Wording) : Option Saying :=
  match readWording traps wording with
  | .ok (some ⟨label, .ok clause⟩) => some (label, clause)
  | _ => none

def isStop (traps : Traps) (wording : Wording) : Bool :=
  match said? traps wording with
  | some (_, .stop) => true
  | _ => false

/-- The lines of a text that count: all up to the first one that says `.END`, with that one. -/
def heeded (traps : Traps) : List Wording -> List Wording
  | [] => []
  | wording :: rest =>
      if isStop traps wording then [wording] else wording :: heeded traps rest

/-- A line of nothing, or one that says something in which any instruction can be read. -/
def IsUnderstood (traps : Traps) (wording : Wording) : Prop :=
  wording = .nothing ∨ ∃ saying : Saying,
    readWording traps wording = .ok (some ⟨saying.1, .ok saying.2⟩) ∧
      ∀ error : LineError, saying.2 ≠ .instruction (.error error)

namespace Clause

def instruction? : Clause -> Option Instruction
  | instruction (.ok i) => some i
  | _ => none

def origin? : Clause -> Option Int
  | origin address => some address
  | _ => none

def labelled (size : Nat) : Clause -> Int
  | constant value => value
  | _ => size

end Clause

namespace Saying

/-!
# The meaning of sayings
-/

def instructions (said : List Saying) : List Instruction :=
  said.filterMap fun saying => saying.2.instruction?

def names (said : List Saying) : List String :=
  said.filterMap fun saying => saying.1.map LabelName.name

def binding? (before : List Saying) (saying : Saying) : Option (Value × Value) :=
  saying.1.map fun label =>
    (.text label.name, .int (Word.signed (saying.2.labelled (instructions before).length)))

def bindings (said : List Saying) : List (Value × Value) :=
  said.zipIdx.filterMap fun entry => binding? (said.take entry.2) entry.1

def origin (said : List Saying) : Option Int :=
  (said.filterMap fun saying => saying.2.origin?).getLast?

/-!
# Entering sayings into a program
-/

def enter (program : Program) (saying : Saying) : Program where
  instructions := program.instructions ++ saying.2.instruction?.toArray
  labels :=
    match saying.1 with
    | some label => program.labels.insert (.text label.name) (saying.2.labelled program.size)
    | none => program.labels
  origin := saying.2.origin?.or program.origin
  frozen := program.frozen

theorem instructions_concat (said : List Saying) (saying : Saying) :
    instructions (said ++ [saying]) = instructions said ++ saying.2.instruction?.toList := by
  unfold instructions
  rw [List.filterMap_append]
  rfl

theorem names_concat (said : List Saying) (saying : Saying) :
    names (said ++ [saying]) = names said ++ (saying.1.map LabelName.name).toList := by
  unfold names
  rw [List.filterMap_append]
  rfl

theorem origin_concat (said : List Saying) (saying : Saying) :
    origin (said ++ [saying]) = saying.2.origin?.or (origin said) := by
  unfold origin
  rw [List.filterMap_append]
  cases h : saying.2.origin? <;> simp [h]

/-- A later saying changes nothing about the entries of those before it. -/
theorem bindings_concat (said : List Saying) (saying : Saying) :
    bindings (said ++ [saying]) = bindings said ++ (binding? said saying).toList := by
  unfold bindings
  rw [List.zipIdx_append, List.filterMap_append]
  congr 1
  · apply List.filterMap_congr
    intro entry hentry
    have hlt := List.snd_lt_of_mem_zipIdx hentry
    rw [List.take_append_of_le_length (by omega)]
  · cases h : binding? said saying <;> simp [h]

theorem map_fst_bindings (said : List Saying) :
    (bindings said).map Prod.fst = (names said).map Value.text := by
  induction said using List.reverseRecOn with
  | nil => rfl
  | append_singleton said saying ih =>
      rw [bindings_concat, names_concat, List.map_append, List.map_append, ih]
      congr 1
      unfold binding?
      cases saying.1 <;> rfl

/-!
# Programs that sayings mean
-/

structure IsMeantBy (said : List Saying) (program : Program) : Prop where
  instructions_eq : program.instructions.toList = instructions said
  entries_eq : program.labels.entries = bindings said
  origin_eq : program.origin = origin said

theorem isMeantBy_empty : IsMeantBy [] .empty :=
  ⟨rfl, rfl, rfl⟩

end Saying

end Source

theorem Program.eq_of_address_int {given n : Int} (h : address (.int given) = .ok n) :
    n = given := by
  unfold address at h
  dsimp only at h
  split at h
  · cases h
    rfl
  · cases h

theorem Labels.entries_insert_of_forall_ne {labels : Labels} {name : Value}
    (h : ∀ other ∈ labels.entries.map Prod.fst, other.equals name = false) (value : Int) :
    (labels.insert name value).entries =
      labels.entries ++ [(name, .int (Word.signed value))] := by
  have hkeys : ∀ other ∈ labels.table.entries.map Prod.fst, (other == (⟨name⟩ : Key)) = false := by
    intro other hother
    rcases List.mem_map.mp hother with ⟨entry, hentry, rfl⟩
    apply h entry.1.value
    exact List.mem_map_of_mem (f := Prod.fst) (List.mem_map_of_mem hentry)
  show (Entries.insert _ _ labels.table.entries).map _ = _
  rw [Entries.insert_of_forall_ne _ hkeys, List.map_append]
  rfl

namespace Source
namespace Saying

theorem IsMeantBy.enter {said : List Saying} {program : Program} (h : IsMeantBy said program)
    {saying : Saying} (hnew : ∀ label : LabelName, saying.1 = some label ->
      label.name ∉ names said) : IsMeantBy (said ++ [saying]) (saying.enter program) where
  instructions_eq := by
    rw [instructions_concat, ← h.instructions_eq]
    unfold Saying.enter
    cases saying.2.instruction? <;> simp
  entries_eq := by
    have hsize : program.size = (instructions said).length := by
      rw [← h.instructions_eq]
      rfl
    rw [bindings_concat, ← h.entries_eq]
    unfold Saying.enter binding?
    rcases saying with ⟨label, clause⟩
    cases label with
    | none => simp
    | some label =>
        dsimp only at hnew ⊢
        rw [Labels.entries_insert_of_forall_ne, hsize]
        · rfl
        · intro other hother
          rw [h.entries_eq, map_fst_bindings] at hother
          rcases List.mem_map.mp hother with ⟨name, hname, rfl⟩
          rw [Value.equals_text, decide_eq_false_iff_not]
          intro hsame
          exact hnew label rfl (hsame ▸ hname)
  origin_eq := by
    rw [origin_concat, ← h.origin_eq]
    rfl

end Saying

/-!
# What an assembled line says
-/

theorem said?_of_readWording {traps : Traps} {wording : Wording} {saying : Saying}
    (h : readWording traps wording = .ok (some ⟨saying.1, .ok saying.2⟩)) :
    said? traps wording = some saying := by
  unfold said?
  rw [h]

def Clause.onward : Clause -> Verdict
  | stop => .stop
  | _ => .next

theorem Clause.onward_eq_stop_iff {clause : Clause} : clause.onward = .stop ↔ clause = .stop := by
  cases clause <;> simp [onward]

namespace Assembly

def GoesWell (result : Verdict × Assembly) : Prop :=
  ∀ error : AssemblyError, result.1 ≠ .failed error

theorem verdict_of_goesWell {locate : LineError -> AssemblyError} {onward : Verdict}
    {result : Option ConfigurationError × Assembly} (h : GoesWell (verdict locate onward result)) :
    result.1 = none ∧ (verdict locate onward result).1 = onward := by
  rcases result with ⟨refusal, assembly⟩
  cases refusal with
  | none => exact ⟨rfl, rfl⟩
  | some error => exact absurd rfl (h _)

theorem bind_of_fst_eq_none {assembly : Assembly} {label : LabelName} {binding : Program.Binding}
    (h : (assembly.bind label binding).1 = none) :
    ∃ n : Int, (Program.bindingValue assembly.program.size binding).asInt? = some n ∧
      (assembly.bind label binding).2.program =
        { assembly.program with labels := assembly.program.labels.insert (.text label.name) n } ∧
      (assembly.bind label binding).2.declared = assembly.declared := by
  have hends := bind_ends assembly label binding
  generalize assembly.bind label binding = result at hends h ⊢
  cases hends with
  | unreportable _ _ _ | refused _ _ _ => cases h
  | bound log haccepts =>
      rcases Program.bindLabels_eq_ok haccepts.right with ⟨-, n, hvalue, rfl⟩
      exact ⟨n, hvalue, rfl, rfl⟩

theorem bindHere_of_fst_eq_none {assembly : Assembly} {label : Option LabelName}
    (h : (assembly.bindHere label).1 = none) :
    (assembly.bindHere label).2.program = Saying.enter assembly.program (label, .nothing) ∧
      (assembly.bindHere label).2.declared = assembly.declared := by
  cases label with
  | none =>
      refine ⟨?_, rfl⟩
      show assembly.program = Saying.enter assembly.program (none, .nothing)
      simp [Saying.enter, Clause.instruction?, Clause.origin?]
  | some label =>
      rcases bind_of_fst_eq_none h with ⟨n, hvalue, hprogram, hdeclared⟩
      cases hvalue
      refine ⟨?_, hdeclared⟩
      refine hprogram.trans ?_
      simp [Saying.enter, Clause.instruction?, Clause.origin?, Clause.labelled]

theorem append_of_fst_eq_none {assembly : Assembly} {i : Instruction}
    (h : (assembly.append i).1 = none) :
    (assembly.append i).2.program =
        { assembly.program with instructions := assembly.program.instructions.push i } ∧
      (assembly.append i).2.declared = assembly.declared := by
  unfold append Program.append at h ⊢
  dsimp only at h ⊢
  by_cases hfrozen : assembly.program.frozen = true
  · rw [if_pos hfrozen] at h
    cases h
  · rw [if_neg hfrozen]
    exact ⟨rfl, rfl⟩

structure Enacts (label : Option LabelName) (assembly : Assembly) (clause : Clause)
    (result : Verdict × Assembly) : Prop where
  ne_error : ∀ error : LineError, clause ≠ .instruction (.error error)
  verdict_eq : result.1 = clause.onward
  program_eq : result.2.program = Saying.enter assembly.program (label, clause)
  declared_eq : result.2.declared = assembly.declared

theorem Enacts.of_verdict {locate : LineError -> AssemblyError} {label : Option LabelName}
    {assembly : Assembly} {clause : Clause} {result : Option ConfigurationError × Assembly}
    (hclause : ∀ error : LineError, clause ≠ .instruction (.error error))
    (hresult : result.1 = none ->
      result.2.program = Saying.enter assembly.program (label, clause) ∧
        result.2.declared = assembly.declared)
    (h : GoesWell (verdict locate clause.onward result)) :
    Enacts label assembly clause (verdict locate clause.onward result) := by
  rcases verdict_of_goesWell h with ⟨hnone, hverdict⟩
  rcases hresult hnone with ⟨hprogram, hdeclared⟩
  refine ⟨hclause, hverdict, ?_, ?_⟩
  · rw [verdict_snd]
    exact hprogram
  · rw [verdict_snd]
    exact hdeclared

theorem enter_instruction (program : Program) (label : Option LabelName) (i : Instruction) :
    Saying.enter program (label, .instruction (.ok i)) =
      { Saying.enter program (label, .nothing) with
        instructions := (Saying.enter program (label, .nothing)).instructions.push i } := by
  simp [Saying.enter, Clause.instruction?, Clause.origin?, Clause.labelled]

theorem enacts_of_goesWell {locate : LineError -> AssemblyError} {label : Option LabelName}
    {assembly : Assembly} {clause : Clause} (h : GoesWell (enact locate label assembly clause)) :
    Enacts label assembly clause (enact locate label assembly clause) := by
  cases clause with
  | nothing =>
      have hbound := @bindHere_of_fst_eq_none assembly label
      unfold enact at h ⊢
      dsimp only at h ⊢
      rcases hresult : assembly.bindHere label with ⟨refusal, after⟩
      rw [hresult] at h hbound
      cases refusal with
      | some error => exact absurd rfl (h _)
      | none =>
          rcases hbound rfl with ⟨hprogram, hdeclared⟩
          exact ⟨nofun, rfl, hprogram, hdeclared⟩
  | stop => exact .of_verdict nofun bindHere_of_fst_eq_none h
  | origin address =>
      unfold enact at h ⊢
      dsimp only at h ⊢
      rw [Program.setOrigin_eq] at h ⊢
      cases haddress : Program.address (.int address) with
      | error error =>
          rw [haddress] at h
          exact absurd rfl (h _)
      | ok n =>
          rw [haddress] at h
          cases Program.eq_of_address_int haddress
          refine .of_verdict nofun ?_ h
          intro hnone
          rcases bindHere_of_fst_eq_none hnone with ⟨hprogram, hdeclared⟩
          exact ⟨hprogram, hdeclared⟩
  | constant value =>
      cases label with
      | none => exact absurd rfl (h _)
      | some label =>
          refine .of_verdict nofun ?_ h
          intro hnone
          rcases bind_of_fst_eq_none hnone with ⟨n, hvalue, hprogram, hdeclared⟩
          cases hvalue
          refine ⟨hprogram.trans ?_, hdeclared⟩
          simp [Saying.enter, Clause.instruction?, Clause.origin?, Clause.labelled]
  | instruction reading =>
      have hbound := @bindHere_of_fst_eq_none assembly label
      unfold enact at h ⊢
      dsimp only at h ⊢
      rcases hresult : assembly.bindHere label with ⟨refusal, after⟩
      rw [hresult] at h hbound
      cases refusal with
      | some error => exact absurd rfl (h _)
      | none =>
          rcases hbound rfl with ⟨hprogram, hdeclared⟩
          cases reading with
          | error error => exact absurd rfl (h _)
          | ok i =>
              refine .of_verdict ?_ ?_ h
              · intro error herror
                cases herror
              · intro hnone
                rcases append_of_fst_eq_none hnone with ⟨happended, hsame⟩
                rw [happended, hsame, enter_instruction]
                exact ⟨by rw [← hprogram], hdeclared⟩

inductive Tells (traps : Traps) (assembly : Assembly) : Wording -> Verdict × Assembly -> Prop where
  | blank : Tells traps assembly .nothing (.next, assembly)
  | saying {wording : Wording} {saying : Saying} {after : Assembly} :
      readWording traps wording = .ok (some ⟨saying.1, .ok saying.2⟩) ->
      (∀ error : LineError, saying.2 ≠ .instruction (.error error)) ->
      assembly.isDeclared saying.1 = false ->
      after.program = saying.enter assembly.program ->
      after.declared = (assembly.declare saying.1).declared ->
      Tells traps assembly wording (saying.2.onward, after)

theorem tells_of_goesWell {traps : Traps} {number : Nat} {raw : List Char} {assembly : Assembly}
    (h : GoesWell (line traps number raw assembly)) :
    Tells traps assembly (wordingOf raw) (line traps number raw assembly) := by
  have hends := line_ends traps number raw assembly
  generalize line traps number raw assembly = result at hends h ⊢
  cases hends with
  | blank hread =>
      rw [← readWording_wordingOf] at hread
      rw [eq_nothing_of_readWording hread]
      exact .blank
  | refused cause _ => exact absurd rfl (h _)
  | @enacted label clause hread hdeclared =>
      have henacts := enacts_of_goesWell h
      generalize enact _ _ _ _ = result at henacts ⊢
      rcases result with ⟨verdict, after⟩
      rcases henacts with ⟨hne, hverdict, hprogram, hsame⟩
      dsimp only at hverdict hprogram hsame
      subst hverdict
      rw [program_declare] at hprogram
      rw [← readWording_wordingOf] at hread
      exact @Tells.saying traps assembly _ (label, clause) after hread hne hdeclared hprogram hsame

theorem tells_of_line {traps : Traps} {number : Nat} {raw : List Char} {assembly : Assembly}
    {verdict : Verdict} {after : Assembly}
    (h : line traps number raw assembly = (verdict, after))
    (hverdict : ∀ error : AssemblyError, verdict ≠ .failed error) :
    Tells traps assembly (wordingOf raw) (verdict, after) := by
  rw [← h]
  apply tells_of_goesWell
  rw [h]
  exact hverdict

theorem Tells.isStop_iff {traps : Traps} {wording : Wording} {assembly : Assembly}
    {result : Verdict × Assembly} (h : Tells traps assembly wording result) :
    isStop traps wording = true ↔ result.1 = .stop := by
  cases h with
  | blank => simp [isStop, said?, readWording]
  | @saying _ saying _ hread _ _ _ _ =>
      rw [Clause.onward_eq_stop_iff]
      rcases saying with ⟨label, clause⟩
      cases clause <;> simp [isStop, said?_of_readWording hread]

theorem Tells.isUnderstood {traps : Traps} {wording : Wording} {assembly : Assembly}
    {result : Verdict × Assembly} (h : Tells traps assembly wording result) :
    IsUnderstood traps wording := by
  cases h with
  | blank => exact Or.inl rfl
  | @saying _ saying _ hread hne _ _ _ => exact Or.inr ⟨saying, hread, hne⟩

/-!
# What assembled lines say
-/

/-- A fresh program has been made into what the lines so far say, and the labels that they declare
are marked. -/
structure Told (traps : Traps) (wordings : List Wording) (assembly : Assembly) : Prop where
  understood : ∀ wording ∈ wordings, IsUnderstood traps wording
  meant : Saying.IsMeantBy (wordings.filterMap (said? traps)) assembly.program
  declared_iff : ∀ name : String,
    name ∈ assembly.declared ↔ name ∈ Saying.names (wordings.filterMap (said? traps))
  nodup : (Saying.names (wordings.filterMap (said? traps))).Nodup

theorem told_start (traps : Traps) (verbose : Bool) : Told traps [] (start verbose .empty) where
  understood := by
    intro wording hwording
    cases hwording
  meant := Saying.isMeantBy_empty
  declared_iff := fun _ => Iff.rfl
  nodup := List.nodup_nil

theorem Told.snoc {traps : Traps} {wordings : List Wording} {wording : Wording}
    {assembly : Assembly} {result : Verdict × Assembly} (h : Told traps wordings assembly)
    (htells : Tells traps assembly wording result) :
    Told traps (wordings ++ [wording]) result.2 := by
  have hunderstood : ∀ other ∈ wordings ++ [wording], IsUnderstood traps other := by
    intro other hother
    rcases List.mem_append.mp hother with hother | hother
    · exact h.understood other hother
    · cases List.mem_singleton.mp hother
      exact htells.isUnderstood
  cases htells with
  | blank =>
      have hsame : (wordings ++ [Wording.nothing]).filterMap (said? traps) =
          wordings.filterMap (said? traps) := by
        simp [said?, readWording]
      exact ⟨hunderstood, hsame ▸ h.meant, hsame ▸ h.declared_iff, hsame ▸ h.nodup⟩
  | @saying _ saying after hread _ hdeclared hprogram hafter =>
      have hsaid : (wordings ++ [wording]).filterMap (said? traps) =
          wordings.filterMap (said? traps) ++ [saying] := by
        simp [said?_of_readWording hread]
      have hnew : ∀ label : LabelName, saying.1 = some label ->
          label.name ∉ Saying.names (wordings.filterMap (said? traps)) := by
        intro label hlabel hmem
        rw [hlabel] at hdeclared
        have hcontains : assembly.declared.contains label.name = true :=
          List.contains_iff_mem.mpr ((h.declared_iff label.name).mpr hmem)
        exact Bool.false_ne_true (hdeclared.symm.trans hcontains)
      refine ⟨hunderstood, ?_, ?_, ?_⟩
      · rw [hsaid, hprogram]
        exact h.meant.enter hnew
      · intro name
        rw [hsaid, Saying.names_concat, List.mem_append, ← h.declared_iff, hafter]
        cases saying.1 with
        | none => simp [declare]
        | some label => simp [declare, or_comm]
      · rw [hsaid, Saying.names_concat]
        refine List.nodup_append.mpr ⟨h.nodup, ?_, ?_⟩
        · cases saying.1 <;> simp
        · intro name hmem other hother
          rcases Option.map_eq_some_iff.mp (Option.mem_toList.mp hother) with ⟨label, hlabel, rfl⟩
          rintro rfl
          exact hnew label hlabel hmem

theorem told_of_goesOn {traps : Traps} {verbose : Bool} {raws : List (List Char)}
    {last : Assembly} (h : GoesOn traps (start verbose .empty) raws last) :
    Told traps (raws.map wordingOf) last ∧
      ∀ wording ∈ raws.map wordingOf, isStop traps wording = false := by
  induction h with
  | nil =>
      refine ⟨told_start traps verbose, ?_⟩
      intro wording hwording
      cases hwording
  | @snoc before raw middle last _ hline ih =>
      rcases ih with ⟨htold, hgoing⟩
      have htells := tells_of_line hline nofun
      rw [List.map_append, List.map_singleton]
      refine ⟨htold.snoc htells, ?_⟩
      intro other hother
      rcases List.mem_append.mp hother with hother | hother
      · exact hgoing other hother
      · cases List.mem_singleton.mp hother
        rw [Bool.eq_false_iff, Ne, htells.isStop_iff]
        nofun

end Assembly

/-!
# Lines that count
-/

theorem heeded_append {traps : Traps} {before : List Wording}
    (h : ∀ wording ∈ before, isStop traps wording = false) (rest : List Wording) :
    heeded traps (before ++ rest) = before ++ heeded traps rest := by
  induction before with
  | nil => rfl
  | cons wording before ih =>
      have hwording := h wording (List.mem_cons_self ..)
      have hrest := ih fun other hother => h other (List.mem_cons_of_mem _ hother)
      simp [heeded, hwording, hrest]

theorem heeded_cons (traps : Traps) (wording : Wording) (rest : List Wording) :
    heeded traps (wording :: rest) =
      wording :: if isStop traps wording then [] else heeded traps rest := by
  rw [heeded]
  split <;> rfl

namespace Assembly

theorem not_isStop_of_line {traps : Traps} {number : Nat} {raw : List Char}
    {assembly after : Assembly} (h : line traps number raw assembly = (.next, after)) :
    isStop traps (wordingOf raw) = false := by
  rw [Bool.eq_false_iff, Ne, (tells_of_line h nofun).isStop_iff]
  nofun

/-- Only the lines that count matter, and of these only what they are written of. -/
theorem sameOutcome_of_heeded_eq {traps : Traps} {raws others : List (List Char)}
    (h : heeded traps (others.map wordingOf) = heeded traps (raws.map wordingOf)) (number : Nat)
    (assembly : Assembly) :
    SameOutcome (lines traps number raws assembly) (lines traps number others assembly) := by
  induction raws generalizing others number assembly with
  | nil =>
      cases others with
      | nil => exact ⟨Iff.rfl, rfl⟩
      | cons other others =>
          rw [List.map_cons, heeded_cons] at h
          cases h
  | cons raw raws ih =>
      cases others with
      | nil =>
          rw [List.map_cons, heeded_cons] at h
          cases h
      | cons other others =>
          rw [List.map_cons, List.map_cons, heeded_cons, heeded_cons] at h
          rcases List.cons.inj h with ⟨hhead, htail⟩
          refine sameOutcome_cons ?_ ?_
          · rw [← readWording_wordingOf, ← readWording_wordingOf, hhead]
            exact .refl _
          · intro after hnext
            rw [hhead, not_isStop_of_line hnext] at htail
            exact ih htail (number + 1) after

end Assembly

/-!
# Assembled texts
-/

theorem told_of_assemble {traps : Traps} {verbose : Bool} {text : String}
    (h : (assemble traps verbose text .empty).1 = none) :
    Assembly.Told traps (heeded traps (wordings text))
      (assemble traps verbose text .empty).2 := by
  have hends := Assembly.assemble_ends traps verbose text .empty
  unfold wordings
  generalize assemble traps verbose text .empty = result at hends h ⊢
  generalize Text.lines text.toList = raws at hends ⊢
  cases hends with
  | refused _ _ _ => cases h
  | assembled hgoes =>
      rcases Assembly.told_of_goesOn hgoes with ⟨htold, hgoing⟩
      have hheeded := heeded_append hgoing []
      rw [List.append_nil, heeded, List.append_nil] at hheeded
      rw [hheeded]
      exact htold
  | @stopped before after raw middle last hraws hgoes hline =>
      rcases Assembly.told_of_goesOn hgoes with ⟨htold, hgoing⟩
      have htells := Assembly.tells_of_line hline nofun
      rw [hraws, List.map_append, List.map_cons, heeded_append hgoing,
        heeded_cons,
        if_pos (htells.isStop_iff.mpr rfl)]
      exact htold.snoc htells

/-- A text that is accepted for a fresh program is assembled into what its lines say, up to the
first one that says `.END`, and each of these can be read.  The labels are those in front of the
lines, in order and no two alike.  What follows does not matter, and neither does the layout. -/
theorem assemble_eq_meaning {traps : Traps} {verbose : Bool} {text : String}
    (h : (assemble traps verbose text .empty).1 = none) :
    let kept := heeded traps (wordings text)
    let said := kept.filterMap (said? traps)
    let program := (assemble traps verbose text .empty).2.program
    List.Forall₂ IsLine (wordings text) (Text.lines text.toList) ∧
      (∀ wording ∈ kept, IsUnderstood traps wording) ∧
      program.instructions.toList = Saying.instructions said ∧
      program.labels.entries = Saying.bindings said ∧
      program.labels.entries.map Prod.fst = (Saying.names said).map Value.text ∧
      (Saying.names said).Nodup ∧
      program.origin = Saying.origin said ∧
      ∀ other : String, heeded traps (wordings other) = kept ->
        assemble traps verbose other .empty = assemble traps verbose text .empty := by
  have htold := told_of_assemble h
  refine ⟨isLine_wordings text, htold.understood, htold.meant.instructions_eq,
    htold.meant.entries_eq, ?_, htold.nodup, htold.meant.origin_eq, ?_⟩
  · rw [htold.meant.entries_eq, Saying.map_fst_bindings]
  · intro other hother
    have hsame : Assembly.SameOutcome (assemble traps verbose text .empty)
        (assemble traps verbose other .empty) := Assembly.sameOutcome_of_heeded_eq hother 1 _
    exact Prod.ext ((hsame.left.mp h).trans h.symm) hsame.right.symm

theorem assemble_eq_meaning_forward :
    let counting := "A .ORIG 9\nB\nC BRz D ; on\nBR C\nM .FILL xFFFE\nD HALT\nE .END"
    let text := counting ++ " x\n!"
    let code : List Instruction :=
      [.branch ⟨false, true, false⟩ ⟨"D", by decide⟩, .branch ⟨false, false, false⟩ ⟨"C", by decide⟩,
        .trap Trap.haltVector]
    let labels : List (Value × Value) :=
      [(.text "A", .int 0), (.text "B", .int 0), (.text "C", .int 0), (.text "M", .int (-2)),
        (.text "D", .int 2), (.text "E", .int 3)]
    let result := assemble .standard false text .empty
    result.1 = none ∧ result.2.program.instructions.toList = code ∧
      result.2.program.labels.entries = labels ∧ result.2.program.origin = some 9 ∧
      (assemble .standard false (counting ++ " x") .empty) = result := by
  intro counting text code labels result
  have haccepted : result.1 = none := by
    decide +kernel
  rcases assemble_eq_meaning haccepted with
    ⟨-, -, hinstructions, hentries, -, -, horigin, hother⟩
  rw [hinstructions, hentries, horigin]
  refine ⟨haccepted, ?_, ?_, ?_, ?_⟩
  · decide +kernel
  · decide +kernel
  · decide +kernel
  · apply hother
    decide +kernel

end Source
end LittleComputer
