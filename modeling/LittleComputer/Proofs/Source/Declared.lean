import LittleComputer.Proofs.Source.Meaning

/-!
# Declared labels

The labels that lines declare are those in front of them, whether or not what follows the label can
be read.  All that an assembly needs of the labels declared before is which of the coming ones are
among them, and all that it makes of the number of a line is the place of a refusal.
-/

namespace LittleComputer
namespace Source

/-- The label in front of a line, if the word there can be one. -/
def Wording.head? : Wording -> Option String
  | .label word | .statement (some word) _ _ => (readLabel? word).map LabelName.name
  | .nothing | .statement none _ _ => none

def heads (wordings : List Wording) : List String :=
  wordings.filterMap Wording.head?

theorem head?_of_readWording {traps : Traps} {wording : Wording} {line : Line}
    (h : readWording traps wording = .ok (some line)) :
    wording.head? = line.label.map LabelName.name := by
  rcases wording with _ | word | ⟨_ | word, keyword, operands⟩
  · cases h
  · rcases readLabelled_eq_ok h with ⟨label, hlabel, rfl⟩
    exact congrArg (Option.map LabelName.name) hlabel
  · cases h
    rfl
  · rcases readLabelled_eq_ok h with ⟨label, hlabel, rfl⟩
    exact congrArg (Option.map LabelName.name) hlabel

namespace AssemblyError

def later (count : Nat) : AssemblyError -> AssemblyError
  | located error => located { error with line := error.line + count }
  | unlocated error => unlocated error

end AssemblyError

namespace Verdict

def later (count : Nat) : Verdict -> Verdict
  | failed error => failed (error.later count)
  | verdict => verdict

end Verdict

namespace Assembly

/-!
# Labels declared so far
-/

theorem mem_declared_declare {assembly : Assembly} {label : Option LabelName} {name : String} :
    name ∈ (assembly.declare label).declared ↔
      label.map LabelName.name = some name ∨ name ∈ assembly.declared := by
  cases label with
  | none => simp [declare]
  | some label => simp [declare, eq_comm]

theorem mem_declared_of_goesOn {traps : Traps} {start last : Assembly} {raws : List (List Char)}
    (h : GoesOn traps start raws last) {name : String} :
    name ∈ last.declared ↔ name ∈ heads (raws.map wordingOf) ∨ name ∈ start.declared := by
  induction h with
  | nil => simp [heads]
  | @snoc before raw middle last _ hline ih =>
      have htells := tells_of_line hline nofun
      have hheads : heads ((before ++ [raw]).map wordingOf) =
          heads (before.map wordingOf) ++ (wordingOf raw).head?.toList := by
        unfold heads
        rw [List.map_append, List.filterMap_append]
        rfl
      rw [hheads, List.mem_append, or_right_comm, ← ih]
      generalize wordingOf raw = wording at htells ⊢
      generalize hresult : (Verdict.next, last) = result at htells
      cases htells with
      | blank =>
          cases hresult
          simp [Wording.head?]
      | @saying _ saying after hread _ _ _ hdeclared =>
          rcases Prod.mk.inj hresult with ⟨-, rfl⟩
          rw [hdeclared, mem_declared_declare, head?_of_readWording hread, Option.mem_toList]
          exact or_comm

/-!
# Assemblies that agree
-/

/-- Two assemblies of the same program, which tell apart the same ones of some names. -/
structure Agrees (names : List String) (assembly other : Assembly) : Prop where
  program_eq : assembly.program = other.program
  verbose_eq : assembly.verbose = other.verbose
  declared_iff : ∀ name ∈ names, name ∈ assembly.declared ↔ name ∈ other.declared

def AgreeOn {α : Type} (names : List String) (result other : α × Assembly) : Prop :=
  result.1 = other.1 ∧ Agrees names result.2 other.2

section Agrees

variable {names : List String} {assembly other : Assembly} (h : Agrees names assembly other)
include h

theorem Agrees.report (name : Value) (binding : Program.Binding) :
    AgreeOn names (assembly.report name binding) (other.report name binding) := by
  rcases assembly with ⟨program, declared, verbose, log⟩
  rcases other with ⟨_, otherDeclared, _, otherLog⟩
  rcases h with ⟨rfl, rfl, hdeclared⟩
  unfold Assembly.report
  dsimp only
  split <;> exact ⟨rfl, rfl, rfl, hdeclared⟩

theorem Agrees.bind (label : LabelName) (binding : Program.Binding) :
    AgreeOn names (assembly.bind label binding) (other.bind label binding) := by
  have hreport := h.report (.text label.name) binding
  unfold Assembly.bind
  dsimp only
  generalize assembly.report _ _ = result at hreport ⊢
  generalize other.report _ _ = otherResult at hreport ⊢
  rcases result with ⟨obstacle, program, declared, verbose, log⟩
  rcases otherResult with ⟨_, _, otherDeclared, _, otherLog⟩
  rcases hreport with ⟨rfl, rfl, rfl, hdeclared⟩
  cases obstacle with
  | some error => exact ⟨rfl, rfl, rfl, hdeclared⟩
  | none =>
      dsimp only
      cases program.bind (.text label.name) binding <;> exact ⟨rfl, rfl, rfl, hdeclared⟩

theorem Agrees.bindHere (label : Option LabelName) :
    AgreeOn names (assembly.bindHere label) (other.bindHere label) := by
  cases label with
  | none => exact ⟨rfl, h⟩
  | some label => exact h.bind label .position

theorem Agrees.append (i : Instruction) :
    AgreeOn names (assembly.append i) (other.append i) := by
  rcases assembly with ⟨program, declared, verbose, log⟩
  rcases other with ⟨_, otherDeclared, _, otherLog⟩
  rcases h with ⟨rfl, rfl, hdeclared⟩
  unfold Assembly.append
  dsimp only
  rcases program.append (.instruction i) with ⟨answer, after⟩
  cases answer <;> exact ⟨rfl, rfl, rfl, hdeclared⟩

theorem Agrees.declare (label : Option LabelName) :
    Agrees names (assembly.declare label) (other.declare label) where
  program_eq := by
    rw [program_declare, program_declare]
    exact h.program_eq
  verbose_eq := by
    cases label <;> exact h.verbose_eq
  declared_iff := by
    intro name hname
    rw [mem_declared_declare, mem_declared_declare, h.declared_iff name hname]

theorem Agrees.isDeclared_eq {label : Option LabelName}
    (hlabel : ∀ name : LabelName, label = some name -> name.name ∈ names) :
    assembly.isDeclared label = other.isDeclared label := by
  cases label with
  | none => rfl
  | some label =>
      show assembly.declared.contains label.name = other.declared.contains label.name
      rw [Bool.eq_iff_iff, List.contains_iff_mem, List.contains_iff_mem]
      exact h.declared_iff label.name (hlabel label rfl)

end Agrees

/-!
# The same lines further down
-/

def AgreeLater (names : List String) (count : Nat) (result other : Verdict × Assembly) : Prop :=
  result.1 = other.1.later count ∧ Agrees names result.2 other.2

section AgreeLater

variable {names : List String} {count : Nat} {locate locateLater : LineError -> AssemblyError}
  (hlocate : ∀ cause : LineError, locateLater cause = (locate cause).later count)
include hlocate

theorem AgreeOn.verdict {result other : Option ConfigurationError × Assembly}
    (h : AgreeOn names result other) {onward : Verdict} (honward : onward = onward.later count) :
    AgreeLater names count (verdict locateLater onward result) (verdict locate onward other) := by
  rcases result with ⟨refusal, after⟩
  rcases other with ⟨_, otherAfter⟩
  rcases h with ⟨rfl, hagrees⟩
  cases refusal with
  | none => exact ⟨honward, hagrees⟩
  | some error => exact ⟨congrArg Verdict.failed (hlocate _), hagrees⟩

theorem Agrees.enact {assembly other : Assembly} (h : Agrees names assembly other)
    (label : Option LabelName) (clause : Clause) :
    AgreeLater names count (enact locateLater label assembly clause)
      (enact locate label other clause) := by
  have hbound := h.bindHere label
  cases clause with
  | nothing =>
      unfold Assembly.enact
      dsimp only
      generalize assembly.bindHere label = result at hbound ⊢
      generalize other.bindHere label = otherResult at hbound ⊢
      rcases result with ⟨refusal, after⟩
      rcases otherResult with ⟨_, otherAfter⟩
      rcases hbound with ⟨rfl, hagrees⟩
      cases refusal <;> exact ⟨rfl, hagrees⟩
  | stop => exact hbound.verdict hlocate rfl
  | origin address =>
      unfold Assembly.enact
      dsimp only
      rw [h.program_eq, Program.setOrigin_eq]
      cases Program.address (.int address) with
      | error error => exact ⟨congrArg Verdict.failed (hlocate _), h⟩
      | ok n =>
          have hset : Agrees names
              { assembly with program := { other.program with origin := some n } }
              { other with program := { other.program with origin := some n } } :=
            ⟨rfl, h.verbose_eq, h.declared_iff⟩
          exact (hset.bindHere label).verdict hlocate rfl
  | constant value =>
      cases label with
      | none => exact ⟨congrArg Verdict.failed (hlocate _), h⟩
      | some label => exact (h.bind label _).verdict hlocate rfl
  | instruction reading =>
      unfold Assembly.enact
      dsimp only
      generalize assembly.bindHere label = result at hbound ⊢
      generalize other.bindHere label = otherResult at hbound ⊢
      rcases result with ⟨refusal, after⟩
      rcases otherResult with ⟨_, otherAfter⟩
      rcases hbound with ⟨rfl, hagrees⟩
      cases refusal with
      | some error => exact ⟨congrArg Verdict.failed (hlocate _), hagrees⟩
      | none =>
          cases reading with
          | error error => exact ⟨congrArg Verdict.failed (hlocate _), hagrees⟩
          | ok i => exact (hagrees.append i).verdict hlocate rfl

end AgreeLater

section Agrees

variable {names : List String} {assembly other : Assembly} (h : Agrees names assembly other)
include h

theorem Agrees.line (count : Nat) (traps : Traps) (number : Nat) (raw : List Char)
    (hhead : ∀ name : String, (wordingOf raw).head? = some name -> name ∈ names) :
    AgreeLater names count (line traps (number + count) raw assembly)
      (line traps number raw other) := by
  unfold Assembly.line
  dsimp only
  cases hread : readLine traps raw with
  | error error => exact ⟨rfl, h⟩
  | ok reading =>
      cases reading with
      | none => exact ⟨rfl, h⟩
      | some written =>
          rcases written with ⟨label, clause⟩
          have hlabel : ∀ name : LabelName, label = some name -> name.name ∈ names := by
            rintro name rfl
            rw [← readWording_wordingOf] at hread
            exact hhead name.name (head?_of_readWording hread)
          dsimp only
          rw [h.isDeclared_eq hlabel]
          split
          · exact ⟨rfl, h⟩
          · cases clause with
            | error error => exact ⟨rfl, h⟩
            | ok clause =>
                refine (h.declare label).enact ?_ label clause
                intro cause
                rfl

/-- Assemblies that tell apart the same labels in front of the lines that count do the same with
these lines. -/
theorem Agrees.lines (count : Nat) (traps : Traps) (number : Nat) {raws : List (List Char)}
    (hheads : ∀ name ∈ heads (heeded traps (raws.map wordingOf)), name ∈ names) :
    (lines traps (number + count) raws assembly).1 =
        (lines traps number raws other).1.map (AssemblyError.later count) ∧
      (lines traps (number + count) raws assembly).2.program =
        (lines traps number raws other).2.program := by
  induction raws generalizing number assembly other with
  | nil => exact ⟨rfl, h.program_eq⟩
  | cons raw rest ih =>
      rw [List.map_cons, heeded_cons] at hheads
      have hline := h.line count traps number raw fun name hname =>
        hheads name (List.mem_filterMap.mpr ⟨_, List.mem_cons_self .., hname⟩)
      have hstop := @not_isStop_of_line traps number raw other
      unfold Assembly.lines
      generalize Assembly.line traps (number + count) raw assembly = result at hline ⊢
      generalize Assembly.line traps number raw other = otherResult at hline hstop ⊢
      rcases result with ⟨_, after⟩
      rcases otherResult with ⟨verdict, otherAfter⟩
      rcases hline with ⟨rfl, hagrees⟩
      cases verdict with
      | next =>
          rw [hstop rfl] at hheads
          have hrest : ∀ name ∈ heads (heeded traps (rest.map wordingOf)), name ∈ names := by
            intro name hname
            rcases List.mem_filterMap.mp hname with ⟨wording, hwording, hhead⟩
            exact hheads name
              (List.mem_filterMap.mpr ⟨wording, List.mem_cons_of_mem _ hwording, hhead⟩)
          have hlater := ih hagrees (number + 1) hrest
          rw [Nat.add_right_comm] at hlater
          exact hlater
      | stop => exact ⟨rfl, hagrees.program_eq⟩
      | failed error => exact ⟨rfl, hagrees.program_eq⟩

end Agrees

end Assembly
end Source
end LittleComputer
