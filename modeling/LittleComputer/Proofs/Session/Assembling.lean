import LittleComputer.Proofs.Source.Joined
import LittleComputer.Proofs.Source.Refused
import LittleComputer.Session.Basic

/-!
# Texts assembled in sessions

A text can be assembled at once or in two parts, line breaks of all sorts between them included.  Of
a text that is refused, the lines before the refused one stay.
-/

namespace LittleComputer

namespace Failure

def later (count : Nat) : Failure -> Failure
  | parse error => parse { error with line := error.line + count }
  | other => other

theorem later_ofConfiguration (count : Nat) (error : ConfigurationError) :
    (ofConfiguration error).later count = ofConfiguration error := by
  unfold ofConfiguration
  split
  · rfl
  · rfl
  · rfl
  · next obstacle => cases obstacle <;> rfl
  · split <;> rfl

theorem ofAssembly_later (count : Nat) (error : Source.AssemblyError) :
    ofAssembly (error.later count) = (ofAssembly error).later count := by
  cases error with
  | unlocated error => exact (later_ofConfiguration count error).symm
  | located error =>
      rcases error with ⟨cause, number, text⟩
      cases cause with
      | configuration cause =>
          have hkept := later_ofConfiguration count cause
          show ofParse ⟨.configuration cause, number + count, text⟩ =
            (ofParse ⟨.configuration cause, number, text⟩).later count
          unfold ofParse
          dsimp only
          generalize ofConfiguration cause = failure at hkept ⊢
          cases failure with
          | parse error => exact hkept.symm
          | _ => rfl
      | _ => rfl

end Failure

namespace Session

def assemblyAnswer (error : Option Source.AssemblyError) : Except Failure Answer :=
  match error with
  | none => .ok (.value (.bool true))
  | some error => .error (.ofAssembly error)

theorem assemble_eq (text : String) (session : Session) :
    let result :=
      Source.assemble session.isa.traps session.verbose text session.builder.program
    (session.assemble text).1 = assemblyAnswer result.1 ∧
      (session.assemble text).2.builder =
        ⟨result.2.program, session.builder.processor, session.builder.run⟩ ∧
      (session.assemble text).2.isa = session.isa ∧
      (session.assemble text).2.verbose = session.verbose := by
  rcases session with ⟨⟨program, processor, run⟩, isa, manager, file, depth, saved, verbose, log⟩
  unfold assemble onBuilder Builder.onProgram
  dsimp only
  rcases Source.assemble isa.traps verbose text program with ⟨error, assembly⟩
  cases error <;> cases verbose <;> exact ⟨rfl, rfl, rfl, rfl⟩

theorem assemblyAnswer_later (count : Nat) (error : Option Source.AssemblyError) :
    (assemblyAnswer (error.map (.later count))).isOk = (assemblyAnswer error).isOk ∧
      ∀ failure : Failure, assemblyAnswer error = .error failure ->
        assemblyAnswer (error.map (.later count)) = .error (failure.later count) := by
  cases error with
  | none => exact ⟨rfl, nofun⟩
  | some error =>
      refine ⟨rfl, ?_⟩
      rintro failure ⟨⟩
      exact congrArg Except.error (Failure.ofAssembly_later count error)

/-!
# Two parts
-/

/-- A text that does not say `.END` and has a line feed and another text after it, where no label
stands in front of lines of both that count, is assembled as a whole as it is in two parts, the
second one into what the first has left.  A refusal in the second part is told alike, but for the
number of the line, to which the number of lines before that part is added. -/
theorem assemble_joined {session : Session} {first second : String}
    (hstop : ∀ wording ∈ Source.wordings first,
      Source.isStop session.isa.traps wording = false)
    (hheads : ∀ name ∈ Source.heads (Source.wordings first),
      name ∉ Source.heads (Source.heeded session.isa.traps (Source.wordings second))) :
    let whole := session.assemble (first ++ "\n" ++ second)
    let begun := session.assemble first
    let ended := begun.2.assemble second
    let count := (Text.lines (first ++ "\n").toList).length
    whole.1.isOk = (begun.1.isOk && ended.1.isOk) ∧
      (begun.1.isOk = true -> whole.2.builder = ended.2.builder ∧
        ∀ failure : Failure, ended.1 = .error failure ->
          whole.1 = .error (failure.later count)) ∧
      ∀ failure : Failure, begun.1 = .error failure ->
        whole.1 = .error failure ∧ whole.2.builder = begun.2.builder := by
  intro whole begun ended count
  rcases session.assemble_eq (first ++ "\n" ++ second) with ⟨hwhole, hwholeBuilder, -, -⟩
  rcases session.assemble_eq first with ⟨hbegun, hbegunBuilder, hisa, hverbose⟩
  rcases begun.2.assemble_eq second with ⟨hended, hendedBuilder, -, -⟩
  rw [hisa, hverbose, hbegunBuilder] at hended hendedBuilder
  cases hresult : (Source.assemble session.isa.traps session.verbose first
      session.builder.program).1 with
  | none =>
      rcases Source.assemble_joined_of_accepted hresult hstop hheads with ⟨herror, hprogram⟩
      have hbuilder : whole.2.builder = ended.2.builder := by
        rw [hendedBuilder, ← hprogram]
        exact hwholeBuilder
      have hlater := assemblyAnswer_later count (Source.assemble session.isa.traps session.verbose
        second (Source.assemble session.isa.traps session.verbose first
          session.builder.program).2.program).1
      rw [← herror, ← hwhole, ← hended] at hlater
      rw [hresult] at hbegun
      refine ⟨?_, fun _ => ⟨hbuilder, hlater.right⟩, ?_⟩
      · show whole.1.isOk = (begun.1.isOk && ended.1.isOk)
        rw [hbegun]
        exact hlater.left
      · intro failure hfailure
        cases hbegun.symm.trans hfailure
  | some error =>
      have hsame := Source.assemble_joined_of_refused hresult second
      rw [hsame, ← hbegun] at hwhole
      rw [hsame, ← hbegunBuilder] at hwholeBuilder
      rw [hresult] at hbegun
      refine ⟨?_, ?_, ?_⟩
      · show whole.1.isOk = (begun.1.isOk && ended.1.isOk)
        rw [hwhole, hbegun]
        rfl
      · intro hok
        cases hok.symm.trans (congrArg Except.isOk hbegun)
      · intro failure hfailure
        exact ⟨hwhole.trans hfailure, hwholeBuilder⟩

/-- A carriage return before the line feed makes one break of the two. -/
theorem assemble_joined_breaks :
    let session := start true
    let first := "L .FILL x10 ; .END\r"
    let second := "\nM LD R1,L\n NOT R1"
    let begun := session.assemble first
    (∀ wording ∈ Source.wordings first, Source.isStop session.isa.traps wording = false) ∧
      (∀ name ∈ Source.heads (Source.wordings first),
        name ∉ Source.heads (Source.heeded session.isa.traps (Source.wordings second))) ∧
      (begun.2.assemble second).1 =
        .error (.parse ⟨.operandCount 2 "NOT" 1, 3, " NOT R1"⟩) ∧
      (session.assemble (first ++ "\n" ++ second)).1 =
        .error (.parse ⟨.operandCount 2 "NOT" 1, 4, " NOT R1"⟩) := by
  intro session first second begun
  have hstop : ∀ wording ∈ Source.wordings first,
      Source.isStop session.isa.traps wording = false := by
    decide +kernel
  have hheads : ∀ name ∈ Source.heads (Source.wordings first),
      name ∉ Source.heads (Source.heeded session.isa.traps (Source.wordings second)) := by
    decide +kernel
  have hbegun : begun.1.isOk = true := by
    show (session.assemble first).1.isOk = true
    rw [(session.assemble_eq first).left]
    have hnone : (Source.assemble session.isa.traps session.verbose first
        session.builder.program).1 = none := by
      decide +kernel
    rw [hnone]
    rfl
  have hended : (begun.2.assemble second).1 =
      .error (.parse ⟨.operandCount 2 "NOT" 1, 3, " NOT R1"⟩) := by
    rcases session.assemble_eq first with ⟨-, hbuilder, hisa, hverbose⟩
    rw [(begun.2.assemble_eq second).left, hisa, hverbose, hbuilder]
    have hrefused : (Source.assemble session.isa.traps session.verbose second
        (Source.assemble session.isa.traps session.verbose first
          session.builder.program).2.program).1 =
        some (.located ⟨.operandCount 2 "NOT" 1, 3, " NOT R1"⟩) := by
      decide +kernel
    exact congrArg assemblyAnswer hrefused
  have hcount : (Text.lines (first ++ "\n").toList).length = 1 := by
    decide +kernel
  rcases assemble_joined hstop hheads with ⟨-, hwhole, -⟩
  have hlater := (hwhole hbegun).right _ hended
  rw [hcount] at hlater
  exact ⟨hstop, hheads, hended, hlater⟩

/-!
# Refused texts
-/

open Source in
/-- A text that is refused at a line leaves what any text with just the lines before comes to.  Only
a label that stands in front of an instruction in the refused line, and in front of no line before,
is bound to the number of instructions. -/
theorem assemble_refused {session : Session} {text : String} {parse : ParseError}
    (hprogram : session.builder.program.frozen = false)
    (hlabels : session.builder.program.labels.frozen = false)
    (h : (session.assemble text).1 = .error (.parse parse)) :
    ∃ (before : List (List Char)) (raw : List Char) (after : List (List Char)),
      Text.lines text.toList = before ++ raw :: after ∧
      parse.line = before.length + 1 ∧ parse.text = String.ofList raw ∧
      Text.lines (Text.unlines before).toList = before ∧
      ∀ earlier : String, Text.lines earlier.toList = before ->
        let begun := session.assemble earlier
        let left := (session.assemble text).2.builder
        begun.1 = .ok (.value (.bool true)) ∧
          left.program.instructions = begun.2.builder.program.instructions ∧
          left.program.origin = begun.2.builder.program.origin ∧
          (∀ label : LabelName, IsLabelledInstruction raw label ->
            label.name ∉ heads (before.map wordingOf) ->
            left.program.labels = begun.2.builder.program.labels.insert (.text label.name)
              begun.2.builder.program.size) ∧
          ((∀ label : LabelName, IsLabelledInstruction raw label ->
              label.name ∈ heads (before.map wordingOf)) ->
            left.program.labels = begun.2.builder.program.labels) ∧
          left.processor = session.builder.processor ∧ left.run = session.builder.run := by
  rcases session.assemble_eq text with ⟨hanswer, hbuilder, -, -⟩
  rw [h] at hanswer
  cases hresult : (Source.assemble session.isa.traps session.verbose text
      session.builder.program).1 with
  | none =>
      rw [hresult] at hanswer
      cases hanswer
  | some error =>
      rw [hresult] at hanswer
      have hparse : Failure.ofAssembly error = .parse parse := (Except.error.inj hanswer).symm
      have hrefusal : (Failure.ofAssembly error).IsRefusal := by
        rw [hparse]
        trivial
      rcases leaves_of_refused_text hprogram hlabels hresult hrefusal with
        ⟨before, raw, after, cause, hlines, htold, hleaves⟩
      rw [hparse] at htold
      cases htold
      refine ⟨before, raw, after, hlines, rfl, rfl, ?_, ?_⟩
      · apply Text.lines_unlines
        intro row hrow
        apply Text.not_isLineBreak_of_mem_lines
        rw [hlines]
        exact List.mem_append_left _ hrow
      · intro earlier hearlier begun left
        rcases session.assemble_eq earlier with ⟨hbegun, hbegunBuilder, -, -⟩
        rcases hleaves earlier hearlier with ⟨hnone, hline⟩
        have hprograms : Assembly.LineLeaves raw (heads (before.map wordingOf))
            begun.2.builder.program left.program := by
          show Assembly.LineLeaves _ _ (session.assemble earlier).2.builder.program
            (session.assemble text).2.builder.program
          rw [hbuilder, hbegunBuilder]
          exact hline
        rcases hprograms.keeps with ⟨hinstructions, horigin, hlabel, hkept⟩
        refine ⟨hbegun.trans (congrArg assemblyAnswer hnone), hinstructions, horigin, hlabel,
          hkept, ?_, ?_⟩
        · show (session.assemble text).2.builder.processor = session.builder.processor
          rw [hbuilder]
        · show (session.assemble text).2.builder.run = session.builder.run
          rw [hbuilder]

theorem assemble_refused_operands :
    let session := start false
    let text := "A .FILL 3\nHALT\r\nB: ADD R1,R2 ; two operands\nHALT"
    let earlier := "A .FILL 3\nHALT"
    session.builder.program.frozen = false ∧ session.builder.program.labels.frozen = false ∧
      (∃ parse : Source.ParseError, (session.assemble text).1 = .error (.parse parse)) ∧
      (session.assemble text).2.builder.program.labels =
        (session.assemble earlier).2.builder.program.labels.insert (.text "B") 1 := by
  intro session text earlier
  have hresult : (Source.assemble session.isa.traps false text .empty).1 =
      some (.located ⟨.operandCount 3 "ADD" 2, 3, "B: ADD R1,R2 ; two operands"⟩) := by
    decide +kernel
  have h : (session.assemble text).1 =
      .error (.parse ⟨.operandCount 3 "ADD" 2, 3, "B: ADD R1,R2 ; two operands"⟩) := by
    rw [(session.assemble_eq text).left]
    exact congrArg assemblyAnswer hresult
  refine ⟨rfl, rfl, ⟨_, h⟩, ?_⟩
  rcases assemble_refused rfl rfl h with ⟨before, raw, after, hlines, hline, -, -, hearlier⟩
  have htext : Text.lines text.toList = Text.lines earlier.toList ++
      ["B: ADD R1,R2 ; two operands".toList, "HALT".toList] := by
    decide +kernel
  have hlength : (Text.lines earlier.toList).length = before.length := by
    have htwo : (Text.lines earlier.toList).length = 2 := by
      decide +kernel
    exact htwo.trans (Nat.succ.inj hline)
  rcases List.append_inj (htext.symm.trans hlines) hlength with ⟨hbefore, hrest⟩
  rcases List.cons.inj hrest with ⟨rfl, -⟩
  have hlabel : Source.IsLabelledInstruction "B: ADD R1,R2 ; two operands".toList
      ⟨"B", by decide⟩ :=
    ⟨"B:".toList, "ADD".toList, [['R', '1'], ['R', '2']], .operation .add, by decide +kernel,
      by decide +kernel, by decide +kernel, trivial⟩
  rcases hearlier earlier hbefore with ⟨-, -, -, hlabels, -⟩
  have hnew : "B" ∉ Source.heads (before.map Source.wordingOf) := by
    rw [← hbefore]
    decide +kernel
  have hsize : (session.assemble earlier).2.builder.program.size = 1 := by
    rw [(session.assemble_eq earlier).right.left]
    decide +kernel
  have hbound := hlabels _ hlabel hnew
  rw [hsize] at hbound
  exact hbound

end Session
end LittleComputer
