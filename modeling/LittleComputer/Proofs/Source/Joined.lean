import LittleComputer.Proofs.Source.Declared
import LittleComputer.Proofs.Source.Labels
import LittleComputer.Proofs.Text.Lines

/-!
# Texts assembled in two parts

A text can be cut after a line and assembled in two parts, the second one into what the first has
left.  What the cut takes away is the knowledge of the labels declared before it, and what it changes
are the numbers of the lines after it.
-/

namespace LittleComputer
namespace Source
namespace Assembly

theorem line_nil (traps : Traps) (number : Nat) (assembly : Assembly) :
    line traps number [] assembly = (.next, assembly) := rfl

theorem GoesOn.concat_newline {traps : Traps} {start last : Assembly} {text : List Char}
    (h : GoesOn traps start (Text.lines text) last) :
    GoesOn traps start (Text.lines (text ++ ['\n'])) last := by
  rcases Text.lines_concat_newline text with hlines | hlines
  · rw [hlines]
    exact h
  · rw [hlines]
    exact .snoc h (line_nil traps _ last)

/-- Lines that go on have declared nothing that matters to lines with other labels in front. -/
theorem agrees_start_of_goesOn {traps : Traps} {verbose : Bool} {program : Program}
    {last : Assembly} {raws : List (List Char)}
    (h : GoesOn traps (start verbose program) raws last) {names : List String}
    (hnames : ∀ name ∈ heads (raws.map wordingOf), name ∉ names) :
    Agrees names last (start verbose last.program) where
  program_eq := rfl
  verbose_eq := (extends_of_goesOn h).verbose_eq
  declared_iff := by
    intro name hname
    constructor
    · intro hdeclared
      rcases (mem_declared_of_goesOn h).mp hdeclared with hhead | hnone
      · exact absurd hname (hnames name hhead)
      · exact hnone
    · intro hnone
      exact absurd hnone List.not_mem_nil

end Assembly

section Joined

variable {traps : Traps} {verbose : Bool} {program : Program} {first second : String}

theorem lines_joined (first second : String) :
    Text.lines (first ++ "\n" ++ second).toList =
      Text.lines (first.toList ++ ['\n']) ++ Text.lines second.toList := by
  rw [String.toList_append, String.toList_append]
  show Text.lines (first.toList ++ ['\n'] ++ second.toList) = _
  rw [List.append_assoc, List.singleton_append, Text.lines_append_newline]

theorem assemble_joined_of_refused {error : AssemblyError}
    (h : (assemble traps verbose first program).1 = some error) (second : String) :
    assemble traps verbose (first ++ "\n" ++ second) program =
      assemble traps verbose first program := by
  have hends := Assembly.assemble_ends traps verbose first program
  generalize assemble traps verbose first program = result at hends h ⊢
  cases hends with
  | assembled _ | stopped _ _ _ => cases h
  | @refused before after raw middle last error hlines hgoes hline =>
      have hmore : ∃ more : List (List Char),
          Text.lines (first ++ "\n" ++ second).toList = before ++ raw :: more := by
        rw [lines_joined]
        rcases Text.lines_concat_newline first.toList with hlast | hlast
        · exact ⟨after ++ Text.lines second.toList, by simp [hlast, hlines]⟩
        · exact ⟨after ++ [] :: Text.lines second.toList, by simp [hlast, hlines]⟩
      rcases hmore with ⟨more, hmore⟩
      unfold assemble
      rw [hmore, Assembly.lines_of_goesOn hgoes]
      unfold Assembly.lines
      rw [hline]

theorem goesOn_of_assemble (h : (assemble traps verbose first program).1 = none)
    (hstop : ∀ wording ∈ wordings first, isStop traps wording = false) :
    Assembly.GoesOn traps (.start verbose program) (Text.lines first.toList)
      (assemble traps verbose first program).2 := by
  have hends := Assembly.assemble_ends traps verbose first program
  generalize assemble traps verbose first program = result at hends h ⊢
  cases hends with
  | assembled hgoes => exact hgoes
  | refused _ _ _ => cases h
  | @stopped before after raw middle last hlines _ hline =>
      have htells := Assembly.tells_of_line hline nofun
      have hgoing : isStop traps (wordingOf raw) = false := by
        apply hstop
        unfold wordings
        rw [hlines]
        exact List.mem_map_of_mem (List.mem_append_right _ (List.mem_cons_self ..))
      rw [htells.isStop_iff.mpr rfl] at hgoing
      cases hgoing

/-- After a text that is accepted and does not say `.END`, lines with other labels in front are
assembled as if the text had been cut before them. -/
theorem assemble_joined_of_accepted (h : (assemble traps verbose first program).1 = none)
    (hstop : ∀ wording ∈ wordings first, isStop traps wording = false)
    (hheads : ∀ name ∈ heads (wordings first),
      name ∉ heads (heeded traps (wordings second))) :
    let whole := assemble traps verbose (first ++ "\n" ++ second) program
    let ended := assemble traps verbose second (assemble traps verbose first program).2.program
    whole.1 = ended.1.map (.later (Text.lines (first ++ "\n").toList).length) ∧
      whole.2.program = ended.2.program := by
  intro whole ended
  have hgoes := goesOn_of_assemble h hstop
  have hagrees := Assembly.agrees_start_of_goesOn hgoes hheads
  have hlater := hagrees.lines (Text.lines (first ++ "\n").toList).length traps 1
    fun _ hname => hname
  have hwhole : whole = Assembly.lines traps (1 + (Text.lines (first ++ "\n").toList).length)
      (Text.lines second.toList) (assemble traps verbose first program).2 := by
    show assemble traps verbose (first ++ "\n" ++ second) program = _
    unfold assemble
    rw [lines_joined, Assembly.lines_of_goesOn hgoes.concat_newline, String.toList_append,
      Nat.add_comm]
    rfl
  rw [hwhole]
  exact hlater

end Joined

end Source
end LittleComputer
