import LittleComputer.Proofs.Source.Lines

/-!
# Labels through a text

A text gives a label a value in at most one of its lines, since it can declare a label only once.
The entry of a label after the assembly is the one of that line, or else the one from before.
-/

namespace LittleComputer
namespace Source
namespace Assembly

/-!
# What an assembly keeps
-/

/-- Declared labels stay declared, what is reported is not changed, and the program is edited. -/
structure Extends (assembly after : Assembly) : Prop where
  declared_subset : ∀ name ∈ assembly.declared, name ∈ after.declared
  verbose_eq : after.verbose = assembly.verbose
  edits : Program.Edits assembly.program after.program

theorem Extends.refl (assembly : Assembly) : Extends assembly assembly := by
  constructor
  · intro name hname
    exact hname
  · rfl
  · exact .refl assembly.program

theorem Extends.trans {first middle last : Assembly} (hfirst : Extends first middle)
    (hlast : Extends middle last) : Extends first last := by
  constructor
  · intro name hname
    exact hlast.declared_subset name (hfirst.declared_subset name hname)
  · exact hlast.verbose_eq.trans hfirst.verbose_eq
  · exact hfirst.edits.trans hlast.edits

theorem extends_bind (assembly : Assembly) (label : LabelName) (binding : Program.Binding) :
    Extends assembly (assembly.bind label binding).2 := by
  have hends := bind_ends assembly label binding
  generalize assembly.bind label binding = result at hends ⊢
  cases hends with
  | unreportable _ _ _ | refused _ _ _ =>
      constructor
      · intro name hname
        exact hname
      · rfl
      · exact .refl assembly.program
  | bound _ haccepts =>
      constructor
      · intro name hname
        exact hname
      · rfl
      · rcases Program.bindLabels_eq_ok haccepts.right with ⟨hfrozen, n, -, rfl⟩
        exact (Program.Edit.bound _ n hfrozen).edits

theorem extends_bindHere (assembly : Assembly) (label : Option LabelName) :
    Extends assembly (assembly.bindHere label).2 := by
  cases label with
  | none => exact Extends.refl assembly
  | some name => exact extends_bind assembly name .position

theorem extends_append (assembly : Assembly) (i : Instruction) :
    Extends assembly (assembly.append i).2 := by
  have happend := assembly.program.append_edits (.instruction i)
  unfold append
  dsimp only
  generalize assembly.program.append (.instruction i) = result at happend ⊢
  rcases result with ⟨answer, program⟩
  cases answer with
  | ok _ | error _ =>
      constructor
      · intro name hname
        exact hname
      · rfl
      · exact happend.right

theorem extends_declare (assembly : Assembly) (label : Option LabelName) :
    Extends assembly (assembly.declare label) := by
  constructor
  · intro name hname
    cases label with
    | none => exact hname
    | some declared => exact List.mem_cons_of_mem _ hname
  · cases label <;> rfl
  · rw [program_declare]
    exact .refl assembly.program

theorem extends_enact (locate : LineError -> AssemblyError) (label : Option LabelName)
    (assembly : Assembly) (clause : Clause) :
    Extends assembly (enact locate label assembly clause).2 := by
  cases clause with
  | nothing =>
      have hbound := extends_bindHere assembly label
      unfold enact
      generalize assembly.bindHere label = result at hbound ⊢
      rcases result with ⟨refusal, after⟩
      cases refusal <;> exact hbound
  | stop =>
      unfold enact
      rw [verdict_snd]
      exact extends_bindHere assembly label
  | origin address =>
      unfold enact
      dsimp only
      rw [Program.setOrigin_eq]
      cases Program.address (.int address) with
      | error error => exact Extends.refl assembly
      | ok n =>
          dsimp only
          rw [verdict_snd]
          have hbound := extends_bindHere
            { assembly with program := { assembly.program with origin := some n } } label
          exact ⟨hbound.declared_subset, hbound.verbose_eq,
            (Program.Edit.origin n).edits.trans hbound.edits⟩
  | constant value =>
      cases label with
      | none => exact Extends.refl assembly
      | some name =>
          unfold enact
          dsimp only
          rw [verdict_snd]
          exact extends_bind assembly name _
  | instruction reading =>
      have hbound := extends_bindHere assembly label
      unfold enact
      dsimp only
      generalize assembly.bindHere label = result at hbound ⊢
      rcases result with ⟨refusal, after⟩
      cases refusal with
      | some error => exact hbound
      | none =>
          cases reading with
          | error error => exact hbound
          | ok i =>
              dsimp only
              rw [verdict_snd]
              exact hbound.trans (extends_append after i)

theorem extends_line (traps : Traps) (number : Nat) (raw : List Char) (assembly : Assembly) :
    Extends assembly (line traps number raw assembly).2 := by
  have hends := line_ends traps number raw assembly
  generalize line traps number raw assembly = result at hends ⊢
  cases hends with
  | blank hread => exact Extends.refl assembly
  | refused cause hrefused => exact Extends.refl assembly
  | enacted hread hdeclared => exact (extends_declare assembly _).trans (extends_enact _ _ _ _)

theorem extends_lines (traps : Traps) (number : Nat) (raws : List (List Char))
    (assembly : Assembly) : Extends assembly (lines traps number raws assembly).2 := by
  induction raws generalizing number assembly with
  | nil => exact Extends.refl assembly
  | cons raw rest ih =>
      have hline := extends_line traps number raw assembly
      unfold lines
      generalize line traps number raw assembly = result at hline ⊢
      rcases result with ⟨verdict, after⟩
      cases verdict with
      | next => exact hline.trans (ih (number + 1) after)
      | stop => exact hline
      | failed error => exact hline

theorem lines_of_goesOn {traps : Traps} {start middle : Assembly} {before : List (List Char)}
    (h : GoesOn traps start before middle) (after : List (List Char)) :
    lines traps 1 (before ++ after) start = lines traps (before.length + 1) after middle := by
  induction h generalizing after with
  | nil => rfl
  | @snoc before raw middle last hgoes hline ih =>
      rw [List.append_assoc, List.singleton_append, ih (raw :: after), List.length_append]
      show lines traps (before.length + 1) (raw :: after) middle =
        lines traps (before.length + 1 + 1) after last
      rw [lines, hline]

theorem extends_of_goesOn {traps : Traps} {start last : Assembly} {raws : List (List Char)}
    (h : GoesOn traps start raws last) : Extends start last := by
  have hextends := extends_lines traps 1 raws start
  have hlines := lines_of_goesOn h []
  rw [List.append_nil] at hlines
  rw [hlines] at hextends
  exact hextends

/-!
# One line and a label
-/

theorem Binds.eq_labels_line {traps : Traps} {assembly : Assembly} {raw : List Char}
    {name : LabelName} {binding : Program.Binding} {labels : Labels}
    (h : Binds traps assembly raw name binding labels) (number : Nat) :
    (line traps number raw assembly).2.program.labels = labels := by
  rcases labels_line traps number raw assembly with ⟨other, otherBinding, hother⟩ | ⟨-, hnone⟩
  · rcases h with ⟨clause, hread, -, hbinding, haccepts⟩
    rcases hother with ⟨otherClause, hotherRead, -, hotherBinding, hotherAccepts⟩
    rw [hread] at hotherRead
    cases hotherRead
    rw [hbinding] at hotherBinding
    cases hotherBinding
    have hsame := haccepts.right.symm.trans hotherAccepts.right
    cases hsame
    rfl
  · exact absurd h (hnone name binding labels)

theorem Binds.mem_declared_line {traps : Traps} {assembly : Assembly} {raw : List Char}
    {name : LabelName} {binding : Program.Binding} {labels : Labels}
    (h : Binds traps assembly raw name binding labels) (number : Nat) :
    name.name ∈ (line traps number raw assembly).2.declared := by
  rcases h with ⟨clause, hread, hdeclared, -, -⟩
  have hends := line_ends traps number raw assembly
  generalize line traps number raw assembly = result at hends ⊢
  cases hends with
  | blank hblank =>
      rw [hread] at hblank
      cases hblank
  | refused cause hrefused =>
      rw [hrefused _ _ hread] at hdeclared
      cases hdeclared
  | enacted hother _ =>
      rw [hread] at hother
      cases hother
      exact (extends_enact _ _ _ _).declared_subset _ (List.mem_cons_self ..)

theorem Binds.not_mem_declared {traps : Traps} {assembly : Assembly} {raw : List Char}
    {name : LabelName} {binding : Program.Binding} {labels : Labels}
    (h : Binds traps assembly raw name binding labels) : name.name ∉ assembly.declared := by
  rcases h with ⟨clause, -, hdeclared, -, -⟩
  intro hmem
  have hcontains : assembly.declared.contains name.name = true := List.contains_iff_mem.mpr hmem
  have hboth : true = false := hcontains.symm.trans hdeclared
  cases hboth

theorem get?_line_of_not_binds {traps : Traps} (number : Nat) {raw : List Char}
    {assembly : Assembly} {label : String}
    (h : ∀ (name : LabelName) (binding : Program.Binding) (labels : Labels),
      name.name = label -> ¬Binds traps assembly raw name binding labels) :
    (line traps number raw assembly).2.program.labels.get? (.text label) =
      assembly.program.labels.get? (.text label) := by
  rcases labels_line traps number raw assembly with ⟨name, binding, hbinds⟩ | ⟨hkept, -⟩
  · have hne : name.name ≠ label := by
      intro hname
      exact h name binding _ hname hbinds
    rcases hbinds with ⟨clause, -, -, -, haccepts⟩
    rcases Program.bindLabels_eq_ok haccepts.right with ⟨-, n, -, hlabels⟩
    rw [hlabels, Labels.get?_insert, Value.equals_text, decide_eq_false hne]
    rfl
  · rw [hkept]

theorem get?_lines_of_mem_declared {traps : Traps} {label : String} (raws : List (List Char))
    (number : Nat) {assembly : Assembly} (h : label ∈ assembly.declared) :
    (lines traps number raws assembly).2.program.labels.get? (.text label) =
      assembly.program.labels.get? (.text label) := by
  induction raws generalizing number assembly with
  | nil => rfl
  | cons raw rest ih =>
      have hkept : (line traps number raw assembly).2.program.labels.get? (.text label) =
          assembly.program.labels.get? (.text label) := by
        apply get?_line_of_not_binds number
        intro name binding labels hname hbinds
        rw [← hname] at h
        exact hbinds.not_mem_declared h
      have hdeclared := (extends_line traps number raw assembly).declared_subset label h
      unfold lines
      generalize line traps number raw assembly = result at hkept hdeclared ⊢
      rcases result with ⟨verdict, after⟩
      cases verdict with
      | next =>
          rw [← hkept]
          exact ih (number + 1) hdeclared
      | stop => exact hkept
      | failed error => exact hkept

end Assembly

/-!
# A text and a label
-/

open Assembly in
/-- A line of the text gives a label a value, when the program has come to the given size. -/
def Declares (traps : Traps) (verbose : Bool) (text : String) (program : Program) (label : String)
    (binding : Program.Binding) (size : Nat) : Prop :=
  ∃ (before : List (List Char)) (raw : List Char) (after : List (List Char)) (middle : Assembly)
    (name : LabelName) (labels : Labels),
    Text.lines text.toList = before ++ raw :: after ∧
      GoesOn traps (.start verbose program) before middle ∧
      name.name = label ∧ Binds traps middle raw name binding labels ∧
      middle.program.size = size

namespace Assembly

theorem get?_lines_of_binds {traps : Traps} {raw : List Char} {assembly : Assembly}
    {name : LabelName} {labels : Labels}
    (h : Binds traps assembly raw name .position labels) (number : Nat)
    (after : List (List Char)) :
    (lines traps number (raw :: after) assembly).2.program.labels.get? (.text name.name) =
      some (.int (Word.signed assembly.program.size)) := by
  have hentry : (line traps number raw assembly).2.program.labels.get? (.text name.name) =
      some (.int (Word.signed assembly.program.size)) := by
    rw [h.eq_labels_line number]
    rcases h with ⟨clause, -, -, -, haccepts⟩
    rcases Program.bindLabels_eq_ok haccepts.right with ⟨-, n, hvalue, hlabels⟩
    cases hvalue
    rw [hlabels, Labels.get?_insert, Value.equals_text, decide_eq_true rfl]
    rfl
  have hdeclared := h.mem_declared_line number
  unfold lines
  generalize line traps number raw assembly = result at hentry hdeclared ⊢
  rcases result with ⟨verdict, last⟩
  cases verdict with
  | next =>
      rw [← hentry]
      exact get?_lines_of_mem_declared after (number + 1) hdeclared
  | stop => exact hentry
  | failed error => exact hentry

def LeavesAlone (traps : Traps) (start : Assembly) (raws : List (List Char))
    (label : String) : Prop :=
  ∀ (before : List (List Char)) (raw : List Char) (after : List (List Char)) (middle : Assembly),
    raws = before ++ raw :: after -> GoesOn traps start before middle ->
    ∀ (name : LabelName) (binding : Program.Binding) (labels : Labels),
      name.name = label -> ¬Binds traps middle raw name binding labels

theorem LeavesAlone.of_append {traps : Traps} {start : Assembly}
    {before after : List (List Char)} {label : String}
    (h : LeavesAlone traps start (before ++ after) label) :
    LeavesAlone traps start before label := by
  intro earlier raw later middle hsplit hgoes
  apply h earlier raw (later ++ after) middle _ hgoes
  rw [hsplit, List.append_assoc, List.cons_append]

theorem get?_of_goesOn {traps : Traps} {start last : Assembly} {raws : List (List Char)}
    {label : String} (hgoes : GoesOn traps start raws last)
    (h : LeavesAlone traps start raws label) :
    last.program.labels.get? (.text label) = start.program.labels.get? (.text label) := by
  induction hgoes with
  | nil => rfl
  | @snoc before raw middle last hgoes hline ih =>
      have hkept :=
        get?_line_of_not_binds (before.length + 1) (h before raw [] middle rfl hgoes)
      rw [hline] at hkept
      rw [hkept, ih h.of_append]

end Assembly

open Assembly in
theorem get?_assemble_of_not_declares {traps : Traps} {verbose : Bool} {text : String}
    {program : Program} {label : String}
    (h : ∀ (binding : Program.Binding) (size : Nat),
      ¬Declares traps verbose text program label binding size) :
    (assemble traps verbose text program).2.program.labels.get? (.text label) =
      program.labels.get? (.text label) := by
  have halone : LeavesAlone traps (.start verbose program) (Text.lines text.toList) label := by
    intro before raw after middle hlines hgoes name binding labels hname hbinds
    exact h binding _ ⟨before, raw, after, middle, name, labels, hlines, hgoes, hname, hbinds, rfl⟩
  have hends := assemble_ends traps verbose text program
  generalize assemble traps verbose text program = result at hends ⊢
  cases hends with
  | assembled hgoes => exact get?_of_goesOn hgoes halone
  | @stopped before after raw middle last hlines hgoes hline
  | @refused before after raw middle last error hlines hgoes hline =>
      have hkept :=
        get?_line_of_not_binds (before.length + 1) (halone before raw after middle hlines hgoes)
      rw [hline] at hkept
      rw [hlines] at halone
      exact hkept.trans (get?_of_goesOn hgoes halone.of_append)

open Assembly in
/-- A position that a text declares is the entry of its label after the assembly, whatever becomes
of the lines that follow. -/
theorem get?_assemble_of_declares {traps : Traps} {verbose : Bool} {text : String}
    {program : Program} {label : String} {size : Nat}
    (h : Declares traps verbose text program label .position size) :
    program.labels.frozen = false ∧
      (assemble traps verbose text program).2.program.labels.get? (.text label) =
        some (.int (Word.signed size)) ∧
      size ≤ (assemble traps verbose text program).2.program.size := by
  rcases h with ⟨before, raw, after, middle, name, labels, hlines, hgoes, rfl, hbinds, rfl⟩
  have hassemble : assemble traps verbose text program =
      lines traps (before.length + 1) (raw :: after) middle := by
    unfold assemble
    rw [hlines]
    exact lines_of_goesOn hgoes (raw :: after)
  have hfrozen : middle.program.labels.frozen = program.labels.frozen := frozen_of_goesOn hgoes
  rw [hassemble]
  constructor
  · rcases hbinds with ⟨clause, -, -, -, haccepts⟩
    rw [← hfrozen]
    exact (Program.bindLabels_eq_ok haccepts.right).left
  · constructor
    · exact get?_lines_of_binds hbinds _ after
    · exact (extends_lines _ _ _ middle).edits.size_le

theorem edits_assemble (traps : Traps) (verbose : Bool) (text : String) (program : Program) :
    Program.Edits program (assemble traps verbose text program).2.program :=
  (Assembly.extends_lines traps 1 (Text.lines text.toList) (.start verbose program)).edits

end Source
end LittleComputer
