import LittleComputer.Proofs.Text.Fields

/-!
# Texts put together from lines

A line feed between two texts ends a line of the first one, so the lines of the whole are those of
the two parts, even where the line feed completes a break that has begun before it.  Lines that are
each followed by a line feed are the lines of the whole.
-/

namespace LittleComputer
namespace Text

theorem extendFirstLine_append {c : Char} {rows : List (List Char)} (h : rows ≠ [])
    (rest : List (List Char)) :
    extendFirstLine c (rows ++ rest) = extendFirstLine c rows ++ rest := by
  cases rows with
  | nil => exact absurd rfl h
  | cons row rows => rfl

theorem extendFirstLine_ne_nil (c : Char) (rows : List (List Char)) :
    extendFirstLine c rows ≠ [] := by
  cases rows <;> exact List.cons_ne_nil _ _

theorem lines_ne_nil {text : List Char} (h : text ≠ []) : lines text ≠ [] := by
  induction text with
  | nil => exact absurd rfl h
  | cons c rest ih =>
      rw [lines_cons]
      split
      · next hreturn =>
          apply ih
          rintro rfl
          cases hreturn.right
      · split
        · exact List.cons_ne_nil _ _
        · exact extendFirstLine_ne_nil c _

/-!
# Two texts
-/

theorem head?_append_newline (first second : List Char) :
    (first ++ '\n' :: second).head? = (first ++ ['\n']).head? := by
  cases first <;> rfl

theorem lines_append_newline (first second : List Char) :
    lines (first ++ '\n' :: second) = lines (first ++ ['\n']) ++ lines second := by
  induction first with
  | nil => rfl
  | cons c rest ih =>
      have hne : lines (rest ++ ['\n']) ≠ [] :=
        lines_ne_nil (List.append_ne_nil_of_right_ne_nil rest (List.cons_ne_nil _ _))
      rw [List.cons_append, List.cons_append, lines_cons, lines_cons, head?_append_newline, ih]
      split
      · rfl
      · split
        · rfl
        · exact extendFirstLine_append hne _

/-- A line feed at the end of a text opens at most an empty line. -/
theorem lines_concat_newline (text : List Char) :
    lines (text ++ ['\n']) = lines text ∨ lines (text ++ ['\n']) = lines text ++ [[]] := by
  induction text with
  | nil => exact Or.inr rfl
  | cons c rest ih =>
      cases rest with
      | nil =>
          -- A carriage return at the end is completed by the line feed.
          by_cases hreturn : c = '\r'
          · left
            rw [hreturn]
            rfl
          · have hpair : lines [c, '\n'] =
                if isLineBreak c then [[], []] else extendFirstLine c [[]] := by
              rw [lines_cons, if_neg fun h => hreturn h.left]
              rfl
            have hsingle : lines [c] = if isLineBreak c then [[]] else extendFirstLine c [] := by
              rw [lines_cons, if_neg fun h => hreturn h.left]
              rfl
            rw [List.singleton_append, hpair, hsingle]
            split
            · exact Or.inr rfl
            · exact Or.inl rfl
      | cons d others =>
          have hne : lines (d :: others) ≠ [] := lines_ne_nil (List.cons_ne_nil d others)
          have hhead : (d :: others ++ ['\n']).head? = (d :: others).head? := rfl
          rw [List.cons_append, lines_cons, lines_cons c (d :: others), hhead]
          by_cases hreturn : c = '\r' ∧ (d :: others).head? = some '\n'
          · rw [if_pos hreturn, if_pos hreturn]
            exact ih
          · rw [if_neg hreturn, if_neg hreturn]
            cases isLineBreak c with
            | true => exact ih.imp (congrArg (List.cons [])) (congrArg (List.cons []))
            | false =>
                rcases ih with heq | heq
                · exact Or.inl (congrArg (extendFirstLine c) heq)
                · right
                  rw [heq]
                  exact extendFirstLine_append hne _

/-!
# Lines
-/

theorem not_isLineBreak_of_mem_lines {text row : List Char} (h : row ∈ lines text) :
    ∀ c ∈ row, isLineBreak c = false := by
  induction text generalizing row with
  | nil => cases h
  | cons c rest ih =>
      rw [lines_cons] at h
      split at h
      · exact ih h
      · split at h
        · rcases List.mem_cons.mp h with rfl | h
          · exact fun c hc => absurd hc List.not_mem_nil
          · exact ih h
        · next hbreak =>
            rw [Bool.not_eq_true] at hbreak
            generalize lines rest = rows at h ih
            cases rows with
            | nil =>
                cases List.mem_singleton.mp h
                intro d hd
                cases List.mem_singleton.mp hd
                exact hbreak
            | cons first others =>
                rcases List.mem_cons.mp h with rfl | h
                · intro d hd
                  rcases List.mem_cons.mp hd with rfl | hd
                  · exact hbreak
                  · exact ih (List.mem_cons_self ..) d hd
                · exact ih (List.mem_cons_of_mem _ h)

def unlines (rows : List (List Char)) : String :=
  String.ofList (rows.flatMap fun row => row ++ ['\n'])

theorem lines_unlines {rows : List (List Char)}
    (h : ∀ row ∈ rows, ∀ c ∈ row, isLineBreak c = false) :
    lines (unlines rows).toList = rows := by
  unfold unlines
  rw [String.toList_ofList]
  induction rows with
  | nil => rfl
  | cons row rest ih =>
      rw [List.flatMap_cons, List.append_assoc, List.singleton_append,
        lines_append (h row (List.mem_cons_self ..)),
        ih fun other hother => h other (List.mem_cons_of_mem _ hother)]

theorem lines_unlines_of_all {rows : List (List Char)}
    (h : (rows.all fun row => row.all fun c => !isLineBreak c) = true) :
    lines (unlines rows).toList = rows := by
  apply lines_unlines
  intro row hrow c hc
  have hbreak := List.all_eq_true.mp (List.all_eq_true.mp h row hrow) c hc
  rw [Bool.not_eq_true'] at hbreak
  exact hbreak

end Text
end LittleComputer
