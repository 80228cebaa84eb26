import LittleComputer.Proofs.Text.Fields

/-!
# Texts taken apart into words

The fields of a text are those that it falls into by its separators, however many of these there are
and wherever more of them are put than are needed.  The first word of a text is followed by a gap of
blanks, unless it is the whole text.
-/

namespace LittleComputer
namespace Text

/-- A text falls into fields: separators can stand anywhere around the fields, and at least one of
them stands between two. -/
inductive FallsInto (isSeparator : Char -> Bool) : List (List Char) -> List Char -> Prop where
  | nil : FallsInto isSeparator [] []
  | separator {c : Char} {words : List (List Char)} {text : List Char} :
      isSeparator c = true -> FallsInto isSeparator words text ->
      FallsInto isSeparator words (c :: text)
  | last {word : List Char} : IsField isSeparator word -> FallsInto isSeparator [word] word
  | word {word : List Char} {c : Char} {words : List (List Char)} {text : List Char} :
      IsField isSeparator word -> isSeparator c = true -> FallsInto isSeparator words text ->
      FallsInto isSeparator (word :: words) (word ++ c :: text)

section Fields

variable {isSeparator : Char -> Bool}

theorem fields_of_fallsInto {words : List (List Char)} {text : List Char}
    (h : FallsInto isSeparator words text) : fields isSeparator text = words := by
  induction h with
  | nil => rfl
  | separator hc _ ih => rw [fields_cons_separator hc, ih]
  | last hword => exact fields_field hword
  | word hword hc _ ih => rw [fields_append hword hc, ih]

theorem fallsInto_fields (isSeparator : Char -> Bool) (text : List Char) :
    FallsInto isSeparator (fields isSeparator text) text := by
  induction hlength : text.length using Nat.strongRecOn generalizing text with
  | ind length ih =>
      cases text with
      | nil => exact .nil
      | cons c rest =>
          by_cases hc : isSeparator c = true
          · rw [fields_cons_separator hc]
            exact .separator hc (ih rest.length (by simp [← hlength]) rest rfl)
          · have hsplit : (c :: rest).takeWhile (fun d => !isSeparator d) ++
                (c :: rest).dropWhile (fun d => !isSeparator d) = c :: rest :=
              List.takeWhile_append_dropWhile
            have hword : IsField isSeparator ((c :: rest).takeWhile fun d => !isSeparator d) := by
              constructor
              · simp [hc]
              · intro d hd
                have hpart := List.mem_takeWhile_imp hd
                simpa using hpart
            generalize (c :: rest).takeWhile (fun d => !isSeparator d) = word at hsplit hword
            cases hafter : (c :: rest).dropWhile fun d => !isSeparator d with
            | nil =>
                rw [hafter, List.append_nil] at hsplit
                rw [← hsplit, fields_field hword]
                exact .last hword
            | cons d later =>
                have hd : isSeparator d = true := by
                  have hhead := List.head_dropWhile_not (fun d => !isSeparator d)
                    (by rw [hafter]; exact List.cons_ne_nil d later)
                  simpa [hafter] using hhead
                rw [hafter] at hsplit
                rw [← hsplit, fields_append hword hd]
                refine .word hword hd (ih later.length ?_ later rfl)
                have hsize := congrArg List.length hsplit
                simp only [List.length_append, List.length_cons] at hsize hlength
                omega

theorem fallsInto_iff {words : List (List Char)} {text : List Char} :
    FallsInto isSeparator words text ↔ fields isSeparator text = words := by
  constructor
  · exact fields_of_fallsInto
  · rintro rfl
    exact fallsInto_fields isSeparator text

theorem fields_append_separators_right {separators : List Char}
    (h : ∀ c ∈ separators, isSeparator c = true) (text : List Char) :
    fields isSeparator (text ++ separators) = fields isSeparator text := by
  have hstate : separators.foldr (fieldStep isSeparator) ([], []) = ([], []) := by
    induction separators with
    | nil => rfl
    | cons c rest ih =>
        rw [List.foldr_cons, ih fun d hd => h d (List.mem_cons_of_mem c hd)]
        exact if_pos (h c (List.mem_cons_self ..))
  unfold fields
  rw [List.foldr_append, hstate]

end Fields

/-!
# Blanks after the last word
-/

theorem exists_eq_stripEnd_append (text : List Char) :
    ∃ after : List Char, (∀ c ∈ after, isBlank c = true) ∧ text = stripEnd text ++ after := by
  refine ⟨(text.reverse.takeWhile isBlank).reverse, ?_, ?_⟩
  · intro c hc
    exact List.mem_takeWhile_imp (List.mem_reverse.mp hc)
  · unfold stripEnd
    rw [← List.reverse_append, List.takeWhile_append_dropWhile, List.reverse_reverse]

theorem fields_stripEnd {isSeparator : Char -> Bool}
    (h : ∀ c : Char, isBlank c = true -> isSeparator c = true) (text : List Char) :
    fields isSeparator (stripEnd text) = fields isSeparator text := by
  rcases exists_eq_stripEnd_append text with ⟨after, hafter, htext⟩
  calc
    fields isSeparator (stripEnd text) = fields isSeparator (stripEnd text ++ after) :=
      (fields_append_separators_right (fun c hc => h c (hafter c hc)) _).symm
    _ = fields isSeparator text := by rw [← htext]

/-- Blanks are taken off the end of a text up to a word of it. -/
theorem stripEnd_append_append {word : List Char} (h : IsField isBlank word)
    (before after : List Char) :
    stripEnd (before ++ word ++ after) = before ++ word ++ stripEnd after := by
  have hword := stripEnd_append before h
  unfold stripEnd at hword ⊢
  rw [List.reverse_append, List.dropWhile_append]
  split
  · next hempty => rw [hword, List.isEmpty_iff.mp hempty, List.reverse_nil, List.append_nil]
  · rw [List.reverse_append, List.reverse_reverse]

theorem stripEnd_word_append {word : List Char} (h : IsField isBlank word) (rest : List Char) :
    stripEnd (word ++ rest) = word ++ stripEnd rest :=
  stripEnd_append_append h [] rest

theorem strip_word_append {word : List Char} (h : IsField isBlank word) (rest : List Char) :
    strip (word ++ rest) = word ++ stripEnd rest := by
  unfold strip
  rw [stripStart_append h, stripEnd_word_append h]

theorem stripEnd_blanks {blanks : List Char} (h : ∀ c ∈ blanks, isBlank c = true) :
    stripEnd blanks = [] := by
  unfold stripEnd
  rw [List.dropWhile_eq_nil_iff.mpr fun c hc => h c (List.mem_reverse.mp hc), List.reverse_nil]

theorem strip_blanks {blanks : List Char} (h : ∀ c ∈ blanks, isBlank c = true) :
    strip blanks = [] := by
  have hnone : stripStart blanks = [] := List.dropWhile_eq_nil_iff.mpr h
  unfold strip
  rw [hnone]
  rfl

/-!
# First words
-/

/-- Where a word ends: nothing follows, or a blank does. -/
def EndsWord (rest : List Char) : Prop :=
  ∀ c ∈ rest.head?, isBlank c = true

theorem endsWord_of_blanks {blanks : List Char} (h : ∀ c ∈ blanks, isBlank c = true) :
    EndsWord blanks :=
  fun c hc => h c (List.mem_of_mem_head? hc)

theorem EndsWord.append {rest after : List Char} (h : EndsWord rest) (hafter : EndsWord after) :
    EndsWord (rest ++ after) := by
  cases rest with
  | nil => exact hafter
  | cons c rest => exact h

theorem EndsWord.stripEnd {rest : List Char} (h : EndsWord rest) : EndsWord (stripEnd rest) := by
  rcases exists_eq_stripEnd_append rest with ⟨after, -, hrest⟩
  rw [hrest] at h
  cases hstripped : Text.stripEnd rest with
  | nil => exact nofun
  | cons c others =>
      rw [hstripped] at h
      exact h

theorem firstWord_of_endsWord {word rest : List Char} (h : ∀ c ∈ word, isBlank c = false)
    (hrest : EndsWord rest) : firstWord (word ++ rest) = (word, stripStart rest) := by
  cases rest with
  | nil =>
      have hspan : word.span (fun c => !isBlank c) = (word, []) := by
        rw [List.span_eq_takeWhile_dropWhile, List.takeWhile_eq_self_iff.mpr (by simpa using h),
          List.dropWhile_eq_nil_iff.mpr (by simpa using h)]
      unfold firstWord
      rw [List.append_nil, hspan]
  | cons blank rest =>
      have hblank : isBlank blank = true := hrest blank rfl
      have hstrip : stripStart (blank :: rest) = stripStart rest :=
        List.dropWhile_cons_of_pos hblank
      rw [firstWord_append h hblank, hstrip]

theorem exists_of_firstWord {text word rest : List Char} (h : firstWord text = (word, rest)) :
    ∃ tail : List Char, EndsWord tail ∧ text = word ++ tail ∧ rest = stripStart tail ∧
      ∀ c ∈ word, isBlank c = false := by
  unfold firstWord at h
  rw [List.span_eq_takeWhile_dropWhile] at h
  cases h
  refine ⟨text.dropWhile fun c => !isBlank c, ?_, ?_, rfl, ?_⟩
  · intro c hc
    have hhead := List.head?_dropWhile_not (fun c => !isBlank c) text
    rw [Option.mem_def.mp hc] at hhead
    simpa using hhead
  · exact List.takeWhile_append_dropWhile.symm
  · intro c hc
    simpa using List.mem_takeWhile_imp hc

theorem isBlank_head_stripStart {text : List Char} {c : Char}
    (h : c ∈ (stripStart text).head?) : isBlank c = false := by
  have hhead := List.head?_dropWhile_not isBlank text
  unfold stripStart at h
  rw [Option.mem_def.mp h] at hhead
  simpa using hhead

theorem isBlank_head_strip {text : List Char} {c : Char} (h : c ∈ (strip text).head?) :
    isBlank c = false := by
  rcases exists_eq_stripEnd_append (stripStart text) with ⟨after, -, htext⟩
  have hhead : (stripEnd (stripStart text)).head? = some c := h
  have hsame : c ∈ (stripStart text).head? := by
    rw [htext, List.head?_append, hhead]
    rfl
  exact isBlank_head_stripStart hsame

theorem isBlank_head_of_firstWord {text word rest : List Char} (h : firstWord text = (word, rest))
    {c : Char} (hc : c ∈ rest.head?) : isBlank c = false := by
  rcases exists_of_firstWord h with ⟨tail, -, -, rfl, -⟩
  exact isBlank_head_stripStart hc

theorem exists_gap_of_firstWord {text word rest : List Char} (h : firstWord text = (word, rest)) :
    ∃ gap : List Char, (∀ c ∈ gap, isBlank c = true) ∧ text = word ++ gap ++ rest ∧
      (rest ≠ [] -> gap ≠ []) := by
  rcases exists_of_firstWord h with ⟨tail, htail, rfl, hrest, -⟩
  have hgap : tail.takeWhile isBlank ++ rest = tail := by
    rw [hrest]
    exact List.takeWhile_append_dropWhile
  refine ⟨tail.takeWhile isBlank, fun c hc => List.mem_takeWhile_imp hc, ?_, ?_⟩
  · rw [List.append_assoc, hgap]
  · intro hne hnil
    rw [hnil, List.nil_append] at hgap
    rcases List.exists_cons_of_ne_nil hne with ⟨c, others, rfl⟩
    rw [← hgap] at htail
    exact Bool.false_ne_true ((isBlank_head_of_firstWord h rfl).symm.trans (htail c rfl))

theorem isField_of_firstWord {text word rest : List Char} (hne : text ≠ [])
    (hhead : ∀ c ∈ text.head?, isBlank c = false) (h : firstWord text = (word, rest)) :
    IsField isBlank word := by
  rcases exists_of_firstWord h with ⟨tail, htail, rfl, -, hword⟩
  constructor
  · rintro rfl
    rcases List.exists_cons_of_ne_nil hne with ⟨c, others, hc⟩
    rw [List.nil_append] at hc hhead
    rw [hc] at htail hhead
    exact Bool.false_ne_true ((hhead c rfl).symm.trans (htail c rfl))
  · exact hword

end Text
end LittleComputer
