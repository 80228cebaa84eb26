import LittleComputer.Text.Blank
import LittleComputer.Text.Lines
import Mathlib.Data.List.TakeDrop
import Mathlib.Data.List.TakeWhile

/-!
# Texts put together from fields

Fields that are joined by separators are taken apart again into the same fields.  So are lines that
are joined by line feeds, and a first word with a blank after it.
-/

namespace LittleComputer
namespace Text

structure IsField (isSeparator : Char -> Bool) (field : List Char) : Prop where
  ne_nil : field ≠ []
  not_isSeparator : ∀ c ∈ field, isSeparator c = false

instance (isSeparator : Char -> Bool) : DecidablePred (IsField isSeparator) :=
  fun field =>
    decidable_of_iff (field ≠ [] ∧ field.any isSeparator = false)
      ⟨fun h => ⟨h.left, fun c hc => Bool.eq_false_iff.mpr (List.any_eq_false.mp h.right c hc)⟩,
        fun h => ⟨h.ne_nil, List.any_eq_false.mpr fun c hc =>
          Bool.eq_false_iff.mp (h.not_isSeparator c hc)⟩⟩

namespace IsField

variable {isSeparator isOther : Char -> Bool} {field : List Char}

theorem imp (h : IsField isSeparator field)
    (himp : ∀ c : Char, isOther c = true -> isSeparator c = true) : IsField isOther field := by
  constructor
  · exact h.ne_nil
  · intro c hc
    by_contra hother
    rw [Bool.not_eq_false] at hother
    have hseparator := himp c hother
    rw [h.not_isSeparator c hc] at hseparator
    cases hseparator

theorem exists_cons (h : IsField isSeparator field) :
    ∃ (c : Char) (rest : List Char), field = c :: rest ∧ isSeparator c = false := by
  rcases List.exists_cons_of_ne_nil h.ne_nil with ⟨c, rest, rfl⟩
  exact ⟨c, rest, rfl, h.not_isSeparator c (List.mem_cons_self ..)⟩

theorem reverse (h : IsField isSeparator field) : IsField isSeparator field.reverse := by
  constructor
  · intro hnil
    exact h.ne_nil (List.reverse_eq_nil_iff.mp hnil)
  · intro c hc
    exact h.not_isSeparator c (List.mem_reverse.mp hc)

end IsField

/-!
# Blanks
-/

theorem isBlank_of_isLineBreak {c : Char} (h : isLineBreak c = true) : isBlank c = true := by
  simp only [isLineBreak, Bool.or_eq_true, Bool.and_eq_true, decide_eq_true_eq, beq_iff_eq] at h
  simp only [isBlank, Bool.or_eq_true, Bool.and_eq_true, decide_eq_true_eq, beq_iff_eq]
  omega

theorem stripStart_append {field : List Char} (h : IsField isBlank field) (rest : List Char) :
    stripStart (field ++ rest) = field ++ rest := by
  rcases h.exists_cons with ⟨c, others, rfl, hc⟩
  exact List.dropWhile_cons_of_neg (Bool.eq_false_iff.mp hc)

theorem stripEnd_append (before : List Char) {field : List Char} (h : IsField isBlank field) :
    stripEnd (before ++ field) = before ++ field := by
  have hstart : (field.reverse ++ before.reverse).dropWhile isBlank =
      field.reverse ++ before.reverse := stripStart_append h.reverse before.reverse
  unfold stripEnd
  rw [List.reverse_append, hstart, List.reverse_append, List.reverse_reverse,
    List.reverse_reverse]

theorem strip_eq_self {text first rest before last : List Char} (hfirst : IsField isBlank first)
    (hlast : IsField isBlank last) (hstart : text = first ++ rest) (hend : text = before ++ last) :
    strip text = text := by
  have hstripped : stripStart text = text := by
    rw [hstart]
    exact stripStart_append hfirst rest
  unfold strip
  rw [hstripped, hend]
  exact stripEnd_append before hlast

theorem strip_field {field : List Char} (h : IsField isBlank field) : strip field = field :=
  strip_eq_self h h (List.append_nil field).symm (List.nil_append field).symm

/-- Blanks that are put around a text are taken off with its own. -/
theorem strip_append_append {before after : List Char} (hbefore : ∀ c ∈ before, isBlank c = true)
    (hafter : ∀ c ∈ after, isBlank c = true) (text : List Char) :
    strip (before ++ text ++ after) = strip text := by
  have hend : ∀ rest : List Char, stripEnd (rest ++ after) = stripEnd rest := by
    intro rest
    unfold stripEnd
    rw [List.reverse_append,
      List.dropWhile_append_of_pos fun c hc => hafter c (List.mem_reverse.mp hc)]
  have hstart : stripStart (before ++ text ++ after) = stripStart (text ++ after) := by
    unfold stripStart
    rw [List.append_assoc, List.dropWhile_append_of_pos hbefore]
  have hnone : stripStart after = [] := List.dropWhile_eq_nil_iff.mpr hafter
  unfold strip
  rw [hstart]
  unfold stripStart at hnone ⊢
  rw [List.dropWhile_append]
  split
  · next hempty => rw [hnone, List.isEmpty_iff.mp hempty]
  · exact hend _

theorem exists_eq_append_strip_append (text : List Char) :
    ∃ before after : List Char, (∀ c ∈ before, isBlank c = true) ∧
      (∀ c ∈ after, isBlank c = true) ∧ text = before ++ strip text ++ after := by
  have hblank : ∀ cs : List Char, ∀ c ∈ cs.takeWhile isBlank, isBlank c = true :=
    fun cs => List.all_eq_true.mp List.all_takeWhile
  have hend : stripStart text =
      strip text ++ ((stripStart text).reverse.takeWhile isBlank).reverse := by
    unfold strip stripEnd
    rw [← List.reverse_append, List.takeWhile_append_dropWhile, List.reverse_reverse]
  refine ⟨text.takeWhile isBlank, ((stripStart text).reverse.takeWhile isBlank).reverse,
    hblank text, fun c hc => hblank _ c (List.mem_reverse.mp hc), ?_⟩
  rw [List.append_assoc, ← hend]
  exact List.takeWhile_append_dropWhile.symm

theorem firstWord_append {word : List Char} (h : ∀ c ∈ word, isBlank c = false) {blank : Char}
    (hblank : isBlank blank = true) (rest : List Char) :
    firstWord (word ++ blank :: rest) = (word, stripStart rest) := by
  have hword : ∀ c ∈ word, (!isBlank c) = true := by
    intro c hc
    rw [h c hc]
    rfl
  have hend : ¬(!isBlank blank) = true := by
    rw [hblank]
    exact Bool.false_ne_true
  have hspan : (word ++ blank :: rest).span (fun c => !isBlank c) = (word, blank :: rest) := by
    rw [List.span_eq_takeWhile_dropWhile, List.takeWhile_append_of_pos hword,
      List.dropWhile_append_of_pos hword,
      List.takeWhile_cons_of_neg (p := fun c => !isBlank c) hend,
      List.dropWhile_cons_of_neg (p := fun c => !isBlank c) hend, List.append_nil]
  unfold firstWord
  rw [hspan]
  exact congrArg (Prod.mk word) (List.dropWhile_cons_of_pos hblank)

/-!
# Fields
-/

section

variable {isSeparator : Char -> Bool}

theorem foldr_fieldStep_append {field : List Char} (h : ∀ c ∈ field, isSeparator c = false)
    (rest : List Char) :
    (field ++ rest).foldr (fieldStep isSeparator) ([], []) =
      (field ++ (rest.foldr (fieldStep isSeparator) ([], [])).1,
        (rest.foldr (fieldStep isSeparator) ([], [])).2) := by
  induction field with
  | nil => rfl
  | cons c others ih =>
      rw [List.cons_append, List.foldr_cons, ih fun d hd => h d (List.mem_cons_of_mem _ hd)]
      unfold fieldStep
      rw [h c (List.mem_cons_self ..)]
      rfl

theorem closeField_of_ne_nil {field : List Char} (h : field ≠ []) (fields : List (List Char)) :
    closeField field fields = field :: fields := by
  cases field with
  | nil => exact absurd rfl h
  | cons c rest => rfl

theorem fields_cons_separator {c : Char} (h : isSeparator c = true) (rest : List Char) :
    fields isSeparator (c :: rest) = fields isSeparator rest := by
  unfold fields
  rw [List.foldr_cons]
  generalize rest.foldr (fieldStep isSeparator) ([], []) = state
  unfold fieldStep
  rw [if_pos h]
  rfl

theorem fields_append_separators {separators : List Char}
    (h : ∀ c ∈ separators, isSeparator c = true) (rest : List Char) :
    fields isSeparator (separators ++ rest) = fields isSeparator rest := by
  induction separators with
  | nil => rfl
  | cons c others ih =>
      rw [List.cons_append, fields_cons_separator (h c (List.mem_cons_self ..)),
        ih fun d hd => h d (List.mem_cons_of_mem _ hd)]

theorem fields_field {field : List Char} (h : IsField isSeparator field) :
    fields isSeparator field = [field] := by
  have hstate := foldr_fieldStep_append h.not_isSeparator []
  rw [List.append_nil] at hstate
  unfold fields
  rw [hstate]
  show closeField (field ++ []) [] = [field]
  rw [List.append_nil]
  exact closeField_of_ne_nil h.ne_nil []

theorem fields_append {field : List Char} (h : IsField isSeparator field) {c : Char}
    (hc : isSeparator c = true) (rest : List Char) :
    fields isSeparator (field ++ c :: rest) = field :: fields isSeparator rest := by
  unfold fields
  rw [foldr_fieldStep_append h.not_isSeparator, List.foldr_cons]
  generalize rest.foldr (fieldStep isSeparator) ([], []) = state
  unfold fieldStep
  rw [if_pos hc]
  show closeField (field ++ []) (closeField state.1 state.2) = _
  rw [List.append_nil]
  exact closeField_of_ne_nil h.ne_nil _

theorem fields_stripStart (h : ∀ c : Char, isBlank c = true -> isSeparator c = true)
    (text : List Char) : fields isSeparator (stripStart text) = fields isSeparator text := by
  induction text with
  | nil => rfl
  | cons c rest ih =>
      by_cases hc : isBlank c = true
      · have hstrip : stripStart (c :: rest) = stripStart rest := List.dropWhile_cons_of_pos hc
        rw [hstrip, ih, fields_cons_separator (h c hc)]
      · have hstrip : stripStart (c :: rest) = c :: rest := List.dropWhile_cons_of_neg hc
        rw [hstrip]

theorem fields_intercalate {separators : List Char} (hne : separators ≠ [])
    (hseparators : ∀ c ∈ separators, isSeparator c = true) {words : List (List Char)}
    (h : ∀ word ∈ words, IsField isSeparator word) :
    fields isSeparator (separators.intercalate words) = words := by
  rcases List.exists_cons_of_ne_nil hne with ⟨c, others, rfl⟩
  induction words with
  | nil => rfl
  | cons word rest ih =>
      have hword : IsField isSeparator word := h word (List.mem_cons_self ..)
      cases rest with
      | nil =>
          rw [List.intercalate_singleton]
          exact fields_field hword
      | cons next rest =>
          rw [List.intercalate_cons_cons, List.append_assoc, List.cons_append,
            fields_append hword (hseparators c (List.mem_cons_self ..)),
            fields_append_separators fun d hd => hseparators d (List.mem_cons_of_mem _ hd),
            ih fun other hother => h other (List.mem_cons_of_mem _ hother)]

end

theorem exists_intercalate_eq_append (separators : List Char) {words : List (List Char)}
    (h : words ≠ []) :
    ∃ (before last : List Char), last ∈ words ∧ separators.intercalate words = before ++ last := by
  induction words with
  | nil => exact absurd rfl h
  | cons word rest ih =>
      cases rest with
      | nil => exact ⟨[], word, List.mem_cons_self .., List.intercalate_singleton⟩
      | cons next rest =>
          rcases ih (List.cons_ne_nil next rest) with ⟨before, last, hlast, hjoined⟩
          refine ⟨word ++ separators ++ before, last, List.mem_cons_of_mem _ hlast, ?_⟩
          rw [List.intercalate_cons_cons, hjoined, List.append_assoc _ before last]

theorem mem_intercalate {separators : List Char} {words : List (List Char)} {c : Char}
    (h : c ∈ separators.intercalate words) : c ∈ separators ∨ ∃ word ∈ words, c ∈ word := by
  induction words with
  | nil => cases h
  | cons word rest ih =>
      cases rest with
      | nil =>
          rw [List.intercalate_singleton] at h
          exact Or.inr ⟨word, List.mem_cons_self .., h⟩
      | cons next rest =>
          rw [List.intercalate_cons_cons, List.append_assoc, List.mem_append,
            List.mem_append] at h
          rcases h with hword | hseparators | hrest
          · exact Or.inr ⟨word, List.mem_cons_self .., hword⟩
          · exact Or.inl hseparators
          · rcases ih hrest with hseparators | ⟨other, hother, hc⟩
            · exact Or.inl hseparators
            · exact Or.inr ⟨other, List.mem_cons_of_mem _ hother, hc⟩

/-!
# Lines
-/

theorem lines_cons_of_not_isLineBreak {c : Char} (h : isLineBreak c = false) (rest : List Char) :
    lines (c :: rest) = extendFirstLine c (lines rest) := by
  have hreturn : ¬(c = '\r' ∧ rest.head? = some '\n') := by
    rintro ⟨rfl, -⟩
    cases h
  rw [lines_cons, if_neg hreturn, if_neg (Bool.eq_false_iff.mp h)]

theorem lines_append {line : List Char} (h : ∀ c ∈ line, isLineBreak c = false)
    (rest : List Char) : lines (line ++ '\n' :: rest) = line :: lines rest := by
  induction line with
  | nil => rfl
  | cons c others ih =>
      rw [List.cons_append, lines_cons_of_not_isLineBreak (h c (List.mem_cons_self ..)),
        ih fun d hd => h d (List.mem_cons_of_mem _ hd)]
      rfl

theorem lines_line {line : List Char} (h : IsField isLineBreak line) : lines line = [line] := by
  rcases h with ⟨hne, hline⟩
  induction line with
  | nil => exact absurd rfl hne
  | cons c others ih =>
      rw [lines_cons_of_not_isLineBreak (hline c (List.mem_cons_self ..))]
      cases others with
      | nil => rfl
      | cons d others =>
          rw [ih (List.cons_ne_nil d others) fun e he => hline e (List.mem_cons_of_mem _ he)]
          rfl

theorem lines_intercalate {rows : List (List Char)} (h : ∀ row ∈ rows, IsField isLineBreak row) :
    lines (['\n'].intercalate rows) = rows := by
  induction rows with
  | nil => rfl
  | cons row rest ih =>
      have hrow : IsField isLineBreak row := h row (List.mem_cons_self ..)
      cases rest with
      | nil =>
          rw [List.intercalate_singleton]
          exact lines_line hrow
      | cons next rest =>
          rw [List.intercalate_cons_cons, List.append_assoc, List.singleton_append,
            lines_append hrow.not_isSeparator,
            ih fun other hother => h other (List.mem_cons_of_mem _ hother)]

end Text
end LittleComputer
