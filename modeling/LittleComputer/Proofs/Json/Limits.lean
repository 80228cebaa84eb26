import LittleComputer.Json.Reader
import Mathlib.Data.List.Infix

/-!
# Limits of reading JSON

Of the faults that a text can have, two are not faults of its form.  A numeral is too long only if
the text has a row of too many digits, and arrays and objects are nested too deep only if the text
has too many opening brackets.  A text that is read within some depth is read the same within any
greater one.
-/

namespace LittleComputer
namespace Json

def isOpening (c : Char) : Bool :=
  c == '[' || c == '\x7b'

def HasLongNumeral (cs : List Char) : Prop :=
  ∃ digits : List Char, digits <:+: cs ∧ Decimal.maxDigits < digits.length ∧
    ∀ c ∈ digits, c.isDigit = true

/-- What a reading at the front of a text can be, with the number of arrays and objects that can
still be opened. -/
inductive IsReading {α : Type} (depth : Nat) (cs : List Char) : Reading α -> Prop where
  | ok {a : α} {rest : List Char} : rest <:+ cs -> IsReading depth cs (.ok (a, rest))
  | malformed : IsReading depth cs (.error .malformed)
  | numeralTooLong : HasLongNumeral cs -> IsReading depth cs (.error .numeralTooLong)
  | nestedTooDeep : depth < cs.countP isOpening -> IsReading depth cs (.error .nestedTooDeep)

theorem HasLongNumeral.of_suffix {rest cs : List Char} (hrest : rest <:+ cs)
    (h : HasLongNumeral rest) : HasLongNumeral cs := by
  rcases h with ⟨digits, hdigits, hlength, hall⟩
  exact ⟨digits, hdigits.trans hrest.isInfix, hlength, hall⟩

section

variable {α β : Type} {depth : Nat} {rest cs : List Char}

theorem IsReading.of_suffix {result : Reading α} (hrest : rest <:+ cs)
    (h : IsReading depth rest result) : IsReading depth cs result := by
  cases h with
  | ok hsuffix => exact .ok (hsuffix.trans hrest)
  | malformed => exact .malformed
  | numeralTooLong hnumeral => exact .numeralTooLong (hnumeral.of_suffix hrest)
  | nestedTooDeep hdepth =>
      exact .nestedTooDeep (Nat.lt_of_lt_of_le hdepth hrest.sublist.countP_le)

theorem IsReading.of_opening {result : Reading α} {c : Char} (hc : isOpening c = true)
    (h : IsReading depth rest result) : IsReading (depth + 1) (c :: rest) result := by
  cases h with
  | ok hsuffix => exact .ok (hsuffix.trans (List.suffix_cons c rest))
  | malformed => exact .malformed
  | numeralTooLong hnumeral =>
      exact .numeralTooLong (hnumeral.of_suffix (List.suffix_cons c rest))
  | nestedTooDeep hdepth =>
      apply IsReading.nestedTooDeep
      rw [List.countP_cons_of_pos hc]
      exact Nat.succ_lt_succ hdepth

theorem IsReading.error {error : ReadError}
    (h : IsReading depth cs (.error error : Reading α)) :
    IsReading depth cs (.error error : Reading β) := by
  cases h with
  | malformed => exact .malformed
  | numeralTooLong hnumeral => exact .numeralTooLong hnumeral
  | nestedTooDeep hdepth => exact .nestedTooDeep hdepth

theorem IsReading.map {result : Reading α} (h : IsReading depth cs result) (f : α -> β) :
    IsReading depth cs (result.map fun (a, rest) => (f a, rest)) := by
  cases h with
  | ok hsuffix => exact .ok hsuffix
  | malformed => exact .malformed
  | numeralTooLong hnumeral => exact .numeralTooLong hnumeral
  | nestedTooDeep hdepth => exact .nestedTooDeep hdepth

theorem IsReading.suffix {a : α} (h : IsReading depth cs (.ok (a, rest))) : rest <:+ cs := by
  cases h with
  | ok hsuffix => exact hsuffix

end

theorem skipSpace_suffix (cs : List Char) : skipSpace cs <:+ cs :=
  List.dropWhile_suffix _

theorem suffix_of_skipSpace {cs rest : List Char} {c : Char} (h : skipSpace cs = c :: rest) :
    rest <:+ cs := by
  have hsuffix := skipSpace_suffix cs
  rw [h] at hsuffix
  exact (List.suffix_cons c rest).trans hsuffix

/-!
# Strings and numbers
-/

theorem isReading_readString (depth : Nat) (done : List CodePoint) (cs : List Char) :
    IsReading depth cs (readString done cs) := by
  fun_induction readString done cs with
  | case1 done rest => exact .ok (List.suffix_cons _ rest)
  | case2 done a b c d rest point hpoint ih => exact ih.of_suffix ⟨['\\', 'u', a, b, c, d], rfl⟩
  | case4 done c rest hne escaped hescaped ih => exact ih.of_suffix ⟨['\\', c], rfl⟩
  | case7 done c rest hquote hescape hsimple hlow ih =>
      exact ih.of_suffix (List.suffix_cons c rest)
  | _ => exact .malformed

theorem spanDigits_suffix (cs : List Char) : (Decimal.spanDigits cs).2 <:+ cs := by
  unfold Decimal.spanDigits
  rw [List.span_eq_takeWhile_dropWhile]
  exact List.dropWhile_suffix _

theorem spanFraction_suffix (cs : List Char) : (spanFraction cs).2 <:+ cs := by
  unfold spanFraction
  have hdecimal : (Decimal.spanFraction cs).2 <:+ cs := by
    unfold Decimal.spanFraction
    split
    · exact (spanDigits_suffix _).trans (List.suffix_cons _ _)
    · exact List.suffix_refl cs
  dsimp only
  split
  · exact List.suffix_refl cs
  · exact hdecimal

theorem spanExponent_suffix (cs : List Char) : (Decimal.spanExponent cs).2 <:+ cs := by
  unfold Decimal.spanExponent
  split
  · next c rest =>
      have hsign : (Decimal.spanSign rest).2 <:+ rest := by
        unfold Decimal.spanSign
        split
        · exact List.suffix_cons _ _
        · exact List.suffix_cons _ _
        · exact List.suffix_refl _
      have hdigits := (spanDigits_suffix (Decimal.spanSign rest).2).trans hsign
      dsimp only
      split
      · split
        · exact List.suffix_refl _
        · exact hdigits.trans (List.suffix_cons c rest)
      · exact List.suffix_refl _
  · exact List.suffix_refl _

theorem hasLongNumeral_of_spanDigits {cs : List Char}
    (h : ¬Decimal.isReadable (Decimal.spanDigits cs).1 = true) : HasLongNumeral cs := by
  unfold Decimal.spanDigits at h
  rw [List.span_eq_takeWhile_dropWhile] at h
  refine ⟨cs.takeWhile Char.isDigit, (List.takeWhile_prefix _).isInfix, ?_, ?_⟩
  · unfold Decimal.isReadable at h
    rw [decide_eq_true_eq] at h
    exact Nat.lt_of_not_le h
  · intro c hc
    exact (List.all_eq_true.mp List.all_takeWhile) c hc

theorem isReading_readUnsigned (depth : Nat) (negative : Bool) (cs : List Char) :
    IsReading depth cs (readUnsigned negative cs) := by
  have hdigits := spanDigits_suffix cs
  have hfraction := (spanFraction_suffix (Decimal.spanDigits cs).2).trans hdigits
  have hexponent :=
    (spanExponent_suffix (spanFraction (Decimal.spanDigits cs).2).2).trans hfraction
  unfold readUnsigned
  dsimp only
  split
  · exact .malformed
  · split
    · split
      · exact .ok hexponent
      · next hlong => exact .numeralTooLong (hasLongNumeral_of_spanDigits hlong)
    · exact .ok hexponent

theorem isReading_readNumber (depth : Nat) (cs : List Char) :
    IsReading depth cs (readNumber cs) := by
  unfold readNumber
  split
  · exact (isReading_readUnsigned depth true _).of_suffix (List.suffix_cons _ _)
  · exact isReading_readUnsigned depth false _

/-!
# Values
-/

/-- What the readers of values do with a bound. -/
structure ReadsWithin (bound : Nat) : Prop where
  value : ∀ (depth : Nat) (cs : List Char), IsReading depth cs (readValue bound depth cs)
  items : ∀ (depth : Nat) (done : List Json) (cs : List Char),
    IsReading depth cs (readItems bound depth done cs)
  fields : ∀ (depth : Nat) (done : List (List CodePoint × Json)) (cs : List Char),
    IsReading depth cs (readFields bound depth done cs)

theorem ReadsWithin.value_succ {bound : Nat} (h : ReadsWithin bound) (depth : Nat)
    (cs : List Char) : IsReading depth cs (readValue (bound + 1) depth cs) := by
  unfold readValue
  split
  · next rest =>
      exact ((isReading_readString depth [] rest).map str).of_suffix (List.suffix_cons _ rest)
  · exact .nestedTooDeep (by simp [isOpening])
  · exact .nestedTooDeep (by simp [isOpening])
  · next rest _ =>
      apply IsReading.of_opening rfl
      split
      · next after hafter => exact .ok (suffix_of_skipSpace hafter)
      · exact (h.items _ [] _).of_suffix (skipSpace_suffix rest)
  · next rest _ =>
      apply IsReading.of_opening rfl
      split
      · next after hafter => exact .ok (suffix_of_skipSpace hafter)
      · exact (h.fields _ [] _).of_suffix (skipSpace_suffix rest)
  · exact .ok ⟨['n', 'u', 'l', 'l'], rfl⟩
  · exact .ok ⟨['t', 'r', 'u', 'e'], rfl⟩
  · exact .ok ⟨['f', 'a', 'l', 's', 'e'], rfl⟩
  · exact .ok ⟨['N', 'a', 'N'], rfl⟩
  · exact .ok ⟨['I', 'n', 'f', 'i', 'n', 'i', 't', 'y'], rfl⟩
  · exact .ok ⟨['-', 'I', 'n', 'f', 'i', 'n', 'i', 't', 'y'], rfl⟩
  · exact isReading_readNumber depth _

theorem ReadsWithin.items_succ {bound : Nat} (h : ReadsWithin bound) (depth : Nat)
    (done : List Json) (cs : List Char) :
    IsReading depth cs (readItems (bound + 1) depth done cs) := by
  have hvalue := h.value depth cs
  unfold readItems
  split
  · next item rest hitem =>
      rw [hitem] at hvalue
      split
      · next after hafter =>
          have hrest := (suffix_of_skipSpace hafter).trans hvalue.suffix
          exact (h.items depth _ _).of_suffix ((skipSpace_suffix after).trans hrest)
      · next after hafter => exact .ok ((suffix_of_skipSpace hafter).trans hvalue.suffix)
      · exact .malformed
  · next error herror =>
      rw [herror] at hvalue
      exact hvalue.error

theorem ReadsWithin.fields_succ {bound : Nat} (h : ReadsWithin bound) (depth : Nat)
    (done : List (List CodePoint × Json)) (cs : List Char) :
    IsReading depth cs (readFields (bound + 1) depth done cs) := by
  unfold readFields
  split
  · next quoted =>
      apply IsReading.of_suffix (List.suffix_cons _ quoted)
      have hkey := isReading_readString depth [] quoted
      split
      · next key rest hread =>
          rw [hread] at hkey
          split
          · next written hwritten =>
              apply IsReading.of_suffix ((suffix_of_skipSpace hwritten).trans hkey.suffix)
              apply IsReading.of_suffix (skipSpace_suffix written)
              have hvalue := h.value depth (skipSpace written)
              split
              · next value rest hvalueRead =>
                  rw [hvalueRead] at hvalue
                  dsimp only
                  split
                  · next after hafter =>
                      have hrest := (suffix_of_skipSpace hafter).trans hvalue.suffix
                      exact (h.fields depth _ _).of_suffix ((skipSpace_suffix after).trans hrest)
                  · next after hafter =>
                      exact .ok ((suffix_of_skipSpace hafter).trans hvalue.suffix)
                  · exact .malformed
              · next error herror =>
                  rw [herror] at hvalue
                  exact hvalue.error
          · exact .malformed
      · next error herror =>
          rw [herror] at hkey
          exact hkey.error
  · exact .malformed

theorem readsWithin (bound : Nat) : ReadsWithin bound := by
  induction bound with
  | zero => exact ⟨fun _ _ => .malformed, fun _ _ _ => .malformed, fun _ _ _ => .malformed⟩
  | succ bound ih => exact ⟨ih.value_succ, ih.items_succ, ih.fields_succ⟩

/-!
# Texts
-/

section

variable {depth : Nat} {s : String}

theorem isReading_of_readWithin {error : ReadError} (h : readWithin depth s = .error error) :
    IsReading depth s.toList (.error error : Reading Json) := by
  have hvalue := (readsWithin (2 * s.toList.length + 2)).value depth (skipSpace s.toList)
  unfold readWithin readWhole at h
  split at h
  · split at h
    · cases h
    · cases h
      exact .malformed
  · next other hother =>
      cases h
      rw [hother] at hvalue
      exact hvalue.of_suffix (skipSpace_suffix s.toList)

theorem hasLongNumeral_of_readWithin (h : readWithin depth s = .error .numeralTooLong) :
    HasLongNumeral s.toList := by
  cases isReading_of_readWithin h with
  | numeralTooLong hnumeral => exact hnumeral

theorem depth_lt_of_readWithin (h : readWithin depth s = .error .nestedTooDeep) :
    depth < s.toList.countP isOpening := by
  cases isReading_of_readWithin h with
  | nestedTooDeep hdepth => exact hdepth

end

/-!
# Deeper readers
-/

theorem readValue_array (bound depth : Nat) (rest : List Char) :
    readValue (bound + 1) (depth + 1) ('[' :: rest) =
      match skipSpace rest with
      | ']' :: rest => .ok (arr [], rest)
      | rest => readItems bound depth [] rest := rfl

theorem readValue_object (bound depth : Nat) (rest : List Char) :
    readValue (bound + 1) (depth + 1) ('\x7b' :: rest) =
      match skipSpace rest with
      | '\x7d' :: rest => .ok (obj [], rest)
      | rest => readFields bound depth [] rest := rfl

/-- Within a greater depth, the readers of values read what they read within a smaller one. -/
structure ReadsDeeper (bound depth deeper : Nat) : Prop where
  value : ∀ {cs : List Char} {result : Json × List Char},
    readValue bound depth cs = .ok result -> readValue bound deeper cs = .ok result
  items : ∀ {done : List Json} {cs : List Char} {result : Json × List Char},
    readItems bound depth done cs = .ok result -> readItems bound deeper done cs = .ok result
  fields : ∀ {done : List (List CodePoint × Json)} {cs : List Char} {result : Json × List Char},
    readFields bound depth done cs = .ok result -> readFields bound deeper done cs = .ok result

section

variable {bound depth deeper : Nat} {cs : List Char} {result : Json × List Char}

theorem readsDeeper_value_succ (h : ∀ less more : Nat, less ≤ more -> ReadsDeeper bound less more)
    (hdepth : depth ≤ deeper) (hread : readValue (bound + 1) depth cs = .ok result) :
    readValue (bound + 1) deeper cs = .ok result := by
  unfold readValue at hread
  split at hread
  · exact hread
  · cases hread
  · cases hread
  · next rest less =>
      rcases Nat.exists_eq_succ_of_ne_zero (Nat.ne_zero_of_lt hdepth) with ⟨more, rfl⟩
      rw [readValue_array]
      generalize skipSpace rest = after at hread ⊢
      split at hread
      · exact hread
      · next hne =>
          have hitems := (h less more (Nat.le_of_succ_le_succ hdepth)).items hread
          simpa [hne] using hitems
  · next rest less =>
      rcases Nat.exists_eq_succ_of_ne_zero (Nat.ne_zero_of_lt hdepth) with ⟨more, rfl⟩
      rw [readValue_object]
      generalize skipSpace rest = after at hread ⊢
      split at hread
      · exact hread
      · next hne =>
          have hfields := (h less more (Nat.le_of_succ_le_succ hdepth)).fields hread
          simpa [hne] using hfields
  · exact hread
  · exact hread
  · exact hread
  · exact hread
  · exact hread
  · exact hread
  -- What is no array and no object within the one depth is none within the other.
  · unfold readValue
    cases depth with
    | zero => split <;> grind
    | succ less => split <;> grind

theorem ReadsDeeper.items_succ (h : ReadsDeeper bound depth deeper) {done : List Json}
    (hread : readItems (bound + 1) depth done cs = .ok result) :
    readItems (bound + 1) deeper done cs = .ok result := by
  unfold readItems at hread ⊢
  split at hread
  · next item rest hitem =>
      rw [h.value hitem]
      dsimp only
      generalize skipSpace rest = after at hread ⊢
      split at hread
      · exact h.items hread
      · exact hread
      · cases hread
  · cases hread

theorem ReadsDeeper.fields_succ (h : ReadsDeeper bound depth deeper)
    {done : List (List CodePoint × Json)}
    (hread : readFields (bound + 1) depth done cs = .ok result) :
    readFields (bound + 1) deeper done cs = .ok result := by
  unfold readFields at hread ⊢
  split at hread
  · next quoted =>
      cases hkey : readString [] quoted with
      | error error =>
          rw [hkey] at hread
          cases hread
      | ok key =>
          simp only [hkey] at hread ⊢
          generalize skipSpace key.2 = after at hread ⊢
          split at hread
          · split at hread
            · next value rest hvalue =>
                simp only [h.value hvalue]
                generalize skipSpace rest = after at hread ⊢
                split at hread
                · exact h.fields hread
                · exact hread
                · cases hread
            · cases hread
          · cases hread
  · cases hread

theorem readsDeeper (bound : Nat) {depth deeper : Nat} (hdepth : depth ≤ deeper) :
    ReadsDeeper bound depth deeper := by
  induction bound generalizing depth deeper with
  | zero => exact ⟨nofun, nofun, nofun⟩
  | succ bound ih =>
      exact ⟨readsDeeper_value_succ (fun _ _ => ih) hdepth, (ih hdepth).items_succ,
        (ih hdepth).fields_succ⟩

theorem readWithin_of_le {s : String} {json : Json} (hdepth : depth ≤ deeper)
    (h : readWithin depth s = .ok json) : readWithin deeper s = .ok json := by
  unfold readWithin readWhole at h ⊢
  split at h
  · next value rest hvalue =>
      simp only [(readsDeeper _ hdepth).value hvalue]
      exact h
  · cases h

end

end Json
end LittleComputer
