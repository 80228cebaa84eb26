import LittleComputer.Proofs.Json.Limits
import LittleComputer.Proofs.Outcome
import LittleComputer.Sheet.Manager

/-!
# Refusals of sheets

A file is refused with an error of the sheet, except for four faults: bytes that are no text, a
numeral that is too long, arrays and objects that are nested too deep, and a form with an operand
that is no text.  The last one matters only if the reader gets as far as the form, and then it is
the text of the error itself that cannot be made.
-/

namespace LittleComputer

def LoadError.IsOfSheet : LoadError -> Prop
  | sheet _ => True
  | undecodable | numeralTooLong | nestedTooDeep | operandNotText => False

instance : DecidablePred LoadError.IsOfSheet
  | .sheet _ => .isTrue trivial
  | .undecodable | .numeralTooLong | .nestedTooDeep | .operandNotText => .isFalse id

namespace Sheet

/-!
# Operands that are no texts
-/

def FormHasNonText (form : Json) : Prop :=
  ∃ operands : List Json, form.get? "operands" = some (.arr operands) ∧
    ∃ operand ∈ operands, operand.string? = none

/-- An entry in which all is well up to a form with an operand that is no text. -/
def EntryHasNonText (entry : Json) : Prop :=
  ∃ (written : String) (encodings : List Layout) (summary : String) (earlier : List Json)
    (form : Json) (later : List Json),
    (entry.get? "mnemonic").bind Json.string? = some written ∧
      encodable? (mnemonicOf written) = some encodings ∧
      textField? entry "summary" = some summary ∧
      entry.get? "forms" = some (.arr (earlier ++ form :: later)) ∧
      (∀ other ∈ earlier, ∃ layout : Layout,
        readForm (mnemonicOf written) encodings other = .ok layout) ∧
      FormHasNonText form

/-- A sheet in which all is well up to an entry of this sort. -/
def HasNonText (json : Json) : Prop :=
  ∃ (name : String) (earlier : List Json) (entry : Json) (later : List Json)
    (read : List SheetEntry),
    (json.get? "schema_version").any (Json.equalsInt 1) = true ∧
      textField? json "name" = some name ∧
      (json.get? "isa").any isMachine = true ∧
      json.get? "instructions" = some (.arr (earlier ++ entry :: later)) ∧
      readEntries [] earlier = .ok read ∧ EntryHasNonText entry

theorem layout?_eq_none_iff {operands : List Json} :
    layout? operands = none ↔ ∃ operand ∈ operands, operand.string? = none := by
  unfold layout?
  induction operands with
  | nil => simp
  | cons operand rest ih =>
      rw [List.mapM_cons]
      cases hoperand : operand.string? with
      | none => simp [hoperand]
      | some text =>
          cases hrest : rest.mapM Json.string? with
          | none => simp [ih.mp hrest]
          | some texts =>
              have hnone := (not_congr ih).mp (by rw [hrest]; exact Option.some_ne_none texts)
              simpa [hoperand] using hnone

theorem readForm_of_nonText {mnemonic : String} {encodings : List Layout} {form : Json}
    (h : FormHasNonText form) : readForm mnemonic encodings form = .error .operandNotText := by
  rcases h with ⟨operands, hoperands, hnone⟩
  unfold readForm
  rw [hoperands]
  dsimp only
  rw [layout?_eq_none_iff.mpr hnone]

theorem readForm_eq_error {mnemonic : String} {encodings : List Layout} {form : Json}
    {error : LoadError} (h : readForm mnemonic encodings form = .error error) :
    error.IsOfSheet ∨ error = .operandNotText ∧ FormHasNonText form := by
  unfold readForm at h
  split at h
  · next operands hoperands =>
      split at h
      · split at h
        · cases h
        · cases h
          exact Or.inl trivial
      · next hnone =>
          cases h
          exact Or.inr ⟨rfl, operands, hoperands, layout?_eq_none_iff.mp hnone⟩
  · cases h
    exact Or.inl trivial

/-!
# Entries
-/

theorem readEntry_of_nonText {entry : Json} (h : EntryHasNonText entry) :
    readEntry entry = .error .operandNotText := by
  rcases h with ⟨written, encodings, summary, earlier, form, later, hwritten, hencodings, hsummary,
    hforms, hearlier, hform⟩
  unfold readEntry
  rw [hwritten]
  dsimp only
  rw [hencodings]
  dsimp only
  rw [hsummary, hforms]
  refine bind_eq_error_iff.mpr (Or.inl (mapM_eq_error_iff.mpr ?_))
  exact ⟨earlier, form, later, rfl, hearlier, readForm_of_nonText hform⟩

theorem readEntry_eq_error {entry : Json} {error : LoadError}
    (h : readEntry entry = .error error) :
    error.IsOfSheet ∨ error = .operandNotText ∧ EntryHasNonText entry := by
  unfold readEntry at h
  split at h
  · cases h
    exact Or.inl trivial
  · next written hwritten =>
      dsimp only at h
      split at h
      · cases h
        exact Or.inl trivial
      · next encodings hencodings =>
          split at h
          · cases h
            exact Or.inl trivial
          · next summary hsummary =>
              split at h
              · next forms hforms =>
                  rcases bind_eq_error_iff.mp h with h | ⟨layouts, -, h⟩
                  · rcases mapM_eq_error_iff.mp h with
                      ⟨earlier, form, later, rfl, hearlier, hform⟩
                    rcases readForm_eq_error hform with hsheet | ⟨herror, hnonText⟩
                    · exact Or.inl hsheet
                    · exact Or.inr ⟨herror, written, encodings, summary, earlier, form, later,
                        hwritten, hencodings, hsummary, hforms, hearlier, hnonText⟩
                  · cases h
              · cases h
                exact Or.inl trivial

theorem readEntries_of_nonText {done read : List SheetEntry} {earlier later : List Json}
    {entry : Json} (hread : readEntries done earlier = .ok read) (hentry : EntryHasNonText entry) :
    readEntries done (earlier ++ entry :: later) = .error .operandNotText := by
  induction earlier generalizing done with
  | nil => exact bind_eq_error_iff.mpr (Or.inl (readEntry_of_nonText hentry))
  | cons json rest ih =>
      unfold readEntries at hread
      rcases exists_of_bind_ok hread with ⟨first, hfirst, hread⟩
      refine bind_eq_error_iff.mpr (Or.inr ⟨first, hfirst, ?_⟩)
      split at hread
      · cases hread
      · next hnew =>
          rw [if_neg hnew]
          exact ih hread

theorem readEntries_eq_error {done : List SheetEntry} {jsons : List Json} {error : LoadError}
    (h : readEntries done jsons = .error error) :
    error.IsOfSheet ∨ error = .operandNotText ∧
      ∃ (earlier : List Json) (entry : Json) (later : List Json) (read : List SheetEntry),
        jsons = earlier ++ entry :: later ∧ readEntries done earlier = .ok read ∧
          EntryHasNonText entry := by
  induction jsons generalizing done with
  | nil => cases h
  | cons json rest ih =>
      rcases bind_eq_error_iff.mp h with h | ⟨first, hfirst, h⟩
      · rcases readEntry_eq_error h with hsheet | ⟨herror, hentry⟩
        · exact Or.inl hsheet
        · exact Or.inr ⟨herror, [], json, rest, done, rfl, rfl, hentry⟩
      · split at h
        · cases h
          exact Or.inl trivial
        · next hnew =>
            rcases ih h with hsheet | ⟨herror, earlier, entry, later, read, rfl, hread, hentry⟩
            · exact Or.inl hsheet
            · refine Or.inr ⟨herror, json :: earlier, entry, later, read, rfl, ?_, hentry⟩
              unfold readEntries
              rw [hfirst, ok_bind, if_neg hnew]
              exact hread

/-!
# Whole sheets
-/

theorem ofJson_of_nonText {json : Json} (h : HasNonText json) :
    ofJson json = .error .operandNotText := by
  rcases h with ⟨name, earlier, entry, later, read, hversion, hname, hisa, hinstructions, hread,
    hentry⟩
  have hentries : readEntries [] (earlier ++ entry :: later) = .error .operandNotText :=
    readEntries_of_nonText hread hentry
  unfold ofJson
  cases json with
  | obj fields =>
      dsimp only
      rw [hversion, hname]
      dsimp only
      rw [hisa, hinstructions]
      cases earlier with
      | nil => exact bind_eq_error_iff.mpr (Or.inl hentries)
      | cons first rest => exact bind_eq_error_iff.mpr (Or.inl hentries)
  | _ => cases hversion

theorem ofJson_eq_error {json : Json} {error : LoadError} (h : ofJson json = .error error) :
    error.IsOfSheet ∨ error = .operandNotText ∧ HasNonText json := by
  unfold ofJson at h
  split at h
  · next fields =>
      split at h
      · cases h
        exact Or.inl trivial
      · next hversion =>
          split at h
          · cases h
            exact Or.inl trivial
          · next name hname =>
              split at h
              · cases h
                exact Or.inl trivial
              · next hisa =>
                  split at h
                  · next first rest hinstructions =>
                      rcases bind_eq_error_iff.mp h with h | ⟨entries, -, h⟩
                      · rcases readEntries_eq_error h with hsheet |
                          ⟨herror, earlier, entry, later, read, hsplit, hread, hentry⟩
                        · exact Or.inl hsheet
                        · rw [hsplit] at hinstructions
                          rw [Bool.not_eq_true, Bool.not_eq_false'] at hversion hisa
                          exact Or.inr ⟨herror, name, earlier, entry, later, read, hversion, hname,
                            hisa, hinstructions, hread, hentry⟩
                      · cases h
                  · cases h
                    exact Or.inl trivial
  · cases h
    exact Or.inl trivial

/-- The contents of a file that are refused with no error of the sheet. -/
inductive FileContent.Escapes (depth : Nat) : FileContent -> Prop where
  | undecodable {bytes : ByteArray} :
      String.fromUTF8? bytes = none -> Escapes depth (.bytes bytes)
  | numeralTooLong {bytes : ByteArray} {text : String} :
      String.fromUTF8? bytes = some text -> Json.readWithin depth text = .error .numeralTooLong ->
      Escapes depth (.bytes bytes)
  | nestedTooDeep {bytes : ByteArray} {text : String} :
      String.fromUTF8? bytes = some text -> Json.readWithin depth text = .error .nestedTooDeep ->
      Escapes depth (.bytes bytes)
  | operandNotText {bytes : ByteArray} {text : String} {json : Json} :
      String.fromUTF8? bytes = some text -> Json.readWithin depth text = .ok json ->
      HasNonText json -> Escapes depth (.bytes bytes)

theorem ofFile_eq_error {depth : Nat} {content : FileContent} {error : LoadError}
    (h : ofFile depth content = .error error) : error.IsOfSheet ∨ content.Escapes depth := by
  unfold ofFile at h
  split at h
  · cases h
    exact Or.inl trivial
  · cases h
    exact Or.inl trivial
  · split at h
    · next hbytes => exact Or.inr (.undecodable hbytes)
    · next text htext =>
        split at h
        · next fault hread =>
            cases fault with
            | malformed =>
                cases h
                exact Or.inl trivial
            | numeralTooLong => exact Or.inr (.numeralTooLong htext hread)
            | nestedTooDeep => exact Or.inr (.nestedTooDeep htext hread)
        · next json hread =>
            rcases ofJson_eq_error h with hsheet | ⟨-, hnonText⟩
            · exact Or.inl hsheet
            · exact Or.inr (.operandNotText htext hread hnonText)

theorem ofFile_of_error {depth : Nat} {bytes : ByteArray} {text : String} {fault : Json.ReadError}
    (htext : String.fromUTF8? bytes = some text)
    (hread : Json.readWithin depth text = .error fault) :
    ofFile depth (.bytes bytes) = .error (.ofRead .file fault) := by
  unfold ofFile
  simp only [htext, hread]

theorem ofFile_of_escapes {depth : Nat} {content : FileContent} (h : content.Escapes depth) :
    ∃ error : LoadError, ofFile depth content = .error error ∧ ¬error.IsOfSheet := by
  cases h with
  | undecodable hbytes =>
      refine ⟨.undecodable, ?_, id⟩
      unfold ofFile
      simp only [hbytes]
  | numeralTooLong htext hread => exact ⟨_, ofFile_of_error htext hread, id⟩
  | nestedTooDeep htext hread => exact ⟨_, ofFile_of_error htext hread, id⟩
  | operandNotText htext hread hnonText =>
      refine ⟨.operandNotText, ?_, id⟩
      unfold ofFile
      simp only [htext, hread]
      exact ofJson_of_nonText hnonText

theorem FileContent.not_escapes_of_text {depth : Nat} {bytes : ByteArray} {text : String}
    (htext : String.fromUTF8? bytes = some text)
    (hnumeral : ¬Json.HasLongNumeral text.toList)
    (hdepth : text.toList.countP Json.isOpening ≤ depth)
    (hoperands : ∀ json : Json, Json.readWithin depth text = .ok json -> ¬HasNonText json) :
    ¬(FileContent.bytes bytes).Escapes depth := by
  intro h
  cases h with
  | undecodable hbytes =>
      rw [htext] at hbytes
      cases hbytes
  | numeralTooLong hother hread =>
      cases htext.symm.trans hother
      exact hnumeral (Json.hasLongNumeral_of_readWithin hread)
  | nestedTooDeep hother hread =>
      cases htext.symm.trans hother
      exact Nat.not_lt.mpr hdepth (Json.depth_lt_of_readWithin hread)
  | operandNotText hother hread hnonText =>
      cases htext.symm.trans hother
      exact hoperands _ hread hnonText

/-!
# Loads
-/

theorem activate_eq_error {sheet : Sheet} {isa : Isa} {error : LoadError}
    (h : sheet.activate isa = .error error) : error.IsOfSheet := by
  rcases bind_eq_error_iff.mp h with h | ⟨definitions, -, h⟩
  · rcases mapM_eq_error_iff.mp h with ⟨earlier, entry, later, -, -, hentry⟩
    unfold define at hentry
    split at hentry
    · cases hentry
    · cases hentry
      exact trivial
  · cases h

theorem load_eq_error {depth : Nat} {content : FileContent} {source : SheetSource} {isa : Isa}
    {error : LoadError} (h : Manager.load depth content source isa = .error error) :
    error.IsOfSheet ∨ read depth content source = .error error := by
  rcases bind_eq_error_iff.mp h with h | ⟨sheet, -, h⟩
  · exact Or.inr h
  · rcases bind_eq_error_iff.mp h with h | ⟨active, -, h⟩
    · exact Or.inl (activate_eq_error h)
    · cases h

/-- A load succeeds or fails with an error of the sheet, unless it is from a file of one of the four
sorts.  A text is of none of them if it has no row of digits longer than a numeral, no more opening
brackets than values may be nested, and no operand that is not a text. -/
theorem load_refused_iff (depth : Nat) (content : FileContent) (source : SheetSource) (isa : Isa) :
    (((∃ (sheet : Sheet) (loaded : Isa),
        Manager.load depth content source isa = .ok (sheet, loaded)) ∨
      ∃ error : SheetError, Manager.load depth content source isa = .error (.sheet error)) ↔
      (source = .file -> ¬content.Escapes depth)) ∧
    ∀ (bytes : ByteArray) (text : String), content = .bytes bytes ->
      String.fromUTF8? bytes = some text -> ¬Json.HasLongNumeral text.toList ->
      text.toList.countP Json.isOpening ≤ depth ->
      (∀ json : Json, Json.readWithin depth text = .ok json -> ¬HasNonText json) ->
      ¬content.Escapes depth := by
  refine ⟨⟨?_, ?_⟩, ?_⟩
  · intro h hsource hescapes
    cases hsource
    rcases ofFile_of_escapes hescapes with ⟨error, hread, herror⟩
    have hload : Manager.load depth content .file isa = .error error :=
      bind_eq_error_iff.mpr (Or.inl hread)
    rcases h with ⟨sheet, loaded, h⟩ | ⟨refusal, h⟩
    · rw [hload] at h
      cases h
    · rw [hload] at h
      cases h
      exact herror trivial
  · intro hescapes
    cases hload : Manager.load depth content source isa with
    | ok result => exact Or.inl ⟨result.1, result.2, rfl⟩
    | error error =>
        have hsheet : error.IsOfSheet := by
          rcases load_eq_error hload with hsheet | hread
          · exact hsheet
          · cases source with
            | bundled => cases hread
            | file =>
                rcases ofFile_eq_error hread with hsheet | hcontent
                · exact hsheet
                · exact absurd hcontent (hescapes rfl)
        cases error with
        | sheet refusal => exact Or.inr ⟨refusal, rfl⟩
        | _ => cases hsheet
  · rintro bytes text rfl htext hnumeral hdepth hoperands
    exact FileContent.not_escapes_of_text htext hnumeral hdepth hoperands

theorem not_refused_of_number :
    let content := FileContent.bytes ("\x7b\"schema_version\":1,\"name\":\"s\",\"isa\":" ++
      "\x7b\"arch\":\"lc3\",\"word_bits\":16\x7d,\"instructions\":[\x7b\"mnemonic\":\"ADD\"," ++
      "\"summary\":\"a\",\"forms\":[\x7b\"operands\":[1]\x7d]\x7d]\x7d").toUTF8
    ¬((∃ (sheet : Sheet) (loaded : Isa),
        Manager.load Json.standardDepth content .file .standard = .ok (sheet, loaded)) ∨
      ∃ error : SheetError,
        Manager.load Json.standardDepth content .file .standard = .error (.sheet error)) := by
  intro content h
  have hload : ((Manager.load Json.standardDepth content .file .standard).map fun _ => ()).mapError
      (fun error => decide error.IsOfSheet) = .error false := by
    decide +kernel
  rcases h with ⟨sheet, loaded, h⟩ | ⟨error, h⟩
  · rw [h] at hload
    cases hload
  · rw [h] at hload
    cases hload

end Sheet
end LittleComputer
