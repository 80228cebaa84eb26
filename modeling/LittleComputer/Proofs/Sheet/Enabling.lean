import LittleComputer.Proofs.Sheet.History
import Mathlib.Data.List.Nodup

/-!
# What a sheet enables

A sheet in a file enables the instructions that it lists: those for whose mnemonic it has an entry,
and for whose operands that entry has a form.  After a load, validation accepts the programs of
enabled instructions, and for any other it reports the first instruction that is not enabled.
-/

namespace LittleComputer

/-!
# The first objection
-/

namespace Isa

theorem validateFrom_eq_some_iff {isa : Isa} {start : Nat} {instructions : List Instruction}
    {error : ValidationError} :
    isa.validateFrom start instructions = some error ↔
      ∃ (earlier : List Instruction) (i : Instruction) (later : List Instruction)
        (cause : ValidationCause), instructions = earlier ++ i :: later ∧
          (∀ other ∈ earlier, isa.objection? other = none) ∧ isa.objection? i = some cause ∧
          error = ⟨cause, start + earlier.length, i.text isa.traps⟩ := by
  induction instructions generalizing start with
  | nil =>
      constructor
      · intro h
        cases h
      · rintro ⟨earlier, i, later, cause, hsplit, -⟩
        cases earlier <;> cases hsplit
  | cons first rest ih =>
      unfold validateFrom
      cases hfirst : isa.objection? first with
      | some cause =>
          constructor
          · intro h
            cases h
            exact ⟨[], first, rest, cause, rfl, by simp, hfirst, rfl⟩
          · rintro ⟨earlier, i, later, other, hsplit, hearlier, hother, rfl⟩
            cases earlier with
            | nil =>
                cases hsplit
                rw [hfirst] at hother
                cases hother
                rfl
            | cons second earlier =>
                cases hsplit
                rw [hearlier first (List.mem_cons_self ..)] at hfirst
                cases hfirst
      | none =>
          constructor
          · intro h
            rcases ih.mp h with ⟨earlier, i, later, cause, rfl, hearlier, hcause, rfl⟩
            refine ⟨first :: earlier, i, later, cause, rfl, ?_, hcause, ?_⟩
            · exact List.forall_mem_cons.mpr ⟨hfirst, hearlier⟩
            · rw [List.length_cons, Nat.add_right_comm, Nat.add_assoc]
          · rintro ⟨earlier, i, later, cause, hsplit, hearlier, hcause, rfl⟩
            cases earlier with
            | nil =>
                cases hsplit
                rw [hfirst] at hcause
                cases hcause
            | cons second earlier =>
                cases hsplit
                refine ih.mpr ⟨earlier, i, later, cause, rfl, ?_, hcause, ?_⟩
                · exact fun other hother => hearlier other (List.mem_cons_of_mem _ hother)
                · rw [List.length_cons, Nat.add_right_comm, Nat.add_assoc]

end Isa

namespace Sheet

/-!
# What is written in a sheet
-/

def Holds (depth : Nat) (content : FileContent) (json : Json) : Prop :=
  ∃ (bytes : ByteArray) (text : String), content = .bytes bytes ∧
    String.fromUTF8? bytes = some text ∧ Json.readWithin depth text = .ok json

/-- An entry is for a mnemonic, which it can have in small letters and with blanks around. -/
def IsEntryFor (mnemonic : String) (entry : Json) : Prop :=
  ∃ written : String, (entry.get? "mnemonic").bind Json.string? = some written ∧
    mnemonicOf written = mnemonic

def IsFormOf (layout : Layout) (form : Json) : Prop :=
  ∃ operands : List Json, form.get? "operands" = some (.arr operands) ∧
    operands.map Json.string? = layout.map some

def HasForm (layout : Layout) (entry : Json) : Prop :=
  ∃ forms : List Json, entry.get? "forms" = some (.arr forms) ∧ ∃ form ∈ forms, IsFormOf layout form

def HasEntry (json : Json) (P : Json -> Prop) : Prop :=
  ∃ entries : List Json, json.get? "instructions" = some (.arr entries) ∧ ∃ entry ∈ entries, P entry

/-- A sheet has an entry for the mnemonic of an instruction with a form for its operands. -/
def Enables (json : Json) (i : Instruction) : Prop :=
  HasEntry json fun entry => IsEntryFor i.mnemonic entry ∧ HasForm i.layout entry

/-!
# Reading entries
-/

theorem layout?_eq_some_iff {operands : List Json} {layout : Layout} :
    layout? operands = some layout ↔ operands.map Json.string? = layout.map some := by
  unfold layout?
  induction operands generalizing layout with
  | nil =>
      cases layout with
      | nil => simp
      | cons kind rest => simp
  | cons operand rest ih =>
      rw [List.mapM_cons]
      cases layout with
      | nil => cases operand.string? <;> cases rest.mapM Json.string? <;> simp
      | cons kind kinds =>
          rw [List.map_cons, List.map_cons, List.cons.injEq, ← ih]
          cases operand.string? with
          | none => simp
          | some text => cases rest.mapM Json.string? <;> simp

theorem isFormOf_iff_of_readForm {mnemonic : String} {encodings : List Layout} {form : Json}
    {layout : Layout} (h : readForm mnemonic encodings form = .ok layout) (other : Layout) :
    IsFormOf other form ↔ other = layout := by
  unfold readForm at h
  split at h
  · next operands hoperands =>
      split at h
      · next found hfound =>
          split at h
          · cases h
            constructor
            · rintro ⟨others, hothers, hkinds⟩
              rw [hoperands] at hothers
              cases hothers
              rw [layout?_eq_some_iff.mpr hkinds] at hfound
              exact Option.some.inj hfound
            · rintro rfl
              exact ⟨operands, hoperands, layout?_eq_some_iff.mp hfound⟩
          · cases h
      · cases h
  · cases h

theorem isEntryFor_of_readEntry {json : Json} {entry : SheetEntry}
    (h : readEntry json = .ok entry) :
    (∀ mnemonic : String, IsEntryFor mnemonic json ↔ mnemonic = entry.mnemonic) ∧
      ∀ layout : Layout, HasForm layout json ↔ layout ∈ entry.layouts := by
  unfold readEntry at h
  split at h
  · cases h
  · next written hwritten =>
      dsimp only at h
      split at h
      · cases h
      · split at h
        · cases h
        · split at h
          · next forms hforms =>
              rcases exists_of_bind_ok h with ⟨layouts, hlayouts, h⟩
              rw [← Except.ok.inj h]
              constructor
              · intro mnemonic
                constructor
                · rintro ⟨other, hother, rfl⟩
                  rw [hwritten] at hother
                  cases hother
                  rfl
                · rintro rfl
                  exact ⟨written, hwritten, rfl⟩
              · intro layout
                constructor
                · rintro ⟨others, hothers, form, hform, hlists⟩
                  rw [hforms] at hothers
                  cases hothers
                  rcases exists_mem_of_mapM hlayouts hform with ⟨found, hfound, hread⟩
                  rw [(isFormOf_iff_of_readForm hread layout).mp hlists]
                  exact hfound
                · intro hlayout
                  rcases exists_of_mem_mapM hlayouts hlayout with ⟨form, hform, hread⟩
                  exact ⟨forms, hforms, form, hform,
                    (isFormOf_iff_of_readForm hread layout).mpr rfl⟩
          · cases h

/-- Entries are read one by one; a mnemonic that comes again only refuses the whole. -/
theorem mapM_of_readEntries {done entries : List SheetEntry} {jsons : List Json}
    (h : readEntries done jsons = .ok entries) :
    ∃ read : List SheetEntry, jsons.mapM readEntry = .ok read ∧ entries = done ++ read := by
  induction jsons generalizing done with
  | nil =>
      cases h
      exact ⟨[], rfl, (List.append_nil _).symm⟩
  | cons json rest ih =>
      unfold readEntries at h
      rcases exists_of_bind_ok h with ⟨entry, hentry, h⟩
      split at h
      · cases h
      · rcases ih h with ⟨read, hread, rfl⟩
        refine ⟨entry :: read, ?_, List.append_assoc ..⟩
        rw [List.mapM_cons, hentry, ok_bind, hread, ok_bind]
        rfl

theorem exists_instructions_of_ofJson {json : Json} {sheet : Sheet} (h : ofJson json = .ok sheet) :
    ∃ entries : List Json, json.get? "instructions" = some (.arr entries) ∧
      entries.mapM readEntry = .ok sheet.entries := by
  unfold ofJson at h
  split at h
  · split at h
    · cases h
    · split at h
      · cases h
      · split at h
        · cases h
        · split at h
          · next first rest hentries =>
              rcases exists_of_bind_ok h with ⟨found, hfound, h⟩
              cases h
              rcases mapM_of_readEntries hfound with ⟨read, hread, hsame⟩
              rw [List.nil_append] at hsame
              exact ⟨first :: rest, hentries, hread.trans (congrArg Except.ok hsame.symm)⟩
          · cases h
  · cases h

/-- What the entries of a sheet say is what is written in its file. -/
theorem hasEntry_iff_of_ofJson {json : Json} {sheet : Sheet} (h : ofJson json = .ok sheet)
    {P : Json -> Prop} {Q : SheetEntry -> Prop}
    (hsame : ∀ (written : Json) (entry : SheetEntry), readEntry written = .ok entry ->
      (P written ↔ Q entry)) :
    HasEntry json P ↔ ∃ entry ∈ sheet.entries, Q entry := by
  rcases exists_instructions_of_ofJson h with ⟨entries, hentries, hread⟩
  constructor
  · rintro ⟨others, hothers, written, hwritten, hP⟩
    rw [hentries] at hothers
    cases hothers
    rcases exists_mem_of_mapM hread hwritten with ⟨entry, hentry, hok⟩
    exact ⟨entry, hentry, (hsame written entry hok).mp hP⟩
  · rintro ⟨entry, hentry, hQ⟩
    rcases exists_of_mem_mapM hread hentry with ⟨written, hwritten, hok⟩
    exact ⟨entries, hentries, written, hwritten, (hsame written entry hok).mpr hQ⟩

theorem holds_of_ofFile {depth : Nat} {content : FileContent} {sheet : Sheet}
    (h : ofFile depth content = .ok sheet) :
    ∃ json : Json, Holds depth content json ∧ ofJson json = .ok sheet := by
  unfold ofFile at h
  split at h
  · cases h
  · cases h
  · next bytes =>
      split at h
      · cases h
      · next text htext =>
          split at h
          · cases h
          · next json hjson => exact ⟨json, ⟨bytes, text, rfl, htext, hjson⟩, h⟩

end Sheet

/-!
# Looking up definitions
-/

theorem Table.get?_eq_some_iff {κ α : Type} [BEq κ] [LawfulBEq κ] {table : Table κ α} {key : κ}
    {value : α} : table.get? key = some value ↔ (key, value) ∈ table.entries := by
  unfold get? Entries.get?
  rw [Option.map_eq_some_iff]
  constructor
  · rintro ⟨⟨other, found⟩, hfind, rfl⟩
    have hkey : (other == key) = true :=
      List.find?_some (p := fun entry : κ × α => entry.1 == key) hfind
    rw [← eq_of_beq hkey]
    exact List.mem_of_find?_eq_some hfind
  · intro hmem
    cases hfind : table.entries.find? fun entry => entry.1 == key with
    | none =>
        have hne := List.find?_eq_none.mp hfind _ hmem
        exact absurd (beq_self_eq_true key) hne
    | some entry =>
        have hkey : (entry.1 == key) = true :=
          List.find?_some (p := fun entry : κ × α => entry.1 == key) hfind
        have hsame : entry = (key, value) :=
          List.inj_on_of_nodup_map table.nodup_keys (List.mem_of_find?_eq_some hfind) hmem
            (eq_of_beq hkey)
        exact ⟨entry, rfl, congrArg Prod.snd hsame⟩

namespace Sheet

theorem AreDefinitions.get?_iff {sheet : Sheet} {isa : Isa} {definitions : Table String Definition}
    (h : AreDefinitions sheet isa definitions) {mnemonic : String} {layouts : List Layout} :
    (∃ definition : Definition,
      definitions.get? mnemonic = some definition ∧ definition.layouts = layouts) ↔
      ∃ entry ∈ sheet.entries, entry.mnemonic = mnemonic ∧ entry.layouts = layouts := by
  constructor
  · rintro ⟨definition, hget, rfl⟩
    have hmem := List.mem_map_of_mem (f := fun entry : String × Definition =>
      (entry.1, entry.2.mnemonic, entry.2.summary, entry.2.layouts))
      (Table.get?_eq_some_iff.mp hget)
    rw [h.entries_eq] at hmem
    rcases List.mem_map.mp hmem with ⟨entry, hentry, hsame⟩
    simp only [Prod.mk.injEq] at hsame
    exact ⟨entry, hentry, hsame.left, hsame.right.right.right⟩
  · rintro ⟨entry, hentry, rfl, rfl⟩
    have hmem := List.mem_map_of_mem (f := fun entry : SheetEntry =>
      (entry.mnemonic, entry.mnemonic, entry.summary, entry.layouts)) hentry
    rw [← h.entries_eq] at hmem
    rcases List.mem_map.mp hmem with ⟨⟨key, definition⟩, hdefinition, hsame⟩
    simp only [Prod.mk.injEq] at hsame
    rcases hsame with ⟨rfl, -, -, hlayouts⟩
    exact ⟨definition, Table.get?_eq_some_iff.mpr hdefinition, hlayouts⟩

/-!
# What is valid after a load
-/

section Load

variable {depth : Nat} {content : FileContent} {isa loaded current : Isa} {sheet : Sheet}
  {json : Json}
  (hload : Manager.load depth content .file isa = .ok (sheet, loaded))
  (hjson : ofJson json = .ok sheet) (hcurrent : current.definitions = loaded.definitions)
include hload hjson hcurrent

theorem definition?_eq_none_iff (i : Instruction) :
    current.definition? i = none ↔ ¬HasEntry json (IsEntryFor i.mnemonic) := by
  have hdefinitions := areDefinitions_of_activate (areEntries_of_read (read_of_load hload))
    (activate_of_load hload)
  have hentry : HasEntry json (IsEntryFor i.mnemonic) ↔
      ∃ entry ∈ sheet.entries, i.mnemonic = entry.mnemonic :=
    hasEntry_iff_of_ofJson hjson fun written entry hread =>
      (isEntryFor_of_readEntry hread).left i.mnemonic
  rw [hentry, ← not_iff_not, not_not, ← ne_eq, Option.ne_none_iff_exists']
  unfold Isa.definition?
  rw [hcurrent]
  constructor
  · rintro ⟨definition, hget⟩
    rcases hdefinitions.get?_iff.mp ⟨definition, hget, rfl⟩ with ⟨entry, hmem, hmnemonic, -⟩
    exact ⟨entry, hmem, hmnemonic.symm⟩
  · rintro ⟨entry, hmem, hmnemonic⟩
    rcases hdefinitions.get?_iff.mpr ⟨entry, hmem, hmnemonic.symm, rfl⟩ with ⟨definition, hget, -⟩
    exact ⟨definition, hget⟩

theorem objection?_eq_none_iff_enables (i : Instruction) :
    current.objection? i = none ↔ Enables json i := by
  have hdefinitions := areDefinitions_of_activate (areEntries_of_read (read_of_load hload))
    (activate_of_load hload)
  have hentry : Enables json i ↔
      ∃ entry ∈ sheet.entries, i.mnemonic = entry.mnemonic ∧ i.layout ∈ entry.layouts :=
    hasEntry_iff_of_ofJson hjson fun written entry hread =>
      and_congr ((isEntryFor_of_readEntry hread).left i.mnemonic)
        ((isEntryFor_of_readEntry hread).right i.layout)
  rw [hentry, Isa.objection?_eq_none_iff]
  unfold Isa.definition?
  rw [hcurrent]
  constructor
  · rintro ⟨definition, hget, hlayout⟩
    rcases hdefinitions.get?_iff.mp ⟨definition, hget, rfl⟩ with ⟨entry, hmem, hmnemonic, hsame⟩
    rw [← hsame] at hlayout
    exact ⟨entry, hmem, hmnemonic.symm, hlayout⟩
  · rintro ⟨entry, hmem, hmnemonic, hlayout⟩
    rcases hdefinitions.get?_iff.mpr ⟨entry, hmem, hmnemonic.symm, rfl⟩ with
      ⟨definition, hget, hsame⟩
    rw [← hsame] at hlayout
    exact ⟨definition, hget, hlayout⟩

theorem objection?_eq_some_iff (i : Instruction) (cause : ValidationCause) :
    current.objection? i = some cause ↔ ¬Enables json i ∧
      ((¬HasEntry json (IsEntryFor i.mnemonic) ∧ cause = .unknownInstruction i.mnemonic) ∨
        (HasEntry json (IsEntryFor i.mnemonic) ∧
          cause = .unsupportedOperands i.mnemonic i.layout)) := by
  have hentry : HasEntry json (IsEntryFor i.mnemonic) ↔ current.definition? i ≠ none :=
    iff_not_comm.mp (definition?_eq_none_iff hload hjson hcurrent i)
  rw [← objection?_eq_none_iff_enables hload hjson hcurrent, hentry]
  unfold Isa.objection?
  cases current.definition? i with
  | none => simp [eq_comm]
  | some definition =>
      by_cases hlayout : i.layout ∈ definition.layouts
      · simp [hlayout]
      · simp [hlayout, eq_comm]

end Load

/-- After a sheet is loaded from a file, a program is valid exactly if the sheet that is written in
the file enables all its instructions.  Otherwise the first instruction that is not enabled is
reported with its index and its text, as unknown if there is no entry for its mnemonic. -/
theorem sheet_enables_what_it_lists {depth : Nat} {content : FileContent} {isa loaded : Isa}
    {sheet : Sheet} (hload : Manager.load depth content .file isa = .ok (sheet, loaded)) :
    ∃ json : Json, Holds depth content json ∧
      ∀ (program : Program) (current : Isa), current.definitions = loaded.definitions ->
        (current.validate program = none ↔ ∀ i ∈ program.instructions, Enables json i) ∧
        ∀ error : ValidationError, current.validate program = some error ↔
          ∃ (earlier : List Instruction) (i : Instruction) (later : List Instruction),
            program.instructions.toList = earlier ++ i :: later ∧
            (∀ other ∈ earlier, Enables json other) ∧ ¬Enables json i ∧
            error.index = earlier.length ∧ error.text = i.text current.traps ∧
            ((¬HasEntry json (IsEntryFor i.mnemonic) ∧
                error.cause = .unknownInstruction i.mnemonic) ∨
              (HasEntry json (IsEntryFor i.mnemonic) ∧
                error.cause = .unsupportedOperands i.mnemonic i.layout)) := by
  rcases holds_of_ofFile (read_of_load hload) with ⟨json, hholds, hjson⟩
  refine ⟨json, hholds, fun program current hcurrent => ⟨?_, fun error => ?_⟩⟩
  · rw [Isa.validate_eq_none_iff]
    exact forall₂_congr fun i _ => objection?_eq_none_iff_enables hload hjson hcurrent i
  · unfold Isa.validate
    rw [Isa.validateFrom_eq_some_iff]
    simp only [objection?_eq_none_iff_enables hload hjson hcurrent,
      objection?_eq_some_iff hload hjson hcurrent]
    constructor
    · rintro ⟨earlier, i, later, cause, hsplit, hearlier, ⟨hi, hcause⟩, rfl⟩
      exact ⟨earlier, i, later, hsplit, hearlier, hi, Nat.zero_add _, rfl, hcause⟩
    · rintro ⟨earlier, i, later, hsplit, hearlier, hi, hindex, htext, hcause⟩
      refine ⟨earlier, i, later, error.cause, hsplit, hearlier, ⟨hi, hcause⟩, ?_⟩
      rw [Nat.zero_add, ← hindex, ← htext]

theorem sheet_enables_what_it_lists_add :
    let content := FileContent.bytes ("\x7b\"schema_version\":1,\"name\":\"s\",\"isa\":" ++
      "\x7b\"arch\":\"lc3\",\"word_bits\":16\x7d,\"instructions\":[\x7b\"mnemonic\":\" add\"," ++
      "\"summary\":\"a\",\"forms\":[\x7b\"operands\":[\"reg\",\"reg\",\"imm5\"]\x7d]\x7d]" ++
      "\x7d").toUTF8
    let first : Instruction := .addImmediate 1 1 ⟨5, by decide, by decide⟩
    let second : Instruction := .addRegister 1 1 1
    let program : Program := ⟨#[first, second], .empty, none, true⟩
    let layout : Layout := ["reg", "reg", "reg"]
    ∃ (sheet : Sheet) (loaded : Isa) (json : Json),
      Manager.load Json.standardDepth content .file .bare = .ok (sheet, loaded) ∧
        Holds Json.standardDepth content json ∧
        loaded.validate program =
          some ⟨.unsupportedOperands "ADD" layout, 1, "ADD R1, R1, R1"⟩ ∧
        Enables json first ∧ ¬Enables json second := by
  intro content first second program layout
  have hruns : (Manager.load Json.standardDepth content .file .bare).toOption.map (fun result =>
      result.2.validate program) =
        some (some ⟨.unsupportedOperands "ADD" layout, 1, "ADD R1, R1, R1"⟩) := by
    decide +kernel
  cases hload : Manager.load Json.standardDepth content .file .bare with
  | error error =>
      rw [hload] at hruns
      cases hruns
  | ok result =>
      rw [hload] at hruns
      have herror := Option.some.inj hruns
      rcases sheet_enables_what_it_lists hload with ⟨json, hholds, hvalid⟩
      rcases ((hvalid program result.2 rfl).right _).mp herror with
        ⟨earlier, i, later, hsplit, hearlier, hi, hindex, -⟩
      rcases List.length_eq_one_iff.mp hindex.symm with ⟨other, rfl⟩
      cases hsplit
      exact ⟨result.1, result.2, json, rfl, hholds, herror, hearlier first (by simp), hi⟩

end Sheet
end LittleComputer
