import LittleComputer.Proofs.Outcome
import LittleComputer.Sheet.Manager

/-!
# Sheets that are read

A sheet has one entry for a mnemonic, and allows no layout that the machine cannot encode.
-/

namespace LittleComputer

def SheetEntry.IsEncodable (entry : SheetEntry) : Prop :=
  ∃ encodings : List Layout, Sheet.encodable? entry.mnemonic = some encodings ∧
    ∀ layout ∈ entry.layouts, layout ∈ encodings

namespace Sheet

structure AreEntries (entries : List SheetEntry) : Prop where
  encodable : ∀ entry ∈ entries, entry.IsEncodable
  nodup : (entries.map SheetEntry.mnemonic).Nodup

theorem areEntries_nil : AreEntries [] where
  encodable := by
    intro entry hentry
    cases hentry
  nodup := List.nodup_nil

theorem AreEntries.snoc {entries : List SheetEntry} {entry : SheetEntry} (h : AreEntries entries)
    (hentry : entry.IsEncodable)
    (hnew : ∀ earlier ∈ entries, earlier.mnemonic ≠ entry.mnemonic) :
    AreEntries (entries ++ [entry]) where
  encodable := by
    intro other hother
    rcases List.mem_append.mp hother with hother | hother
    · exact h.encodable other hother
    · cases List.mem_singleton.mp hother
      exact hentry
  nodup := by
    rw [List.map_append, List.nodup_append]
    refine ⟨h.nodup, by simp, ?_⟩
    intro mnemonic hmnemonic other hother
    cases List.mem_singleton.mp hother
    rcases List.mem_map.mp hmnemonic with ⟨earlier, hearlier, rfl⟩
    exact hnew earlier hearlier

/-!
# Reading entries
-/

theorem mem_of_readForm {mnemonic : String} {encodings : List Layout} {form : Json}
    {layout : Layout} (h : readForm mnemonic encodings form = .ok layout) :
    layout ∈ encodings := by
  unfold readForm at h
  split at h
  · split at h
    · split at h
      · next hcontains =>
          cases h
          exact List.contains_iff_mem.mp hcontains
      · cases h
    · cases h
  · cases h

theorem isEncodable_of_readEntry {json : Json} {entry : SheetEntry}
    (h : readEntry json = .ok entry) : entry.IsEncodable := by
  unfold readEntry at h
  split at h
  · cases h
  · dsimp only at h
    split at h
    · cases h
    · next encodings hencodings =>
        split at h
        · cases h
        · split at h
          · rcases exists_of_bind_ok h with ⟨layouts, hlayouts, h⟩
            rw [← Except.ok.inj h]
            refine ⟨encodings, hencodings, ?_⟩
            intro layout hlayout
            rcases exists_of_mem_mapM hlayouts hlayout with ⟨form, -, hform⟩
            exact mem_of_readForm hform
          · cases h

theorem areEntries_of_readEntries {done entries : List SheetEntry} {jsons : List Json}
    (hdone : AreEntries done) (h : readEntries done jsons = .ok entries) :
    AreEntries entries := by
  induction jsons generalizing done with
  | nil =>
      cases h
      exact hdone
  | cons json rest ih =>
      unfold readEntries at h
      rcases exists_of_bind_ok h with ⟨entry, hentry, h⟩
      split at h
      · cases h
      · next hnew =>
          refine ih (hdone.snoc (isEncodable_of_readEntry hentry) ?_) h
          intro earlier hearlier heq
          apply hnew
          exact List.any_eq_true.mpr ⟨earlier, hearlier, decide_eq_true heq⟩

theorem areEntries_of_ofJson {json : Json} {sheet : Sheet} (h : ofJson json = .ok sheet) :
    AreEntries sheet.entries := by
  unfold ofJson at h
  split at h
  · split at h
    · cases h
    · split at h
      · cases h
      · split at h
        · cases h
        · split at h
          · rcases exists_of_bind_ok h with ⟨entries, hentries, h⟩
            cases h
            exact areEntries_of_readEntries areEntries_nil hentries
          · cases h
  · cases h

theorem areEntries_of_ofFile {depth : Nat} {content : FileContent} {sheet : Sheet}
    (h : ofFile depth content = .ok sheet) : AreEntries sheet.entries := by
  unfold ofFile at h
  split at h
  · cases h
  · cases h
  · split at h
    · cases h
    · split at h
      · cases h
      · exact areEntries_of_ofJson h

theorem areEntries_standard : AreEntries standard.entries where
  encodable := by
    have hall : ∀ entry ∈ standard.entries, (encodable? entry.mnemonic).any (fun encodings =>
        decide (∀ layout ∈ entry.layouts, layout ∈ encodings)) = true := by
      decide
    intro entry hentry
    rcases (Option.any_eq_true _ _).mp (hall entry hentry) with ⟨encodings, hencodings, hlayouts⟩
    exact ⟨encodings, hencodings, of_decide_eq_true hlayouts⟩
  nodup := by
    decide

/-- Whatever it is read from, a sheet has one entry for a mnemonic and layouts that can be encoded. -/
theorem areEntries_of_read {depth : Nat} {content : FileContent} {source : SheetSource}
    {sheet : Sheet} (h : read depth content source = .ok sheet) : AreEntries sheet.entries := by
  cases source with
  | bundled =>
      cases h
      exact areEntries_standard
  | file => exact areEntries_of_ofFile h

theorem upperString_of_encodable? {mnemonic : String} {encodings : List Layout}
    (h : encodable? mnemonic = some encodings) : Text.upperString mnemonic = mnemonic := by
  unfold encodable? at h
  split at h
  all_goals first | rfl | cases h

end Sheet
end LittleComputer
