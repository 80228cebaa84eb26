/-!
# Tables in order of insertion

A finite map that remembers the order in which its keys were first entered.  Entering a key again
replaces its value and keeps its place and its first spelling, since keys that are equal need not be
the same.  The keys of a table are pairwise unequal.

The operations are defined on plain lists of entries first, since a JSON object is such a list too.
-/

namespace LittleComputer

universe u v

namespace Entries

variable {κ : Type u} {α : Type v} [BEq κ]

/-- Replaces the value of a key in place, or adds the entry at the end. -/
def insert (key : κ) (value : α) : List (κ × α) -> List (κ × α)
  | [] => [(key, value)]
  | entry :: rest =>
      if entry.1 == key then (entry.1, value) :: rest else entry :: insert key value rest

def get? (entries : List (κ × α)) (key : κ) : Option α :=
  (entries.find? fun entry => entry.1 == key).map Prod.snd

theorem map_fst_insert_of_mem {key other : κ} (value : α) {entries : List (κ × α)}
    (hmem : other ∈ entries.map Prod.fst) (h : other == key) :
    (insert key value entries).map Prod.fst = entries.map Prod.fst := by
  induction entries with
  | nil => simp at hmem
  | cons entry rest ih =>
      unfold insert
      split
      · rfl
      · next hne =>
          have hrest : other ∈ rest.map Prod.fst := by
            rcases List.mem_cons.1 hmem with heq | hrest
            · exact absurd (heq ▸ h) hne
            · exact hrest
          simp [ih hrest]

theorem insert_of_forall_ne {key : κ} (value : α) {entries : List (κ × α)}
    (h : ∀ other ∈ entries.map Prod.fst, (other == key) = false) :
    insert key value entries = entries ++ [(key, value)] := by
  induction entries with
  | nil => rfl
  | cons entry rest ih =>
      have hne : (entry.1 == key) = false := h _ (List.mem_cons_self ..)
      have hrest := ih fun other hother => h other (List.mem_cons_of_mem _ hother)
      simp [insert, hne, hrest]

def Distinct (entries : List (κ × α)) : Prop :=
  (entries.map Prod.fst).Pairwise fun a b => (a == b) = false

theorem distinct_insert (key : κ) (value : α) {entries : List (κ × α)} (h : Distinct entries) :
    Distinct (insert key value entries) := by
  unfold Distinct at *
  by_cases hfound : ∃ other ∈ entries.map Prod.fst, (other == key) = true
  · obtain ⟨other, hmem, heq⟩ := hfound
    rwa [map_fst_insert_of_mem value hmem heq]
  · have hne : ∀ other ∈ entries.map Prod.fst, (other == key) = false := fun other hmem =>
      Bool.eq_false_iff.2 fun heq => hfound ⟨other, hmem, heq⟩
    rw [insert_of_forall_ne value hne, List.map_append, List.pairwise_append]
    refine ⟨h, by simp, ?_⟩
    intro a ha b hb
    simp only [List.map_cons, List.map_nil, List.mem_singleton] at hb
    exact hb ▸ hne a ha

theorem get?_insert [PartialEquivBEq κ] (key other : κ) (value : α) (entries : List (κ × α)) :
    get? (insert key value entries) other =
      if key == other then some value else get? entries other := by
  induction entries with
  | nil => cases h : key == other <;> simp [insert, get?, h]
  | cons entry rest ih =>
      unfold insert
      split
      · next hentry =>
          have heq : (entry.1 == other) = (key == other) := BEq.congr_left hentry
          cases h : key == other <;> simp [get?, heq, h]
      · next hentry =>
          cases h : entry.1 == other with
          | true =>
              have hne : (key == other) = false := Bool.eq_false_iff.2 fun hkey =>
                hentry (PartialEquivBEq.trans h (PartialEquivBEq.symm hkey))
              simp [get?, h, hne]
          | false =>
              have hrest : ∀ tail : List (κ × α), get? (entry :: tail) other = get? tail other :=
                fun tail => by simp [get?, h]
              rw [hrest, hrest, ih]

end Entries

structure Table (κ : Type u) (α : Type v) [BEq κ] where
  entries : List (κ × α)
  distinct : Entries.Distinct entries

namespace Table

variable {κ : Type u} {α : Type v} [BEq κ]

def empty : Table κ α :=
  ⟨[], .nil⟩

instance : EmptyCollection (Table κ α) :=
  ⟨empty⟩

instance : Inhabited (Table κ α) :=
  ⟨empty⟩

def size (table : Table κ α) : Nat :=
  table.entries.length

def keys (table : Table κ α) : List κ :=
  table.entries.map Prod.fst

def values (table : Table κ α) : List α :=
  table.entries.map Prod.snd

def insert (table : Table κ α) (key : κ) (value : α) : Table κ α :=
  ⟨Entries.insert key value table.entries, Entries.distinct_insert key value table.distinct⟩

def get? (table : Table κ α) (key : κ) : Option α :=
  Entries.get? table.entries key

def contains (table : Table κ α) (key : κ) : Bool :=
  (table.get? key).isSome

theorem nodup_keys [LawfulBEq κ] (table : Table κ α) : table.keys.Nodup :=
  table.distinct.imp fun h heq => by simp [heq] at h

theorem contains_iff {table : Table κ α} {key : κ} :
    table.contains key = true ↔ ∃ other ∈ table.keys, (other == key) = true := by
  simp [contains, get?, Entries.get?, keys]

theorem get?_insert [PartialEquivBEq κ] (table : Table κ α) (key other : κ) (value : α) :
    (table.insert key value).get? other =
      if key == other then some value else table.get? other :=
  Entries.get?_insert key other value table.entries

theorem keys_insert_of_mem {table : Table κ α} {key other : κ} (value : α)
    (hmem : other ∈ table.keys) (h : other == key) :
    (table.insert key value).keys = table.keys :=
  Entries.map_fst_insert_of_mem value hmem h

def ofList (pairs : List (κ × α)) : Table κ α :=
  pairs.foldl (fun table pair => table.insert pair.1 pair.2) empty

theorem entries_foldl_insert {pairs : List (κ × α)} {table : Table κ α}
    (h : Entries.Distinct (table.entries ++ pairs)) :
    (pairs.foldl (fun table pair => table.insert pair.1 pair.2) table).entries =
      table.entries ++ pairs := by
  induction pairs generalizing table with
  | nil => exact (List.append_nil _).symm
  | cons pair rest ih =>
      have hkeys := h
      rw [Entries.Distinct, List.map_append, List.pairwise_append] at hkeys
      have hnew : ∀ other ∈ table.entries.map Prod.fst, (other == pair.1) = false :=
        fun other hother => hkeys.2.2 other hother pair.1 (List.mem_cons_self ..)
      have hentries : (table.insert pair.1 pair.2).entries = table.entries ++ [pair] :=
        Entries.insert_of_forall_ne pair.2 hnew
      have hdistinct :
          Entries.Distinct ((table.insert pair.1 pair.2).entries ++ rest) := by
        rw [hentries, List.append_assoc]
        exact h
      rw [List.foldl_cons, ih hdistinct, hentries, List.append_assoc]
      rfl

theorem entries_ofList {pairs : List (κ × α)} (h : Entries.Distinct pairs) :
    (ofList pairs).entries = pairs := by
  apply entries_foldl_insert
  exact h

theorem get?_foldl_insert [PartialEquivBEq κ] {pairs : List (κ × α)} {table : Table κ α} {key : κ}
    {value : α}
    (h : (pairs.foldl (fun table pair => table.insert pair.1 pair.2) table).get? key =
      some value) :
    (∃ pair ∈ pairs, (pair.1 == key) = true ∧ pair.2 = value) ∨ table.get? key = some value := by
  induction pairs generalizing table with
  | nil => exact Or.inr h
  | cons first rest ih =>
      rcases ih h with ⟨pair, hmem, hpair⟩ | hget
      · exact Or.inl ⟨pair, List.mem_cons_of_mem _ hmem, hpair⟩
      · rw [get?_insert] at hget
        split at hget
        · next hkey =>
            cases hget
            exact Or.inl ⟨first, List.mem_cons_self .., hkey, rfl⟩
        · exact Or.inr hget

theorem get?_ofList_some [PartialEquivBEq κ] {pairs : List (κ × α)} {key : κ} {value : α}
    (h : (ofList pairs).get? key = some value) :
    ∃ pair ∈ pairs, (pair.1 == key) = true ∧ pair.2 = value := by
  rcases get?_foldl_insert h with hpair | hget
  · exact hpair
  · cases hget

end Table

end LittleComputer
