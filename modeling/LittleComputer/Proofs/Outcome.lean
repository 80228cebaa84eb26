/-!
# Computations that can fail

A composed computation succeeds if each of its parts does, and fails with what one of them fails
with.
-/

namespace LittleComputer

variable {ε α β : Type}

theorem ok_bind (a : α) (next : α -> Except ε β) : (Except.ok a >>= next) = next a := rfl

theorem eq_ok_of_toOption {result : Except ε α} {a : α} (h : result.toOption = some a) :
    result = .ok a := by
  cases result with
  | error error => cases h
  | ok other => exact congrArg Except.ok (Option.some.inj h)

theorem exists_of_bind_ok {result : Except ε α} {next : α -> Except ε β}
    {b : β} (h : (result >>= next) = .ok b) : ∃ a : α, result = .ok a ∧ next a = .ok b := by
  cases result with
  | error error => cases h
  | ok a => exact ⟨a, rfl, h⟩

theorem bind_eq_error_iff {result : Except ε α} {next : α -> Except ε β} {error : ε} :
    (result >>= next) = .error error ↔
      result = .error error ∨ ∃ a : α, result = .ok a ∧ next a = .error error := by
  cases result with
  | error other =>
      constructor
      · intro h
        cases h
        exact Or.inl rfl
      · intro h
        rcases h with h | ⟨a, ha, -⟩
        · cases h
          rfl
        · cases ha
  | ok a =>
      constructor
      · intro h
        exact Or.inr ⟨a, rfl, h⟩
      · intro h
        rcases h with h | ⟨other, hother, h⟩
        · cases h
        · cases hother
          exact h

def FailsOnly (P : ε -> Prop) (result : Except ε α) : Prop :=
  ∀ error : ε, result = .error error -> P error

section FailsOnly

variable {P : ε -> Prop}

theorem failsOnly_ok (a : α) : FailsOnly P (.ok a : Except ε α) := by
  intro error h
  cases h

theorem failsOnly_error {error : ε} (h : P error) : FailsOnly P (.error error : Except ε α) := by
  intro other hother
  cases hother
  exact h

theorem failsOnly_bind {result : Except ε α} {next : α -> Except ε β} (hresult : FailsOnly P result)
    (hnext : ∀ a : α, result = .ok a -> FailsOnly P (next a)) : FailsOnly P (result >>= next) := by
  intro error h
  rcases bind_eq_error_iff.mp h with hfirst | ⟨a, ha, hrest⟩
  · exact hresult error hfirst
  · exact hnext a ha error hrest

end FailsOnly

theorem exists_of_mem_mapM {f : α -> Except ε β} {xs : List α}
    {ys : List β} (h : xs.mapM f = .ok ys) {y : β} (hy : y ∈ ys) : ∃ x ∈ xs, f x = .ok y := by
  induction xs generalizing ys with
  | nil =>
      cases h
      cases hy
  | cons x rest ih =>
      rw [List.mapM_cons] at h
      rcases exists_of_bind_ok h with ⟨first, hfirst, h⟩
      rcases exists_of_bind_ok h with ⟨others, hothers, h⟩
      cases h
      rcases List.mem_cons.mp hy with rfl | hmem
      · exact ⟨x, List.mem_cons_self .., hfirst⟩
      · rcases ih hothers hmem with ⟨found, hfound, hok⟩
        exact ⟨found, List.mem_cons_of_mem _ hfound, hok⟩

theorem exists_mem_of_mapM {f : α -> Except ε β} {xs : List α} {ys : List β}
    (h : xs.mapM f = .ok ys) {x : α} (hx : x ∈ xs) : ∃ y ∈ ys, f x = .ok y := by
  induction xs generalizing ys with
  | nil => cases hx
  | cons first rest ih =>
      rw [List.mapM_cons] at h
      rcases exists_of_bind_ok h with ⟨y, hfirst, h⟩
      rcases exists_of_bind_ok h with ⟨others, hothers, h⟩
      cases h
      rcases List.mem_cons.mp hx with rfl | hmem
      · exact ⟨y, List.mem_cons_self .., hfirst⟩
      · rcases ih hothers hmem with ⟨found, hfound, hok⟩
        exact ⟨found, List.mem_cons_of_mem _ hfound, hok⟩

theorem mapM_eq_error_iff {f : α -> Except ε β} {xs : List α} {error : ε} :
    xs.mapM f = .error error ↔
      ∃ (earlier : List α) (x : α) (later : List α), xs = earlier ++ x :: later ∧
        (∀ y ∈ earlier, ∃ z : β, f y = .ok z) ∧ f x = .error error := by
  induction xs with
  | nil =>
      constructor
      · intro h
        cases h
      · intro h
        rcases h with ⟨earlier, x, later, hsplit, -⟩
        cases earlier <;> cases hsplit
  | cons first rest ih =>
      rw [List.mapM_cons, bind_eq_error_iff]
      constructor
      · intro h
        rcases h with hfirst | ⟨z, hfirst, h⟩
        · exact ⟨[], first, rest, rfl, by simp, hfirst⟩
        · rcases bind_eq_error_iff.mp h with hrest | ⟨others, -, h⟩
          · rcases ih.mp hrest with ⟨earlier, x, later, rfl, hearlier, hx⟩
            refine ⟨first :: earlier, x, later, rfl, ?_, hx⟩
            exact List.forall_mem_cons.mpr ⟨⟨z, hfirst⟩, hearlier⟩
          · cases h
      · intro h
        rcases h with ⟨earlier, x, later, hsplit, hearlier, hx⟩
        cases earlier with
        | nil =>
            cases hsplit
            exact Or.inl hx
        | cons other earlier =>
            cases hsplit
            rcases hearlier first (List.mem_cons_self ..) with ⟨z, hz⟩
            refine Or.inr ⟨z, hz, bind_eq_error_iff.mpr (Or.inl (ih.mpr ?_))⟩
            exact ⟨earlier, x, later, rfl, fun y hy => hearlier y (List.mem_cons_of_mem _ hy), hx⟩

theorem map_eq_of_mapM {γ : Type} {f : α -> Except ε β} {g : β -> γ} {k : α -> γ}
    {xs : List α} {ys : List β} (h : xs.mapM f = .ok ys)
    (hf : ∀ x ∈ xs, ∀ y : β, f x = .ok y -> g y = k x) : ys.map g = xs.map k := by
  induction xs generalizing ys with
  | nil =>
      cases h
      rfl
  | cons x rest ih =>
      rw [List.mapM_cons] at h
      rcases exists_of_bind_ok h with ⟨first, hfirst, h⟩
      rcases exists_of_bind_ok h with ⟨others, hothers, h⟩
      cases h
      rw [List.map_cons, List.map_cons, hf x (List.mem_cons_self ..) first hfirst,
        ih hothers fun y hy => hf y (List.mem_cons_of_mem _ hy)]

theorem mapM_congr_of_mem {f g : α -> Except ε β} {xs : List α}
    (h : ∀ x ∈ xs, f x = g x) : xs.mapM f = xs.mapM g := by
  induction xs with
  | nil => rfl
  | cons x rest ih =>
      rw [List.mapM_cons, List.mapM_cons, h x (List.mem_cons_self ..),
        ih fun y hy => h y (List.mem_cons_of_mem _ hy)]

/-- Both computations give the same, or both fail, with whatever they fail. -/
def Agree (result other : Except ε α) : Prop :=
  result.toOption = other.toOption

section Agree

variable {result other : Except ε α}

theorem agree_errors (error otherError : ε) :
    Agree (.error error : Except ε α) (.error otherError) := rfl

theorem Agree.bind {next otherNext : α -> Except ε β} (h : Agree result other)
    (hnext : ∀ a : α, Agree (next a) (otherNext a)) :
    Agree (result >>= next) (other >>= otherNext) := by
  cases result with
  | error error =>
      cases other with
      | error otherError => rfl
      | ok b => cases h
  | ok a =>
      cases other with
      | error otherError => cases h
      | ok b =>
          cases h
          exact hnext a

theorem Agree.map (h : Agree result other) (f : α -> β) : Agree (result.map f) (other.map f) := by
  cases result with
  | error error =>
      cases other with
      | error otherError => rfl
      | ok b => cases h
  | ok a =>
      cases other with
      | error otherError => cases h
      | ok b =>
          cases h
          rfl

end Agree

end LittleComputer
