import LittleComputer.Proofs.Builder.Branch
import LittleComputer.Proofs.Source.Meaning
import LittleComputer.Proofs.Source.Spelling

/-!
# What the letters of a condition mean

A condition is written by letters of either case, in any order, none of them twice.  All that
counts is the set of their small forms: two writings are the same condition if they have the same
set, and a branch is taken on the signs in the set, or always if there are none.  This goes for
conditions on their own and for those that are fused to `BR` in a line.
-/

namespace LittleComputer

/-!
# Small letters of signs
-/

namespace Text

theorem toNat_of_sign {sign : Char} (h : sign ∈ ['n', 'z', 'p']) :
    sign.toNat ∈ [0x6e, 0x7a, 0x70] := by
  simp only [List.mem_cons, List.not_mem_nil, or_false] at h
  rcases h with rfl | rfl | rfl <;> decide

theorem toNat_pos_of_sign {sign : Char} (h : sign ∈ ['n', 'z', 'p']) : 0 < sign.toNat := by
  have hsizes : ∀ size ∈ [0x6e, 0x7a, 0x70], 0 < size := by
    decide
  exact hsizes _ (toNat_of_sign h)

theorem toNat_lt_of_sign {sign : Char} (h : sign ∈ ['n', 'z', 'p']) : sign.toNat < 0x80 := by
  have hsizes : ∀ size ∈ [0x6e, 0x7a, 0x70], size < 0x80 := by
    decide
  exact hsizes _ (toNat_of_sign h)

theorem apply_ne_sign {run : CaseRun} (hrun : run ∈ lowerRuns) {sign : Char}
    (hsign : sign ∈ ['n', 'z', 'p']) {point : CodePoint} (hpoint : 0x80 ≤ point)
    (hcontains : run.contains point = true) : run.apply point ≠ sign.toNat := by
  have htable : ∀ run ∈ lowerRuns, ∀ size ∈ ([0x6e, 0x7a, 0x70] : List Nat),
      0x80 ≤ ((size : Int) - run.shift).toNat ->
        run.contains ((size : Int) - run.shift).toNat = false := by
    decide +kernel
  intro happly
  have hshift : ((point : Int) + run.shift).toNat = sign.toNat := happly
  have hpositive := toNat_pos_of_sign hsign
  have horigin : ((sign.toNat : Int) - run.shift).toNat = point := by
    omega
  have hnone := htable run hrun sign.toNat (toNat_of_sign hsign)
  rw [horigin, hcontains] at hnone
  exact Bool.false_ne_true (hnone hpoint).symm

theorem shiftBy_lowerRuns_not_sign {c : Char} (h : 0x80 ≤ c.toNat) :
    shiftBy lowerRuns c ∉ ['n', 'z', 'p'] := by
  intro hsign
  unfold shiftBy at hsign
  cases hfind : lowerRuns.find? (·.contains c.toNat) with
  | none =>
      rw [hfind] at hsign
      exact absurd (toNat_lt_of_sign hsign) (Nat.not_lt.mpr h)
  | some run =>
      rw [hfind] at hsign
      dsimp only at hsign
      have hcontains : run.contains c.toNat = true := by
        simpa using List.find?_some hfind
      have hne := apply_ne_sign (List.mem_of_find?_eq_some hfind) hsign h hcontains
      have hpositive := toNat_pos_of_sign hsign
      unfold Char.ofNat at hne hpositive
      by_cases hvalid : (run.apply c.toNat).isValidChar
      · rw [dif_pos hvalid] at hne
        exact hne rfl
      · rw [dif_neg hvalid] at hpositive
        exact absurd hpositive (Nat.lt_irrefl 0)

theorem lowerChar_eq_of_signs {before after : List Char} {c : Char}
    (h : ∀ small ∈ lowerChar before c after, small ∈ ['n', 'z', 'p']) :
    lowerChar before c after = [c.toLower] := by
  unfold lowerChar at h ⊢
  by_cases hascii : c.toNat < 0x80
  · exact if_pos hascii
  · rw [if_neg hascii] at h
    split at h
    · split at h <;> exact absurd (h _ (List.mem_singleton_self _)) (by decide)
    · split at h
      · exact absurd (h 'i' (List.mem_cons_self ..)) (by decide)
      · exact absurd (h _ (List.mem_singleton_self _))
          (shiftBy_lowerRuns_not_sign (Nat.not_lt.mp hascii))

theorem lowerChar_of_sign (before after : List Char) {c : Char}
    (h : c.toLower ∈ ['n', 'z', 'p']) : lowerChar before c after = [c.toLower] := by
  have hascii : c.toNat < 0x80 := by
    have hsmall := toNat_lt_of_sign h
    rw [toNat_toLower] at hsmall
    split at hsmall <;> omega
  exact if_pos hascii

theorem lowerFrom_eq_of_signs {before done cs : List Char}
    (h : ∀ small ∈ lowerFrom before done cs, small ∈ ['n', 'z', 'p']) :
    lowerFrom before done cs = done.reverse ++ cs.map Char.toLower := by
  induction cs generalizing before done with
  | nil => simp [lowerFrom]
  | cons c after ih =>
      have hrest := ih h
      have hc : lowerChar before c after = [c.toLower] := by
        apply lowerChar_eq_of_signs
        intro small hsmall
        apply h
        rw [lowerFrom, hrest]
        simp [hsmall]
      rw [lowerFrom, hrest, hc]
      simp

theorem lowerFrom_of_signs (before done : List Char) {cs : List Char}
    (h : ∀ c ∈ cs, c.toLower ∈ ['n', 'z', 'p']) :
    lowerFrom before done cs = done.reverse ++ cs.map Char.toLower := by
  induction cs generalizing before done with
  | nil => simp [lowerFrom]
  | cons c after ih =>
      have hafter : ∀ c ∈ after, c.toLower ∈ ['n', 'z', 'p'] := by
        intro other hother
        exact h other (List.mem_cons_of_mem c hother)
      rw [lowerFrom, lowerChar_of_sign before after (h c (List.mem_cons_self ..)), ih _ _ hafter]
      simp

/-- Where letters of signs are concerned, the full mapping to lower case is that of ASCII. -/
theorem lower_eq_map_toLower {cs : List Char}
    (h : (∀ small ∈ lower cs, small ∈ ['n', 'z', 'p']) ∨
      ∀ small ∈ cs.map Char.toLower, small ∈ ['n', 'z', 'p']) :
    lower cs = cs.map Char.toLower := by
  rcases h with hlower | hmap
  · exact lowerFrom_eq_of_signs hlower
  · exact lowerFrom_of_signs [] [] (List.forall_mem_map.mp hmap)

end Text

/-!
# Conditions and sets of signs
-/

namespace Condition

def AreSigns (letters : List Char) : Prop :=
  (∀ c ∈ letters, c ∈ ['n', 'z', 'p']) ∧ letters.Nodup

/-- What signs mean: the sign of the flag is one of them, or there are none. -/
def SignsAdmit (signs : List Char) (flag : Int) : Prop :=
  signs = [] ∨ (flag < 0 ∧ 'n' ∈ signs) ∨ (flag = 0 ∧ 'z' ∈ signs) ∨ (0 < flag ∧ 'p' ∈ signs)

theorem ofLetters?_eq_some_iff {written : List Char} {condition : Condition} :
    ofLetters? written = some condition ↔
      AreSigns (written.map Char.toLower) ∧ ofSigns (written.map Char.toLower) = condition := by
  simp [ofLetters?, AreSigns]

theorem mem_letters {condition : Condition} {c : Char} :
    c ∈ condition.letters ↔ (c = 'n' ∧ condition.negative = true) ∨
      (c = 'z' ∧ condition.zero = true) ∨ (c = 'p' ∧ condition.positive = true) := by
  rcases condition with ⟨negative, zero, positive⟩
  cases negative <;> cases zero <;> cases positive <;> simp [letters]

theorem mem_letters_ofSigns {signs : List Char} (h : ∀ c ∈ signs, c ∈ ['n', 'z', 'p']) {c : Char} :
    c ∈ (ofSigns signs).letters ↔ c ∈ signs := by
  rw [mem_letters]
  simp only [ofSigns, List.contains_iff_mem]
  constructor
  · intro hc
    rcases hc with ⟨rfl, hc⟩ | ⟨rfl, hc⟩ | ⟨rfl, hc⟩ <;> exact hc
  · intro hc
    have hsign := h c hc
    simp only [List.mem_cons, List.not_mem_nil, or_false] at hsign
    rcases hsign with rfl | rfl | rfl <;> simp [hc]

theorem text_mem_allTexts (condition : Condition) : condition.text ∈ allTexts := by
  rcases condition with ⟨negative, zero, positive⟩
  cases negative <;> cases zero <;> cases positive <;> decide

theorem lettersAdmit_iff {letters : List Char} {flag : Int} :
    lettersAdmit letters flag = true ↔ SignsAdmit letters flag := by
  unfold lettersAdmit SignsAdmit signLetter
  rw [Bool.or_eq_true, List.isEmpty_iff, List.contains_iff_mem]
  rcases Int.lt_trichotomy flag 0 with hflag | hflag | hflag
  · simp [hflag, Int.ne_of_lt hflag, Int.not_lt.mpr (Int.le_of_lt hflag)]
  · simp [hflag]
  · simp [hflag, Int.ne_of_gt hflag, Int.not_lt.mpr (Int.le_of_lt hflag)]

theorem signsAdmit_congr {signs others : List Char} (h : ∀ c : Char, c ∈ signs ↔ c ∈ others)
    (flag : Int) : SignsAdmit signs flag ↔ SignsAdmit others flag := by
  simp [SignsAdmit, List.eq_nil_iff_forall_not_mem, h]

theorem admits_ofSigns_iff {signs : List Char} (h : ∀ c ∈ signs, c ∈ ['n', 'z', 'p']) {flag : Int} :
    (ofSigns signs).admits flag = true ↔ SignsAdmit signs flag :=
  lettersAdmit_iff.trans (signsAdmit_congr (fun _ => mem_letters_ofSigns h) flag)

theorem valueAdmits?_text (condition : Condition) (flag : Int) :
    valueAdmits? (.text condition.text) (.int flag) = some (condition.admits flag) := by
  rcases condition with ⟨negative, zero, positive⟩
  cases negative <;> cases zero <;> cases positive <;> rfl

theorem text_eq_iff {condition other : Condition} :
    condition.text = other.text ↔ ∀ c : Char, c ∈ condition.letters ↔ c ∈ other.letters := by
  constructor
  · intro h c
    have hletters : condition.letters = other.letters := by
      simpa [text] using congrArg String.toList h
    rw [hletters]
  · intro h
    have hnegative := h 'n'
    have hzero := h 'z'
    have hpositive := h 'p'
    simp only [mem_letters] at hnegative hzero hpositive
    have hsame : condition = other := by
      rcases condition with ⟨negative, zero, positive⟩
      rcases other with ⟨otherNegative, otherZero, otherPositive⟩
      simpa [← Bool.eq_iff_iff, and_assoc] using
        And.intro hnegative (And.intro hzero hpositive)
    rw [hsame]

theorem ofValue_text_iff {written : String} {condition : Condition} :
    ofValue (.text written) = .ok condition ↔
      AreSigns (Text.lower written.toList) ∧ ofSigns (Text.lower written.toList) = condition := by
  have hread : ofValue (.text written) = .ok condition ↔
      ofLetters? written.toList = some condition := by
    unfold ofValue
    dsimp only
    cases ofLetters? written.toList <;> simp
  rw [hread, ofLetters?_eq_some_iff]
  constructor
  · intro h
    rw [Text.lower_eq_map_toLower (Or.inr h.left.left)]
    exact h
  · intro h
    rw [← Text.lower_eq_map_toLower (Or.inl h.left.left)]
    exact h

theorem ofValue_text (condition : Condition) : ofValue (.text condition.text) = .ok condition := by
  rcases condition with ⟨negative, zero, positive⟩
  cases negative <;> cases zero <;> cases positive <;> rfl

end Condition

/-!
# Branches that are taken
-/

namespace Engine

section Branch

variable {isa : Isa} {engine : Engine} {condition : Condition} {name : LabelName} {target : Value}
  (hisa : isa.CarriesOut (.branch condition name)) (hwhole : engine.IsWhole)
  (hentry : engine.program.labels.get? (.text name.name) = some target)
include hisa hwhole hentry

theorem effect_branch :
    engine.effect isa (.branch condition name) =
      .ok (if condition.admits engine.processor.flagValue then .jump target else .proceed) := by
  rw [effect_of_carriesOut hisa hwhole]
  simp [Instruction.outcome?, hentry]

variable (hrunning : engine.IsRunning)
  (hfetch : engine.program.fetch engine.run.index = .ok (.branch condition name))
include hrunning hfetch

theorem step_branch :
    engine.step isa = (.executed, engine.perform (.branch condition name)
      (if condition.admits engine.processor.flagValue then .jump target else .proceed)) := by
  have heffect := effect_branch hisa hwhole hentry
  unfold step
  rw [hrunning.left, hrunning.right, hfetch]
  simp only [heffect]
  cases condition.admits engine.processor.flagValue <;> rfl

theorem takesBranch_iff :
    engine.TakesBranch isa name.name ↔
      condition.admits engine.processor.flagValue = true := by
  have heffect := effect_branch hisa hwhole hentry
  constructor
  · intro htakes
    rcases htakes with ⟨-, other, otherName, found, -, hother, hjump⟩
    rw [hfetch] at hother
    cases hother
    rw [heffect] at hjump
    by_contra hflag
    rw [if_neg hflag] at hjump
    cases hjump
  · intro hflag
    rw [if_pos hflag] at heffect
    refine ⟨?_, condition, name, target, rfl, hfetch, heffect⟩
    rw [step_branch hisa hwhole hentry hrunning hfetch]

theorem index_next_branch :
    (engine.next isa).run.index =
      if condition.admits engine.processor.flagValue then target
      else following engine.run.index := by
  unfold next
  rw [step_branch hisa hwhole hentry hrunning hfetch]
  split <;> rfl

end Branch

end Engine

/-!
# Lines of branches
-/

namespace Source

/-- A line of `BR` and letters of either case, whose small forms are the given signs. -/
def IsBranchLine (signs : List Char) (label : Option (List Char)) (operands : List (List Char))
    (raw : List Char) : Prop :=
  (∀ c ∈ signs, c ∈ ['n', 'z', 'p']) ∧ ∃ keyword : List Char,
    keyword.map Char.toLower = 'b' :: 'r' :: signs ∧ IsLine (.statement label keyword operands) raw

theorem readBranch_eq_ok_iff {letters : List Char} {operands : List (List Char)} {i : Instruction} :
    readBranch letters operands = .ok i ↔
      Condition.AreSigns (letters.map Char.toLower) ∧ ∃ (target : List Char) (name : LabelName),
        operands = [target] ∧ readLabel? target = some name ∧
          i = .branch (.ofSigns (letters.map Char.toLower)) name := by
  unfold readBranch
  rcases operands with _ | ⟨target, _ | ⟨second, rest⟩⟩
  · simp
  · dsimp only
    unfold labelOperand conditionOperand
    cases hname : readLabel? target with
    | none =>
        constructor
        · intro h
          cases h
        · intro h
          simp [hname] at h
    | some name =>
        rw [ok_bind]
        cases hcondition : Condition.ofLetters? letters with
        | none =>
            constructor
            · intro h
              cases h
            · intro h
              have hread := Condition.ofLetters?_eq_some_iff.mpr ⟨h.left, rfl⟩
              rw [hcondition] at hread
              cases hread
        | some condition =>
            rcases Condition.ofLetters?_eq_some_iff.mp hcondition with ⟨hsigns, rfl⟩
            rw [ok_bind]
            simp [hsigns, hname, pure, Except.pure, eq_comm]
  · simp

section IsBranchLine

variable {signs : List Char} {label : Option (List Char)} {operands : List (List Char)}
  {raw : List Char} (h : IsBranchLine signs label operands raw)
include h

theorem IsBranchLine.exists_readLine_eq (traps : Traps) :
    ∃ letters : List Char, letters.map Char.toLower = signs ∧
      (label = none -> readLine traps raw =
        .ok (some ⟨none, .ok (.instruction (readBranch letters operands))⟩)) ∧
      ∀ word : List Char, label = some word -> readLine traps raw =
        readLabelled word (.ok (.instruction (readBranch letters operands))) := by
  rcases h with ⟨hsigns, keyword, hkeyword, hline⟩
  rcases exists_branch_of_signs hkeyword hsigns with ⟨letters, hread, hsmall⟩
  refine ⟨letters, hsmall, ?_, ?_⟩
  · intro hlabel
    rw [readLine_of_isLine traps hline, hlabel]
    simp [readWording, readStatement, readKeyword, hread]
  · intro word hlabel
    rw [readLine_of_isLine traps hline, hlabel]
    simp [readWording, readStatement, readKeyword, hread]

variable {traps : Traps}

theorem IsBranchLine.exists_of_readLine {found : Option Line}
    (hfound : readLine traps raw = .ok found) :
    ∃ (letters : List Char) (name : Option LabelName), letters.map Char.toLower = signs ∧
      found = some ⟨name, .ok (.instruction (readBranch letters operands))⟩ := by
  rcases h.exists_readLine_eq traps with ⟨letters, hsmall, hplain, hlabelled⟩
  cases label with
  | none =>
      rw [hplain rfl] at hfound
      cases hfound
      exact ⟨letters, none, hsmall, rfl⟩
  | some word =>
      rw [hlabelled word rfl] at hfound
      cases found with
      | none => exact absurd hfound (readLabelled_ne_blank word _)
      | some line =>
          rcases readLabelled_eq_ok hfound with ⟨name, -, rfl⟩
          exact ⟨letters, some name, hsmall, rfl⟩

variable {number : Nat} {assembly : Assembly}

theorem IsBranchLine.of_goesWell
    (hwell : Assembly.GoesWell (assembly.line traps number raw)) :
    signs.Nodup ∧ ∃ (target : List Char) (name : LabelName), operands = [target] ∧
      readLabel? target = some name ∧
        (assembly.line traps number raw).2.program.instructions =
          assembly.program.instructions.push (.branch (.ofSigns signs) name) := by
  have htells := Assembly.tells_of_goesWell hwell
  have hreads := readWording_wordingOf traps raw
  generalize assembly.line traps number raw = result at htells ⊢
  generalize wordingOf raw = wording at htells hreads
  cases htells with
  | blank =>
      rcases h.exists_of_readLine hreads.symm with ⟨letters, name, -, hfound⟩
      cases hfound
  | @saying _ saying after hread hne _ hprogram _ =>
      rw [hreads] at hread
      rcases h.exists_of_readLine hread with ⟨letters, found, hsmall, hfound⟩
      rcases saying with ⟨name, clause⟩
      cases hfound
      cases hbranch : readBranch letters operands with
      | error error => exact absurd (congrArg Clause.instruction hbranch) (hne error)
      | ok i =>
          rcases readBranch_eq_ok_iff.mp hbranch with
            ⟨⟨-, hnodup⟩, target, name, htarget, hname, rfl⟩
          rw [hsmall] at hnodup
          refine ⟨hnodup, target, name, htarget, hname, ?_⟩
          rw [hprogram, hbranch, hsmall]
          simp [Saying.enter, Clause.instruction?]

theorem IsBranchLine.goesWell (hlabel : label = none) (hnodup : signs.Nodup) {target : List Char}
    (hoperands : operands = [target]) {name : LabelName} (hname : readLabel? target = some name)
    (hfrozen : assembly.program.frozen = false) :
    (assembly.line traps number raw).1 = .next := by
  rcases h.exists_readLine_eq traps with ⟨letters, hsmall, hplain, -⟩
  have hread := hplain hlabel
  have hbranch : readBranch letters operands = .ok (.branch (.ofSigns signs) name) := by
    rw [readBranch_eq_ok_iff, hsmall]
    exact ⟨⟨h.left, hnodup⟩, target, name, hoperands, hname, rfl⟩
  rw [hbranch] at hread
  simp [Assembly.line, hread, Assembly.isDeclared, Assembly.enact, Assembly.declare,
    Assembly.bindHere, Assembly.append, Program.append, hfrozen, Assembly.verdict]

end IsBranchLine

/-- A text is a condition exactly if it is written by the letters of signs, in either case and none
of them twice.  Then it is one of the eight conditions, which is read as itself, and two texts are
one condition exactly if they have the same letters up to case; a flag matches it exactly if the
text is empty or has the letter of the flag's sign.  A line of `BR` and letters is refused if one of
them is repeated.  If it is not refused, what it appends is a branch to its one operand; without a
label it is refused for nothing else, unless the program is frozen.  When a whole engine comes to
the branch and its label has a value, it goes there exactly on those signs, and otherwise on to the
next instruction. -/
theorem conditions_mean_letters :
    (∀ written : String,
      let signs := Text.lower written.toList
      ((∃ condition : Condition, Condition.ofValue (.text written) = .ok condition) ↔
        Condition.AreSigns signs) ∧
      ∀ condition : Condition, Condition.ofValue (.text written) = .ok condition ->
        condition.text ∈ Condition.allTexts ∧
        Condition.ofValue (.text condition.text) = .ok condition ∧
        (∀ (other : String) (otherCondition : Condition),
          Condition.ofValue (.text other) = .ok otherCondition ->
          (condition.text = otherCondition.text ↔
            ∀ c : Char, c ∈ signs ↔ c ∈ Text.lower other.toList)) ∧
        ∀ flag : Int, ∃ matched : Bool,
          Condition.valueAdmits? (.text condition.text) (.int flag) = some matched ∧
            (matched = true ↔ Condition.SignsAdmit signs flag)) ∧
    ∀ (signs : List Char) (label : Option (List Char)) (operands : List (List Char))
      (raw : List Char), IsBranchLine signs label operands raw ->
      (∀ (traps : Traps) (number : Nat) (assembly : Assembly), ¬signs.Nodup ->
        ∃ error : AssemblyError, (assembly.line traps number raw).1 = .failed error) ∧
      (∀ (traps : Traps) (number : Nat) (assembly : Assembly),
        (∀ error : AssemblyError, (assembly.line traps number raw).1 ≠ .failed error) ->
        ∃ (target : List Char) (name : LabelName), operands = [target] ∧
          readLabel? target = some name ∧
            (assembly.line traps number raw).2.program.instructions =
              assembly.program.instructions.push (.branch (.ofSigns signs) name)) ∧
      (∀ (traps : Traps) (number : Nat) (assembly : Assembly) (target : List Char)
        (name : LabelName), label = none -> signs.Nodup -> operands = [target] ->
        readLabel? target = some name -> assembly.program.frozen = false ->
        (assembly.line traps number raw).1 = .next) ∧
      ∀ (isa : Isa) (engine : Engine) (name : LabelName) (target : Value),
        isa.CarriesOut (.branch (.ofSigns signs) name) -> engine.IsWhole -> engine.IsRunning ->
        engine.program.fetch engine.run.index = .ok (.branch (.ofSigns signs) name) ->
        engine.program.labels.get? (.text name.name) = some target ->
        (engine.TakesBranch isa name.name ↔
          Condition.SignsAdmit signs engine.processor.flagValue) ∧
        (engine.TakesBranch isa name.name -> (engine.next isa).run.index = target) ∧
        (¬engine.TakesBranch isa name.name ->
          (engine.next isa).run.index = Engine.following engine.run.index) := by
  constructor
  · intro written signs
    constructor
    · simp only [Condition.ofValue_text_iff]
      simp [signs]
    · intro condition hcondition
      rcases Condition.ofValue_text_iff.mp hcondition with ⟨hsigns, rfl⟩
      refine ⟨Condition.text_mem_allTexts _, Condition.ofValue_text _, ?_, ?_⟩
      · intro other otherCondition hother
        rcases Condition.ofValue_text_iff.mp hother with ⟨hothers, rfl⟩
        rw [Condition.text_eq_iff]
        simp only [Condition.mem_letters_ofSigns hsigns.left,
          Condition.mem_letters_ofSigns hothers.left]
        rfl
      · intro flag
        refine ⟨_, Condition.valueAdmits?_text _ flag, ?_⟩
        exact Condition.admits_ofSigns_iff hsigns.left
  · intro signs label operands raw hline
    refine ⟨?_, ?_, ?_, ?_⟩
    · intro traps number assembly hrepeated
      by_contra hnone
      rw [not_exists] at hnone
      exact hrepeated (hline.of_goesWell hnone).left
    · intro traps number assembly hwell
      exact (hline.of_goesWell hwell).right
    · intro traps number assembly target name hlabel hnodup hoperands hname hfrozen
      exact hline.goesWell hlabel hnodup hoperands hname hfrozen
    · intro isa engine name target hisa hwhole hrunning hfetch hentry
      have htakes := Engine.takesBranch_iff hisa hwhole hentry hrunning hfetch
      have hindex := Engine.index_next_branch hisa hwhole hentry hrunning hfetch
      refine ⟨htakes.trans (Condition.admits_ofSigns_iff hline.left), ?_, ?_⟩
      · intro htaken
        rw [hindex, if_pos (htakes.mp htaken)]
      · intro hpassed
        rw [hindex, if_neg (mt htakes.mpr hpassed)]

theorem conditions_mean_letters_mixed :
    let name : LabelName := ⟨"TOP", by decide⟩
    let isa := Isa.bare.activate [⟨"BR", "", [["label"]], .br⟩]
    let labels := Labels.empty.insert (.text "TOP") 7
    let engine (flag : Int) : Engine :=
      .create { Processor.initial with flag := .int flag }
        ⟨#[.branch (.ofSigns ['z', 'n']) name], labels, none, true⟩
    Condition.ofValue (.text "zN") = .ok ⟨true, true, false⟩ ∧
      Condition.valueAdmits? (.text "nz") (.int 0) = some true ∧
      IsBranchLine ['z', 'n'] none ["TOP".toList] "  brzN TOP ; again".toList ∧
      ((Assembly.start true .empty).line .standard 1 "  brzN TOP ; again".toList).1 = .next ∧
      IsBranchLine ['z', 'z'] none ["TOP".toList] "BRZz TOP".toList ∧
      (∃ error : AssemblyError,
        ((Assembly.start true .empty).line .standard 1 "BRZz TOP".toList).1 = .failed error) ∧
      (engine (-3)).TakesBranch isa "TOP" ∧ ¬(engine 3).TakesBranch isa "TOP" := by
  intro name isa labels engine
  rcases conditions_mean_letters with ⟨hwritten, hlines⟩
  have hcondition : Condition.ofValue (.text "zN") = .ok ⟨true, true, false⟩ := by
    decide
  have hline : IsBranchLine ['z', 'n'] none ["TOP".toList] "  brzN TOP ; again".toList :=
    ⟨by simp, "brzN".toList, by decide, by decide⟩
  have hrepeated : IsBranchLine ['z', 'z'] none ["TOP".toList] "BRZz TOP".toList :=
    ⟨by simp, "BRZz".toList, by decide, by decide⟩
  have hlabels : labels.AreIntegers := Labels.areIntegers_insert Labels.areIntegers_empty _ 7
  have hinitial := Processor.isWhole_initial
  have hwhole (flag : Int) : (engine flag).IsWhole :=
    Engine.isWhole_create
      ⟨hinitial.registers_size, hinitial.memory_size, hinitial.register_isInteger,
        hinitial.cell_isInteger, Value.isInteger_int flag⟩ hlabels
  have htakes (flag : Int) : (engine flag).TakesBranch isa "TOP" ↔
      Condition.SignsAdmit ['z', 'n'] flag :=
    ((hlines _ _ _ _ hline).right.right.right isa (engine flag) name (.int 7)
      ⟨_, rfl, rfl⟩ (hwhole flag) ⟨rfl, rfl⟩ rfl rfl).left
  refine ⟨hcondition, ?_, hline, ?_, hrepeated, ?_, ?_, ?_⟩
  · rcases ((hwritten "zN").right _ hcondition).right.right.right 0 with ⟨matched, hmatched, hiff⟩
    have hzero : Condition.SignsAdmit (Text.lower "zN".toList) 0 :=
      Or.inr (Or.inr (Or.inl ⟨rfl, by decide⟩))
    rw [hiff.mpr hzero] at hmatched
    exact hmatched
  · exact (hlines _ _ _ _ hline).right.right.left .standard 1 _ _ name rfl (by decide) rfl rfl rfl
  · exact (hlines _ _ _ _ hrepeated).left .standard 1 _ (by decide)
  · rw [htakes]
    exact Or.inr (Or.inl ⟨by decide, by decide⟩)
  · rw [htakes]
    simp [Condition.SignsAdmit]

end Source
end LittleComputer
