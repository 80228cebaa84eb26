import LittleComputer.Proofs.Program.Refusals
import LittleComputer.Proofs.Session.Operations
import Mathlib.Data.List.Forall2

/-!
# Register arguments

A statement first finds what each of its register arguments stands for, and the constructor of the
instruction then checks it, so that a statement is refused exactly if one of them is no register.  A
register that is read goes through no constructor.  It is found as an index into the registers, by
which a negative number counts from the end and a truth value is one of the first two.
-/

namespace LittleComputer

/-!
# Registers among values
-/

namespace Value

/-- A number of a register, or an operand of the register kind with such a number. -/
inductive NamesRegister : Value -> Register -> Prop where
  | index (register : Register) : NamesRegister (int register.val) register
  | operand (register : Register) (written : Value) :
      NamesRegister (operand (text "reg") (int register.val) written) register

def IsRegister (given : Value) : Prop :=
  ∃ register : Register, given.NamesRegister register

def registerRefusal : Value -> ConfigurationError
  | operand kind value written =>
      if kind = text "reg" then .invalidRegister value else .expectedRegister written
  | value => .invalidRegister value

theorem ofValue_register (register : Register) :
    Register.ofValue (int register.val) = .ok register := by
  have hbounds : (0 : Int) ≤ register.val ∧ (register.val : Int) < 8 := by
    omega
  show (if h : _ then _ else _) = _
  rw [dif_pos hbounds]
  exact congrArg _ (Fin.ext (Int.toNat_natCast register.val))

theorem eq_int_of_ofValue {value : Value} {register : Register}
    (h : Register.ofValue value = .ok register) : value = int register.val := by
  unfold Register.ofValue at h
  split at h
  · split at h
    · next hbounds =>
        cases h
        exact congrArg int (Int.toNat_of_nonneg hbounds.left).symm
    · cases h
  · cases h

theorem eq_invalidRegister_of_ofValue {value : Value} {error : ConfigurationError}
    (h : Register.ofValue value = .error error) : error = .invalidRegister value := by
  unfold Register.ofValue at h
  split at h
  · split at h
    · cases h
    · cases h
      rfl
  · cases h
    rfl

theorem registerArgument_operand (value written : Value) :
    (operand (text "reg") value written).registerArgument = .ok value := by
  unfold registerArgument
  exact if_pos rfl

theorem registerArgument_of_kind_ne {kind : Value} (h : kind ≠ text "reg")
    (value written : Value) :
    (operand kind value written).registerArgument = .error (.expectedRegister written) := by
  unfold registerArgument
  exact if_neg h

theorem registerRefusal_operand (value written : Value) :
    (operand (text "reg") value written).registerRefusal = .invalidRegister value := by
  unfold registerRefusal
  exact if_pos rfl

theorem registerRefusal_of_kind_ne {kind : Value} (h : kind ≠ text "reg")
    (value written : Value) :
    (operand kind value written).registerRefusal = .expectedRegister written := by
  unfold registerRefusal
  exact if_neg h

theorem registerArgument_cases (given : Value) :
    (given.registerArgument = .ok given ∧ ∀ kind value written : Value,
      given ≠ operand kind value written) ∨
    (∃ value written : Value, given = operand (text "reg") value written ∧
      given.registerArgument = .ok value) ∨
    ∃ kind value written : Value, given = operand kind value written ∧ kind ≠ text "reg" ∧
      given.registerArgument = .error (.expectedRegister written) := by
  cases given with
  | operand kind value written =>
      right
      by_cases hkind : kind = text "reg"
      · rw [hkind]
        exact Or.inl ⟨value, written, rfl, registerArgument_operand value written⟩
      · exact Or.inr ⟨kind, value, written, rfl, hkind, registerArgument_of_kind_ne hkind _ _⟩
  | int _ | float _ | bool _ | text _ | null => exact Or.inl ⟨rfl, nofun⟩

theorem registerArgument_of_namesRegister {given : Value} {register : Register}
    (h : given.NamesRegister register) : given.registerArgument = .ok (int register.val) := by
  cases h with
  | index => rfl
  | operand written => exact registerArgument_operand _ _

theorem namesRegister_of_registerArgument {given : Value} {register : Register}
    (h : given.registerArgument = .ok (int register.val)) : given.NamesRegister register := by
  rcases given.registerArgument_cases with
    ⟨hgiven, -⟩ | ⟨value, written, rfl, hvalue⟩ | ⟨kind, value, written, -, -, hrefused⟩
  · rw [hgiven] at h
    rw [Except.ok.inj h]
    exact .index register
  · rw [hvalue] at h
    rw [Except.ok.inj h]
    exact .operand register written
  · rw [hrefused] at h
    cases h

theorem registerRefusal_of_ofValue {given value : Value} {error : ConfigurationError}
    (hvalue : given.registerArgument = .ok value) (h : Register.ofValue value = .error error) :
    ¬given.IsRegister ∧ error = given.registerRefusal := by
  constructor
  · rintro ⟨register, hnames⟩
    rw [registerArgument_of_namesRegister hnames] at hvalue
    rw [← Except.ok.inj hvalue, ofValue_register] at h
    cases h
  · rw [eq_invalidRegister_of_ofValue h]
    rcases given.registerArgument_cases with
      ⟨hgiven, hother⟩ | ⟨other, written, rfl, hother⟩ | ⟨kind, other, written, -, -, hrefused⟩
    · rw [hgiven] at hvalue
      rw [← Except.ok.inj hvalue]
      cases given with
      | operand kind value written => exact absurd rfl (hother kind value written)
      | int _ | float _ | bool _ | text _ | null => rfl
    · rw [hother] at hvalue
      rw [← Except.ok.inj hvalue]
      exact (registerRefusal_operand other written).symm
    · rw [hrefused] at hvalue
      cases hvalue

theorem registerRefusal_of_registerArgument {given : Value} {error : ConfigurationError}
    (h : given.registerArgument = .error error) :
    ¬given.IsRegister ∧ error = given.registerRefusal := by
  rcases given.registerArgument_cases with
    ⟨hgiven, -⟩ | ⟨value, written, rfl, hvalue⟩ | ⟨kind, value, written, rfl, hkind, hrefused⟩
  · rw [hgiven] at h
    cases h
  · rw [hvalue] at h
    cases h
  · constructor
    · rintro ⟨register, hnames⟩
      cases hnames
      exact hkind rfl
    · rw [hrefused] at h
      rw [← Except.error.inj h]
      exact (registerRefusal_of_kind_ne hkind value written).symm

theorem isTold_invalidRegister {value : Value} (h : value.isWritable = true) :
    (ConfigurationError.invalidRegister value).IsTold :=
  if_pos h

theorem isTold_registerRefusal {given : Value} (h : given.isWritable = true) :
    given.registerRefusal.IsTold := by
  cases given with
  | operand kind value written =>
      have hparts := Bool.and_eq_true_iff.mp h
      by_cases hkind : kind = text "reg"
      · rw [hkind, registerRefusal_operand]
        exact isTold_invalidRegister (Bool.and_eq_true_iff.mp hparts.left).right
      · rw [registerRefusal_of_kind_ne hkind]
        exact if_pos hparts.right
  | int _ | float _ | bool _ | text _ | null => exact isTold_invalidRegister h

end Value

/-!
# Lists of register arguments
-/

def registersOf (given : List Value) : Except ConfigurationError (List Register) := do
  let values ← given.mapM Value.registerArgument
  values.mapM Register.ofValue

section RegistersOf

variable {given : List Value} {registers : List Register}

theorem registersOf_of_names (h : List.Forall₂ Value.NamesRegister given registers) :
    registersOf given = .ok registers := by
  have hvalues : given.mapM Value.registerArgument =
      .ok (registers.map fun register => .int register.val) := by
    induction h with
    | nil => rfl
    | cons hfirst _ ih =>
        rw [List.mapM_cons, Value.registerArgument_of_namesRegister hfirst, ih]
        rfl
  have hregisters : (registers.map fun register => Value.int register.val).mapM Register.ofValue =
      .ok registers := by
    clear h hvalues
    induction registers with
    | nil => rfl
    | cons register rest ih =>
        rw [List.map_cons, List.mapM_cons, Value.ofValue_register, ih]
        rfl
  unfold registersOf
  rw [hvalues]
  exact hregisters

theorem isRegister_of_registersOf (h : registersOf given = .ok registers) :
    ∀ value ∈ given, value.IsRegister := by
  intro value hmem
  rcases exists_of_bind_ok h with ⟨values, hvalues, hregisters⟩
  rcases exists_mem_of_mapM hvalues hmem with ⟨found, hfound, hvalue⟩
  rcases exists_mem_of_mapM hregisters hfound with ⟨register, -, hregister⟩
  rw [Value.eq_int_of_ofValue hregister] at hvalue
  exact ⟨register, Value.namesRegister_of_registerArgument hvalue⟩

theorem registerRefusal_of_registersOf {error : ConfigurationError}
    (h : registersOf given = .error error) :
    ∃ value ∈ given, ¬value.IsRegister ∧ error = value.registerRefusal := by
  rcases bind_eq_error_iff.mp h with hvalues | ⟨values, hvalues, hregisters⟩
  · rcases mapM_eq_error_iff.mp hvalues with ⟨earlier, value, later, rfl, -, hvalue⟩
    exact ⟨value, List.mem_append_cons_self, Value.registerRefusal_of_registerArgument hvalue⟩
  · rcases mapM_eq_error_iff.mp hregisters with ⟨earlier, found, later, hsplit, -, hfound⟩
    have hmem : found ∈ values := by
      rw [hsplit]
      exact List.mem_append_cons_self
    rcases exists_of_mem_mapM hvalues hmem with ⟨value, hvalue, hargument⟩
    exact ⟨value, hvalue, Value.registerRefusal_of_ofValue hargument hfound⟩

end RegistersOf

/-!
# Statements
-/

def Instruction.registers : Instruction -> List Register
  | addRegister dest src1 src2 | andRegister dest src1 src2 => [dest, src1, src2]
  | addImmediate dest src1 _ | andImmediate dest src1 _ => [dest, src1]
  | not dest src => [dest, src]
  | load register _ | loadIndirect register _ | store register _ | storeIndirect register _ =>
      [register]
  | branch _ _ | trap _ => []

namespace Statement

/-- The register arguments among the last operand of an addition or a conjunction: it is one if it is
an operand of the register kind, and else it is a valid immediate. -/
inductive LastOperand : Value -> List Value -> Prop where
  | register (value written : Value) :
      LastOperand (.operand (.text "reg") value written) [.operand (.text "reg") value written]
  | immediate (imm : Immediate) : LastOperand (.int imm.value) []
  | immediateOperand {kind : Value} (imm : Immediate) (written : Value) :
      kind ≠ .text "reg" -> LastOperand (.operand kind (.int imm.value) written) []

/-- The register arguments of a statement, of which all other arguments are valid. -/
inductive Asks : Statement -> List Value -> Prop where
  | add {dest src1 src2 : Value} {last : List Value} :
      LastOperand src2 last -> Asks (.add dest src1 src2) (dest :: src1 :: last)
  | and {dest src1 src2 : Value} {last : List Value} :
      LastOperand src2 last -> Asks (.and dest src1 src2) (dest :: src1 :: last)
  | not (dest src : Value) : Asks (.not dest src) [dest, src]
  | ld (dest : Value) (label : LabelName) : Asks (.ld dest (.text label.name)) [dest]
  | ldi (dest : Value) (label : LabelName) : Asks (.ldi dest (.text label.name)) [dest]
  | st (src : Value) (label : LabelName) : Asks (.st src (.text label.name)) [src]
  | sti (src : Value) (label : LabelName) : Asks (.sti src (.text label.name)) [src]

theorem ofValue_labelName (label : LabelName) :
    LabelName.ofValue (.text label.name) = .ok label :=
  dif_pos label.name_ne_empty

theorem ofValue_immediate (imm : Immediate) : Immediate.ofValue (.int imm.value) = .ok imm :=
  dif_pos ⟨imm.le_value, imm.value_le⟩

section

variable {make : Register -> Register -> Register -> Instruction}
  {makeImmediate : Register -> Register -> Immediate -> Instruction}

theorem registers_ofThreeRegisters
    (hmake : ∀ dest src1 src2 : Register, (make dest src1 src2).registers = [dest, src1, src2])
    (dest src1 src2 : Value) :
    (Candidate.ofThreeRegisters make dest src1 src2).map Instruction.registers =
      [dest, src1, src2].mapM Register.ofValue := by
  unfold Candidate.ofThreeRegisters
  simp only [List.mapM_cons, List.mapM_nil]
  cases Register.ofValue dest with
  | error error => rfl
  | ok dest =>
      cases Register.ofValue src1 with
      | error error => rfl
      | ok src1 =>
          cases Register.ofValue src2 with
          | error error => rfl
          | ok src2 => exact congrArg Except.ok (hmake dest src1 src2)

theorem registers_ofRegistersImmediate
    (hmake : ∀ (dest src1 : Register) (imm : Immediate),
      (makeImmediate dest src1 imm).registers = [dest, src1])
    (dest src1 : Value) (imm : Immediate) :
    (Candidate.ofRegistersImmediate makeImmediate dest src1 (.int imm.value)).map
        Instruction.registers =
      [dest, src1].mapM Register.ofValue := by
  unfold Candidate.ofRegistersImmediate
  simp only [List.mapM_cons, List.mapM_nil, ofValue_immediate]
  cases Register.ofValue dest with
  | error error => rfl
  | ok dest =>
      cases Register.ofValue src1 with
      | error error => rfl
      | ok src1 => exact congrArg Except.ok (hmake dest src1 imm)

theorem registers_bind_arguments {read : Value -> Value -> Except ConfigurationError Instruction}
    {last values : List Value} (hlast : last.mapM Value.registerArgument = .ok values)
    (hread : ∀ first second : Value, (read first second).map Instruction.registers =
      (first :: second :: values).mapM Register.ofValue) (first second : Value) :
    (do
      let first ← first.registerArgument
      let second ← second.registerArgument
      read first second).map Instruction.registers = registersOf (first :: second :: last) := by
  unfold registersOf
  simp only [List.mapM_cons, hlast]
  cases first.registerArgument with
  | error error => rfl
  | ok first =>
      cases second.registerArgument with
      | error error => rfl
      | ok second => exact hread first second

theorem registers_arithmetic
    (hmake : ∀ dest src1 src2 : Register, (make dest src1 src2).registers = [dest, src1, src2])
    (himmediate : ∀ (dest src1 : Register) (imm : Immediate),
      (makeImmediate dest src1 imm).registers = [dest, src1])
    (dest src1 : Value) {src2 : Value} {last : List Value} (hlast : LastOperand src2 last) :
    (arithmetic make makeImmediate dest src1 src2).map Instruction.registers =
      registersOf (dest :: src1 :: last) := by
  unfold arithmetic
  cases hlast with
  | register value written =>
      simp only [sourceOperand, ok_bind, if_true]
      apply registers_bind_arguments
      · rw [List.mapM_cons, Value.registerArgument_operand]
        rfl
      · intro dest src1
        exact registers_ofThreeRegisters hmake dest src1 value
  | immediate imm =>
      simp only [sourceOperand, Value.immediateOperand, ofValue_immediate, ok_bind]
      apply registers_bind_arguments rfl
      intro dest src1
      exact registers_ofRegistersImmediate himmediate dest src1 imm
  | immediateOperand imm written hkind =>
      simp only [sourceOperand, ok_bind, if_neg hkind]
      apply registers_bind_arguments rfl
      intro dest src1
      exact registers_ofRegistersImmediate himmediate dest src1 imm

end

theorem registers_ofTwoRegisters (dest src : Value) :
    (Instruction.ofTwoRegisters dest src).map Instruction.registers =
      [dest, src].mapM Register.ofValue := by
  unfold Instruction.ofTwoRegisters
  simp only [List.mapM_cons, List.mapM_nil]
  cases Register.ofValue dest with
  | error error => rfl
  | ok dest =>
      cases Register.ofValue src with
      | error error => rfl
      | ok src => rfl

theorem registers_registerAndLabel {make : Register -> LabelName -> Instruction}
    (hmake : ∀ (register : Register) (label : LabelName),
      (make register label).registers = [register])
    (register : Value) (label : LabelName) :
    (registerAndLabel make register (.text label.name)).map Instruction.registers =
      registersOf [register] := by
  unfold registerAndLabel registersOf Candidate.ofRegisterLabel
  simp only [List.mapM_cons, List.mapM_nil, ofValue_labelName]
  cases register.registerArgument with
  | error error => rfl
  | ok value =>
      show _ = [value].mapM Register.ofValue
      simp only [List.mapM_cons, List.mapM_nil, ok_bind]
      cases Register.ofValue value with
      | error error => rfl
      | ok register => exact congrArg Except.ok (hmake register label)

/-- The instruction that a statement adds names the registers that its arguments name, and if they
name none, the statement is refused. -/
theorem registers_of_asks (traps : Traps) {statement : Statement} {given : List Value}
    (h : statement.Asks given) :
    ∃ reading : Except ConfigurationError Instruction,
      statement.instruction? traps = some reading ∧
        reading.map Instruction.registers = registersOf given := by
  cases h with
  | add hlast =>
      exact ⟨_, rfl, registers_arithmetic (fun _ _ _ => rfl) (fun _ _ _ => rfl) _ _ hlast⟩
  | and hlast =>
      exact ⟨_, rfl, registers_arithmetic (fun _ _ _ => rfl) (fun _ _ _ => rfl) _ _ hlast⟩
  | not dest src =>
      exact ⟨_, rfl, registers_bind_arguments rfl registers_ofTwoRegisters dest src⟩
  | ld register label => exact ⟨_, rfl, registers_registerAndLabel (fun _ _ => rfl) register label⟩
  | ldi register label => exact ⟨_, rfl, registers_registerAndLabel (fun _ _ => rfl) register label⟩
  | st register label => exact ⟨_, rfl, registers_registerAndLabel (fun _ _ => rfl) register label⟩
  | sti register label => exact ⟨_, rfl, registers_registerAndLabel (fun _ _ => rfl) register label⟩

end Statement

/-!
# Operations that take registers
-/

namespace Session

theorem report_silent (session : Session) : session.report .silent = (none, session) := by
  rcases session with ⟨builder, isa, manager, file, depth, saved, verbose, log⟩
  cases verbose with
  | false => rfl
  | true =>
      show (none, Session.mk builder isa manager file depth saved true (log ++ [])) = _
      rw [Array.appendList_nil]

def push (i : Instruction) (session : Session) : Session :=
  { session with builder :=
    { session.builder with program := session.builder.program.push i } }

theorem perform_of_reading {session : Session} (hopen : session.builder.program.frozen = false)
    {statement : Statement} {reading : Except ConfigurationError Instruction}
    (hreading : statement.instruction? session.isa.traps = some reading) :
    session.perform statement =
      match reading with
      | .ok i => (.ok (.value (.int session.builder.program.size)), session.push i)
      | .error error => (.error (.ofConfiguration error), session) := by
  have hsilent : session.builder.program.performReport statement = .silent := by
    cases statement with
    | label _ | fill _ _ => cases hreading
    | _ => rfl
  have happend (i : Instruction) : session.builder.program.append (.instruction i) =
      (.ok session.builder.program.size, session.builder.program.push i) :=
    if_neg (Bool.eq_false_iff.mp hopen)
  unfold Session.perform
  rw [hsilent, report_silent]
  rcases session with ⟨⟨program, processor, run⟩, isa, manager, file, depth, saved, verbose, log⟩
  dsimp only at hreading happend ⊢
  unfold onBuilder Builder.onProgram Program.perform
  cases reading with
  | error error =>
      simp only [hreading]
      rfl
  | ok i =>
      simp only [hreading, happend]
      rfl

/-- What a register that is read answers.  An index from the end is taken like one from the start. -/
inductive ReadsRegister (registers : Array Value) : Value -> Except Failure Answer -> Prop where
  | content {given value content : Value} {n : Int} :
      given.registerArgument = .ok value -> value.asInt? = some n -> -8 ≤ n -> n < 8 ->
      registers[(n % 8).toNat]? = some content ->
      ReadsRegister registers given (.ok (.value content))
  | outOfBounds {given value : Value} {n : Int} :
      given.registerArgument = .ok value -> value.asInt? = some n -> n < -8 ∨ 8 ≤ n ->
      ReadsRegister registers given (.error .outOfBounds)
  | wrongType {given value : Value} :
      given.registerArgument = .ok value -> value.asInt? = none ->
      ReadsRegister registers given (.error .wrongType)
  | refused {kind value written : Value} :
      kind ≠ .text "reg" ->
      ReadsRegister registers (.operand kind value written)
        (.error (.ofConfiguration (.expectedRegister written)))

theorem place?_registerCount (n : Int) :
    Processor.place? Processor.registerCount n =
      if -8 ≤ n ∧ n < 8 then some (n % 8).toNat else none := by
  unfold Processor.place? Processor.registerCount
  split
  · split
    · rw [if_pos (by omega)]
      congr 2
      omega
    · rw [if_neg (by omega)]
  · split
    · rw [if_pos (by omega)]
      congr 1
      omega
    · rw [if_neg (by omega)]

theorem readsRegister_apply (limit : Nat) {session : Session}
    (h : session.builder.processor.registers.size = Processor.registerCount) (given : Value) :
    ReadsRegister session.builder.processor.registers given
      (session.apply limit (.readRegister given)).1 := by
  show ReadsRegister _ given ((session.builder.readRegister given).map .value)
  unfold Builder.readRegister
  cases hargument : given.registerArgument with
  | error error =>
      rcases given.registerArgument_cases with
        ⟨hgiven, -⟩ | ⟨value, written, -, hvalue⟩ | ⟨kind, value, written, rfl, hkind, hrefused⟩
      · rw [hgiven] at hargument
        cases hargument
      · rw [hvalue] at hargument
        cases hargument
      · rw [hrefused] at hargument
        cases hargument
        exact .refused hkind
  | ok value =>
      cases hindex : value.asInt? with
      | none =>
          simp only [hindex]
          exact .wrongType hargument hindex
      | some n =>
          simp only [hindex]
          unfold Processor.register?
          rw [h, place?_registerCount]
          by_cases hbounds : -8 ≤ n ∧ n < 8
          · have hplace : (n % 8).toNat < session.builder.processor.registers.size := by
              rw [h]
              unfold Processor.registerCount
              omega
            have hget := Array.getElem?_eq_getElem hplace
            rw [if_pos hbounds, Option.bind_some, hget]
            exact .content hargument hindex hbounds.left hbounds.right hget
          · rw [if_neg hbounds]
            exact .outOfBounds hargument hindex (by omega)

theorem ReadsRegister.of_names {registers : Array Value} {given : Value} {register : Register}
    (hnames : given.NamesRegister register) {answer : Except Failure Answer}
    (h : ReadsRegister registers given answer) :
    ∃ content : Value, registers[register.val]? = some content ∧ answer = .ok (.value content) := by
  have hargument := Value.registerArgument_of_namesRegister hnames
  have hplace : ((register.val : Int) % 8).toNat = register.val := by
    omega
  cases h with
  | content hvalue hindex _ _ hget =>
      rw [hargument] at hvalue
      cases hvalue
      cases hindex
      rw [hplace] at hget
      exact ⟨_, hget, rfl⟩
  | outOfBounds hvalue hindex hbounds =>
      rw [hargument] at hvalue
      cases hvalue
      cases hindex
      omega
  | wrongType hvalue hindex =>
      rw [hargument] at hvalue
      cases hvalue
      cases hindex
  | refused hkind =>
      cases hnames
      exact absurd rfl hkind

theorem ReadsRegister.configuration_iff {registers : Array Value} {given : Value}
    (hwritable : given.isWritable = true) {answer : Except Failure Answer}
    (h : ReadsRegister registers given answer) :
    (∃ error : ConfigurationError, answer = .error (.configuration error)) ↔
      ∃ kind value written : Value,
        given = .operand kind value written ∧ kind ≠ .text "reg" := by
  have hother {value : Value} (hvalue : given.registerArgument = .ok value) :
      ¬∃ kind value written : Value,
        given = .operand kind value written ∧ kind ≠ .text "reg" := by
    rintro ⟨kind, other, written, rfl, hkind⟩
    rw [Value.registerArgument_of_kind_ne hkind] at hvalue
    cases hvalue
  cases h with
  | content hvalue _ _ _ _ | outOfBounds hvalue _ _ | wrongType hvalue _ =>
      refine ⟨?_, fun hoperand => absurd hoperand (hother hvalue)⟩
      rintro ⟨error, herror⟩
      cases herror
  | @refused kind value written hkind =>
      refine ⟨fun _ => ⟨kind, value, written, rfl, hkind⟩, fun _ => ⟨.expectedRegister written, ?_⟩⟩
      have htold := Value.isTold_registerRefusal hwritable
      rw [Value.registerRefusal_of_kind_ne hkind] at htold
      exact congrArg Except.error htold

theorem apply_of_asks (limit : Nat) {session : Session}
    (hopen : session.builder.program.frozen = false) {statement : Statement} {given : List Value}
    (h : statement.Asks given) :
    (∃ i : Instruction, registersOf given = .ok i.registers ∧
      session.apply limit (.statement statement) =
        (.ok (.value (.int session.builder.program.size)), session.push i)) ∨
    ∃ value ∈ given, ¬value.IsRegister ∧
      session.apply limit (.statement statement) =
        (.error (.ofConfiguration value.registerRefusal), session) := by
  rcases Statement.registers_of_asks session.isa.traps h with ⟨reading, hreading, hregisters⟩
  have hperform : session.apply limit (.statement statement) = _ :=
    perform_of_reading hopen hreading
  cases reading with
  | ok i => exact Or.inl ⟨i, hregisters.symm, hperform⟩
  | error error =>
      rcases registerRefusal_of_registersOf hregisters.symm with ⟨value, hmem, hno, rfl⟩
      exact Or.inr ⟨value, hmem, hno, hperform⟩

/-- Statements check their register arguments alike.  If the arguments name registers, the
instruction is added that names these, and else the statement is refused for one that names none and
nothing has changed.  A register that is read is not checked in this way: it is refused only if it is
an operand of another kind, and any index from the end reads a register, too. -/
theorem register_arguments (limit : Nat) {session : Session}
    (hopen : session.builder.program.frozen = false)
    (hregisters : session.builder.processor.registers.size = Processor.registerCount) :
    (∀ (statement : Statement) (given : List Value), statement.Asks given ->
      let result := session.apply limit (.statement statement)
      (∀ registers : List Register, List.Forall₂ Value.NamesRegister given registers ->
        ∃ i : Instruction, i.registers = registers ∧
          result = (.ok (.value (.int session.builder.program.size)), session.push i)) ∧
      ((∃ value ∈ given, ¬value.IsRegister) ->
        ∃ value ∈ given, ¬value.IsRegister ∧
          result = (.error (.ofConfiguration value.registerRefusal), session)) ∧
      ((∀ value ∈ given, value.isWritable = true) ->
        ((∃ error : ConfigurationError, result.1 = .error (.configuration error)) ↔
          ∃ value ∈ given, ¬value.IsRegister))) ∧
    ∀ given : Value,
      let registers := session.builder.processor.registers
      let result := session.apply limit (.readRegister given)
      result.2 = session ∧ ReadsRegister registers given result.1 ∧
      (∀ register : Register, given.NamesRegister register ->
        ∃ content : Value, registers[register.val]? = some content ∧
          result.1 = .ok (.value content)) ∧
      (given.isWritable = true ->
        ((∃ error : ConfigurationError, result.1 = .error (.configuration error)) ↔
          ∃ kind value written : Value,
            given = .operand kind value written ∧ kind ≠ .text "reg")) := by
  constructor
  · intro statement given hasks result
    rcases apply_of_asks limit hopen hasks with ⟨i, hread, hresult⟩ | ⟨value, hmem, hno, hresult⟩
    · have hall := isRegister_of_registersOf hread
      refine ⟨?_, ?_, ?_⟩
      · intro registers hnames
        rw [registersOf_of_names hnames] at hread
        exact ⟨i, (Except.ok.inj hread).symm, hresult⟩
      · rintro ⟨value, hmem, hno⟩
        exact absurd (hall value hmem) hno
      · intro _
        constructor
        · rintro ⟨error, herror⟩
          rw [show result = _ from hresult] at herror
          cases herror
        · rintro ⟨value, hmem, hno⟩
          exact absurd (hall value hmem) hno
    · refine ⟨?_, fun _ => ⟨value, hmem, hno, hresult⟩, ?_⟩
      · intro registers hnames
        exact absurd (isRegister_of_registersOf (registersOf_of_names hnames) value hmem) hno
      · intro hwritable
        refine ⟨fun _ => ⟨value, hmem, hno⟩, fun _ => ⟨value.registerRefusal, ?_⟩⟩
        rw [show result = _ from hresult]
        exact congrArg Except.error (Value.isTold_registerRefusal (hwritable value hmem))
  · intro given registers result
    have hreads : ReadsRegister registers given result.1 :=
      readsRegister_apply limit hregisters given
    refine ⟨rfl, hreads, ?_, ?_⟩
    · intro register hnames
      exact hreads.of_names hnames
    · intro hwritable
      exact hreads.configuration_iff hwritable

theorem register_arguments_first :
    let session := start false
    let label : LabelName := ⟨"A", by decide⟩
    session.builder.program.frozen = false ∧
      session.builder.processor.registers.size = Processor.registerCount ∧
      (session.apply 0 (.statement (.st (.bool true) (.text label.name)))).2 = session ∧
      ReadsRegister session.builder.processor.registers (.int (-1))
        (session.apply 0 (.readRegister (.int (-1)))).1 := by
  intro session label
  have hchecked := @register_arguments 0 session rfl rfl
  have hno : ¬(Value.bool true).IsRegister := by
    rintro ⟨register, hnames⟩
    cases hnames
  rcases (hchecked.left _ _ (.st (.bool true) label)).right.left
    ⟨_, List.mem_singleton_self _, hno⟩ with ⟨value, -, -, hrefused⟩
  exact ⟨rfl, rfl, congrArg Prod.snd hrefused, (hchecked.right (.int (-1))).right.left⟩

theorem last_register_read :
    let session := start false
    session.builder.program.frozen = false ∧ ¬(Value.int (-1)).IsRegister ∧
      (session.apply 0 (.readRegister (.int (-1)))).1 = .ok (.value (.int 0)) ∧
      ∀ error : ConfigurationError,
        (session.apply 0 (.readRegister (.int (-1)))).1 ≠ .error (.configuration error) := by
  intro session
  refine ⟨rfl, ?_, rfl, nofun⟩
  rintro ⟨register, hnames⟩
  generalize hgiven : Value.int (-1) = given at hnames
  cases hnames with
  | index =>
      have heq := Value.int.inj hgiven
      omega
  | operand => cases hgiven

end Session
end LittleComputer
