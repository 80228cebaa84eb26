import LittleComputer.Proofs.Sheet.Reading
import LittleComputer.Proofs.Sheet.Soundness
import LittleComputer.Session.Basic

/-!
# Histories of loads

Any number of managers share the active definitions, and each remembers a sheet of its own.  In the
course of a history the active definitions are those of the sheet that was loaded last, by whichever
manager, and a manager remembers the sheet that it loaded last itself.  A call that fails changes
neither.
-/

namespace LittleComputer

/-!
# Definitions of a sheet
-/

namespace Sheet

/-- The definitions are those of a sheet, in the order of its entries, each with the executor that
is registered for it. -/
structure AreDefinitions (sheet : Sheet) (isa : Isa) (definitions : Table String Definition) :
    Prop where
  areEntries : AreEntries sheet.entries
  entries_eq : (definitions.entries.map fun entry =>
      (entry.1, entry.2.mnemonic, entry.2.summary, entry.2.layouts)) =
    sheet.entries.map fun entry =>
      (entry.mnemonic, entry.mnemonic, entry.summary, entry.layouts)
  executor?_eq : ∀ entry ∈ definitions.entries,
    isa.executor? entry.1 = some entry.2.executor

theorem summary_of_define {isa : Isa} {entry : SheetEntry} {definition : Definition}
    (h : define isa entry = .ok definition) :
    definition.summary = entry.summary ∧ definition.layouts = entry.layouts := by
  unfold define at h
  split at h
  · cases h
    exact ⟨rfl, rfl⟩
  · cases h

theorem AreEntries.upperString_mnemonic {entries : List SheetEntry} (h : AreEntries entries)
    {entry : SheetEntry} (hentry : entry ∈ entries) :
    Text.upperString entry.mnemonic = entry.mnemonic := by
  rcases h.encodable entry hentry with ⟨encodings, hencodings, -⟩
  exact upperString_of_encodable? hencodings

/-- No two entries of a sheet come under the same key, so that all of them become active. -/
theorem areDefinitions_of_activate {sheet : Sheet} {isa loaded : Isa}
    (hsheet : AreEntries sheet.entries) (h : sheet.activate isa = .ok loaded) :
    AreDefinitions sheet isa loaded.definitions := by
  rcases exists_of_bind_ok h with ⟨definitions, hdefinitions, h⟩
  cases h
  have hkeys : (definitions.map fun definition =>
      (Text.upperString definition.mnemonic, definition)).map Prod.fst =
        sheet.entries.map SheetEntry.mnemonic := by
    rw [List.map_map]
    apply map_eq_of_mapM hdefinitions
    intro entry hentry definition hdefine
    rw [Function.comp_apply, (executor?_of_define hdefine).left]
    exact hsheet.upperString_mnemonic hentry
  have hentries : (isa.activate definitions).definitions.entries =
      definitions.map fun definition => (Text.upperString definition.mnemonic, definition) := by
    apply Table.entries_ofList
    rw [Entries.Distinct, hkeys]
    apply hsheet.nodup.imp
    intro mnemonic other hne
    exact beq_eq_false_iff_ne.mpr hne
  refine ⟨hsheet, ?_, ?_⟩
  · rw [hentries, List.map_map]
    apply map_eq_of_mapM hdefinitions
    intro entry hentry definition hdefine
    rcases summary_of_define hdefine with ⟨hsummary, hlayouts⟩
    have hmnemonic := (executor?_of_define hdefine).left
    rw [Function.comp_apply, hmnemonic, hsummary, hlayouts, hsheet.upperString_mnemonic hentry]
  · intro pair hpair
    rw [hentries] at hpair
    rcases List.mem_map.mp hpair with ⟨definition, hdefinition, rfl⟩
    rcases exists_of_mem_mapM hdefinitions hdefinition with ⟨entry, hentry, hdefine⟩
    rcases executor?_of_define hdefine with ⟨hmnemonic, hexecutor⟩
    rw [hmnemonic] at hexecutor
    dsimp only
    rw [hmnemonic, hsheet.upperString_mnemonic hentry]
    exact hexecutor

theorem read_of_load {depth : Nat} {content : FileContent} {source : SheetSource}
    {isa loaded : Isa} {sheet : Sheet}
    (h : Manager.load depth content source isa = .ok (sheet, loaded)) :
    read depth content source = .ok sheet := by
  rcases exists_of_bind_ok h with ⟨found, hfound, h⟩
  rcases exists_of_bind_ok h with ⟨active, -, h⟩
  cases h
  exact hfound

end Sheet

/-!
# Managers beside each other
-/

/-- A session with any number of managers, which take turns in it. -/
structure Managers where
  session : Session
  all : List Manager

namespace Managers

inductive Call where
  | load (number : Nat) (content : Sheet.FileContent)
  | loadDefault (number : Nat) (content : Sheet.FileContent)
  | create (content : Option Sheet.FileContent)
  | register (mnemonic : String) (executor : Option Executor)

def work (managers : Managers) (number : Nat) (content : Sheet.FileContent)
    (command : SheetCommand) : Except Failure Answer × Managers :=
  match managers.all[number]? with
  | some manager =>
      match { managers.session with manager := manager, file := content }.applySheet command with
      | (answer, session) => (answer, ⟨session, managers.all.set number session.manager⟩)
  | none => (.error .noSuchOperation, managers)

def perform (managers : Managers) : Call -> Except Failure Answer × Managers
  | .load number content => managers.work number content (.load content)
  | .loadDefault number content => managers.work number content .loadDefault
  | .create content =>
      match managers.session.applySheet (.newManager content) with
      | (.ok answer, session) => (.ok answer, ⟨session, managers.all ++ [session.manager]⟩)
      | (.error failure, session) => (.error failure, ⟨session, managers.all⟩)
  | .register mnemonic executor =>
      match managers.session.applyRegistry (.withExecutor mnemonic executor) with
      | (answer, session) => (answer, ⟨session, managers.all⟩)

def run (managers : Managers) : List Call -> Managers
  | [] => managers
  | call :: rest => run (managers.perform call).2 rest

/-!
# Loads
-/

/-- A sheet that a manager loaded, and the instruction set that it found. -/
structure Load where
  number : Nat
  sheet : Sheet
  isa : Isa

def request? (managers : Managers) : Call -> Option (Nat × Sheet.FileContent × SheetSource)
  | .load number content => managers.all[number]?.map fun _ => (number, content, .file)
  | .loadDefault number content =>
      managers.all[number]?.map fun manager => (number, content, manager.source)
  | .create none => some (managers.all.length, managers.session.file, .bundled)
  | .create (some content) => some (managers.all.length, content, .file)
  | .register _ _ => none

def load? (managers : Managers) (call : Call) : Option Load :=
  match (managers.perform call).1, managers.request? call with
  | .ok _, some (number, content, source) =>
      (Sheet.read managers.session.depth content source).toOption.map fun sheet =>
        ⟨number, sheet, managers.session.isa⟩
  | _, _ => none

def loads (managers : Managers) : List Call -> List Load
  | [] => []
  | call :: rest => (managers.load? call).toList ++ loads (managers.perform call).2 rest

def active? (managers : Managers) (number : Nat) : Option (Option Sheet) :=
  managers.all[number]?.map Manager.active

inductive Ends (managers : Managers) (call : Call) : Except Failure Answer × Managers -> Prop where
  | loaded {number : Nat} {content : Sheet.FileContent} {source : SheetSource} {sheet : Sheet}
      {answer : Answer} {after : Managers} :
      managers.request? call = some (number, content, source) ->
      Sheet.read managers.session.depth content source = .ok sheet ->
      sheet.activate managers.session.isa = .ok after.session.isa ->
      (∀ other : Nat, after.active? other =
        if other = number then some (some sheet) else managers.active? other) ->
      Ends managers call (.ok answer, after)
  | registered {answer : Answer} {after : Managers} :
      managers.request? call = none ->
      after.session.isa.definitions = managers.session.isa.definitions ->
      after.all = managers.all -> Ends managers call (.ok answer, after)
  | refused {failure : Failure} {after : Managers} :
      after.session.isa = managers.session.isa -> after.all = managers.all ->
      Ends managers call (.error failure, after)

end Managers

/-!
# What a call does
-/

namespace Session

inductive LoadEnds (session : Session) (source : SheetSource) :
    Except Failure Answer × Session -> Prop where
  | loaded {sheet : Sheet} {answer : Answer} {after : Session} :
      Sheet.read session.depth session.file source = .ok sheet ->
      sheet.activate session.isa = .ok after.isa ->
      after.manager = { session.manager with active := some sheet } ->
      LoadEnds session source (.ok answer, after)
  | refused (failure : Failure) : LoadEnds session source (.error failure, session)

theorem loadFrom_ends (source : SheetSource) (answer : Sheet -> Answer) (session : Session) :
    LoadEnds session source (session.loadFrom source answer) := by
  unfold loadFrom
  cases hload : Manager.load session.depth session.file source session.isa with
  | error error => exact .refused _
  | ok result =>
      apply LoadEnds.loaded (Sheet.read_of_load hload) (Sheet.activate_of_load hload)
      unfold note
      dsimp only
      split <;> rfl

theorem makeManager_ends (source : SheetSource) (session : Session) :
    (∃ failure : Failure, session.makeManager source = (.error failure, session)) ∨
    ∃ (sheet : Sheet) (answer : Answer) (after : Session),
      session.makeManager source = (.ok answer, after) ∧
        Sheet.read session.depth session.file source = .ok sheet ∧
        sheet.activate session.isa = .ok after.isa ∧ after.manager = ⟨source, some sheet⟩ := by
  have hends := session.loadFrom_ends source fun _ => .nothing
  unfold makeManager
  generalize session.loadFrom source (fun _ => .nothing) = result at hends ⊢
  cases hends with
  | refused failure => exact Or.inl ⟨failure, rfl⟩
  | @loaded sheet answer after hread hactivate hmanager =>
      refine Or.inr ⟨sheet, answer, _, rfl, hread, hactivate, ?_⟩
      rw [hmanager]

end Session

namespace Managers

theorem active?_set {managers : Managers} {number : Nat} {manager : Manager}
    (h : managers.all[number]? = some manager) {session : Session} {sheet : Sheet}
    (hactive : session.manager.active = some sheet) (other : Nat) :
    (Managers.mk session (managers.all.set number session.manager)).active? other =
      if other = number then some (some sheet) else managers.active? other := by
  have hnumber : number < managers.all.length := List.getElem?_eq_some_iff.mp h |>.choose
  unfold active?
  dsimp only
  by_cases hother : other = number
  · rw [if_pos hother, hother, List.getElem?_set_self hnumber, ← hactive]
    rfl
  · rw [if_neg hother, List.getElem?_set_ne (Ne.symm hother)]

theorem active?_concat (managers : Managers) {session : Session} {sheet : Sheet}
    (hactive : session.manager.active = some sheet) (other : Nat) :
    (Managers.mk session (managers.all ++ [session.manager])).active? other =
      if other = managers.all.length then some (some sheet) else managers.active? other := by
  unfold active?
  dsimp only
  by_cases hother : other = managers.all.length
  · rw [if_pos hother, hother, List.getElem?_concat_length, ← hactive]
    rfl
  · rw [if_neg hother]
    by_cases hlt : other < managers.all.length
    · rw [List.getElem?_append_left hlt]
    · have hlength : (managers.all ++ [session.manager]).length ≤ other := by
        rw [List.length_append, List.length_singleton]
        omega
      rw [List.getElem?_eq_none hlength, List.getElem?_eq_none (Nat.le_of_not_lt hlt)]

theorem work_ends {managers : Managers} {call : Call} {number : Nat}
    {content : Sheet.FileContent} {command : SheetCommand} (source : Manager -> SheetSource)
    (hrequest : managers.request? call =
      managers.all[number]?.map fun manager => (number, content, source manager))
    (hcommand : ∀ session : Session, session.file = content ->
      session.LoadEnds (source session.manager) (session.applySheet command)) :
    Ends managers call (managers.work number content command) := by
  unfold work
  cases hmanager : managers.all[number]? with
  | none => exact .refused rfl rfl
  | some manager =>
      rw [hmanager] at hrequest
      have hends := hcommand { managers.session with manager := manager, file := content } rfl
      dsimp only at hends ⊢
      generalize Session.applySheet _ command = result at hends ⊢
      cases hends with
      | refused failure =>
          rcases List.getElem?_eq_some_iff.mp hmanager with ⟨hnumber, rfl⟩
          exact .refused rfl (List.set_getElem_self hnumber)
      | loaded hread hactivate hactive =>
          refine .loaded hrequest hread hactivate (active?_set hmanager ?_)
          rw [hactive]

theorem create_ends {managers : Managers} {content : Option Sheet.FileContent}
    {source : SheetSource} {session : Session}
    (hrequest : managers.request? (.create content) =
      some (managers.all.length, session.file, source))
    (hisa : session.isa = managers.session.isa) (hdepth : session.depth = managers.session.depth)
    (hcommand : managers.session.applySheet (.newManager content) = session.makeManager source) :
    Ends managers (.create content) (managers.perform (.create content)) := by
  unfold perform
  dsimp only
  rw [hcommand]
  rcases session.makeManager_ends source with ⟨failure, hfailure⟩ | hloaded
  · rw [hfailure]
    exact .refused hisa rfl
  · rcases hloaded with ⟨sheet, answer, after, hanswer, hread, hactivate, hmanager⟩
    rw [hanswer]
    rw [hdepth] at hread
    rw [hisa] at hactivate
    refine .loaded hrequest hread hactivate (managers.active?_concat ?_)
    rw [hmanager]

theorem perform_ends (managers : Managers) (call : Call) :
    Ends managers call (managers.perform call) := by
  cases call with
  | load number content =>
      show Ends managers _ (managers.work number content (.load content))
      apply work_ends fun _ => .file
      · rfl
      · intro session hfile
        cases hfile
        exact session.loadFrom_ends .file _
  | loadDefault number content =>
      show Ends managers _ (managers.work number content .loadDefault)
      apply work_ends Manager.source
      · rfl
      · intro session _
        exact session.loadFrom_ends session.manager.source _
  | create content =>
      cases content with
      | none => exact @create_ends managers none .bundled managers.session rfl rfl rfl rfl
      | some content =>
          let session := { managers.session with file := content }
          exact @create_ends managers (some content) .file session rfl rfl rfl rfl
  | register mnemonic executor => exact .registered rfl rfl rfl

theorem isSome_load?_iff (managers : Managers) (call : Call) :
    (managers.load? call).isSome = true ↔
      (managers.request? call).isSome = true ∧
        ∃ answer : Answer, (managers.perform call).1 = .ok answer := by
  have hends := managers.perform_ends call
  unfold load?
  generalize managers.perform call = result at hends ⊢
  cases hends with
  | loaded hrequest hread _ _ => simp [hrequest, hread, Except.toOption]
  | registered hrequest _ _ => simp [hrequest]
  | refused _ _ => simp

/-!
# Histories
-/

def lastOf (number : Nat) (log : List Load) : Option Load :=
  (log.filter fun load => load.number = number).getLast?

/-- The active definitions and the sheets of the managers are those of the loads so far. -/
structure Recorded (start : Session) (log : List Load) (managers : Managers) : Prop where
  definitions :
    match log.getLast? with
    | some load => load.sheet.AreDefinitions load.isa managers.session.isa.definitions
    | none => managers.session.isa.definitions = start.isa.definitions
  active?_eq : ∀ number : Nat,
    managers.active? number = (lastOf number log).map fun load => some load.sheet

theorem recorded_start (session : Session) : Recorded session [] ⟨session, []⟩ where
  definitions := rfl
  active?_eq := fun _ => rfl

theorem Recorded.of_eq {start : Session} {log : List Load} {managers after : Managers}
    (h : Recorded start log managers)
    (hdefinitions : after.session.isa.definitions = managers.session.isa.definitions)
    (hall : after.all = managers.all) : Recorded start log after where
  definitions := by
    rw [hdefinitions]
    exact h.definitions
  active?_eq := by
    intro number
    rw [← h.active?_eq number]
    unfold active?
    rw [hall]

theorem Recorded.load {start : Session} {log : List Load} {managers after : Managers}
    (h : Recorded start log managers) {load : Load}
    (hdefinitions : load.sheet.AreDefinitions load.isa after.session.isa.definitions)
    (hactive : ∀ other : Nat, after.active? other =
      if other = load.number then some (some load.sheet) else managers.active? other) :
    Recorded start (log ++ [load]) after where
  definitions := by
    rw [List.getLast?_concat]
    exact hdefinitions
  active?_eq := by
    intro number
    rw [hactive]
    unfold lastOf
    rw [List.filter_append]
    by_cases hnumber : number = load.number
    · simp [hnumber]
    · have hne : load.number ≠ number := fun heq => hnumber heq.symm
      rw [if_neg hnumber, h.active?_eq]
      simp [hne, lastOf]

theorem Recorded.perform {start : Session} {log : List Load} {managers : Managers}
    (h : Recorded start log managers) (call : Call) :
    Recorded start (log ++ (managers.load? call).toList) (managers.perform call).2 := by
  have hends := managers.perform_ends call
  unfold load?
  generalize managers.perform call = result at hends ⊢
  cases hends with
  | loaded hrequest hread hactivate hactive =>
      rw [hrequest]
      dsimp only
      rw [hread]
      have hentries := Sheet.areEntries_of_read hread
      exact h.load (Sheet.areDefinitions_of_activate hentries hactivate) hactive
  | registered hrequest hdefinitions hall =>
      rw [hrequest]
      simp only [Option.toList_none, List.append_nil]
      exact h.of_eq hdefinitions hall
  | refused hisa hall =>
      simp only [Option.toList_none, List.append_nil]
      exact h.of_eq (by rw [hisa]) hall

theorem Recorded.run {start : Session} {log : List Load} {managers : Managers}
    (h : Recorded start log managers) (calls : List Call) :
    Recorded start (log ++ managers.loads calls) (managers.run calls) := by
  induction calls generalizing log managers with
  | nil =>
      unfold loads
      rw [List.append_nil]
      exact h
  | cons call rest ih =>
      have hrest := ih (h.perform call)
      rw [List.append_assoc] at hrest
      exact hrest

theorem perform_eq_of_error {managers : Managers} {call : Call} {failure : Failure}
    (h : (managers.perform call).1 = .error failure) :
    (managers.perform call).2.session.isa = managers.session.isa ∧
      (managers.perform call).2.all = managers.all := by
  have hends := managers.perform_ends call
  generalize managers.perform call = result at hends h ⊢
  cases hends with
  | loaded _ _ _ _ => cases h
  | registered _ _ _ => cases h
  | refused hisa hall => exact ⟨hisa, hall⟩

/-- After any calls, starting without managers, the active definitions are those of the last load of
all, with the executors that it found registered, and each manager has the sheet of its own last
load.  A further call that fails leaves the instruction set and the managers as they are, and one
that was to load something and does not fail is a load.  An executor that is registered next is the
one that loads will find for its mnemonic, however that is written. -/
theorem definitions_of_history (session : Session) (calls : List Call) :
    let managers := run ⟨session, []⟩ calls
    let log := loads ⟨session, []⟩ calls
    (match log.getLast? with
      | some load => load.sheet.AreDefinitions load.isa managers.session.isa.definitions
      | none => managers.session.isa.definitions = session.isa.definitions) ∧
    (∀ number : Nat, managers.all[number]?.map Manager.active =
      (lastOf number log).map fun load => some load.sheet) ∧
    (∀ call : Call,
      (∀ failure : Failure, (managers.perform call).1 = .error failure ->
        (managers.perform call).2.session.isa = managers.session.isa ∧
          (managers.perform call).2.all = managers.all) ∧
      ((managers.load? call).isSome = true ↔ (managers.request? call).isSome = true ∧
        ∃ answer : Answer, (managers.perform call).1 = .ok answer)) ∧
    ∀ (mnemonic other : String) (executor : Option Executor),
      (managers.perform (.register mnemonic executor)).2.session.isa.executor? other =
        if Text.upperString mnemonic = Text.upperString other then executor
        else managers.session.isa.executor? other := by
  have hrecorded := (recorded_start session).run calls
  rw [List.nil_append] at hrecorded
  refine ⟨hrecorded.definitions, hrecorded.active?_eq, ?_, ?_⟩
  · intro call
    constructor
    · intro failure hfailure
      exact perform_eq_of_error hfailure
    · exact isSome_load?_iff _ call
  · intro mnemonic other executor
    exact Isa.executor?_withExecutor _ mnemonic other executor

example :
    let content := Sheet.FileContent.bytes ("\x7b\"schema_version\":1,\"name\":\"s\",\"isa\":" ++
      "\x7b\"arch\":\"lc3\",\"word_bits\":16\x7d,\"instructions\":[\x7b\"mnemonic\":\"ld\"," ++
      "\"summary\":\"l\",\"forms\":[]\x7d]\x7d").toUTF8
    let managers := run ⟨.start false, []⟩
      [.create none, .create (some content), .register "not" none, .loadDefault 0 content]
    managers.session.isa.definitions.keys = ["LD"] ∧
      managers.all.map (fun manager => manager.active.map Sheet.name) =
        [some "LC-3 teaching subset", some "s"] := by
  decide +kernel

end Managers
end LittleComputer
