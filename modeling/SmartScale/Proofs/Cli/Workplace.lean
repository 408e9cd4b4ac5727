import Mathlib.Data.List.Induction
import SmartScale.Cli.Session
import SmartScale.Proofs.Cli.Commands
import SmartScale.Proofs.Cli.Display

/-!
# Calls with one configuration

Calls of the program that share a configuration and a disk are seen from outside as updates of one
record.  The specification is two folds over the calls: `Workplace.recordAfter` applies the accepted
batches to the record, and `Workplace.contentAfter` says what the store's file holds, with the record
in its place and all other bytes as they were.

`Workplace.Answers` says what one call does between two states of the file.  It is shown for one call
on any disk that suits the workplace (`Workplace.run_answers`); the disk after the call suits the
workplace again, because a call changes no file but the store's and its draft
(`Workplace.Suits.of_same`, `Workplace.Admits.of_same`).  So it holds after every sequence of calls
(`Workplace.calls_refine_record`).
-/

namespace SmartScale

/-- One call of the program. -/
structure Call where
  stdin : List UInt8
  arguments : List String
  deriving DecidableEq, Repr

def Call.run (call : Call) (disk : Disk) : Completion := Session.run disk call.stdin call.arguments

/-- The arguments of a call make up one invocation. -/
theorem Call.parse_unique {call : Call} {invocation other : Invocation}
    (h : Arguments.parse call.arguments = .ok invocation)
    (hother : Arguments.parse call.arguments = .ok other) : other = invocation :=
  Except.ok.inj (hother.symm.trans h)

/-- The disk after a sequence of calls. -/
def Disk.afterCalls (disk : Disk) (calls : List Call) : Disk :=
  calls.foldl (fun disk call => (call.run disk).disk) disk

/-- What calls with one configuration have in common. -/
structure Workplace where
  /-- The configuration, its paths relative to its own place. -/
  config : Config
  /-- The place of the store's file. -/
  store : List String
  /-- The place of the draft beside it. -/
  draft : List String

namespace Workplace

variable {w : Workplace} {disk now : Disk} {content : Option Image} {invocation : Invocation}

/-! ## The specification -/

/-- The store's path, for a call that names the configuration by its own path. -/
def storePath (w : Workplace) (invocation : Invocation) : String :=
  (Session.locateStore (Path.parent invocation.config) w.config).store.path

/-- The disk suits the workplace: the configuration is accepted and keeps no log file, what is at
the store's place is a file with the given content or nothing, and a draft can be made at a place of
its own. -/
structure Suits (w : Workplace) (disk : Disk) (content : Option Image) : Prop where
  valid : w.config.check = .ok ()
  noLogFile : w.config.logging.file = none
  /-- The store and its draft are at different places. -/
  apart : w.store ≠ w.draft
  /-- What is at the store's place. -/
  stored : disk.node? w.store = content.map .file
  draftFree : disk.node? w.draft ≠ some .directory

/-- The call is made in the workplace: it finds the configuration and is led by it to the store; no
other file that it reads is the store or its draft. -/
structure Admits (w : Workplace) (disk : Disk) (invocation : Invocation) : Prop where
  config : Session.readConfig disk invocation.config = .ok w.config
  /-- The configuration's file is neither the store nor its draft. -/
  configApart : ∀ place, disk.resolve invocation.config = .ok place → place ∉ [w.store, w.draft]
  store : disk.resolve (w.storePath invocation) = .ok w.store
  draft : disk.resolve (w.storePath invocation ++ ".tmp") = .ok w.draft
  /-- A table of objects is neither the store nor its draft. -/
  tableApart : ∀ table, invocation.command = .importObjects (some table) →
    ∀ place, disk.resolve table = .ok place → place ∉ [w.store, w.draft]

/-- A call whose arguments make up an invocation is made in the workplace. -/
def AdmitsCall (w : Workplace) (disk : Disk) (call : Call) : Prop :=
  ∀ invocation, Arguments.parse call.arguments = .ok invocation → w.Admits disk invocation

/-- The filter of log lines is accepted. -/
def acceptsLevel (w : Workplace) (invocation : Invocation) : Bool :=
  (Session.checkLogLevel
    ((invocation.logLevel.or w.config.logging.level).getD Session.defaultLogLevel)).isOk

/-- The batch that a call applies: none if it is refused or changes nothing. -/
def batch? (w : Workplace) (disk : Disk) (call : Call) : Option CommandContext.Batch :=
  match Arguments.parse call.arguments with
  | .ok invocation =>
    if w.acceptsLevel invocation then invocation.command.batch? w.config disk else none
  | .error _ => none

/-- The record after a call. -/
def nextRecord (w : Workplace) (disk : Disk) (record : Record) (call : Call) : Record :=
  match w.batch? disk call with
  | some b => (b.update record).stamp
  | none => record

/-- The record after a sequence of calls. -/
def recordAfter (w : Workplace) (disk : Disk) (record : Record) (calls : List Call) : Record :=
  calls.foldl (w.nextRecord disk) record

/-- What the store's file holds after a call. -/
def nextContent (w : Workplace) (disk : Disk) (content : Option Image) (call : Call) :
    Option Image :=
  match w.batch? disk call with
  | some b => some (w.config.store.publish content (b.update (w.config.store.recordIn content)))
  | none => content

/-- What the store's file holds after a sequence of calls. -/
def contentAfter (w : Workplace) (disk : Disk) (content : Option Image) (calls : List Call) :
    Option Image :=
  calls.foldl (w.nextContent disk) content

/-- A call does what it should on a disk whose store's file has the given content: `batch?` is what
the call applies. -/
structure Answers (w : Workplace) (batch? : Option CommandContext.Batch) (call : Call) (now : Disk)
    (content : Option Image) (done : Completion) : Prop where
  /-- An accepted batch succeeds, and the file then has the updated record in it. -/
  accepted : ∀ b, batch? = some b → done.code = Completion.success ∧
    done.disk.node? w.store = some (.file
      (w.config.store.publish content (b.update (w.config.store.recordIn content))))
  /-- A refused batch fails. -/
  refused : ∀ invocation, Arguments.parse call.arguments = .ok invocation →
    invocation.command.isUpdate = true → batch? = none → done.code ≠ Completion.success
  /-- Without an accepted batch nothing on the disk changes. -/
  unchanged : batch? = none → done.disk = now
  /-- A call that fails changes nothing. -/
  failed : done.code ≠ Completion.success → done.disk = now
  /-- No call changes anything but the store's file and its draft. -/
  elsewhere : Disk.SameApartFrom [w.store, w.draft] now done.disk
  /-- The record is shown as it is in the file. -/
  shown : ∀ invocation, Arguments.parse call.arguments = .ok invocation →
    w.acceptsLevel invocation = true → invocation.command = .showRecord →
    done.code = Completion.success ∧
      done.stdout =
        (w.config.store.recordIn content).spelled w.config.store.address invocation.json
  /-- The store is found in order, whatever its file is. -/
  inOrder : ∀ invocation, Arguments.parse call.arguments = .ok invocation →
    w.acceptsLevel invocation = true → invocation.command = .health →
    done.code = Completion.success ∧
      done.stdout = (w.config.store.recordIn content).spelledHealth w.config.store.address
        (w.storePath invocation) invocation.json

end Workplace

/-! ## Around a command -/

namespace Session

theorem readConfig_congr {a b : Disk} {path : String} (h : b.contents path = a.contents path) :
    readConfig b path = readConfig a path := by
  simp only [readConfig, configText, h]

/-- A configuration that is read has a file. -/
theorem contents_of_readConfig {disk : Disk} {path : String} {config : Config}
    (h : readConfig disk path = .ok config) : ∃ bytes, disk.contents path = .ok bytes := by
  cases hcontents : disk.contents path with
  | error e => simp only [readConfig, configText, hcontents, Except.bind, reduceCtorEq] at h
  | ok bytes => exact ⟨bytes, rfl⟩

/-- A configuration that is read has been checked. -/
theorem check_of_readConfig {disk : Disk} {path : String} {config : Config}
    (h : readConfig disk path = .ok config) : config.check = .ok () := by
  unfold readConfig at h
  cases htext : configText disk path with
  | error e => simp only [htext, Except.bind, reduceCtorEq] at h
  | ok text =>
      simp only [htext, Except.bind] at h
      split at h
      · cases h
      · next config hparse =>
        split at h
        · cases h
        · next hcheck =>
          cases h
          exact hcheck

/-- Without a log file, and with a filter of log lines that is accepted, the command is carried
out. -/
theorem perform_eq {disk : Disk} {invocation : Invocation} {config : Config}
    (hconfig : readConfig disk invocation.config = .ok config) (hlog : config.logging.file = none)
    (hlevel : (checkLogLevel
      ((invocation.logLevel.or config.logging.level).getD defaultLogLevel)).isOk = true)
    (stdin : List UInt8) :
    perform disk stdin invocation =
      CommandContext.perform
        ⟨locateStore (Path.parent invocation.config) config, invocation.json, disk, stdin⟩
        invocation.command := by
  have hprepare : prepareLog invocation (Path.parent invocation.config) config.logging disk =
      .ok disk := by
    rw [prepareLog, hlog]
    cases hchecked : checkLogLevel
        ((invocation.logLevel.or config.logging.level).getD defaultLogLevel) with
    | ok => rfl
    | error failure =>
        rw [hchecked] at hlevel
        cases hlevel
  simp only [perform, hconfig, hprepare]

end Session

namespace Completion

@[simp]
theorem ofUsageError_disk (disk : Disk) (e : UsageError) : (ofUsageError disk e).disk = disk := by
  cases e <;> rfl

@[simp]
theorem ofResponse_disk (json : Bool) (r : Response) : (ofResponse json r).disk = r.disk := by
  rw [ofResponse]
  split <;> rfl

theorem ofResponse_code_eq_success_iff (json : Bool) (r : Response) :
    (ofResponse json r).code = success ↔ r.failure = none := by
  rw [ofResponse]
  split
  · next h => simp [h]
  · next report h => simp [h, failure, success]
  · next message h => simp [h, brokenOff, success]

end Completion

namespace Workplace

/-! ## One call -/

section Call

variable {w : Workplace} {disk now : Disk} {content : Option Image} {invocation : Invocation}

/-- What a command of a call works with. -/
def context (w : Workplace) (disk : Disk) (stdin : List UInt8) (invocation : Invocation) :
    CommandContext where
  config := Session.locateStore (Path.parent invocation.config) w.config
  json := invocation.json
  disk := disk
  stdin := stdin

theorem Admits.ready (h : w.Admits disk invocation) (hsuits : w.Suits disk content)
    (stdin : List UInt8) :
    (w.context disk stdin invocation).Ready w.store w.draft content := by
  have hthresholds : w.config.detector.check = .ok () := Config.thresholds_of_check hsuits.valid
  have hfits : AddressRange.fits w.config.store.address recordLength
      w.config.store.capacity.toNat = true := Config.fits_of_check hsuits.valid
  have hobjects : checkObjects w.config.objects = .ok () :=
    (Config.check_eq_ok_iff.mp hsuits.valid).2
  exact ⟨hthresholds, hfits, hobjects, h.store, h.draft, hsuits.apart, hsuits.stored,
    hsuits.draftFree⟩

/-- The place of the store does not matter to what a command applies. -/
theorem batch?_context (w : Workplace) (disk : Disk) (stdin : List UInt8)
    (invocation : Invocation) (command : Command) :
    command.batch? (w.context disk stdin invocation).config (w.context disk stdin invocation).disk =
      command.batch? w.config disk := by
  cases command with
  | importObjects table => cases table <;> rfl
  | _ => rfl

theorem batch?_of_parse {call : Call} (hparse : Arguments.parse call.arguments = .ok invocation) :
    w.batch? disk call =
      if w.acceptsLevel invocation then invocation.command.batch? w.config disk else none := by
  rw [batch?, hparse]

/-- With an accepted filter of log lines the command is carried out. -/
theorem perform_of_acceptsLevel (h : w.Admits disk invocation) (hsuits : w.Suits disk content)
    (stdin : List UInt8) (hlevel : w.acceptsLevel invocation = true) :
    Session.perform disk stdin invocation =
      (w.context disk stdin invocation).perform invocation.command :=
  Session.perform_eq h.config hsuits.noLogFile hlevel stdin

/-- Without one the call fails at once. -/
theorem perform_of_not_acceptsLevel (h : w.Admits disk invocation) (stdin : List UInt8)
    (hlevel : w.acceptsLevel invocation = false) :
    ∃ failure, Session.perform disk stdin invocation = ⟨"", disk, some failure⟩ := by
  have hprepare : ∃ failure, Session.prepareLog invocation (Path.parent invocation.config)
      w.config.logging disk = .error failure := by
    unfold acceptsLevel at hlevel
    rw [Session.prepareLog]
    cases hchecked : Session.checkLogLevel
        ((invocation.logLevel.or w.config.logging.level).getD Session.defaultLogLevel) with
    | ok =>
        rw [hchecked] at hlevel
        cases hlevel
    | error failure => exact ⟨failure, rfl⟩
  rcases hprepare with ⟨failure, hfailure⟩
  refine ⟨failure, ?_⟩
  simp only [Session.perform, h.config, hfailure]

/-- A call that leaves the disk alone does what it should, if it fails where its batch is refused and
looks where it is to look. -/
theorem answers_of_disk_eq {call : Call} {done : Completion} (hdisk : done.disk = disk)
    (hrefused : ∀ invocation, Arguments.parse call.arguments = .ok invocation →
      invocation.command.isUpdate = true → done.code ≠ Completion.success)
    (hshown : ∀ invocation, Arguments.parse call.arguments = .ok invocation →
      w.acceptsLevel invocation = true → invocation.command = .showRecord →
      done.code = Completion.success ∧ done.stdout =
        (w.config.store.recordIn content).spelled w.config.store.address invocation.json)
    (hinOrder : ∀ invocation, Arguments.parse call.arguments = .ok invocation →
      w.acceptsLevel invocation = true → invocation.command = .health →
      done.code = Completion.success ∧ done.stdout =
        (w.config.store.recordIn content).spelledHealth w.config.store.address
          (w.storePath invocation) invocation.json) :
    w.Answers none call disk content done where
  accepted b hb := by cases hb
  refused invocation hparse hupdate _ := hrefused invocation hparse hupdate
  unchanged _ := hdisk
  failed _ := hdisk
  elsewhere := by
    rw [hdisk]
    exact .refl _ disk
  shown := hshown
  inOrder := hinOrder

theorem answers_of_usageError {call : Call} {e : UsageError}
    (hparse : Arguments.parse call.arguments = .error e) :
    w.Answers none call disk content (call.run disk) := by
  have hnot : ∀ invocation, Arguments.parse call.arguments ≠ .ok invocation := by
    intro invocation hinvocation
    rw [hparse] at hinvocation
    cases hinvocation
  refine answers_of_disk_eq ?_ (fun invocation h => absurd h (hnot invocation))
    (fun invocation h => absurd h (hnot invocation)) (fun invocation h => absurd h (hnot invocation))
  rw [Call.run, Session.run, hparse]
  exact Completion.ofUsageError_disk disk e

theorem answers_of_not_acceptsLevel {call : Call} (h : w.Admits disk invocation)
    (hparse : Arguments.parse call.arguments = .ok invocation)
    (hlevel : w.acceptsLevel invocation = false) :
    w.Answers none call disk content (call.run disk) := by
  rcases perform_of_not_acceptsLevel h call.stdin hlevel with ⟨failure, hperform⟩
  have hrun : call.run disk =
      Completion.ofResponse invocation.json ⟨"", disk, some failure⟩ := by
    simp only [Call.run, Session.run, hparse, hperform]
  have hfailed : (call.run disk).code ≠ Completion.success := by
    rw [hrun, Ne, Completion.ofResponse_code_eq_success_iff]
    simp
  have hnot : ∀ other, Arguments.parse call.arguments = .ok other →
      w.acceptsLevel other ≠ true := by
    intro other hother
    rw [Call.parse_unique hparse hother, hlevel]
    exact Bool.false_ne_true
  refine answers_of_disk_eq ?_ (fun _ _ _ => hfailed)
    (fun other hother haccepts => absurd haccepts (hnot other hother))
    (fun other hother haccepts => absurd haccepts (hnot other hother))
  rw [hrun]
  exact Completion.ofResponse_disk _ _

theorem answers_of_batch?_eq_none {call : Call} (h : w.Admits disk invocation)
    (hsuits : w.Suits disk content) (hparse : Arguments.parse call.arguments = .ok invocation)
    (hlevel : w.acceptsLevel invocation = true)
    (hbatch : invocation.command.batch? w.config disk = none) :
    w.Answers none call disk content (call.run disk) := by
  let c := w.context disk call.stdin invocation
  have hready : c.Ready w.store w.draft content := h.ready hsuits call.stdin
  have hrun : call.run disk =
      Completion.ofResponse invocation.json (c.perform invocation.command) := by
    simp only [Call.run, Session.run, hparse]
    rw [perform_of_acceptsLevel h hsuits call.stdin hlevel]
  have hnone : invocation.command.batch? c.config c.disk = none := by
    rw [batch?_context]
    exact hbatch
  have honly : ∀ other, Arguments.parse call.arguments = .ok other → other = invocation :=
    fun other => Call.parse_unique hparse
  -- The disk, a refused batch, `show` and `health`, in this order.
  refine answers_of_disk_eq ?_ ?_ ?_ ?_
  · rw [hrun, Completion.ofResponse_disk]
    exact CommandContext.perform_disk_of_batch?_eq_none hnone
  · intro other hother hupdate
    rw [honly other hother] at hupdate
    rcases CommandContext.perform_eq_fail hupdate hnone with ⟨report, hfail⟩
    rw [hrun, hfail, Ne, Completion.ofResponse_code_eq_success_iff]
    simp [CommandContext.fail]
  · intro other hother _ hshow
    rw [honly other hother] at hshow ⊢
    rw [hrun, hshow, CommandContext.perform, CommandContext.showRecord,
      CommandContext.withDetector_eq hready]
    exact ⟨rfl, Detector.showRecord_eq _ _⟩
  · intro other hother _ hhealth
    rw [honly other hother] at hhealth ⊢
    rw [hrun, hhealth, CommandContext.perform, CommandContext.health,
      CommandContext.withDetector_eq hready]
    exact ⟨rfl, Detector.showHealth_eq _ _ _⟩

theorem answers_of_batch?_eq_some {call : Call} {b : CommandContext.Batch}
    (h : w.Admits disk invocation) (hsuits : w.Suits disk content)
    (hparse : Arguments.parse call.arguments = .ok invocation)
    (hlevel : w.acceptsLevel invocation = true)
    (hbatch : invocation.command.batch? w.config disk = some b) :
    w.Answers (some b) call disk content (call.run disk) := by
  let c := w.context disk call.stdin invocation
  have hready : c.Ready w.store w.draft content := h.ready hsuits call.stdin
  have hsome : invocation.command.batch? c.config c.disk = some b := by
    rw [batch?_context]
    exact hbatch
  have haccepts : Command.Accepts c.config c.disk invocation.command b :=
    Command.accepts_of_batch? hsome
  rcases CommandContext.perform_publishes hready haccepts with
    ⟨output, after, hperform, hsame, hnode⟩
  have hrun : call.run disk = ⟨Completion.success, output, "", after⟩ := by
    simp only [Call.run, Session.run, hparse]
    rw [perform_of_acceptsLevel h hsuits call.stdin hlevel, hperform]
    rfl
  have honly : ∀ other, Arguments.parse call.arguments = .ok other →
      other.command.isUpdate = true :=
    fun other hother => Call.parse_unique hparse hother ▸ haccepts.isUpdate
  rw [hrun]
  -- All but the first and the fifth clause are about calls that apply no batch.
  refine ⟨?_, ?_, ?_, ?_, hsame, ?_, ?_⟩
  · intro other hother
    cases hother
    exact ⟨rfl, hnode⟩
  · intro _ _ _ hnone
    cases hnone
  · intro hnone
    cases hnone
  · intro hfailed
    exact absurd rfl hfailed
  · intro other hother _ hshow
    have hother := honly other hother
    rw [hshow] at hother
    cases hother
  · intro other hother _ hhealth
    have hother := honly other hother
    rw [hhealth] at hother
    cases hother

/-- One call does what it should. -/
theorem run_answers {call : Call} (hsuits : w.Suits disk content)
    (hadmits : w.AdmitsCall disk call) :
    w.Answers (w.batch? disk call) call disk content (call.run disk) := by
  cases hparse : Arguments.parse call.arguments with
  | error e =>
      have hbatch : w.batch? disk call = none := by rw [batch?, hparse]
      rw [hbatch]
      exact answers_of_usageError hparse
  | ok invocation =>
      have hadmitted : w.Admits disk invocation := hadmits invocation hparse
      rw [batch?_of_parse hparse]
      cases hlevel : w.acceptsLevel invocation with
      | false => exact answers_of_not_acceptsLevel hadmitted hparse hlevel
      | true =>
          rw [if_pos rfl]
          cases hbatch : invocation.command.batch? w.config disk with
          | none => exact answers_of_batch?_eq_none hadmitted hsuits hparse hlevel hbatch
          | some b => exact answers_of_batch?_eq_some hadmitted hsuits hparse hlevel hbatch

end Call

/-! ## Sequences of calls -/

section Sequence

variable {w : Workplace} {disk now : Disk} {content : Option Image} {invocation : Invocation}

theorem Suits.of_same {later : Option Image} (h : w.Suits disk content)
    (hsame : Disk.SameApartFrom [w.store, w.draft] disk now)
    (hstored : now.node? w.store = later.map .file) : w.Suits now later where
  valid := h.valid
  noLogFile := h.noLogFile
  apart := h.apart
  stored := hstored
  draftFree hdirectory := h.draftFree ((hsame.directory w.draft).mp hdirectory)

/-- A call finds everything where it was as long as only the store and its draft have changed. -/
theorem Admits.of_same (h : w.Admits disk invocation)
    (hsame : Disk.SameApartFrom [w.store, w.draft] disk now) : w.Admits now invocation where
  config := by
    rcases Session.contents_of_readConfig h.config with ⟨bytes, hbytes⟩
    have hnow : now.contents invocation.config = .ok bytes := by
      rw [Disk.contents_eq_ok_iff] at hbytes ⊢
      exact (hsame.lookup_eq_ok_iff h.configApart _).mpr hbytes
    rw [Session.readConfig_congr (hnow.trans hbytes.symm)]
    exact h.config
  configApart place hplace := h.configApart place ((hsame.resolve_eq_ok_iff _ place).mp hplace)
  store := (hsame.resolve_eq_ok_iff _ _).mpr h.store
  draft := (hsame.resolve_eq_ok_iff _ _).mpr h.draft
  tableApart table htable place hplace :=
    h.tableApart table htable place ((hsame.resolve_eq_ok_iff _ place).mp hplace)

theorem load_eq_ok_iff {table : String} {places : List (List String)} {rows : List ObjectRow}
    (hsame : Disk.SameApartFrom places disk now)
    (hapart : ∀ place, disk.resolve table = .ok place → place ∉ places) :
    ObjectsTable.load now table = .ok rows ↔ ObjectsTable.load disk table = .ok rows := by
  have hnode := hsame.lookup_eq_ok_iff hapart
  have hload : ∀ d : Disk, ObjectsTable.load d table = .ok rows ↔
      ∃ bytes, d.lookup table = .ok (.file bytes) ∧ ObjectsTable.parse bytes = .ok rows := by
    intro d
    unfold ObjectsTable.load
    split <;> simp_all
  rw [hload, hload]
  simp only [hnode]

/-- A command applies the same batch as long as only the store and its draft have changed. -/
theorem Admits.batch?_eq (h : w.Admits disk invocation)
    (hsame : Disk.SameApartFrom [w.store, w.draft] disk now) :
    invocation.command.batch? w.config now = invocation.command.batch? w.config disk := by
  cases hcommand : invocation.command with
  | importObjects table =>
      cases table with
      | none => rfl
      | some table =>
          have hload : ∀ rows, ObjectsTable.load now table = .ok rows ↔
              ObjectsTable.load disk table = .ok rows :=
            fun rows => load_eq_ok_iff hsame (h.tableApart table hcommand)
          rw [Command.batch?, Command.batch?]
          cases hdisk : ObjectsTable.load disk table with
          | ok rows => rw [(hload rows).mpr hdisk]
          | error e =>
              -- The reasons may differ, since the store's file may have come into being.
              cases hnow : ObjectsTable.load now table with
              | ok rows =>
                  rw [(hload rows).mp hnow] at hdisk
                  cases hdisk
              | error e' => rfl
  | _ => rfl

theorem AdmitsCall.of_same {call : Call} (h : w.AdmitsCall disk call)
    (hsame : Disk.SameApartFrom [w.store, w.draft] disk now) : w.AdmitsCall now call :=
  fun invocation hparse => (h invocation hparse).of_same hsame

theorem AdmitsCall.batch?_eq {call : Call} (h : w.AdmitsCall disk call)
    (hsame : Disk.SameApartFrom [w.store, w.draft] disk now) :
    w.batch? now call = w.batch? disk call := by
  unfold batch?
  split
  · next invocation hparse => rw [(h invocation hparse).batch?_eq hsame]
  · rfl

/-- The record in the file follows the batches. -/
theorem recordIn_nextContent (h : w.Suits disk content) (call : Call) (content : Option Image) :
    w.config.store.recordIn (w.nextContent disk content call) =
      w.nextRecord disk (w.config.store.recordIn content) call := by
  rw [nextContent, nextRecord]
  cases w.batch? disk call with
  | none => rfl
  | some b => exact StoreSettings.recordIn_publish (Config.fits_of_check h.valid) _

theorem recordIn_contentAfter (h : w.Suits disk content) (calls : List Call) :
    w.config.store.recordIn (w.contentAfter disk content calls) =
      w.recordAfter disk (w.config.store.recordIn content) calls := by
  induction calls using List.reverseRecOn with
  | nil => rfl
  | append_singleton calls call ih =>
      rw [contentAfter, recordAfter, List.foldl_append, List.foldl_append]
      change w.config.store.recordIn (w.nextContent disk (w.contentAfter disk content calls) call) =
        w.nextRecord disk (w.recordAfter disk (w.config.store.recordIn content) calls) call
      rw [recordIn_nextContent h, ih]

/-- After an answer the store's file holds what the specification says. -/
theorem Answers.stored {call : Call} {done : Completion}
    (h : w.Answers (w.batch? disk call) call now content done)
    (hstored : now.node? w.store = content.map .file) :
    done.disk.node? w.store = (w.nextContent disk content call).map .file := by
  rw [nextContent]
  cases hbatch : w.batch? disk call with
  | none =>
      rw [h.unchanged hbatch]
      exact hstored
  | some b => exact (h.accepted b hbatch).2

/-- What a sequence of calls leaves: a disk that suits the workplace, with the same files as before
apart from the store and its draft.  The induction is on the calls, the last one split off. -/
theorem suits_afterCalls (hsuits : w.Suits disk content) (calls : List Call)
    (hadmits : ∀ call ∈ calls, w.AdmitsCall disk call) :
    Disk.SameApartFrom [w.store, w.draft] disk (disk.afterCalls calls) ∧
      w.Suits (disk.afterCalls calls) (w.contentAfter disk content calls) := by
  induction calls using List.reverseRecOn with
  | nil => exact ⟨.refl _ disk, hsuits⟩
  | append_singleton calls call ih =>
      rcases ih fun other hother => hadmits other (List.mem_append_left _ hother) with
        ⟨hsame, hnow⟩
      have hlast : w.AdmitsCall disk call :=
        hadmits call (List.mem_append_right _ List.mem_cons_self)
      have hanswers := run_answers hnow (hlast.of_same hsame)
      rw [hlast.batch?_eq hsame] at hanswers
      have hafter : disk.afterCalls (calls ++ [call]) = (call.run (disk.afterCalls calls)).disk :=
        List.foldl_append
      have hcontent : w.contentAfter disk content (calls ++ [call]) =
          w.nextContent disk (w.contentAfter disk content calls) call := List.foldl_append
      rw [hafter, hcontent]
      exact ⟨hsame.trans hanswers.elsewhere,
        hnow.of_same hanswers.elsewhere (hanswers.stored hnow.stored)⟩

/-- Calls with one configuration refine a record.

After any sequence of calls the store's file holds what the specification says, and in it the record
to which the accepted batches have been applied; no other file has changed.  A further call then
does what it should. -/
theorem calls_refine_record (hsuits : w.Suits disk content) (calls : List Call) (call : Call)
    (hadmits : ∀ other ∈ calls ++ [call], w.AdmitsCall disk other) :
    let now := disk.afterCalls calls
    let held := w.contentAfter disk content calls
    now.node? w.store = held.map .file ∧
      w.config.store.recordIn held =
        w.recordAfter disk (w.config.store.recordIn content) calls ∧
      Disk.SameApartFrom [w.store, w.draft] disk now ∧
      w.Answers (w.batch? disk call) call now held (call.run now) := by
  intro now held
  have hlast : w.AdmitsCall disk call :=
    hadmits call (List.mem_append_right _ List.mem_cons_self)
  rcases suits_afterCalls hsuits calls fun other hother =>
    hadmits other (List.mem_append_left _ hother) with ⟨hsame, hnow⟩
  have hanswers := run_answers hnow (hlast.of_same hsame)
  rw [hlast.batch?_eq hsame] at hanswers
  exact ⟨hnow.stored, recordIn_contentAfter hsuits calls, hsame, hanswers⟩

/-- Over a file of the wrong size and without a record an object is set, a table that is not there
is refused, and the record is shown, for people or for machines. -/
theorem calls_refine_record_wrong_size :
    let text := "offset = 1.5\n[store]\npath = \"s\"\naddress = 4\ncapacity = 64\n"
    let w : Workplace :=
      ⟨⟨⟨"s", 4, 64⟩, Thresholds.default, .default, .default, some ⟨0x3fc00000⟩, []⟩,
        ["work", "s"], ["work", "s.tmp"]⟩
    let disk : Disk := ⟨["work"],
      [(["work", "c"], .file (Utf8.encode text)), (["work", "s"], .file [1, 2, 3])]⟩
    let calls : List Call :=
      [⟨[], ["--config", "c", "set-object", "--slot", "2", "--weight", "100", "--tolerance", "5"]⟩,
        ⟨[], ["--config", "c", "import", "--csv", "t"]⟩]
    let call : Call := ⟨[], ["--config", "c", "show"]⟩
    let jsonCall : Call := ⟨[], ["--config", "c", "--json", "show"]⟩
    w.Suits disk (some [1, 2, 3]) ∧
      (∀ other ∈ calls ++ [call, jsonCall], w.AdmitsCall disk other) ∧
      (call.run (disk.afterCalls calls)).code = Completion.success ∧
      (call.run (disk.afterCalls calls)).stdout =
        "record @ 4: calibrated\nslot  weight      tolerance\n" ++
          "0     0.000       0.000\n1     0.000       0.000\n" ++
          "2     100.000     5.000\n3     0.000       0.000\noffset 0.000\n" ∧
      (jsonCall.run (disk.afterCalls calls)).code = Completion.success ∧
      (jsonCall.run (disk.afterCalls calls)).stdout =
        "\x7b\"address\":4,\"calibrated\":true,\"objects\":[" ++
          "\x7b\"slot\":0,\"tolerance\":0.0,\"weight\":0.0\x7d," ++
          "\x7b\"slot\":1,\"tolerance\":0.0,\"weight\":0.0\x7d," ++
          "\x7b\"slot\":2,\"tolerance\":5.0,\"weight\":100.0\x7d," ++
          "\x7b\"slot\":3,\"tolerance\":0.0,\"weight\":0.0\x7d],\"offset\":0.0\x7d\n" := by
  intro text w disk calls call jsonCall
  have hsuits : w.Suits disk (some [1, 2, 3]) :=
    ⟨by decide +kernel, rfl, by decide, by decide +kernel, by decide +kernel⟩
  have hconfig : Session.readConfig disk "c" = .ok w.config := by decide +kernel
  have hplace : disk.resolve "c" = .ok ["work", "c"] := by decide +kernel
  have htable : disk.resolve "t" = .ok ["work", "t"] := by decide +kernel
  have hstore : disk.resolve "s" = .ok w.store := by decide +kernel
  have hdraft : disk.resolve ("s" ++ ".tmp") = .ok w.draft := by decide +kernel
  have hjoin : Path.join (Path.parent "c") w.config.store.path = "s" := by decide +kernel
  -- All calls name the same configuration, and the one table is at a place of its own.
  have hadmits : ∀ (json : Bool) (level : Option String) (command : Command),
      (∀ table, command = .importObjects (some table) → table = "t") →
      w.Admits disk ⟨"c", json, level, command⟩ := by
    intro json level command hcommand
    have hpath : w.storePath ⟨"c", json, level, command⟩ = "s" := hjoin
    refine ⟨hconfig, ?_, by rw [hpath, hstore], by rw [hpath, hdraft], ?_⟩
    · intro place h
      rw [hplace] at h
      cases h
      decide
    · intro table h place hresolve
      rw [hcommand table h, htable] at hresolve
      cases hresolve
      decide
  -- What the arguments of the calls make up.
  have hset : Arguments.parse
      ["--config", "c", "set-object", "--slot", "2", "--weight", "100", "--tolerance", "5"] =
      .ok ⟨"c", false, none, .setObject 2 ⟨0x42c80000⟩ ⟨0x40a00000⟩⟩ := by decide +kernel
  have himport : Arguments.parse ["--config", "c", "import", "--csv", "t"] =
      .ok ⟨"c", false, none, .importObjects (some "t")⟩ := by decide +kernel
  have hshow : Arguments.parse ["--config", "c", "show"] = .ok ⟨"c", false, none, .showRecord⟩ := by
    decide +kernel
  have hshowJson : Arguments.parse ["--config", "c", "--json", "show"] =
      .ok ⟨"c", true, none, .showRecord⟩ := by decide +kernel
  have hall : ∀ other ∈ calls ++ [call, jsonCall], w.AdmitsCall disk other := by
    intro other hother invocation hparse
    simp only [calls, List.cons_append, List.nil_append, List.mem_cons, List.not_mem_nil,
      or_false] at hother
    rcases hother with rfl | rfl | rfl | rfl
    · cases hset.symm.trans hparse
      exact hadmits _ _ _ (by simp)
    · cases himport.symm.trans hparse
      exact hadmits _ _ _ (by simp)
    · cases hshow.symm.trans hparse
      exact hadmits _ _ _ (by simp)
    · cases hshowJson.symm.trans hparse
      exact hadmits _ _ _ (by simp)
  have hlast : ∀ other ∈ [call, jsonCall], ∀ earlier ∈ calls ++ [other],
      w.AdmitsCall disk earlier := by
    intro other hother earlier hearlier
    apply hall
    rcases List.mem_append.mp hearlier with hcalls | hsingle
    · exact List.mem_append_left _ hcalls
    · rw [List.mem_singleton.mp hsingle]
      exact List.mem_append_right _ hother
  have hrecord : w.recordAfter disk (w.config.store.recordIn (some [1, 2, 3])) calls =
      (Record.empty.setObject 2 ⟨0x42c80000⟩ ⟨0x40a00000⟩).stamp := by decide +kernel
  have hlevel : ∀ json, w.acceptsLevel ⟨"c", json, none, .showRecord⟩ = true := by decide +kernel
  rcases calls_refine_record hsuits calls call (hlast call (by simp)) with
    ⟨-, hheld, -, hanswers⟩
  rcases calls_refine_record hsuits calls jsonCall (hlast jsonCall (by simp)) with
    ⟨-, -, -, hanswersJson⟩
  have hshown := hanswers.shown _ hshow (hlevel false) rfl
  have hshownJson := hanswersJson.shown _ hshowJson (hlevel true) rfl
  rw [hheld, hrecord] at hshown hshownJson
  refine ⟨hsuits, hall, hshown.1, hshown.2.trans ?_, hshownJson.1, hshownJson.2.trans ?_⟩
  · decide +kernel
  · decide +kernel

end Sequence

end Workplace

end SmartScale
