import SmartScale.Proofs.Cli.Batch
import SmartScale.Proofs.RecordLayout
import SmartScale.Proofs.Store.File

/-!
# What each command does

The store of a configuration holds a record (`StoreSettings.recordIn`), whatever its file is: absent,
of another size, or with bytes that are no record.  A command that changes the record applies a batch
to it and puts the file in place with the new record's bytes (`StoreSettings.publish`); if its batch
is refused it fails and leaves the disk alone.  Every other command leaves the disk alone and works
on the record as it is.
-/

namespace SmartScale

/-! ## A checked configuration -/

namespace Config

variable {c : Config}

theorem check_eq_ok_iff : c.check = .ok () ↔
    (∀ rule ∈ c.rules, rule.1 = false) ∧ checkObjects c.objects = .ok () := by
  rw [check]
  cases hfind : c.rules.find? Prod.fst with
  | none =>
      have hkept : ∀ rule ∈ c.rules, rule.1 = false := by simpa using hfind
      cases hobjects : checkObjects c.objects with
      | ok => simpa [Except.mapError] using hkept
      | error fault => simp [Except.mapError]
  | some rule =>
      have hbroken : rule.1 = true := List.find?_some hfind
      have hmem : rule ∈ c.rules := List.mem_of_find?_eq_some hfind
      simp only [reduceCtorEq, false_iff]
      intro h
      rw [h.1 rule hmem] at hbroken
      cases hbroken

theorem fits_of_check (h : c.check = .ok ()) :
    AddressRange.fits c.store.address recordLength c.store.capacity.toNat = true := by
  have hrule := (check_eq_ok_iff.mp h).1
    (!AddressRange.fits c.store.address recordLength c.store.capacity.toNat,
      .recordOutOfStore c.store.capacity c.store.address) (by simp [rules])
  simpa using hrule

/-- The thresholds pass the check that the detector makes. -/
theorem thresholds_of_check (h : c.check = .ok ()) : c.detector.check = .ok () := by
  have hrules := (check_eq_ok_iff.mp h).1
  have hchange := hrules (!c.detector.change.isPositive, .changeThreshold) (by simp [rules])
  have hnoObject := hrules (!c.detector.noObject.isPositive, .noObjectThreshold) (by simp [rules])
  have hsamples := hrules (c.detector.samples < 2, .matchSamples) (by simp [rules])
  have hchange : c.detector.change.isPositive = true := by simpa using hchange
  have hnoObject : c.detector.noObject.isPositive = true := by simpa using hnoObject
  have hsamples : ¬ c.detector.samples < 2 := by simpa using hsamples
  have htwo : 2 ≤ c.detector.samples.toNat := by
    rw [UInt32.lt_iff_toNat_lt, Nat.not_lt] at hsamples
    exact hsamples
  exact Thresholds.check_eq_ok_iff.mpr ⟨hchange, hnoObject, htwo⟩

end Config

/-! ## What a store holds -/

namespace StoreSettings

variable {s : StoreSettings} {content : Option Image}

/-- The record in a file, or in none: the one at the address if its tag is valid, else the empty
one.  The file is first brought to the capacity. -/
def recordIn (s : StoreSettings) (content : Option Image) : Record :=
  let image := FileStore.view content s.capacity.toNat
  let record := Record.decode (image.slice s.address.toNat recordLength)
  if record.isValid then record else Record.empty

/-- The file brought to the capacity, with the stamped record at the address. -/
def publish (s : StoreSettings) (content : Option Image) (record : Record) : Image :=
  (FileStore.view content s.capacity.toNat).patch s.address.toNat record.stamp.encode

theorem room_of_fits
    (hfits : AddressRange.fits s.address recordLength s.capacity.toNat = true)
    (content : Option Image) (record : Record) :
    s.address.toNat + record.stamp.encode.length ≤
      (FileStore.view content s.capacity.toNat).length := by
  rw [FileStore.length_view, Record.encode_length]
  exact AddressRange.le_of_fits hfits

/-- What has been published is what is found. -/
theorem recordIn_publish
    (hfits : AddressRange.fits s.address recordLength s.capacity.toNat = true) (record : Record) :
    s.recordIn (some (s.publish content record)) = record.stamp := by
  have hroom := room_of_fits hfits content record
  have hsize : (s.publish content record).length = s.capacity.toNat := by
    rw [publish, Image.length_patch hroom, FileStore.length_view]
  have hview : FileStore.view (some (s.publish content record)) s.capacity.toNat =
      s.publish content record := by
    rw [← hsize]
    exact Image.resize_length _
  have hslice : (s.publish content record).slice s.address.toNat recordLength =
      record.stamp.encode := by
    have hpatched := Image.slice_patch hroom
    rw [Record.encode_length] at hpatched
    exact hpatched
  simp only [recordIn, hview, hslice, Record.decode_encode, Record.stamp_isValid, if_true]

/-- Erased bytes are no record, so a store without a file does not hold what is published. -/
theorem publish_ne_blank
    (hfits : AddressRange.fits s.address recordLength s.capacity.toNat = true) (record : Record) :
    s.publish none record ≠ FileStore.view none s.capacity.toNat := by
  intro h
  have hroom := room_of_fits hfits none record
  have hslice : (FileStore.view none s.capacity.toNat).slice s.address.toNat
      record.stamp.encode.length = record.stamp.encode := by
    rw [← h]
    exact Image.slice_patch hroom
  have hfirst : (0x61 : UInt8) ∈ record.stamp.encode := List.mem_cons_self
  rw [← hslice] at hfirst
  have herased : (0x61 : UInt8) = erased := by
    have hmem := List.mem_of_mem_drop (List.mem_of_mem_take hfirst)
    have hblank : FileStore.view none s.capacity.toNat = Image.blank s.capacity.toNat :=
      Image.resize_nil _
    rw [hblank] at hmem
    exact List.eq_of_mem_replicate hmem
  exact absurd herased (by decide)

end StoreSettings

/-! ## Which commands change the record -/

namespace Command

/-- The command changes the record, if what it is given is accepted. -/
def isUpdate : Command → Bool
  | .setObject _ _ _ | .setOffset _ | .importObjects _ => true
  | _ => false

/-- The batch that a command applies under a configuration, unless its arguments or its rows are
refused.  A table is read on the given disk. -/
def batch? (config : Config) (disk : Disk) : Command → Option CommandContext.Batch
  | .setObject slot weight tolerance =>
    match checkObjects [⟨slot, weight, tolerance⟩] with
    | .ok () => some ⟨[⟨slot, weight, tolerance⟩], none⟩
    | .error _ => none
  | .setOffset offset => if offset.isFinite then some ⟨[], some offset⟩ else none
  | .importObjects (some table) =>
    match ObjectsTable.load disk table with
    | .ok rows => some ⟨rows, none⟩
    | .error _ => none
  | .importObjects none =>
    if config.objects.isEmpty && config.offset.isNone then none
    else some ⟨config.objects, config.offset⟩
  | _ => none

section Batch

variable {config : Config} {disk : Disk} {command : Command} {b : CommandContext.Batch}

/-- How a command comes by its batch. -/
inductive Accepts (config : Config) (disk : Disk) : Command → CommandContext.Batch → Prop
  | row {slot : UInt64} {weight tolerance : Reading}
      (checked : checkObjects [⟨slot, weight, tolerance⟩] = .ok ()) :
      Accepts config disk (.setObject slot weight tolerance) ⟨[⟨slot, weight, tolerance⟩], none⟩
  | offset {offset : Reading} (finite : offset.isFinite = true) :
      Accepts config disk (.setOffset offset) ⟨[], some offset⟩
  | table {table : String} {rows : List ObjectRow}
      (loaded : ObjectsTable.load disk table = .ok rows) :
      Accepts config disk (.importObjects (some table)) ⟨rows, none⟩
  | configured (given : (config.objects.isEmpty && config.offset.isNone) = false) :
      Accepts config disk (.importObjects none) ⟨config.objects, config.offset⟩

theorem accepts_of_batch? (h : command.batch? config disk = some b) :
    Accepts config disk command b := by
  cases command with
  | setObject slot weight tolerance =>
      rw [batch?] at h
      split at h
      · next hchecked =>
        cases h
        exact .row hchecked
      · cases h
  | setOffset offset =>
      rw [batch?] at h
      split at h
      · next hfinite =>
        cases h
        exact .offset hfinite
      · cases h
  | importObjects table =>
      cases table with
      | none =>
          rw [batch?] at h
          split at h
          · cases h
          · next hsome =>
            cases h
            exact .configured (eq_false_of_ne_true hsome)
      | some table =>
          rw [batch?] at h
          split at h
          · next hload =>
            cases h
            exact .table hload
          · cases h
  | showRecord => cases h
  | classify input all paced maxSamples => cases h
  | health => cases h

theorem Accepts.isUpdate (h : Accepts config disk command b) : command.isUpdate = true := by
  cases h <;> rfl

/-- The rows of an accepted batch have been checked. -/
theorem Accepts.checkObjects (h : Accepts config disk command b)
    (hobjects : SmartScale.checkObjects config.objects = .ok ()) :
    SmartScale.checkObjects b.rows = .ok () := by
  cases h with
  | row hchecked => exact hchecked
  | offset hfinite => rfl
  | table hload => exact (ObjectsTable.of_load hload).2
  | configured hsome => exact hobjects

end Batch

end Command

namespace CommandContext

/-! ## Opening and saving -/

/-- A command can work: its configuration has been checked, its store's file, if there is one, is at
a place with the given content, and the draft of a new file has a place of its own. -/
structure Ready (c : CommandContext) (place draft : List String) (content : Option Image) : Prop where
  thresholds : c.config.detector.check = .ok ()
  fits : AddressRange.fits c.config.store.address recordLength c.config.store.capacity.toNat = true
  objects : checkObjects c.config.objects = .ok ()
  path : c.disk.resolve c.config.store.path = .ok place
  draftPath : c.disk.resolve (c.config.store.path ++ ".tmp") = .ok draft
  apart : place ≠ draft
  stored : c.disk.node? place = content.map .file
  draftFree : c.disk.node? draft ≠ some .directory

/-- The detector over the store as a command opens it, with a record in effect. -/
def detectorWith (c : CommandContext) (content : Option Image) (record : Record) :
    Detector FileStore where
  store := FileStore.opened c.disk c.config.store.path content c.config.store.capacity.toNat
  address := c.config.store.address
  thresholds := c.config.detector
  record := record
  debounce := Debounce.initial

/-- A command opens the store and finds its record, whatever the file is, if there is one. -/
theorem openDetector_of_holds {c : CommandContext} {content : Option Image}
    (hthresholds : c.config.detector.check = .ok ())
    (hfits : AddressRange.fits c.config.store.address recordLength
      c.config.store.capacity.toNat = true)
    (hheld : c.disk.Holds c.config.store.path content) :
    c.openDetector = .ok (c.detectorWith content (c.config.store.recordIn content)) := by
  let store := FileStore.opened c.disk c.config.store.path content c.config.store.capacity.toNat
  let d := Detector.ofParts store c.config.store.address c.config.detector
  have hsize : store.cache.length = c.config.store.capacity.toNat := FileStore.length_view _ _
  have hread : CalibrationStore.read d.store d.address recordLength =
      (.ok (store.cache.slice c.config.store.address.toNat recordLength), store) := by
    change ((FileStore.read store c.config.store.address recordLength).mapError _, store) = _
    rw [FileStore.read, Image.read_of_fits (by rw [hsize]; exact hfits)]
    rfl
  have hload : d.load.2 = c.detectorWith content (c.config.store.recordIn content) := by
    rw [Detector.load_of_ok hread]
    rfl
  have hbuild : Detector.build store c.config.store.address c.config.detector = .ok d := by
    rw [Detector.build, hthresholds]
    rfl
  simp only [openDetector, FileStore.open?_of_holds hheld, Detector.open?]
  change ((Detector.build store _ _).map _).mapError _ = _
  rw [hbuild, ← hload]
  rfl

section Ready

variable {c : CommandContext} {place draft : List String} {content : Option Image}

theorem openDetector_eq (h : c.Ready place draft content) :
    c.openDetector = .ok (c.detectorWith content (c.config.store.recordIn content)) :=
  openDetector_of_holds h.thresholds h.fits ((Disk.holds_iff_of_resolve h.path).mpr h.stored)

theorem withDetector_eq (h : c.Ready place draft content) (work : Detector FileStore → Response) :
    c.withDetector work = work (c.detectorWith content (c.config.store.recordIn content)) := by
  rw [withDetector, openDetector_eq h]

/-- A save puts the record into the file and prints it; nothing else on the disk changes. -/
theorem save_eq (h : c.Ready place draft content) (what : String) (record : Record) :
    ∃ after, c.save what (c.detectorWith content record) =
        ⟨(c.detectorWith content record.stamp).showSaved c.json what, after, none⟩ ∧
      Disk.SameApartFrom [place, draft] c.disk after ∧
      after.node? place = some (.file (c.config.store.publish content record)) := by
  let d := c.detectorWith content record
  let image := c.config.store.publish content record
  have hfits : AddressRange.fits c.config.store.address record.stamp.encode.length
      c.config.store.capacity.toNat = true := by
    rw [Record.encode_length]
    exact h.fits
  have hnew : content = none → c.config.store.publish content record ≠
      FileStore.view content c.config.store.capacity.toNat := by
    intro hcontent
    subst hcontent
    exact StoreSettings.publish_ne_blank h.fits record
  have hcommitted : ∃ after, (d.store.refill image).commit = (.ok (), after) ∧
      Disk.SameApartFrom [place, draft] c.disk after.disk ∧
      after.disk.node? place = some (.file image) :=
    FileStore.commit_write h.path h.draftPath h.apart h.stored h.draftFree hnew
  rcases hcommitted with ⟨store, hcommit, hsame, hnode⟩
  have hwrite : CalibrationStore.write d.store d.address d.record.stamp.encode =
      (.ok (), d.store.refill image) := by
    have hcache : d.store.cache.length = c.config.store.capacity.toNat := FileStore.length_view _ _
    have hwritten : d.store.write d.address d.record.stamp.encode =
        (.ok (), d.store.refill image) := FileStore.write_of_fits (by rw [hcache]; exact hfits)
    change ((d.store.write _ _).1.mapError _, (d.store.write _ _).2) = _
    rw [hwritten]
    rfl
  have hcommit' : CalibrationStore.commit (d.store.refill image) = (.ok (), store) := by
    change ((d.store.refill image).commit.1.mapError _, (d.store.refill image).commit.2) = _
    rw [hcommit]
    rfl
  refine ⟨store.disk, ?_, hsame, hnode⟩
  change c.save what d = _
  rw [save, Detector.save_of_ok hwrite hcommit']
  rfl

/-! ## Every command -/

/-- An accepted batch is applied and saved. -/
theorem perform_eq_save {command : Command} {b : Batch}
    (h : Command.Accepts c.config c.disk command b) :
    ∃ what, c.perform command =
      c.withDetector fun detector => c.save what (applyBatch b detector) := by
  cases h with
  | row hchecked =>
      rw [perform, setObject, hchecked]
      exact ⟨_, rfl⟩
  | offset hfinite =>
      rw [perform, setOffset, hfinite]
      exact ⟨_, rfl⟩
  | table hload =>
      have hrows := (ObjectsTable.of_load hload).1
      rw [perform, importObjects, batch, hload]
      simp only [hrows, Bool.false_and, Bool.false_eq_true, if_false]
      exact ⟨_, rfl⟩
  | configured hsome =>
      rw [perform, importObjects, batch]
      simp only [hsome, Bool.false_eq_true, if_false]
      exact ⟨_, rfl⟩

/-- A command whose batch is refused fails. -/
theorem perform_eq_fail {command : Command} (hupdate : command.isUpdate = true)
    (hb : command.batch? c.config c.disk = none) :
    ∃ report, c.perform command = c.fail report := by
  cases command with
  | setObject slot weight tolerance =>
      rw [Command.batch?] at hb
      split at hb
      · cases hb
      · next fault hfault =>
        rw [perform, setObject, hfault]
        exact ⟨_, rfl⟩
  | setOffset offset =>
      rw [Command.batch?] at hb
      split at hb
      · cases hb
      · next hfinite =>
        rw [perform, setOffset]
        exact ⟨_, if_pos (by simpa using hfinite)⟩
  | importObjects table =>
      cases table with
      | none =>
          rw [Command.batch?] at hb
          split at hb
          · next hnone =>
            rw [perform, importObjects, batch]
            exact ⟨_, if_pos hnone⟩
          · cases hb
      | some table =>
          rw [Command.batch?] at hb
          split at hb
          · cases hb
          · next e herror =>
            rw [perform, importObjects, batch, herror]
            exact ⟨_, rfl⟩
  | showRecord => cases hupdate
  | classify input all paced maxSamples => cases hupdate
  | health => cases hupdate

theorem withDetector_disk {work : Detector FileStore → Response}
    (hwork : ∀ detector, (work detector).disk = c.disk) : (c.withDetector work).disk = c.disk := by
  rw [withDetector]
  split
  · rfl
  · exact hwork _

/-- A command that does not change the record leaves the disk alone, however it ends. -/
theorem perform_disk_of_not_update {command : Command} (h : command.isUpdate = false) :
    (c.perform command).disk = c.disk := by
  cases command with
  | showRecord => exact withDetector_disk fun _ => rfl
  | health => exact withDetector_disk fun _ => rfl
  | classify input all paced maxSamples =>
      rw [perform, classify]
      split
      · rfl
      · refine withDetector_disk fun detector => ?_
        dsimp only
        split <;> rfl
  | setObject slot weight tolerance => cases h
  | setOffset offset => cases h
  | importObjects table => cases h

/-- Without an accepted batch a command leaves the disk alone. -/
theorem perform_disk_of_batch?_eq_none {command : Command}
    (hb : command.batch? c.config c.disk = none) : (c.perform command).disk = c.disk := by
  cases hupdate : command.isUpdate with
  | true =>
      rcases perform_eq_fail hupdate hb with ⟨report, hfail⟩
      rw [hfail]
      rfl
  | false => exact perform_disk_of_not_update hupdate

/-- With an accepted batch a command succeeds and publishes the updated record. -/
theorem perform_publishes (h : c.Ready place draft content) {command : Command} {b : Batch}
    (hb : Command.Accepts c.config c.disk command b) :
    ∃ output after, c.perform command = ⟨output, after, none⟩ ∧
      Disk.SameApartFrom [place, draft] c.disk after ∧
      after.node? place = some (.file
        (c.config.store.publish content (b.update (c.config.store.recordIn content)))) := by
  have hchecked : checkObjects b.rows = .ok () := hb.checkObjects h.objects
  rcases perform_eq_save hb with ⟨what, hperform⟩
  rcases save_eq h what (b.update (c.config.store.recordIn content)) with
    ⟨after, hsave, hsame, hnode⟩
  refine ⟨(c.detectorWith content (b.update (c.config.store.recordIn content)).stamp).showSaved
    c.json what, after, ?_, hsame, hnode⟩
  rw [hperform, withDetector_eq h, Batch.applyBatch_eq hchecked]
  exact hsave

end Ready

end CommandContext

end SmartScale
