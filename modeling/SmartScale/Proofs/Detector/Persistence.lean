import Mathlib.Data.List.Induction
import SmartScale.Proofs.Detector.Lemmas
import SmartScale.Proofs.RecordLayout
import SmartScale.Proofs.Store.Image
import SmartScale.Store.Faulty

/-!
# Calibration persists through faults

A detector over a store in memory, of which any call may fail on its way, is used in any order:
readings, changes to the record, loads, saves, power cycles, and new detectors over the same store.
The log of what happened tells which record was saved last (`Log.saved?`) and which was written last
since the power was last off (`Log.written?`).

`Device.Kept` says what the store then holds: the initial image with the bytes of the one record in
its committed part and with those of the other in its cache.  Every action keeps this
(`Kept.act`), hence every sequence of actions does (`kept_after`), and `Device.calibration_persists`
reads off what the committed bytes are and what a load finds.
-/

namespace SmartScale

/-- A detector over a store in memory of which any call may fail. -/
abbrev Device : Type := Detector (FaultyStore MemoryStore)

/-- What can be done with a device.  A fault makes the store call fail before it reaches the store. -/
inductive Action
  | process (value : Reading)
  | setObject (index : Nat) (weight tolerance : Reading)
  | applyObjects (rows : List ObjectRow)
  | setOffset (offset : Reading)
  | load (readFault : Option DeviceError)
  | save (writeFault commitFault : Option DeviceError)
  | powerCycle
  /-- Take the store out and build a new detector over it, at the same address. -/
  | reopen (thresholds : Thresholds)

/-- What an action answers. -/
inductive Answer
  | done
  /-- Whether a load found a valid record. -/
  | loaded (found : Bool)
  | saved (result : Except Report Unit)

namespace Device

/-- The device with the faults that its next store calls meet. -/
def withFaults (d : Device) (readFault writeFault commitFault : Option DeviceError) : Device :=
  { d with store := ⟨d.store.inner, readFault, writeFault, commitFault⟩ }

def act (d : Device) : Action → Answer × Device
  | .process value => (.done, (d.process value).2)
  | .setObject index weight tolerance => (.done, d.setObject index weight tolerance)
  | .applyObjects rows => (.done, d.applyObjects rows)
  | .setOffset offset => (.done, d.setOffset offset)
  | .load readFault =>
    let (found, next) := (d.withFaults readFault none none).load
    (.loaded found, next)
  | .save writeFault commitFault =>
    let (result, next) := (d.withFaults none writeFault commitFault).save
    (.saved result, next)
  | .powerCycle => (.done, { d with store := { d.store with inner := d.store.inner.powerCycle } })
  | .reopen thresholds => (.done, Detector.ofParts d.store d.address thresholds)

def after (d : Device) (actions : List Action) : Device :=
  actions.foldl (fun d action => (d.act action).2) d

end Device

/-! ## Logs -/

structure Entry where
  before : Device
  action : Action
  answer : Answer

namespace Entry

/-- The record of a save that ended well. -/
def saved? (entry : Entry) : Option Record :=
  match entry.answer with
  | .saved (.ok ()) => some entry.before.record.stamp
  | _ => none

/-- The record of a save of which at least the write ended well. -/
def written? (entry : Entry) : Option Record :=
  match entry.action with
  | .save writeFault commitFault =>
    let line := (entry.before.withFaults none writeFault commitFault).store
    let record := entry.before.record.stamp
    match (CalibrationStore.write line entry.before.address record.encode).1 with
    | .ok () => some record
    | .error _ => none
  | _ => none

/-- The power was off and on. -/
def isPowerCycle (entry : Entry) : Bool :=
  match entry.action with
  | .powerCycle => true
  | _ => false

end Entry

/-- What happened to a device, the first action first. -/
abbrev Log : Type := List Entry

namespace Log

/-- The record of the last save that ended well. -/
def saved? (log : Log) : Option Record := log.reverse.findSome? Entry.saved?

/-- The record of the last save, since the power was off, of which at least the write ended well. -/
def written? (log : Log) : Option Record :=
  (log.reverse.takeWhile fun entry => !entry.isPowerCycle).findSome? Entry.written?

theorem saved?_append (log : Log) (entry : Entry) :
    saved? (log ++ [entry]) = entry.saved?.or (saved? log) := by
  rw [saved?, List.reverse_append, List.reverse_singleton, List.singleton_append,
    List.findSome?_cons]
  cases entry.saved? <;> rfl

/-- What was saved carries the stamp of its save. -/
theorem isValid_of_saved? {log : Log} {record : Record} (h : log.saved? = some record) :
    record.isValid = true := by
  rcases List.exists_of_findSome?_eq_some h with ⟨entry, -, hentry⟩
  unfold Entry.saved? at hentry
  split at hentry
  · cases hentry
    exact Record.stamp_isValid _
  · cases hentry

theorem written?_append (log : Log) (entry : Entry) :
    written? (log ++ [entry]) =
      if entry.isPowerCycle then none else entry.written?.or (written? log) := by
  rw [written?, List.reverse_append, List.reverse_singleton, List.singleton_append,
    List.takeWhile_cons]
  cases entry.isPowerCycle with
  | true => rfl
  | false =>
      rw [Bool.not_false, if_pos rfl, List.findSome?_cons]
      cases entry.written? <;> rfl

end Log

namespace Device

/-- The log of a sequence of actions. -/
def log (d : Device) : List Action → Log
  | [] => []
  | action :: rest => ⟨d, action, (d.act action).1⟩ :: log (d.act action).2 rest

theorem after_append (d : Device) (actions : List Action) (action : Action) :
    d.after (actions ++ [action]) = ((d.after actions).act action).2 :=
  List.foldl_append

theorem log_append (d : Device) (actions : List Action) (action : Action) :
    d.log (actions ++ [action]) =
      d.log actions ++ [⟨d.after actions, action, ((d.after actions).act action).1⟩] := by
  induction actions generalizing d with
  | nil => rfl
  | cons first rest ih => exact congrArg _ (ih _)

/-! ## What the store holds -/

/-- The bytes that the committed part holds at the record's address. -/
def committedBytes (image : Image) (address : UInt64) (log : Log) : List UInt8 :=
  match log.saved? with
  | some record => record.encode
  | none => image.slice address.toNat recordLength

/-- The bytes that the cache holds at the record's address. -/
def cachedBytes (image : Image) (address : UInt64) (log : Log) : List UInt8 :=
  match log.written? with
  | some record => record.encode
  | none => committedBytes image address log

section Bytes

variable {image : Image} {address : UInt64} {log : Log} {entry : Entry} {record : Record}

theorem committedBytes_quiet (hsaved : entry.saved? = none) :
    committedBytes image address (log ++ [entry]) = committedBytes image address log := by
  rw [committedBytes, committedBytes, Log.saved?_append, hsaved, Option.none_or]

theorem committedBytes_saved (hsaved : entry.saved? = some record) :
    committedBytes image address (log ++ [entry]) = record.encode := by
  rw [committedBytes, Log.saved?_append, hsaved, Option.some_or]

theorem cachedBytes_quiet (hsaved : entry.saved? = none) (hwritten : entry.written? = none)
    (hcycle : entry.isPowerCycle = false) :
    cachedBytes image address (log ++ [entry]) = cachedBytes image address log := by
  rw [cachedBytes, cachedBytes, Log.written?_append, hcycle, hwritten, committedBytes_quiet hsaved,
    Option.none_or, if_neg Bool.false_ne_true]

theorem cachedBytes_written (hwritten : entry.written? = some record)
    (hcycle : entry.isPowerCycle = false) :
    cachedBytes image address (log ++ [entry]) = record.encode := by
  rw [cachedBytes, Log.written?_append, hcycle, hwritten, Option.some_or,
    if_neg Bool.false_ne_true]

/-- A power cycle leaves in the cache what is committed. -/
theorem cachedBytes_cycle (hcycle : entry.isPowerCycle = true) :
    cachedBytes image address (log ++ [entry]) = committedBytes image address (log ++ [entry]) := by
  rw [cachedBytes, Log.written?_append, hcycle, if_pos rfl]

end Bytes

/-- What is kept through every action: the store is the initial image but for the record. -/
structure Kept (image : Image) (address : UInt64) (d : Device) (log : Log) : Prop where
  address_eq : d.address = address
  /-- The committed part has the record saved last. -/
  committed_eq : d.store.inner.committed =
    image.patch address.toNat (committedBytes image address log)
  /-- The cache has the record written last. -/
  cache_eq : d.store.inner.cache = image.patch address.toNat (cachedBytes image address log)

section Bytes

variable {image : Image} {address : UInt64}

theorem slice_length (hfits : AddressRange.fits address recordLength image.length = true) :
    (image.slice address.toNat recordLength).length = recordLength :=
  Image.length_slice (AddressRange.le_of_fits hfits)

theorem committedBytes_length (hfits : AddressRange.fits address recordLength image.length = true)
    (log : Log) : (committedBytes image address log).length = recordLength := by
  unfold committedBytes
  cases log.saved? with
  | none => exact slice_length hfits
  | some record => exact record.encode_length

theorem cachedBytes_length (hfits : AddressRange.fits address recordLength image.length = true)
    (log : Log) : (cachedBytes image address log).length = recordLength := by
  unfold cachedBytes
  cases log.written? with
  | none => exact committedBytes_length hfits log
  | some record => exact record.encode_length

/-- A device that has just been put over an image. -/
theorem kept_start (hfits : AddressRange.fits address recordLength image.length = true)
    {d : Device} (haddress : d.address = address)
    (hstore : d.store.inner = MemoryStore.ofImage image) : Kept image address d [] where
  address_eq := haddress
  committed_eq := by
    rw [hstore]
    exact (Image.patch_slice image _ _ (AddressRange.le_of_fits hfits)).symm
  cache_eq := by
    rw [hstore]
    exact (Image.patch_slice image _ _ (AddressRange.le_of_fits hfits)).symm

end Bytes

/-! ## Loads -/

section Load

variable {d : Device}

theorem act_load_fault (d : Device) (e : DeviceError) :
    d.act (.load (some e)) =
      (.loaded false, { d.withFaults (some e) none none with record := Record.empty }) := by
  have hread : CalibrationStore.read (d.withFaults (some e) none none).store d.address recordLength =
      (.error e, (d.withFaults (some e) none none).store) := rfl
  simp only [act, Detector.load_of_error hread]

/-- The bytes that a load looks at. -/
def recordBytes (d : Device) : List UInt8 := d.store.inner.cache.slice d.address.toNat recordLength

theorem act_load_of_fits
    (hfits : AddressRange.fits d.address recordLength d.store.inner.cache.length = true) :
    d.act (.load none) = (.loaded (Record.decode d.recordBytes).isValid,
      { d.withFaults none none none with
        record := if (Record.decode d.recordBytes).isValid then Record.decode d.recordBytes
          else Record.empty }) := by
  have hmemory : d.store.inner.read d.address recordLength = .ok d.recordBytes :=
    Image.read_of_fits hfits
  have hread : CalibrationStore.read (d.withFaults none none none).store d.address recordLength =
      (.ok d.recordBytes, (d.withFaults none none none).store) := by
    simp only [CalibrationStore.read, FaultyStore.guarded, withFaults, hmemory, Except.mapError]
  simp only [act, Detector.load_of_ok hread]

theorem act_load_of_not_fits
    (hout : AddressRange.fits d.address recordLength d.store.inner.cache.length = false) :
    d.act (.load none) =
      (.loaded false, { d.withFaults none none none with record := Record.empty }) := by
  have hmemory : d.store.inner.read d.address recordLength =
      .error (.outOfRange d.address recordLength d.store.inner.cache.length) :=
    Image.read_of_not_fits hout
  have hread : CalibrationStore.read (d.withFaults none none none).store d.address recordLength =
      (.error (.named (.outOfRange d.address recordLength d.store.inner.cache.length)),
        (d.withFaults none none none).store) := by
    simp only [CalibrationStore.read, FaultyStore.guarded, withFaults, hmemory, Except.mapError]
  simp only [act, Detector.load_of_error hread]

end Load

/-! ## Actions that leave the store alone -/

/-- An action that is neither a save nor a power cycle passes the store on as it is. -/
theorem act_inner {d : Device} {action : Action} (hsave : ∀ w c, action ≠ .save w c)
    (hpower : action ≠ .powerCycle) :
    (d.act action).2.store.inner = d.store.inner ∧ (d.act action).2.address = d.address := by
  cases action with
  | save w c => exact absurd rfl (hsave w c)
  | powerCycle => exact absurd rfl hpower
  | applyObjects rows =>
      rw [act, Detector.applyObjects_eq]
      exact ⟨rfl, rfl⟩
  | load readFault =>
      cases readFault with
      | some e =>
          rw [act_load_fault]
          exact ⟨rfl, rfl⟩
      | none =>
          cases hfits : AddressRange.fits d.address recordLength d.store.inner.cache.length with
          | true =>
              rw [act_load_of_fits hfits]
              exact ⟨rfl, rfl⟩
          | false =>
              rw [act_load_of_not_fits hfits]
              exact ⟨rfl, rfl⟩
  | _ => exact ⟨rfl, rfl⟩

/-- What such an action adds to the log says nothing about what the store holds. -/
theorem quiet_entry {d : Device} {action : Action} (hsave : ∀ w c, action ≠ .save w c)
    (hpower : action ≠ .powerCycle) :
    let entry : Entry := ⟨d, action, (d.act action).1⟩
    entry.saved? = none ∧ entry.written? = none ∧ entry.isPowerCycle = false := by
  cases action with
  | save w c => exact absurd rfl (hsave w c)
  | powerCycle => exact absurd rfl hpower
  | _ => exact ⟨rfl, rfl, rfl⟩

/-! ## Saves -/

section Save

variable {inner : MemoryStore} {readFault commitFault : Option DeviceError} {address : UInt64}
  {bytes : List UInt8}

/-- A write that is not made to fail and that fits changes the cache. -/
theorem write_line (hfits : AddressRange.fits address bytes.length inner.cache.length = true) :
    CalibrationStore.write (⟨inner, readFault, none, commitFault⟩ : FaultyStore MemoryStore)
        address bytes =
      (.ok (), ⟨{ inner with cache := inner.cache.patch address.toNat bytes }, readFault, none,
        commitFault⟩) := by
  have hwrite : inner.write address bytes =
      (.ok (), { inner with cache := inner.cache.patch address.toNat bytes }) := by
    rw [MemoryStore.write, Image.write_of_fits hfits]
  simp only [CalibrationStore.write, FaultyStore.guarded, hwrite, Except.mapError]

variable {d : Device}

theorem act_save_write_fault (e : DeviceError) (commitFault : Option DeviceError) :
    d.act (.save (some e) commitFault) =
      (.saved (.error (Detector.saveReport "writing calibration record" e)),
        { d.withFaults none (some e) commitFault with record := d.record.stamp }) := by
  have hwrite : CalibrationStore.write (d.withFaults none (some e) commitFault).store d.address
      d.record.stamp.encode = (.error e, (d.withFaults none (some e) commitFault).store) := rfl
  simp only [act, Detector.save_of_write_error hwrite]
  rfl

/-- The store after a write of the record in effect. -/
def written (d : Device) : MemoryStore :=
  { d.store.inner with
    cache := d.store.inner.cache.patch d.address.toNat d.record.stamp.encode }

variable (hfits : AddressRange.fits d.address recordLength d.store.inner.cache.length = true)

include hfits

theorem write_withFaults (commitFault : Option DeviceError) :
    CalibrationStore.write (d.withFaults none none commitFault).store d.address
      d.record.stamp.encode = (.ok (), ⟨d.written, none, none, commitFault⟩) := by
  refine write_line ?_
  rw [Record.encode_length]
  exact hfits

theorem act_save_commit_fault (e : DeviceError) :
    d.act (.save none (some e)) =
      (.saved (.error (Detector.saveReport "committing calibration store" e)),
        { d with store := ⟨d.written, none, none, some e⟩, record := d.record.stamp }) := by
  have hcommit : CalibrationStore.commit
      (⟨d.written, none, none, some e⟩ : FaultyStore MemoryStore) =
        (.error e, ⟨d.written, none, none, some e⟩) := rfl
  rw [act, Detector.save_of_commit_error (write_withFaults hfits (some e)) hcommit]
  rfl

theorem act_save_ok :
    d.act (.save none none) = (.saved (.ok ()),
      { d with store := ⟨d.written.commit, none, none, none⟩, record := d.record.stamp }) := by
  have hcommit : CalibrationStore.commit
      (⟨d.written, none, none, none⟩ : FaultyStore MemoryStore) =
        (.ok (), ⟨d.written.commit, none, none, none⟩) := rfl
  rw [act, Detector.save_of_ok (write_withFaults hfits none) hcommit]
  rfl

/-- What a save adds to the log: its record was written unless the write was made to fail. -/
theorem written?_save (commitFault : Option DeviceError) (answer : Answer) :
    (⟨d, .save none commitFault, answer⟩ : Entry).written? = some d.record.stamp := by
  simp only [Entry.written?, write_withFaults hfits commitFault]

end Save

/-! ## Every action -/

section Kept

variable {image : Image} {address : UInt64} {d : Device} {log : Log}

theorem Kept.cache_fits (hfits : AddressRange.fits address recordLength image.length = true)
    (h : Kept image address d log) :
    AddressRange.fits d.address recordLength d.store.inner.cache.length = true := by
  have hlength := cachedBytes_length hfits log
  rw [h.address_eq, h.cache_eq, Image.length_patch]
  · exact hfits
  · rw [hlength]
    exact AddressRange.le_of_fits hfits

/-- The cache after a write of the record in effect. -/
theorem Kept.written_cache (hfits : AddressRange.fits address recordLength image.length = true)
    (h : Kept image address d log) :
    d.written.cache = image.patch address.toNat d.record.stamp.encode := by
  have hlength := cachedBytes_length hfits log
  rw [written, h.cache_eq, h.address_eq]
  refine Image.patch_patch ?_ ?_
  · rw [Record.encode_length, hlength]
  · rw [hlength]
    exact AddressRange.le_of_fits hfits

/-- A save keeps the account of the store, wherever it fails. -/
theorem Kept.act_save (hfits : AddressRange.fits address recordLength image.length = true)
    (h : Kept image address d log) (writeFault commitFault : Option DeviceError) :
    Kept image address (d.act (.save writeFault commitFault)).2
      (log ++ [⟨d, .save writeFault commitFault, (d.act (.save writeFault commitFault)).1⟩]) := by
  have hcache := h.cache_fits hfits
  cases writeFault with
  | some e =>
      -- The write does not reach the store, so nothing has changed.
      rw [act_save_write_fault]
      refine ⟨h.address_eq, ?_, ?_⟩
      · rw [committedBytes_quiet rfl]
        exact h.committed_eq
      · rw [cachedBytes_quiet rfl rfl rfl]
        exact h.cache_eq
  | none =>
      cases commitFault with
      | some e =>
          -- The record is in the cache alone.
          rw [act_save_commit_fault hcache]
          refine ⟨h.address_eq, ?_, ?_⟩
          · rw [committedBytes_quiet rfl]
            exact h.committed_eq
          · rw [cachedBytes_written (written?_save hcache _ _) rfl]
            exact h.written_cache hfits
      | none =>
          -- The commit copies the cache, hence the same bytes to both parts.
          rw [act_save_ok hcache]
          refine ⟨h.address_eq, ?_, ?_⟩
          · rw [committedBytes_saved rfl]
            exact h.written_cache hfits
          · rw [cachedBytes_written (written?_save hcache _ _) rfl]
            exact h.written_cache hfits

/-- Every action keeps the account of the store. -/
theorem Kept.act (hfits : AddressRange.fits address recordLength image.length = true)
    (h : Kept image address d log) (action : Action) :
    Kept image address (d.act action).2 (log ++ [⟨d, action, (d.act action).1⟩]) := by
  by_cases hpower : action = .powerCycle
  · subst hpower
    refine ⟨h.address_eq, ?_, ?_⟩
    · rw [committedBytes_quiet rfl]
      exact h.committed_eq
    · -- the cache falls back to the committed part
      rw [cachedBytes_cycle rfl, committedBytes_quiet rfl]
      exact h.committed_eq
  by_cases hsave : ∀ w c, action ≠ .save w c
  · rcases act_inner (d := d) hsave hpower with ⟨hinner, haddress⟩
    rcases quiet_entry (d := d) hsave hpower with ⟨hsaved, hwritten, hcycle⟩
    refine ⟨haddress.trans h.address_eq, ?_, ?_⟩
    · rw [committedBytes_quiet hsaved, hinner]
      exact h.committed_eq
    · rw [cachedBytes_quiet hsaved hwritten hcycle, hinner]
      exact h.cache_eq
  · push Not at hsave
    rcases hsave with ⟨writeFault, commitFault, rfl⟩
    exact h.act_save hfits writeFault commitFault

/-- Every sequence of actions keeps the account of the store. -/
theorem kept_after (hfits : AddressRange.fits address recordLength image.length = true)
    (haddress : d.address = address) (hstore : d.store.inner = MemoryStore.ofImage image)
    (actions : List Action) : Kept image address (d.after actions) (d.log actions) := by
  induction actions using List.reverseRecOn with
  | nil => exact kept_start hfits haddress hstore
  | append_singleton actions action ih =>
      rw [after_append, log_append]
      exact ih.act hfits action

/-! ## What a load finds -/

/-- A load of which the read is not made to fail looks at the cached bytes. -/
theorem Kept.act_load (hfits : AddressRange.fits address recordLength image.length = true)
    (h : Kept image address d log) :
    (d.act (.load none)).1 =
        .loaded (Record.decode (cachedBytes image address log)).isValid ∧
      ((Record.decode (cachedBytes image address log)).isValid = true →
        (d.act (.load none)).2.record = Record.decode (cachedBytes image address log)) := by
  have hbytes : d.recordBytes = cachedBytes image address log := by
    have hlength := cachedBytes_length hfits log
    rw [recordBytes, h.cache_eq, h.address_eq, ← hlength]
    apply Image.slice_patch
    rw [hlength]
    exact AddressRange.le_of_fits hfits
  rw [act_load_of_fits (h.cache_fits hfits), hbytes]
  exact ⟨rfl, fun hvalid => if_pos hvalid⟩

/-- A load that finds a record has not been made to fail. -/
theorem eq_none_of_loaded {readFault : Option DeviceError}
    (hload : (d.act (.load readFault)).1 = .loaded true) : readFault = none := by
  cases readFault with
  | none => rfl
  | some e =>
      rw [act_load_fault] at hload
      cases hload

theorem Kept.committed_slice
    (hfits : AddressRange.fits address recordLength image.length = true)
    (h : Kept image address d log) :
    d.store.inner.committed.slice address.toNat recordLength =
      committedBytes image address log := by
  have hlength := committedBytes_length hfits log
  rw [h.committed_eq, ← hlength]
  refine Image.slice_patch ?_
  rw [hlength]
  exact AddressRange.le_of_fits hfits

/-- Outside the record's bytes nothing is ever changed. -/
theorem Kept.outside (hfits : AddressRange.fits address recordLength image.length = true)
    (h : Kept image address d log) {i : Nat}
    (hi : i < address.toNat ∨ address.toNat + recordLength ≤ i) :
    d.store.inner.committed[i]? = image[i]? ∧ d.store.inner.cache[i]? = image[i]? := by
  have hle := AddressRange.le_of_fits hfits
  have hcommitted := committedBytes_length hfits log
  have hcached := cachedBytes_length hfits log
  rw [h.committed_eq, h.cache_eq]
  exact ⟨Image.getElem?_patch (by omega) (by omega), Image.getElem?_patch (by omega) (by omega)⟩

/-- After a power cycle a new detector finds the record saved last. -/
theorem Kept.load_reopened (hfits : AddressRange.fits address recordLength image.length = true)
    (h : Kept image address d log) {record : Record} (hsaved : log.saved? = some record)
    (thresholds : Thresholds) :
    let reopened := ((d.act .powerCycle).2.act (.reopen thresholds)).2
    (reopened.act (.load none)).1 = .loaded true ∧
      (reopened.act (.load none)).2.record = record := by
  intro reopened
  have hcycled := h.act hfits .powerCycle
  have hload := (hcycled.act hfits (.reopen thresholds)).act_load hfits
  -- Nothing has been written since the power cycle, so the cached bytes are the committed ones.
  have hbytes : cachedBytes image address
      ((log ++ [⟨d, .powerCycle, (d.act .powerCycle).1⟩]) ++
        [⟨(d.act .powerCycle).2, .reopen thresholds, .done⟩]) = record.encode := by
    rw [cachedBytes_quiet rfl rfl rfl, cachedBytes_cycle rfl, committedBytes_quiet rfl,
      committedBytes, hsaved]
  have hvalid := Log.isValid_of_saved? hsaved
  rw [show ((d.act .powerCycle).2.act (.reopen thresholds)).1 = .done from rfl, hbytes,
    Record.decode_encode, hvalid] at hload
  exact ⟨hload.1, hload.2 rfl⟩

/-- A load that finds a record has found the one written last. -/
theorem Kept.load_record (hfits : AddressRange.fits address recordLength image.length = true)
    (h : Kept image address d log) {readFault : Option DeviceError}
    (hload : (d.act (.load readFault)).1 = .loaded true) :
    (d.act (.load readFault)).2.record = match log.written? with
      | some record => record
      | none => Record.decode (committedBytes image address log) := by
  cases eq_none_of_loaded hload
  rcases h.act_load hfits with ⟨hanswer, hrecord⟩
  rw [hanswer] at hload
  rw [hrecord (by simpa using hload), cachedBytes]
  cases log.written? with
  | none => rfl
  | some record => exact record.decode_encode

end Kept

/-- A detector over a store in memory is used in any order, and any call of the store may fail.

* The committed bytes at the address are those of the record that was saved last, the initial ones
  before the first save.
* All other bytes stay as they were, in the cache and in the committed part.
* Once a save has ended well, a new detector after a power cycle finds its record.
* A load that finds a record finds the one written last since the power was off, or else the
  committed one. -/
theorem calibration_persists {image : Image} {address : UInt64} {d : Device}
    (hfits : AddressRange.fits address recordLength image.length = true)
    (haddress : d.address = address) (hstore : d.store.inner = MemoryStore.ofImage image)
    (actions : List Action) :
    let now := d.after actions
    let history := d.log actions
    let committed := now.store.inner.committed.slice address.toNat recordLength
    (committed = match history.saved? with
      | some record => record.encode
      | none => image.slice address.toNat recordLength) ∧
    (∀ i, i < address.toNat ∨ address.toNat + recordLength ≤ i →
      now.store.inner.committed[i]? = image[i]? ∧ now.store.inner.cache[i]? = image[i]?) ∧
    (∀ record, history.saved? = some record → ∀ thresholds,
      let reopened := ((now.act .powerCycle).2.act (.reopen thresholds)).2
      (reopened.act (.load none)).1 = .loaded true ∧
        (reopened.act (.load none)).2.record = record) ∧
    (∀ readFault, (now.act (.load readFault)).1 = .loaded true →
      (now.act (.load readFault)).2.record = match history.written? with
        | some record => record
        | none => Record.decode committed) := by
  intro now history committed
  have hkept : Kept image address now history := kept_after hfits haddress hstore actions
  have hcommitted : committed = committedBytes image address history :=
    hkept.committed_slice hfits
  refine ⟨hcommitted, fun i hi => hkept.outside hfits hi,
    fun record hsaved thresholds => hkept.load_reopened hfits hsaved thresholds,
    fun readFault hload => ?_⟩
  rw [hcommitted]
  exact hkept.load_record hfits hload

/-- A save of which the commit fails: after a power cycle the record of the save before is found. -/
theorem calibration_persists_failed_commit :
    let image := Image.blank 64
    let d : Device := Detector.new (FaultyStore.ofStore (MemoryStore.ofImage image)) 8
    let actions : List Action := [.setObject 1 ⟨0x42c80000⟩ ⟨0x40a00000⟩, .save none none,
      .setOffset ⟨0x3f800000⟩, .save none (some (.other "bus fault"))]
    AddressRange.fits 8 recordLength image.length = true ∧ d.address = 8 ∧
      d.store.inner = MemoryStore.ofImage image ∧
      ∀ thresholds,
        let reopened := (((d.after actions).act .powerCycle).2.act (.reopen thresholds)).2
        (reopened.act (.load none)).1 = .loaded true ∧
          (reopened.act (.load none)).2.record =
            (Record.empty.setObject 1 ⟨0x42c80000⟩ ⟨0x40a00000⟩).stamp := by
  intro image d actions
  have hfits : AddressRange.fits 8 recordLength image.length = true := by decide
  have hsaved : (d.log actions).saved? =
      some (Record.empty.setObject 1 ⟨0x42c80000⟩ ⟨0x40a00000⟩).stamp := by
    decide +kernel
  have haddress : d.address = 8 := rfl
  have hstore : d.store.inner = MemoryStore.ofImage image := rfl
  rcases calibration_persists hfits haddress hstore actions with ⟨-, -, hreopened, -⟩
  exact ⟨hfits, haddress, hstore, hreopened _ hsaved⟩

end Device

end SmartScale
