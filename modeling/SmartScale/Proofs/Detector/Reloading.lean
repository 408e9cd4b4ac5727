import SmartScale.Proofs.Detector.Lemmas
import SmartScale.Proofs.RecordLayout
import SmartScale.Proofs.Store.Shown

/-!
# Saving what has just been loaded

A load accepts the bytes of a record if the tag in front of them is the right text up to its first
zero byte.  The text has six bytes, the tag has eight: the last one counts for nothing in a load, and
a save stamps it zero.  So a save right after a load may change that one byte of what the store shows,
and no other; if the byte is zero already, it changes nothing at all, and a store in a file that has
no changes does not rewrite its file.
-/

namespace SmartScale

namespace Detector

/-- What a load that succeeds has found in the bytes that the store shows. -/
structure Loaded {σ : Type} (shown : σ → Image) (d loaded : Detector σ) : Prop where
  fits : AddressRange.fits d.address recordLength (shown d.store).length = true
  valid : (Record.decode ((shown d.store).slice d.address.toNat recordLength)).isValid = true
  record : loaded.record = Record.decode ((shown d.store).slice d.address.toNat recordLength)
  address : loaded.address = d.address
  same : shown loaded.store = shown d.store

section Bytes

variable {σ : Type} {shown : σ → Image} {d loaded : Detector σ}

theorem Loaded.length_slice (h : Loaded shown d loaded) :
    ((shown d.store).slice d.address.toNat recordLength).length = recordLength :=
  Image.length_slice (AddressRange.le_of_fits h.fits)

/-- The bytes that a save right after the load writes. -/
theorem Loaded.encode_stamp (h : Loaded shown d loaded) :
    loaded.record.stamp.encode =
      ((shown d.store).slice d.address.toNat recordLength).set 7 0 := by
  rw [h.record]
  exact Record.encode_stamp_decode h.length_slice h.valid

/-- Where the last byte of the tag is zero, the record needs no stamp. -/
theorem Loaded.stamp_eq (h : Loaded shown d loaded)
    (hzero : (shown d.store)[d.address.toNat + 7]? = some 0) :
    loaded.record.stamp = loaded.record := by
  have hbyte : ((shown d.store).slice d.address.toNat recordLength)[7]? = some 0 := by
    rw [Image.slice, List.getElem?_take_of_lt (by decide), List.getElem?_drop]
    exact hzero
  rcases List.getElem?_eq_some_iff.mp hbyte with ⟨hlt, hget⟩
  calc loaded.record.stamp
      = Record.decode loaded.record.stamp.encode := (Record.decode_encode _).symm
    _ = Record.decode ((shown d.store).slice d.address.toNat recordLength) := by
        rw [h.encode_stamp, ← hget, List.set_getElem_self]
    _ = loaded.record := h.record.symm

end Bytes

variable {σ : Type} [CalibrationStore σ] {shown : σ → Image} {d : Detector σ}

/-! ## Loading -/

/-- A load accepts a record that can be read and begins with the text and a zero byte. -/
theorem load_iff (hshows : CalibrationStore.Shows shown) :
    d.load.1 = true ↔
      (∃ bytes, (CalibrationStore.read d.store d.address recordLength).1 = .ok bytes) ∧
        (shown d.store).slice d.address.toNat 7 = Record.tagText ++ [0] := by
  rcases hread : CalibrationStore.read d.store d.address recordLength with ⟨answer, store⟩
  cases answer with
  | error e =>
      rw [load_of_error hread]
      simp
  | ok bytes =>
      rcases hshows.read_ok hread with ⟨hfits, rfl, -⟩
      have hlength := Image.length_slice (AddressRange.le_of_fits hfits)
      have hseven : ((shown d.store).slice d.address.toNat recordLength).take 7 =
          (shown d.store).slice d.address.toNat 7 := by
        rw [Image.slice, List.take_take]
        rfl
      rw [load_of_ok hread, Record.decode_isValid hlength, hseven]
      simp

theorem loaded_of_load (hshows : CalibrationStore.Shows shown) (h : d.load.1 = true) :
    Loaded shown d d.load.2 := by
  rcases hread : CalibrationStore.read d.store d.address recordLength with ⟨answer, store⟩
  cases answer with
  | error e =>
      rw [load_of_error hread] at h
      cases h
  | ok bytes =>
      rcases hshows.read_ok hread with ⟨hfits, rfl, hstore⟩
      rw [load_of_ok hread] at h ⊢
      exact ⟨hfits, h, if_pos h, rfl, hstore⟩

theorem record_of_not_load (h : d.load.1 = false) : d.load.2.record = Record.empty := by
  rcases hread : CalibrationStore.read d.store d.address recordLength with ⟨answer, store⟩
  cases answer with
  | error e => rw [load_of_error hread]
  | ok bytes =>
      rw [load_of_ok hread] at h ⊢
      have hinvalid : (Record.decode bytes).isValid = false := h
      simp [hinvalid]

/-! ## Saving -/

/-- A save that succeeds has written and committed. -/
theorem save_calls (h : d.save.1 = .ok ()) :
    ∃ written, CalibrationStore.write d.store d.address d.record.stamp.encode = (.ok (), written) ∧
      CalibrationStore.commit written = (.ok (), d.save.2.store) := by
  rcases hwrite : CalibrationStore.write d.store d.address d.record.stamp.encode with
    ⟨answer, written⟩
  cases answer with
  | error e =>
      rw [save_of_write_error hwrite] at h
      cases h
  | ok _ =>
      rcases hcommit : CalibrationStore.commit written with ⟨answer, store⟩
      cases answer with
      | error e =>
          rw [save_of_commit_error hwrite hcommit] at h
          cases h
      | ok _ =>
          rw [save_of_ok hwrite hcommit]
          exact ⟨written, rfl, hcommit⟩

theorem Loaded.save {loaded : Detector σ} (h : Loaded shown d loaded)
    (hshows : CalibrationStore.Shows shown) (hsave : loaded.save.1 = .ok ()) :
    shown loaded.save.2.store = (shown d.store).set (d.address.toNat + 7) 0 := by
  rcases save_calls hsave with ⟨written, hwrite, hcommit⟩
  have hroom : d.address.toNat + recordLength ≤ (shown d.store).length :=
    AddressRange.le_of_fits h.fits
  calc shown loaded.save.2.store
      = shown written := hshows.commit_ok hcommit
    _ = (shown loaded.store).patch loaded.address.toNat loaded.record.stamp.encode :=
        (hshows.write_ok hwrite).2
    _ = (shown d.store).patch d.address.toNat
          (((shown d.store).slice d.address.toNat recordLength).set 7 0) := by
        rw [h.same, h.address, h.encode_stamp]
    _ = (shown d.store).set (d.address.toNat + 7) 0 := Image.patch_slice_set hroom (by decide) 0

/-- A save that writes what a file already has changes nothing, not even that there are changes. -/
theorem save_eq_self {f : Detector FileStore}
    (hfits : AddressRange.fits f.address recordLength f.store.cache.length = true)
    (hclean : f.store.dirty = false) (hstamp : f.record.stamp = f.record)
    (hsame : f.store.cache.patch f.address.toNat f.record.encode = f.store.cache) :
    f.save = (.ok (), f) := by
  have hwrite : CalibrationStore.write f.store f.address f.record.stamp.encode =
      (.ok (), f.store) := by
    have hrange : AddressRange.fits f.address f.record.encode.length f.store.cache.length = true := by
      rw [Record.encode_length]
      exact hfits
    have hrefill : f.store.refill f.store.cache = f.store := if_pos rfl
    rw [hstamp, FileStore.write_eq, FileStore.write_of_fits hrange, hsame, hrefill]
    rfl
  have hcommit : CalibrationStore.commit f.store = (.ok (), f.store) := by
    rw [FileStore.commit_eq, FileStore.commit_of_clean hclean]
    rfl
  rw [save_of_ok hwrite hcommit, hstamp]

/-- Records and their layouts determine one another.  A load succeeds exactly if the record can be
read and begins with the text of the tag and a zero byte; otherwise the record in effect is all
zeros.  A save right after a load that has succeeded clears the last byte of the tag in what the store
shows and changes nothing else, so over a file it writes nothing if that byte is zero and there were
no changes before. -/
theorem save_after_load (hshows : CalibrationStore.Shows shown) (d : Detector σ)
    (f : Detector FileStore) :
    (∀ bytes : Vector UInt8 recordLength, (Record.decode bytes.toList).encode = bytes.toList) ∧
    (∀ record : Record, Record.decode record.encode = record) ∧
    (d.load.1 = true ↔
      (∃ bytes, (CalibrationStore.read d.store d.address recordLength).1 = .ok bytes) ∧
        (shown d.store).slice d.address.toNat 7 = Record.tagText ++ [0]) ∧
    (d.load.1 = false → d.load.2.record.encode = List.replicate recordLength 0) ∧
    (d.load.1 = true → d.load.2.save.1 = .ok () →
      shown d.load.2.save.2.store = (shown d.store).set (d.address.toNat + 7) 0) ∧
    (f.load.1 = true → f.store.dirty = false → f.store.cache[f.address.toNat + 7]? = some 0 →
      f.load.2.store = f.store ∧ f.load.2.save = (.ok (), f.load.2)) := by
  refine ⟨?_, Record.decode_encode, load_iff hshows, ?_, ?_, ?_⟩
  · intro bytes
    exact Record.encode_decode Vector.length_toList
  · intro hload
    rw [record_of_not_load hload]
    decide
  · intro hload hsave
    exact (loaded_of_load hshows hload).save hshows hsave
  · intro hload hclean hzero
    have hloaded : Loaded FileStore.cache f f.load.2 := loaded_of_load FileStore.shows_cache hload
    have hstore : f.load.2.store = f.store := by rw [load_eq_replaced f]; rfl
    have hstamp : f.load.2.record.stamp = f.load.2.record := hloaded.stamp_eq hzero
    have hfits : AddressRange.fits f.load.2.address recordLength f.load.2.store.cache.length =
        true := by
      rw [hloaded.address, hloaded.same]
      exact hloaded.fits
    refine ⟨hstore, save_eq_self hfits (by rw [hstore]; exact hclean) hstamp ?_⟩
    rw [hloaded.record, Record.encode_decode hloaded.length_slice, hloaded.same, hloaded.address]
    exact Image.patch_slice _ _ _ (AddressRange.le_of_fits hloaded.fits)

/-- A tag whose last byte is not zero is accepted and then cleared in memory; a file in which it is
zero is not touched. -/
theorem save_after_load_free_byte :
    let image : Image := Record.tagText ++ [0, 0x78] ++ List.replicate 36 0x40
    let d : Detector MemoryStore := Detector.new (MemoryStore.ofImage image) 0
    let file : Image := image.set 7 0
    let disk : Disk := ⟨["work"], [(["work", "nv"], .file file)]⟩
    let f : Detector FileStore := Detector.new (FileStore.opened disk "nv" (some file) 44) 0
    CalibrationStore.Shows MemoryStore.cache ∧ d.load.1 = true ∧ d.load.2.save.1 = .ok () ∧
      d.load.2.save.2.store.cache = file ∧ file ≠ image ∧
      f.load.1 = true ∧ f.store.dirty = false ∧ f.load.2.save.2.store = f.store := by
  intro image d file disk f
  have hclean : f.store.dirty = false := rfl
  have hzero : f.store.cache[f.address.toNat + 7]? = some 0 := rfl
  rcases save_after_load MemoryStore.shows_cache d f with ⟨-, -, hload, -, hsaved, hfile⟩
  rcases save_after_load FileStore.shows_cache f f with ⟨-, -, hloadFile, -⟩
  have hread : ∃ bytes, (CalibrationStore.read d.store d.address recordLength).1 = .ok bytes :=
    ⟨image, rfl⟩
  have hreadFile : ∃ bytes, (CalibrationStore.read f.store f.address recordLength).1 = .ok bytes :=
    ⟨file, rfl⟩
  have hvalid : d.load.1 = true := hload.mpr ⟨hread, rfl⟩
  have hvalidFile : f.load.1 = true := hloadFile.mpr ⟨hreadFile, rfl⟩
  have hroom : AddressRange.fits d.load.2.address d.load.2.record.stamp.encode.length
      d.load.2.store.capacity = true := by
    rw [Record.encode_length]
    rfl
  have hsave : d.load.2.save.1 = .ok () := by
    rw [save_of_ok (MemoryStore.write_of_fits hroom) rfl]
  rcases hfile hvalidFile hclean hzero with ⟨hstore, hsame⟩
  refine ⟨MemoryStore.shows_cache, hvalid, hsave, hsaved hvalid hsave, by decide, hvalidFile,
    hclean, ?_⟩
  rw [hsame]
  exact hstore

end Detector

end SmartScale
