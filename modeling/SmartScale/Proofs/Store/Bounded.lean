import SmartScale.Proofs.Detector.Operations
import SmartScale.Proofs.RecordLayout
import SmartScale.Proofs.Store.Publishing
import SmartScale.Store.Memory

/-!
# Stores that keep to their capacity

A store is bounded by its capacity (`CalibrationStore.BoundedBy`) if a range that fits the capacity
can always be read and written, if a commit fails for reasons of the host alone, and if nothing that
is done with the store changes the capacity.  Stores in memory and stores in files are.

A detector at an address that fits then stays in range (`Detector.InRange`), whatever is done with
it.
-/

namespace SmartScale

/-- The store accepts the ranges that fit its capacity, and keeps that capacity. -/
structure CalibrationStore.BoundedBy {σ : Type} [CalibrationStore σ] (capacity : σ → Nat) :
    Prop where
  read_ok : ∀ {s : σ} {address : UInt64} {length : Nat},
    AddressRange.fits address length (capacity s) = true →
      ∃ bytes, (CalibrationStore.read s address length).1 = .ok bytes
  write_ok : ∀ {s : σ} {address : UInt64} {bytes : List UInt8},
    AddressRange.fits address bytes.length (capacity s) = true →
      (CalibrationStore.write s address bytes).1 = .ok ()
  commit_error : ∀ {s : σ} {e : DeviceError}, (CalibrationStore.commit s).1 = .error e →
    ∃ text, e = .named (.io text)
  capacity_read : ∀ (s : σ) (address : UInt64) (length : Nat),
    capacity (CalibrationStore.read s address length).2 = capacity s
  capacity_write : ∀ (s : σ) (address : UInt64) (bytes : List UInt8),
    capacity (CalibrationStore.write s address bytes).2 = capacity s
  capacity_commit : ∀ s : σ, capacity (CalibrationStore.commit s).2 = capacity s

/-! ## Stores in memory and in files -/

theorem MemoryStore.boundedBy : CalibrationStore.BoundedBy MemoryStore.capacity where
  read_ok := by
    intro s address length hfits
    exact ⟨_, congrArg Prod.fst (MemoryStore.read_of_fits hfits)⟩
  write_ok := by
    intro s address bytes hfits
    rw [MemoryStore.write_of_fits hfits]
  commit_error := by
    intro s e h
    cases h
  capacity_read s address length := rfl
  capacity_write := by
    intro s address bytes
    cases hfits : AddressRange.fits address bytes.length s.capacity with
    | false => rw [MemoryStore.write_of_not_fits hfits]
    | true =>
        rw [MemoryStore.write_of_fits hfits]
        exact Image.length_patch (AddressRange.le_of_fits hfits)
  capacity_commit s := rfl

theorem FileStore.boundedBy : CalibrationStore.BoundedBy FileStore.capacity where
  read_ok := by
    intro s address length hfits
    have hread : s.read address length = .ok (s.cache.slice address.toNat length) :=
      Image.read_of_fits hfits
    exact ⟨_, congrArg (Except.mapError DeviceError.named) hread⟩
  write_ok := by
    intro s address bytes hfits
    have hwrite : (s.write address bytes).1 = .ok () := by
      rw [FileStore.write_of_fits hfits]
    exact congrArg (Except.mapError DeviceError.named) hwrite
  commit_error := by
    intro s e h
    change (s.commit.1.mapError .named) = .error e at h
    rcases hcommit : s.commit with ⟨answer, next⟩
    rw [hcommit] at h
    cases answer with
    | ok _ => cases h
    | error fault =>
        rcases FileStore.commit_eq_error hcommit with ⟨-, error, disk, -, rfl, -⟩
        cases h
        exact ⟨_, rfl⟩
  capacity_read s address length := rfl
  capacity_write := by
    intro s address bytes
    change (s.write address bytes).2.capacity = s.capacity
    cases hfits : AddressRange.fits address bytes.length s.cache.length with
    | false => simp [FileStore.write, Image.write, hfits]
    | true =>
        rw [FileStore.write_of_fits hfits]
        change (s.refill (s.cache.patch address.toNat bytes)).cache.length = s.cache.length
        rw [FileStore.refill_cache]
        exact Image.length_patch (AddressRange.le_of_fits hfits)
  capacity_commit := by
    intro s
    change s.commit.2.cache.length = s.cache.length
    rcases hcommit : s.commit with ⟨answer, next⟩
    cases answer with
    | ok _ => rw [(FileStore.commit_eq_ok hcommit).2.1]
    | error fault =>
        rcases FileStore.commit_eq_error hcommit with ⟨-, e, disk, -, -, rfl⟩
        rfl

/-! ## Detectors over them -/

/-- An operation that puts no store of another capacity in place. -/
def Operation.Keeps {σ : Type} (capacity : σ → Nat) (size : Nat) : Operation σ → Prop
  | .exchange store => capacity store = size
  | _ => True

namespace Detector

variable {σ : Type} [CalibrationStore σ] {capacity : σ → Nat} {d : Detector σ} {size : Nat}

/-- The record can be read and written, so that a save fails only when it commits. -/
structure InRange (d : Detector σ) : Prop where
  load : ∃ bytes, (CalibrationStore.read d.store d.address recordLength).1 = .ok bytes
  save : d.save.1 = .ok () ∨ ∃ text, d.save.1 =
    .error (saveReport "committing calibration store" (.named (.io text)))

theorem inRange_of_fits (hbounded : CalibrationStore.BoundedBy capacity)
    (hfits : AddressRange.fits d.address recordLength (capacity d.store) = true) : d.InRange where
  load := hbounded.read_ok hfits
  save := by
    have hwritten :
        (CalibrationStore.write d.store d.address d.record.stamp.encode).1 = .ok () := by
      apply hbounded.write_ok
      rw [Record.encode_length]
      exact hfits
    rcases hwrite : CalibrationStore.write d.store d.address d.record.stamp.encode with
      ⟨answer, written⟩
    rw [hwrite] at hwritten
    cases hwritten
    rcases hcommit : CalibrationStore.commit written with ⟨answer, store⟩
    cases answer with
    | ok _ =>
        rw [save_of_ok hwrite hcommit]
        exact .inl rfl
    | error e =>
        rcases hbounded.commit_error (s := written) (by rw [hcommit]) with ⟨text, rfl⟩
        rw [save_of_commit_error hwrite hcommit]
        exact .inr ⟨text, rfl⟩

/-- No operation changes the room that there is for the record. -/
theorem operate_room (hbounded : CalibrationStore.BoundedBy capacity)
    (hsize : capacity d.store = size) (operation : Operation σ)
    (hkeeps : operation.Keeps capacity size) : capacity (d.operate operation).store = size := by
  cases operation with
  | process value => exact hsize
  | setObject index weight tolerance => exact hsize
  | setOffset offset => exact hsize
  | exchange store => exact hkeeps
  | applyObjects rows =>
      rw [operate, applyObjects_eq]
      exact hsize
  | load =>
      rw [operate, load_eq_replaced]
      exact (hbounded.capacity_read _ _ _).trans hsize
  | save =>
      have hwritten := (hbounded.capacity_write d.store d.address d.record.stamp.encode).trans hsize
      -- the save has stopped after its write, or else after its commit
      rcases save_store d with hstore | hstore
      · exact (congrArg capacity hstore).trans hwritten
      · exact (congrArg capacity hstore).trans ((hbounded.capacity_commit _).trans hwritten)

theorem operateAll_room (hbounded : CalibrationStore.BoundedBy capacity)
    (hsize : capacity d.store = size) {operations : List (Operation σ)}
    (hkeeps : ∀ operation ∈ operations, operation.Keeps capacity size) :
    capacity (d.operateAll operations).store = size := by
  induction operations generalizing d with
  | nil => exact hsize
  | cons operation rest ih =>
      have hroom := operate_room hbounded hsize operation (hkeeps operation List.mem_cons_self)
      exact ih hroom fun later hlater => hkeeps later (List.mem_cons_of_mem _ hlater)

/-- A record that fits stays in range through all that is done with the detector. -/
theorem inRange_operateAll (hbounded : CalibrationStore.BoundedBy capacity)
    (hsize : capacity d.store = size)
    (hfits : AddressRange.fits d.address recordLength size = true) {operations : List (Operation σ)}
    (hkeeps : ∀ operation ∈ operations, operation.Keeps capacity size) :
    (d.operateAll operations).InRange := by
  apply inRange_of_fits hbounded
  rw [operateAll_address, operateAll_room hbounded hsize hkeeps]
  exact hfits

end Detector

end SmartScale
