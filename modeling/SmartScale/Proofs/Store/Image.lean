import SmartScale.Store.Memory

/-!
# Reading and writing ranges of bytes

A range fits if its end, added in words without wrapping, is within the capacity.  A write that fits
changes the bytes of its range and no others, and a later read of the range gives them back.
-/

namespace SmartScale

/-! ## Ranges -/

namespace AddressRange

/-- The range check: the sum stays in the words and within the capacity. -/
theorem fits_iff {address : UInt64} {length capacity : Nat} :
    fits address length capacity = true ↔
      address.toNat + length < UInt64.size ∧ address.toNat + length ≤ capacity := by
  have haddress : address.toNat < 2 ^ 64 := address.toNat_lt
  have hsum : (address + UInt64.ofNat length).toNat = (address.toNat + length) % 2 ^ 64 := by
    simp [UInt64.toNat_add]
  unfold fits end?
  simp only [UInt64.le_iff_toNat_le, hsum, UInt64.size]
  split
  · next last hlast =>
    split at hlast
    · cases hlast
      rw [decide_eq_true_iff, hsum]
      omega
    · cases hlast
  · next hnone =>
    split at hnone
    · cases hnone
    · constructor
      · intro h
        cases h
      · omega

theorem le_of_fits {address : UInt64} {length capacity : Nat}
    (h : fits address length capacity = true) : address.toNat + length ≤ capacity :=
  (fits_iff.mp h).2

end AddressRange

/-! ## Bytes -/

namespace Image

variable {image : Image} {address : Nat} {bytes : List UInt8}

@[simp]
theorem length_resize (image : Image) (capacity : Nat) :
    (image.resize capacity).length = capacity := by
  simp only [resize, List.length_append, List.length_take, List.length_replicate]
  omega

theorem resize_length (image : Image) : image.resize image.length = image := by
  simp [resize]

@[simp]
theorem resize_nil (capacity : Nat) : resize [] capacity = blank capacity := by
  simp [resize, blank]

@[simp]
theorem length_patch (h : address + bytes.length ≤ image.length) :
    (image.patch address bytes).length = image.length := by
  simp only [patch, List.length_append, List.length_take, List.length_drop]
  omega

/-- A range that has just been written reads as what was written. -/
theorem slice_patch (h : address + bytes.length ≤ image.length) :
    (image.patch address bytes).slice address bytes.length = bytes := by
  have hfront : (image.take address).length = address := List.length_take_of_le (by omega)
  rw [slice, patch, List.append_assoc, List.drop_append_of_le_length (by omega),
    List.drop_of_length_le (by omega), List.nil_append, List.take_left]

theorem length_slice {length : Nat} (h : address + length ≤ image.length) :
    (image.slice address length).length = length := by
  rw [slice, List.length_take, List.length_drop]
  omega

/-- Writing what is there already changes nothing. -/
theorem patch_slice (image : Image) (address length : Nat)
    (h : address + length ≤ image.length) :
    image.patch address (image.slice address length) = image := by
  rw [patch, length_slice h, slice, List.append_assoc, ← List.drop_drop, List.take_append_drop,
    List.take_append_drop]

/-- Writing a range back with another byte at one place changes that byte alone. -/
theorem patch_slice_set {length i : Nat} (h : address + length ≤ image.length) (hi : i < length)
    (b : UInt8) :
    image.patch address ((image.slice address length).set i b) = image.set (address + i) b := by
  have hslice : (image.slice address length).length = length := length_slice h
  have hfront : (image.take address).length = address := List.length_take_of_le (by omega)
  have hparts : image.take address ++ (image.slice address length ++ image.drop (address + length)) =
      image := by
    have hback := patch_slice image address length h
    rwa [patch, hslice, List.append_assoc] at hback
  calc image.patch address ((image.slice address length).set i b)
      = image.take address ++
          ((image.slice address length).set i b ++ image.drop (address + length)) := by
        rw [patch, List.length_set, hslice, List.append_assoc]
    _ = (image.take address ++
          (image.slice address length ++ image.drop (address + length))).set (address + i) b := by
        rw [List.set_append_right _ _ (by omega), List.set_append_left _ _ (by omega), hfront,
          Nat.add_sub_cancel_left]
    _ = image.set (address + i) b := by rw [hparts]

/-- The later of two writes to one range counts. -/
theorem patch_patch {later : List UInt8} (hsize : later.length = bytes.length)
    (h : address + bytes.length ≤ image.length) :
    (image.patch address bytes).patch address later = image.patch address later := by
  have hfront : (image.take address).length = address := List.length_take_of_le (by omega)
  have hboth : (image.take address ++ bytes).length = address + bytes.length := by
    rw [List.length_append, hfront]
  rw [patch, patch, patch, hsize, List.append_assoc (image.take address),
    List.take_append_of_le_length (by omega), List.take_of_length_le (by omega),
    ← List.append_assoc (image.take address), List.drop_append_of_le_length (by omega),
    List.drop_of_length_le (by omega), List.nil_append]

/-- Outside its range a write changes nothing. -/
theorem getElem?_patch {i : Nat} (h : address + bytes.length ≤ image.length)
    (hi : i < address ∨ address + bytes.length ≤ i) :
    (image.patch address bytes)[i]? = image[i]? := by
  have hfront : (image.take address).length = address := List.length_take_of_le (by omega)
  have hboth : (image.take address ++ bytes).length = address + bytes.length := by
    rw [List.length_append, hfront]
  rcases hi with hi | hi
  · rw [patch, List.append_assoc, List.getElem?_append_left (by omega), List.getElem?_take_of_lt hi]
  · rw [patch, List.getElem?_append_right (by omega), List.getElem?_drop, hboth]
    congr 1
    omega

/-- Inside its range a write leaves what was written. -/
theorem getElem?_patch_of_mem {i : Nat} (h : address + bytes.length ≤ image.length)
    (hlow : address ≤ i) (hhigh : i < address + bytes.length) :
    (image.patch address bytes)[i]? = bytes[i - address]? := by
  have hfront : (image.take address).length = address := List.length_take_of_le (by omega)
  rw [patch, List.append_assoc, List.getElem?_append_right (by omega), hfront,
    List.getElem?_append_left (by omega)]

/-- A range apart from the written one reads as before. -/
theorem slice_patch_of_apart {start length : Nat} (h : address + bytes.length ≤ image.length)
    (hapart : address + bytes.length ≤ start ∨ start + length ≤ address) :
    (image.patch address bytes).slice start length = image.slice start length := by
  apply List.ext_getElem?
  intro i
  rw [slice, slice, List.getElem?_take, List.getElem?_take]
  split
  · rw [List.getElem?_drop, List.getElem?_drop]
    apply getElem?_patch h
    omega
  · rfl

/-! ## Operations that check their range -/

variable {start : UInt64} {length : Nat}

theorem read_of_fits (h : AddressRange.fits start length image.length = true) :
    image.read start length = .ok (image.slice start.toNat length) := by
  rw [read, if_pos h]

theorem read_of_not_fits (h : AddressRange.fits start length image.length = false) :
    image.read start length = .error (.outOfRange start length image.length) := by
  rw [read, h]
  rfl

theorem write_of_fits (h : AddressRange.fits start bytes.length image.length = true) :
    image.write start bytes = .ok (image.patch start.toNat bytes) := by
  rw [write, if_pos h]

theorem write_of_not_fits (h : AddressRange.fits start bytes.length image.length = false) :
    image.write start bytes = .error (.outOfRange start bytes.length image.length) := by
  rw [write, h]
  rfl

theorem read_eq_ok (h : image.read start length = .ok bytes) :
    AddressRange.fits start length image.length = true ∧ bytes = image.slice start.toNat length := by
  cases hfits : AddressRange.fits start length image.length with
  | false =>
      rw [read_of_not_fits hfits] at h
      cases h
  | true =>
      rw [read_of_fits hfits] at h
      cases h
      exact ⟨rfl, rfl⟩

theorem write_eq_ok {next : Image} (h : image.write start bytes = .ok next) :
    AddressRange.fits start bytes.length image.length = true ∧
      next = image.patch start.toNat bytes := by
  cases hfits : AddressRange.fits start bytes.length image.length with
  | false =>
      rw [write_of_not_fits hfits] at h
      cases h
  | true =>
      rw [write_of_fits hfits] at h
      cases h
      exact ⟨rfl, rfl⟩

end Image

/-! ## Stores in memory -/

namespace MemoryStore

variable {s : MemoryStore} {address : UInt64} {length : Nat} {bytes : List UInt8}

theorem read_eq : CalibrationStore.read s address length =
    ((s.read address length).mapError DeviceError.named, s) := rfl

theorem write_eq : CalibrationStore.write s address bytes =
    ((s.write address bytes).1.mapError DeviceError.named, (s.write address bytes).2) := rfl

theorem read_of_fits (h : AddressRange.fits address length s.capacity = true) :
    CalibrationStore.read s address length = (.ok (s.cache.slice address.toNat length), s) := by
  rw [read_eq, read, Image.read_of_fits h]
  rfl

theorem read_of_not_fits (h : AddressRange.fits address length s.capacity = false) :
    CalibrationStore.read s address length =
      (.error (.named (.outOfRange address length s.capacity)), s) := by
  rw [read_eq, read, Image.read_of_not_fits h]
  rfl

theorem write_of_fits (h : AddressRange.fits address bytes.length s.capacity = true) :
    CalibrationStore.write s address bytes =
      (.ok (), { s with cache := s.cache.patch address.toNat bytes }) := by
  rw [write_eq, write, Image.write_of_fits h]
  rfl

theorem write_of_not_fits (h : AddressRange.fits address bytes.length s.capacity = false) :
    CalibrationStore.write s address bytes =
      (.error (.named (.outOfRange address bytes.length s.capacity)), s) := by
  rw [write_eq, write, Image.write_of_not_fits h]
  rfl

end MemoryStore

end SmartScale
