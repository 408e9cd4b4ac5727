import SmartScale.Proofs.Cli.Commands
import SmartScale.Proofs.Store.Bounded

/-!
# A checked configuration can be used

The rules of a configuration are those of the parts that it sets up: what `Config.check` accepts, no
part refuses later, and what a part would refuse is not accepted (`Config.check_agrees`).

* The thresholds pass the check that a detector makes.
* The record fits the store, whose range check adds in words and refuses a sum that wraps.
* Every row of the objects names a slot of the record, and no other row takes it away again.
-/

namespace SmartScale

/-- A capacity is a word, so a sum that is not beyond it has not wrapped. -/
theorem StoreSettings.fits_iff {s : StoreSettings} :
    AddressRange.fits s.address recordLength s.capacity.toNat = true ↔
      s.address.toNat + recordLength ≤ s.capacity.toNat := by
  have hword : s.capacity.toNat < UInt64.size := s.capacity.toNat_lt
  rw [AddressRange.fits_iff]
  constructor
  · intro h
    exact h.2
  · intro h
    exact ⟨Nat.lt_of_le_of_lt h hword, h⟩

/-! ## Rows -/

namespace Record

variable {r : Record}

theorem object?_eq_pairAt {index : Nat} (h : index < slotCount) :
    r.object? index = some (r.pairAt ⟨index, h⟩) :=
  dif_pos h

end Record

/-- Every row of a checked batch is in effect after it has been applied. -/
theorem Detector.object?_applyObjects {σ : Type} {d : Detector σ} {rows : List ObjectRow}
    (hchecked : checkObjects rows = .ok ()) {row : ObjectRow} (hrow : row ∈ rows) :
    (d.applyObjects rows).record.object? row.slot.toNat = some (row.weight, row.tolerance) := by
  rcases checkObjects_eq_ok_iff.mp hchecked with ⟨hsound, hnodup⟩
  have hslot : row.slot.toNat < slotCount := (hsound row hrow).slot
  have hfound : CommandContext.Batch.row? ⟨rows, none⟩ row.slot.toNat = some row := by
    cases hfind : CommandContext.Batch.row? ⟨rows, none⟩ row.slot.toNat with
    | none =>
        have hother := List.find?_eq_none.mp hfind row hrow
        simp at hother
    | some other =>
        -- no two rows name the same slot
        have hname : other.slot.toNat = row.slot.toNat := by simpa using List.find?_some hfind
        have hmem : other ∈ rows := List.mem_of_find?_eq_some hfind
        rw [List.inj_on_of_nodup_map hnodup hmem hrow (UInt64.toNat_inj.mp hname)]
  rw [applyObjects_eq, Record.object?_eq_pairAt hslot,
    CommandContext.Batch.pairAt_foldl hnodup, hfound]
  rfl

/-! ## Stores of the configured capacity -/

theorem FileStore.capacity_of_open? {disk : Disk} {path : String} {capacity : Nat}
    {store : FileStore} (h : open? disk path capacity = .ok store) : store.capacity = capacity := by
  unfold open? at h
  split at h
  · cases h
    exact Image.length_resize _ capacity
  · cases h
    exact List.length_replicate
  · cases h

/-- Opening a detector, with or without a load, keeps the address and the room of the store. -/
theorem Detector.open?_room {σ : Type} [CalibrationStore σ] {capacity : σ → Nat}
    (hbounded : CalibrationStore.BoundedBy capacity) {store : σ} {address : UInt64}
    {thresholds : Thresholds} {load : Bool} {d : Detector σ}
    (h : open? store address thresholds load = .ok d) :
    d.address = address ∧ capacity d.store = capacity store := by
  unfold open? at h
  cases hbuild : build store address thresholds with
  | error e =>
      rw [hbuild] at h
      cases h
  | ok built =>
      rcases check_of_build hbuild with ⟨-, rfl⟩
      rw [hbuild] at h
      cases h
      cases load with
      | false => exact ⟨rfl, rfl⟩
      | true =>
          -- the load is an operation like any other
          exact ⟨operate_address _ .load, operate_room hbounded rfl .load trivial⟩

namespace Config

variable {c : Config}

/-- Over this store every detector of the configuration stays in range, whatever is done with it. -/
def StaysInRange (c : Config) {σ : Type} [CalibrationStore σ] (capacity : σ → Nat) (store : σ) :
    Prop :=
  ∀ load d operations, Detector.open? store c.store.address c.detector load = .ok d →
    (∀ operation ∈ operations, operation.Keeps capacity c.store.capacity.toNat) →
    (d.operateAll operations).InRange

theorem staysInRange_of_check {σ : Type} [CalibrationStore σ] {capacity : σ → Nat}
    (hbounded : CalibrationStore.BoundedBy capacity) (h : c.check = .ok ()) {store : σ}
    (hsize : capacity store = c.store.capacity.toNat) : c.StaysInRange capacity store := by
  intro load d operations hopen hkeeps
  rcases Detector.open?_room hbounded hopen with ⟨haddress, hroom⟩
  apply Detector.inRange_operateAll hbounded (hroom.trans hsize) ?_ hkeeps
  rw [haddress]
  exact fits_of_check h

/-- Thresholds that pass their check are enough for a detector to be built. -/
theorem exists_open? {σ : Type} [CalibrationStore σ] (h : c.check = .ok ()) (store : σ)
    (address : UInt64) (load : Bool) :
    ∃ d, Detector.open? store address c.detector load = .ok d := by
  rw [Detector.open?, Detector.build, thresholds_of_check h]
  exact ⟨_, rfl⟩

theorem exists_fault (h : c.check ≠ .ok ()) : ∃ fault, c.check = .error fault := by
  cases hcheck : c.check with
  | ok _ => exact absurd hcheck h
  | error fault => exact ⟨fault, rfl⟩

/-- The check of a configuration agrees with the parts that it sets up.

If it is accepted, a detector can be built with its thresholds, a detector at its address over a
store of its capacity always finds the record in range, and all rows of its objects take effect.

If the detector would refuse the thresholds, or a store of the capacity would refuse the range of
the record, the configuration is refused; a store does so where the end of the record, computed as a
natural number, lies beyond the capacity. -/
theorem check_agrees (c : Config) :
    (c.check = .ok () →
      c.detector.check = .ok () ∧
      (∀ {σ : Type} [CalibrationStore σ] (store : σ) (address : UInt64) (load : Bool),
        ∃ d, Detector.open? store address c.detector load = .ok d) ∧
      (∀ disk path store, FileStore.open? disk path c.store.capacity.toNat = .ok store →
        c.StaysInRange FileStore.capacity store) ∧
      (∀ store : MemoryStore, store.capacity = c.store.capacity.toNat →
        c.StaysInRange MemoryStore.capacity store) ∧
      ∀ {σ : Type} (d : Detector σ), ∀ row ∈ c.objects,
        (d.applyObjects c.objects).record.object? row.slot.toNat =
          some (row.weight, row.tolerance)) ∧
    (c.detector.check ≠ .ok () → ∃ fault, c.check = .error fault) ∧
    (AddressRange.fits c.store.address recordLength c.store.capacity.toNat = false →
      ∃ fault, c.check = .error fault) ∧
    (AddressRange.fits c.store.address recordLength c.store.capacity.toNat = false ↔
      c.store.capacity.toNat < c.store.address.toNat + recordLength) := by
  refine ⟨fun h => ⟨thresholds_of_check h,
    fun store address load => exists_open? h store address load, ?_, ?_, ?_⟩, ?_, ?_, ?_⟩
  · intro disk path store hopen
    exact staysInRange_of_check FileStore.boundedBy h (FileStore.capacity_of_open? hopen)
  · intro store hsize
    exact staysInRange_of_check MemoryStore.boundedBy h hsize
  · intro σ d row hrow
    exact Detector.object?_applyObjects (check_eq_ok_iff.mp h).2 hrow
  · intro hthresholds
    apply exists_fault
    intro h
    exact hthresholds (thresholds_of_check h)
  · intro hrefused
    apply exists_fault
    intro h
    rw [fits_of_check h] at hrefused
    cases hrefused
  · rw [← Bool.not_eq_true, StoreSettings.fits_iff, Nat.not_le]

/-- A record that fits its store exactly is saved there; at the last address of all it is refused,
for its end would be at 43. -/
theorem check_agrees_tight :
    let row : ObjectRow := ⟨3, ⟨0x42c80000⟩, ⟨0x40a00000⟩⟩
    let tight : Config :=
      ⟨⟨"nv.bin", 20, 64⟩, Thresholds.default, .default, .default, none, [row]⟩
    let wrapped : Config := { tight with store := ⟨"nv.bin", 0xffffffffffffffff, 64⟩ }
    let d : Detector MemoryStore := Detector.ofParts (MemoryStore.new 64) 20 Thresholds.default
    tight.check = .ok () ∧ d.InRange ∧
      (d.applyObjects tight.objects).record.object? 3 = some (row.weight, row.tolerance) ∧
      AddressRange.fits 0xffffffffffffffff recordLength 64 = false ∧
      ∃ fault, wrapped.check = .error fault := by
  intro row tight wrapped d
  have hcheck : tight.check = .ok () := by decide +kernel
  have hrefused : AddressRange.fits 0xffffffffffffffff recordLength 64 = false := by decide
  rcases check_agrees tight with ⟨hagrees, -, -, -⟩
  rcases hagrees hcheck with ⟨-, -, -, hmemory, hrows⟩
  rcases check_agrees wrapped with ⟨-, -, hrefuses, -⟩
  refine ⟨hcheck, ?_, hrows d row List.mem_cons_self, hrefused, hrefuses hrefused⟩
  exact hmemory (MemoryStore.new 64) rfl false d [] rfl fun operation hmem => by cases hmem

end Config

end SmartScale
