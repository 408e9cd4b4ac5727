import Mathlib.Data.List.FinRange
import Mathlib.Data.List.Induction
import SmartScale.Detector.Basic

/-!
# What each operation of a detector does

One lemma for each operation, so that later proofs need not open them: what checked thresholds
promise, and which parts of a detector an operation leaves alone.
-/

namespace SmartScale

/-! ## Checked thresholds -/

namespace Thresholds

variable {t : Thresholds}

theorem fault?_eq_none_iff : t.fault? = none ↔
    t.change.isPositive = true ∧ t.noObject.isPositive = true ∧ 2 ≤ t.samples.toNat := by
  have hsamples : 2 ≤ t.samples.toNat ↔ ¬ t.samples < 2 := by
    rw [UInt32.lt_iff_toNat_lt, Nat.not_lt]
    rfl
  rw [hsamples, fault?]
  by_cases hfew : t.samples < 2 <;> cases t.change.isPositive <;> cases t.noObject.isPositive <;>
    simp [hfew]

theorem check_eq_ok_iff : t.check = .ok () ↔
    t.change.isPositive = true ∧ t.noObject.isPositive = true ∧ 2 ≤ t.samples.toNat := by
  rw [← fault?_eq_none_iff, check]
  cases t.fault? <;> simp

theorem two_le_samples (h : t.check = .ok ()) : 2 ≤ t.samples.toNat := (check_eq_ok_iff.mp h).2.2

/-- Zero is always within the distance that means an empty scale. -/
theorem zero_lt_noObject (h : t.check = .ok ()) : Reading.zero.abs.lt t.noObject = true := by
  have hpositive := (check_eq_ok_iff.mp h).2.1
  rw [Reading.isPositive, Bool.and_eq_true] at hpositive
  exact hpositive.2

end Thresholds

/-! ## The greatest slot -/

namespace Record

/-- The greatest slot whose band contains the reading: the slots are looked at from the last down. -/
def greatestSlot? (r : Record) (value : Reading) : Option (Fin slotCount) :=
  (List.finRange slotCount).reverse.find? fun slot => r.covers slot value

/-- Overwriting a find on the way up leaves the first find on the way down. -/
theorem foldl_overwrite {α : Type} (test : α → Bool) (f : α → Nat) (xs : List α) :
    xs.foldl (fun found x => if test x then some (f x) else found) none =
      (xs.reverse.find? test).map f := by
  induction xs using List.reverseRecOn with
  | nil => rfl
  | append_singleton xs x ih =>
      rw [List.foldl_append, List.reverse_append]
      cases h : test x with
      | true => simp [h]
      | false => simpa [h] using ih

theorem matchingSlot?_eq_greatest (r : Record) (value : Reading) :
    r.matchingSlot? value = (r.greatestSlot? value).map Fin.val :=
  foldl_overwrite (fun slot => r.covers slot value) Fin.val (List.finRange slotCount)

theorem matchingSlot?_lt {r : Record} {value : Reading} {slot : Nat}
    (h : r.matchingSlot? value = some slot) : slot < slotCount := by
  rw [matchingSlot?_eq_greatest] at h
  rcases Option.map_eq_some_iff.mp h with ⟨greatest, -, rfl⟩
  exact greatest.isLt

end Record

/-! ## Readings -/

namespace Detector

variable {σ : Type} {d : Detector σ}

/-- A reading touches nothing but the debounce. -/
theorem process_eq (d : Detector σ) (value : Reading) : d.process value =
    ((d.debounce.step d.thresholds d.record value).1,
      { d with debounce := (d.debounce.step d.thresholds d.record value).2 }) := rfl

/-- A run over readings, one after the other. -/
def processAll (d : Detector σ) (readings : List Reading) : Detector σ :=
  readings.foldl (fun d value => (d.process value).2) d

@[simp]
theorem processAll_nil : d.processAll [] = d := rfl

@[simp]
theorem processAll_append (xs ys : List Reading) :
    d.processAll (xs ++ ys) = (d.processAll xs).processAll ys :=
  List.foldl_append

@[simp]
theorem processAll_singleton (value : Reading) : d.processAll [value] = (d.process value).2 := rfl

@[simp]
theorem processAll_thresholds (readings : List Reading) :
    (d.processAll readings).thresholds = d.thresholds := by
  induction readings generalizing d with
  | nil => rfl
  | cons value rest ih => exact ih

@[simp]
theorem processAll_record (readings : List Reading) :
    (d.processAll readings).record = d.record := by
  induction readings generalizing d with
  | nil => rfl
  | cons value rest ih => exact ih

/-! ## Loading and saving -/

section Store

variable [CalibrationStore σ] {store : σ} {bytes : List UInt8} {e : DeviceError}

theorem load_of_error
    (hread : CalibrationStore.read d.store d.address recordLength = (.error e, store)) :
    d.load = (false, { d with store, record := Record.empty }) := by
  rw [load, hread]

/-- A load that reads its bytes puts their record into effect if its tag is valid. -/
theorem load_of_ok
    (hread : CalibrationStore.read d.store d.address recordLength = (.ok bytes, store)) :
    d.load = ((Record.decode bytes).isValid, { d with
      store
      record := if (Record.decode bytes).isValid then Record.decode bytes else Record.empty }) := by
  rw [load, hread]
  dsimp only
  cases (Record.decode bytes).isValid <;> rfl

theorem save_of_write_error
    (hwrite : CalibrationStore.write d.store d.address d.record.stamp.encode = (.error e, store)) :
    d.save = (.error (saveReport "writing calibration record" e),
      { d with store, record := d.record.stamp }) := by
  rw [save, hwrite]

theorem save_of_commit_error {written : σ}
    (hwrite : CalibrationStore.write d.store d.address d.record.stamp.encode = (.ok (), written))
    (hcommit : CalibrationStore.commit written = (.error e, store)) :
    d.save = (.error (saveReport "committing calibration store" e),
      { d with store, record := d.record.stamp }) := by
  simp only [save, hwrite, hcommit]

theorem save_of_ok {written : σ}
    (hwrite : CalibrationStore.write d.store d.address d.record.stamp.encode = (.ok (), written))
    (hcommit : CalibrationStore.commit written = (.ok (), store)) :
    d.save = (.ok (), { d with store, record := d.record.stamp }) := by
  simp only [save, hwrite, hcommit]

/-- A load replaces the record and takes the store that its read leaves. -/
theorem load_eq_replaced (d : Detector σ) : d.load.2 =
    { d with
      store := (CalibrationStore.read d.store d.address recordLength).2
      record := d.load.2.record } := by
  rcases hread : CalibrationStore.read d.store d.address recordLength with ⟨answer, store⟩
  cases answer with
  | error e => rw [load_of_error hread]
  | ok bytes => rw [load_of_ok hread]

/-- However a save ends, it has stamped the record and changed nothing else but the store. -/
theorem save_eq_stamped (d : Detector σ) :
    d.save.2 = { d with store := d.save.2.store, record := d.record.stamp } := by
  rcases hwrite : CalibrationStore.write d.store d.address d.record.stamp.encode with
    ⟨answer, written⟩
  cases answer with
  | error e => rw [save_of_write_error hwrite]
  | ok _ =>
      rcases hcommit : CalibrationStore.commit written with ⟨end_, store⟩
      cases end_ with
      | error e => rw [save_of_commit_error hwrite hcommit]
      | ok _ => rw [save_of_ok hwrite hcommit]

/-- A save leaves the store of its write or, after that, of its commit. -/
theorem save_store (d : Detector σ) :
    let written := (CalibrationStore.write d.store d.address d.record.stamp.encode).2
    d.save.2.store = written ∨ d.save.2.store = (CalibrationStore.commit written).2 := by
  intro written
  rcases hwrite : CalibrationStore.write d.store d.address d.record.stamp.encode with
    ⟨answer, store⟩
  have hwritten : written = store := congrArg Prod.snd hwrite
  cases answer with
  | error e =>
      rw [save_of_write_error hwrite]
      exact .inl hwritten.symm
  | ok _ =>
      rw [hwritten]
      rcases hcommit : CalibrationStore.commit store with ⟨end_, last⟩
      cases end_ with
      | error e =>
          rw [save_of_commit_error hwrite hcommit]
          exact .inr rfl
      | ok _ =>
          rw [save_of_ok hwrite hcommit]
          exact .inr rfl

end Store

/-- A batch of rows touches nothing but the record. -/
theorem applyObjects_eq (d : Detector σ) (rows : List ObjectRow) :
    d.applyObjects rows = { d with
      record := rows.foldl (fun r row => r.setObject row.slot.toNat row.weight row.tolerance)
        d.record } := by
  induction rows generalizing d with
  | nil => rfl
  | cons row rest ih => exact ih _

end Detector

end SmartScale
