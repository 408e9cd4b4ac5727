import SmartScale.Detector.Debounce
import SmartScale.Objects
import SmartScale.Store.Basic

/-!
# The detector

A detector classifies readings with a calibration record and keeps that record in a store, at a
fixed address.  This file has its operations: one reading at a time (`Detector.process`), changes
to the record, and loading and saving it.  A detector is built over any store; its thresholds are
checked first.
-/

namespace SmartScale

/-- A debounced classifier over a record in a store. -/
structure Detector (σ : Type) where
  store : σ
  address : UInt64
  thresholds : Thresholds
  record : Record
  debounce : Debounce

namespace Detector

variable {σ : Type}

/-! ## Building -/

/-- A detector with an empty record, which reports nothing. -/
def ofParts (store : σ) (address : UInt64) (thresholds : Thresholds) : Detector σ :=
  ⟨store, address, thresholds, Record.empty, Debounce.initial⟩

def new (store : σ) (address : UInt64) : Detector σ := ofParts store address Thresholds.default

/-- A detector with checked thresholds. -/
def build (store : σ) (address : UInt64) (thresholds : Thresholds) :
    Except BuildError (Detector σ) :=
  thresholds.check.map fun _ => ofParts store address thresholds

/-! ## Readings -/

/-- The record in effect has a valid tag. -/
def isCalibrated (d : Detector σ) : Bool := d.record.isValid

def process (d : Detector σ) (value : Reading) : Outcome × Detector σ :=
  let (outcome, debounce) := d.debounce.step d.thresholds d.record value
  (outcome, { d with debounce })

/-! ## The record -/

/-- Sets weight and tolerance of a slot; an index past the last slot changes nothing. -/
def setObject (d : Detector σ) (index : Nat) (weight tolerance : Reading) : Detector σ :=
  { d with record := d.record.setObject index weight tolerance }

/-- Sets the slots of a batch of rows, one after the other. -/
def applyObjects (d : Detector σ) (rows : List ObjectRow) : Detector σ :=
  rows.foldl (fun d row => d.setObject row.slot.toNat row.weight row.tolerance) d

def setOffset (d : Detector σ) (offset : Reading) : Detector σ :=
  { d with record := { d.record with offset } }

variable [CalibrationStore σ]

/-- Puts the stored record into effect and says whether there is a valid one.

Without one, or when the store cannot be read, the record becomes empty. -/
def load (d : Detector σ) : Bool × Detector σ :=
  let (answer, store) := CalibrationStore.read d.store d.address recordLength
  match answer with
  | .error _ => (false, { d with store, record := Record.empty })
  | .ok bytes =>
    let record := Record.decode bytes
    if record.isValid then (true, { d with store, record })
    else (false, { d with store, record := Record.empty })

/-- A device error met while saving. -/
def saveReport (context : String) (e : DeviceError) : Report :=
  (Report.ofCause (.detector (DetectorError.ofDevice e))).within context

/-- Stamps the record, writes it and commits the store.

The stamp comes first: the record in effect stays stamped even if the store then fails. -/
def save (d : Detector σ) : Except Report Unit × Detector σ :=
  let record := d.record.stamp
  let (written, store) := CalibrationStore.write d.store d.address record.encode
  match written with
  | .error e => (.error (saveReport "writing calibration record" e), { d with store, record })
  | .ok () =>
    let (committed, store) := CalibrationStore.commit store
    match committed with
    | .error e =>
      (.error (saveReport "committing calibration store" e), { d with store, record })
    | .ok () => (.ok (), { d with store, record })

/-- Builds a detector with checked thresholds and, on demand, puts the stored record into effect. -/
def open? (store : σ) (address : UInt64) (thresholds : Thresholds) (load : Bool) :
    Except BuildError (Detector σ) :=
  (build store address thresholds).map fun d => if load then d.load.2 else d

end Detector

end SmartScale
