import SmartScale.Cli.Arguments
import SmartScale.Cli.Display
import SmartScale.Cli.Readings
import SmartScale.Config.Basic
import SmartScale.ObjectsTable
import SmartScale.Run.Runner
import SmartScale.Store.File

/-!
# Commands

What each command does: it opens the detector over the configured store, works on it, and answers
with what to print, what it leaves on the disk, and a failure if there is one.  A command that
changes the record saves it before it prints anything, so a failed call prints nothing.
-/

namespace SmartScale

structure CommandContext where
  /-- The configuration; the store's path leads there from the working directory. -/
  config : Config
  json : Bool
  disk : Disk
  stdin : List UInt8

/-- Why a call ends without having done its work. -/
inductive Failure
  | explained (report : Report)
  /-- Something that the program does not reckon with; it breaks off. -/
  | brokenOff (message : String)

structure Response where
  output : String
  disk : Disk
  failure : Option Failure

namespace CommandContext

/-- The command fails before it changes anything. -/
def fail (c : CommandContext) (report : Report) : Response := ⟨"", c.disk, some (.explained report)⟩

/-- The command prints and changes nothing. -/
def answer (c : CommandContext) (output : String) : Response := ⟨output, c.disk, none⟩

/-- Opens the detector and puts the stored record into effect. -/
def openDetector (c : CommandContext) : Except Report (Detector FileStore) :=
  let settings := c.config.store
  match FileStore.open? c.disk settings.path settings.capacity.toNat with
  | .error fault =>
    .error ((Report.ofCause (.hardware fault)).within ("opening store " ++ settings.path))
  | .ok store =>
    (Detector.open? store settings.address c.config.detector true).mapError fun e =>
      Report.ofCause (.build e)

def withDetector (c : CommandContext) (work : Detector FileStore → Response) : Response :=
  match c.openDetector with
  | .error report => c.fail report
  | .ok detector => work detector

/-! ## Looking -/

def showRecord (c : CommandContext) : Response :=
  c.withDetector fun detector => c.answer (detector.showRecord c.json)

def health (c : CommandContext) : Response :=
  c.withDetector fun detector => c.answer (detector.showHealth c.json c.config.store.path)

/-! ## Calibrating -/

/-- Saves the record and prints it; `what` is what has been changed. -/
def save (c : CommandContext) (what : String) (detector : Detector FileStore) : Response :=
  match detector.save with
  | (.error report, after) =>
    ⟨"", after.store.disk, some (.explained (report.within "saving calibration"))⟩
  | (.ok (), after) => ⟨after.showSaved c.json what, after.store.disk, none⟩

/-- Calibrates one slot; the row is checked before the store is touched. -/
def setObject (c : CommandContext) (row : ObjectRow) : Response :=
  match checkObjects [row] with
  | .error fault => c.fail ((Report.ofText fault.message).within "invalid object")
  | .ok () =>
    c.withDetector fun detector =>
      c.save ("slot " ++ toString row.slot.toNat) (detector.applyObjects [row])

def setOffset (c : CommandContext) (offset : Reading) : Response :=
  if !offset.isFinite then c.fail (Report.ofText "offset must be finite")
  else c.withDetector fun detector => c.save "offset" (detector.setOffset offset)

/-- What an import applies. -/
structure Batch where
  rows : List ObjectRow
  offset : Option Reading

/-- The batch of a table, or of the configuration where no table is given. -/
def batch (c : CommandContext) : Option String → Except Report Batch
  | some path =>
    match ObjectsTable.load c.disk path with
    | .error e => .error (Report.ofText (e.message path))
    | .ok rows => .ok ⟨rows, none⟩
  | none => .ok ⟨c.config.objects, c.config.offset⟩

def applyBatch (b : Batch) (detector : Detector FileStore) : Detector FileStore :=
  let detector := detector.applyObjects b.rows
  match b.offset with
  | some offset => detector.setOffset offset
  | none => detector

def importObjects (c : CommandContext) (table : Option String) : Response :=
  match c.batch table with
  | .error report => c.fail report
  | .ok b =>
    if b.rows.isEmpty && b.offset.isNone then
      c.fail (Report.ofText "nothing to import: config has no [[objects]] or offset")
    else
      c.withDetector fun detector =>
        c.save (toString b.rows.length ++ " object(s)") (applyBatch b detector)

/-! ## Classifying -/

/-- The bytes of the recorded readings; no path, or a lone hyphen, stands for the standard input. -/
def input (c : CommandContext) : Option String → Except Report (List UInt8)
  | none => .ok c.stdin
  | some path =>
    if path = "-" then .ok c.stdin
    else
      match c.disk.lookup path with
      | .ok (.file bytes) => .ok bytes
      | .ok .directory =>
        .error ((Report.ofText DiskError.isDirectory.message).within "reading input")
      | .error e => .error ((Report.ofText e.message).within ("opening readings " ++ path))

def readings (c : CommandContext) (path : Option String) : Except Report (List Reading) :=
  (c.input path).bind fun bytes => (Readings.parse bytes).mapError ReadingsError.toReport

def runParams (c : CommandContext) (paced : Bool) (maxSamples : Option Nat) : RunParams where
  mode := if paced then .paced c.config.sampling.rate else c.config.sampling.runMode
  sensorMillis := c.config.sampling.sensorMillis.toNat
  maxSamples := maxSamples
  shutdownAfter := none

/-- Runs recorded readings through the detector.  The script ends and so does the run; the work that
it is given is enough. -/
def runReadings (params : RunParams) (values : List Reading) (detector : Detector FileStore) :
    Finished FileStore :=
  (Run.start? params (Run.workFor values.length) detector
    (SimulatedScale.ofList values false)).getD ⟨Run.start detector, none⟩

/-- Prints the events of a run, without those that report no change unless all are asked for. -/
def showEvents (c : CommandContext) (all : Bool) (events : List Event) : List String :=
  (events.filter fun e => all || e.outcome != .noChange).map fun e => e.present c.json

def classify (c : CommandContext) (path : Option String) (all paced : Bool)
    (maxSamples : Option Nat) : Response :=
  match c.readings path with
  | .error report => c.fail report
  | .ok values =>
    c.withDetector fun detector =>
      let done := runReadings (c.runParams paced maxSamples) values detector
      let events := c.showEvents all done.run.events
      match done.failure with
      | some report => ⟨unlines events, c.disk, some (.explained report)⟩
      | none => c.answer (unlines (events ++ [done.run.summary.present c.json]))

/-! ## Dispatch -/

def perform (c : CommandContext) : Command → Response
  | .showRecord => c.showRecord
  | .setObject slot weight tolerance => c.setObject ⟨slot, weight, tolerance⟩
  | .setOffset offset => c.setOffset offset
  | .importObjects table => c.importObjects table
  | .classify path all paced maxSamples => c.classify path all paced maxSamples
  | .health => c.health

end CommandContext

end SmartScale
