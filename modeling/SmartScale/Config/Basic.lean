import SmartScale.Detector.Thresholds
import SmartScale.Objects
import SmartScale.Record
import SmartScale.Run.Basic
import SmartScale.Store.Basic
import SmartScale.Text.Quoted

/-!
# Configurations

What a configuration settles: where the record is stored, the thresholds of the detector, how the
scale is sampled, where log lines go, and a calibration to start from.  `Config.check` looks at the
rules in a fixed order and names the first one that is broken.
-/

namespace SmartScale

structure StoreSettings where
  path : String
  address : UInt64
  capacity : UInt64
  deriving DecidableEq, Repr

inductive SamplingMode
  /-- By the run itself. -/
  | direct
  /-- By a thread, at a rate. -/
  | paced
  deriving DecidableEq, Repr

structure SamplingSettings where
  mode : SamplingMode
  /-- Readings per second. -/
  rate : UInt32
  /-- Longest wait for a reading, in milliseconds. -/
  sensorMillis : UInt64
  deriving DecidableEq, Repr

structure LoggingSettings where
  file : Option String
  level : Option String
  rotation : Option String
  deriving DecidableEq, Repr

structure Config where
  store : StoreSettings
  detector : Thresholds
  sampling : SamplingSettings
  logging : LoggingSettings
  offset : Option Reading
  objects : List ObjectRow
  deriving DecidableEq, Repr

namespace StoreSettings

def defaultCapacity : UInt64 := 512

end StoreSettings

namespace SamplingSettings

def default : SamplingSettings := ⟨.direct, 10, 150⟩

def runMode (s : SamplingSettings) : RunMode :=
  match s.mode with
  | .direct => .direct
  | .paced => .paced s.rate

end SamplingSettings

namespace LoggingSettings

def default : LoggingSettings := ⟨none, none, none⟩

/-- The words for how often a new log file is begun. -/
def rotations : List String := ["never", "daily", "hourly"]

/-- What the name of a log file has at its end where a new one is begun from time to time; the
letters stand for the digits of the date. -/
def dateMark (s : LoggingSettings) : String :=
  match s.rotation with
  | some "daily" => ".YYYY-MM-DD"
  | some "hourly" => ".YYYY-MM-DD-HH"
  | _ => ""

end LoggingSettings

/-! ## Rules -/

/-- A rule that a configuration breaks. -/
inductive ConfigFault
  | emptyPath
  /-- The record does not fit the store. -/
  | recordOutOfStore (capacity address : UInt64)
  /-- The change distance is not finite and above zero. -/
  | changeThreshold
  /-- The distance from zero is not finite and above zero. -/
  | noObjectThreshold
  /-- Fewer than two readings would confirm an object. -/
  | matchSamples
  | sampleRate
  | sensorTimeout
  | rotation (word : String)
  | offset
  | objects (fault : ObjectFault)
  deriving DecidableEq, Repr

def ConfigFault.message : ConfigFault → String
  | emptyPath => "store.path must not be empty"
  | recordOutOfStore capacity address =>
    "store.capacity (" ++ toString capacity.toNat ++ ") must hold a " ++ toString recordLength ++
      "-byte record at store.address (" ++ toString address.toNat ++ ")"
  | changeThreshold => "detector.change_threshold must be finite and > 0"
  | noObjectThreshold => "detector.no_object_threshold must be finite and > 0"
  | matchSamples => "detector.match_samples must be >= 2"
  | sampleRate => "sampling.sample_rate_hz must be > 0"
  | sensorTimeout => "sampling.sensor_timeout_ms must be >= 1"
  | rotation word =>
    "logging.rotation must be one of never|daily|hourly, got " ++ Text.quote word
  | offset => "offset must be finite"
  | objects fault => fault.message

namespace Config

/-- The rules before the objects, in order: whether each is broken, and by what. -/
def rules (c : Config) : List (Bool × ConfigFault) :=
  [(c.store.path == "", .emptyPath),
    (!AddressRange.fits c.store.address recordLength c.store.capacity.toNat,
      .recordOutOfStore c.store.capacity c.store.address),
    (!c.detector.change.isPositive, .changeThreshold),
    (!c.detector.noObject.isPositive, .noObjectThreshold),
    (c.detector.samples < 2, .matchSamples),
    (c.sampling.rate == 0, .sampleRate),
    (c.sampling.sensorMillis == 0, .sensorTimeout),
    (c.logging.rotation.any fun word => !LoggingSettings.rotations.contains word,
      .rotation (c.logging.rotation.getD "")),
    (c.offset.any fun offset => !offset.isFinite, .offset)]

/-- The first rule that is broken. -/
def check (c : Config) : Except ConfigFault Unit :=
  match c.rules.find? Prod.fst with
  | some (_, fault) => .error fault
  | none => (checkObjects c.objects).mapError .objects

end Config

end SmartScale
