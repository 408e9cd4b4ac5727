import SmartScale.Config.Basic
import SmartScale.Number.Rendering
import SmartScale.Toml.Document
import SmartScale.Toml.Excerpt

/-!
# Reading configurations

From named values to a `Config`.  Values are visited in the order of the text, and the first one
that does not fit is at fault; what is missing comes to light after that.  A section may also be
written as an array of its settings in their fixed order.  Names that say nothing here are passed
over.
-/

namespace SmartScale

open Toml (Value Item Placed Name Fields Extent)

/-- What was found in place of something else. -/
inductive Found
  | boolean (value : Bool)
  | integer (value : Int)
  /-- A number in the 64-bit binary format. -/
  | float (negative : Bool) (pattern : Nat)
  | text (value : String)
  | sequence
  | map
  deriving DecidableEq, Repr

namespace Found

def ofValue : Value → Found
  | .text value => text value
  | .integer value => integer value
  | .float negative pattern => float negative pattern
  | .boolean value => boolean value
  | .moment => map
  | .array _ _ => sequence
  | .table _ _ => map

def message : Found → String
  | boolean value => "boolean `" ++ (if value then "true" else "false") ++ "`"
  | integer value => "integer `" ++ toString value ++ "`"
  | float negative pattern =>
    "floating point `" ++ FloatStyle.plain.render BinaryFormat.binary64 negative pattern ++ "`"
  | text value => "string " ++ Text.quote value
  | sequence => "sequence"
  | map => "map"

end Found

/-- Why values make up no configuration. -/
inductive SchemaError
  /-- A value is of another kind than the one expected. -/
  | invalidType (found : Found) (expected : String)
  /-- A value of the right kind does not fit. -/
  | invalidValue (found : Found) (expected : String)
  /-- A section written as an array is too short. -/
  | invalidLength (length : Nat) (expected : String)
  | missingField (name : String)
  /-- A setting is given under both of its names. -/
  | duplicateField (name : String)
  | unknownVariant (word expected : String)
  /-- A choice is written in a shape that does not fit. -/
  | badChoice (reason : String)
  deriving DecidableEq, Repr

def SchemaError.message : SchemaError → String
  | invalidType found expected =>
    "invalid type: " ++ found.message ++ ", expected " ++ expected
  | invalidValue found expected =>
    "invalid value: " ++ found.message ++ ", expected " ++ expected
  | invalidLength length expected =>
    "invalid length " ++ toString length ++ ", expected " ++ expected
  | missingField name => "missing field `" ++ name ++ "`"
  | duplicateField name => "duplicate field `" ++ name ++ "`"
  | unknownVariant word expected => "unknown variant `" ++ word ++ "`, expected " ++ expected
  | badChoice reason => reason

/-- An error with the part of the text that is at fault. -/
structure SchemaFault where
  error : SchemaError
  extent : Option Extent
  deriving DecidableEq

namespace SchemaFault

/-- An error whose part of the text is not known yet. -/
def ofError (error : SchemaError) : SchemaFault := ⟨error, none⟩

/-- The fault lies in a part of the text, unless a narrower one is known. -/
def within (extent : Option Extent) (fault : SchemaFault) : SchemaFault :=
  { fault with extent := fault.extent.or extent }

end SchemaFault

abbrev Decoder (α : Type) : Type := Item → Except SchemaFault α

namespace Decode

def refuse {α : Type} (error : SchemaError) : Except SchemaFault α := .error (.ofError error)

/-- Reads what stands in a place; what is at fault is at fault there, unless a narrower place is
known. -/
def inPlace {α : Type} (read : Value → Except SchemaFault α) : Decoder α := fun item =>
  (read item.content).mapError (.within item.extent)

def mismatch {α : Type} (value : Value) (expected : String) : Except SchemaFault α :=
  refuse (.invalidType (Found.ofValue value) expected)

/-! ## Single values -/

/-- A whole number from zero up to, not including, a bound. -/
def natBelow (bound : Nat) (expected : String) : Decoder Nat := inPlace fun
  | .integer n =>
    if 0 ≤ n ∧ n < bound then .ok n.toNat
    else refuse (.invalidValue (.integer n) expected)
  | value => mismatch value expected

/-- A size or an address. -/
def size : Decoder UInt64 := fun value =>
  (natBelow UInt64.size "usize" value).map UInt64.ofNat

def word64 : Decoder UInt64 := fun value =>
  (natBelow UInt64.size "u64" value).map UInt64.ofNat

def word32 : Decoder UInt32 := fun value =>
  (natBelow UInt32.size "u32" value).map UInt32.ofNat

/-- A weight; whole numbers are weights too. -/
def weight : Decoder Reading := inPlace fun
  | .integer n => .ok (Reading.ofInt n)
  | .float negative pattern => .ok (Reading.ofBinary64 negative pattern)
  | value => mismatch value "f32"

def text (expected : String) : Decoder String := inPlace fun
  | .text value => .ok value
  | value => mismatch value expected

def modeWord (word : String) : Except SchemaFault SamplingMode :=
  if word = "direct" then .ok .direct
  else if word = "paced" then .ok .paced
  else refuse (.unknownVariant word "`direct` or `paced`")

/-- What may stand behind a word that is written as the name of a value: nothing. -/
def emptyChoice : Decoder Unit := inPlace fun
  | .table _ [] => .ok ()
  | .table _ _ => refuse (.badChoice "expected empty table")
  | .array _ [] => .ok ()
  | .array .inline _ => refuse (.badChoice "expected empty table")
  | .array .headed _ => refuse (.badChoice "expected empty array")
  | value => refuse (.badChoice ("expected table, found " ++ value.kindName))

/-- How the scale is sampled: a word, or the name of an empty table. -/
def mode : Decoder SamplingMode := inPlace fun
  | .text word => modeWord word
  | .table _ [] => refuse (.badChoice "wanted exactly 1 element, found 0 elements")
  | .table _ [(word, content)] =>
    ((modeWord word.text).mapError (.within word.extent)).bind fun choice =>
      (emptyChoice content).map fun _ => choice
  | .table _ _ => refuse (.badChoice "wanted exactly 1 element, more than 1 element")
  | _ => refuse (.badChoice "wanted string or table")

/-! ## Sections -/

/-- How a section is read: `visit` takes one named value, `names` are the settings in the order of
an array. -/
structure Section (π : Type) where
  label : String
  names : List String
  required : Nat
  start : π
  visit : π → String → Item → Except SchemaFault π

namespace Section

variable {π : Type}

def visitAll (s : Section π) : π → List (String × Item) → Except SchemaFault π
  | state, [] => .ok state
  | state, (name, item) :: rest =>
    (s.visit state name item).bind fun next => visitAll s next rest

/-- A named value; one that stands nowhere itself stands where its name does. -/
def entry (field : Name × Item) : String × Item :=
  (field.1.text, { field.2 with extent := field.2.extent.or field.1.extent })

def read (s : Section π) : Decoder π := inPlace fun
  | .table _ fields => s.visitAll s.start (fields.map entry)
  | .moment => .ok s.start
  | .array _ items =>
    (s.visitAll s.start (s.names.zip items)).bind fun state =>
      if items.length < s.required then
        refuse (.invalidLength items.length
          (s.label ++ " with " ++ toString s.names.length ++ " elements"))
      else .ok state
  | value => mismatch value s.label

end Section

/-- A setting of a section that has to be there. -/
def require {α : Type} (item : Item) (name : String) : Option α → Except SchemaFault α
  | some value => .ok value
  | none => .error ⟨.missingField name, item.extent⟩

/-- What is known of the store section. -/
structure StoreDraft where
  path : Option String
  address : UInt64
  capacity : UInt64

def storeSection : Section StoreDraft where
  label := "struct StoreCfg"
  names := ["path", "address", "capacity"]
  required := 1
  start := ⟨none, 0, StoreSettings.defaultCapacity⟩
  visit s name value :=
    match name with
    | "path" => (text "path string" value).map fun path => { s with path := some path }
    | "address" => (size value).map fun address => { s with address }
    | "capacity" => (size value).map fun capacity => { s with capacity }
    | _ => .ok s

def store : Decoder StoreSettings := fun item =>
  (storeSection.read item).bind fun s =>
    (require item "path" s.path).map fun path => ⟨path, s.address, s.capacity⟩

def detectorSection : Section Thresholds where
  label := "struct DetectorCfg"
  names := ["change_threshold", "no_object_threshold", "match_samples"]
  required := 0
  start := Thresholds.default
  visit s name value :=
    match name with
    | "change_threshold" => (weight value).map fun change => { s with change }
    | "no_object_threshold" => (weight value).map fun noObject => { s with noObject }
    | "match_samples" => (word32 value).map fun samples => { s with samples }
    | _ => .ok s

/-- The section on the sampling, with whether the wait for a reading has been given. -/
def samplingSection : Section (SamplingSettings × Bool) where
  label := "struct SamplingCfg"
  names := ["mode", "sample_rate_hz", "sensor_timeout_ms"]
  required := 0
  start := (SamplingSettings.default, false)
  visit s name value :=
    match name with
    | "mode" => (mode value).map fun mode => ({ s.1 with mode }, s.2)
    | "sample_rate_hz" => (word32 value).map fun rate => ({ s.1 with rate }, s.2)
    | "sensor_timeout_ms" | "sensor_ms" =>
      if s.2 then refuse (.duplicateField "sensor_timeout_ms")
      else (word64 value).map fun sensorMillis => ({ s.1 with sensorMillis }, true)
    | _ => .ok s

def loggingSection : Section LoggingSettings where
  label := "struct Logging"
  names := ["file", "level", "rotation"]
  required := 0
  start := LoggingSettings.default
  visit s name value :=
    match name with
    | "file" => (text "a string" value).map fun file => { s with file := some file }
    | "level" => (text "a string" value).map fun level => { s with level := some level }
    | "rotation" => (text "a string" value).map fun rotation => { s with rotation := some rotation }
    | _ => .ok s

structure ObjectDraft where
  slot : Option UInt64
  weight : Option Reading
  tolerance : Option Reading

def objectSection : Section ObjectDraft where
  label := "struct ObjectRow"
  names := ["slot", "weight", "tolerance"]
  required := 3
  start := ⟨none, none, none⟩
  visit s name value :=
    match name with
    | "slot" => (size value).map fun slot => { s with slot := some slot }
    | "weight" => (weight value).map fun mass => { s with weight := some mass }
    | "tolerance" => (weight value).map fun tolerance => { s with tolerance := some tolerance }
    | _ => .ok s

def object : Decoder ObjectRow := fun item =>
  (objectSection.read item).bind fun s =>
    (require item "slot" s.slot).bind fun slot =>
      (require item "weight" s.weight).bind fun mass =>
        (require item "tolerance" s.tolerance).map fun tolerance => ⟨slot, mass, tolerance⟩

def objectList : List Item → Except SchemaFault (List ObjectRow)
  | [] => .ok []
  | item :: rest => (object item).bind fun row => (objectList rest).map (row :: ·)

def objects : Decoder (List ObjectRow) := inPlace fun
  | .array _ items => objectList items
  | value => mismatch value "a sequence"

structure ConfigDraft where
  store : Option StoreSettings
  detector : Thresholds
  sampling : SamplingSettings
  logging : LoggingSettings
  offset : Option Reading
  objects : List ObjectRow

def configSection : Section ConfigDraft where
  label := "struct Config"
  names := ["store", "detector", "sampling", "logging", "offset", "objects"]
  required := 1
  start :=
    ⟨none, Thresholds.default, SamplingSettings.default, LoggingSettings.default, none, []⟩
  visit s name value :=
    match name with
    | "store" => (store value).map fun store => { s with store := some store }
    | "detector" => (detectorSection.read value).map fun detector => { s with detector }
    | "sampling" =>
      (samplingSection.read value).map fun sampling => { s with sampling := sampling.1 }
    | "logging" => (loggingSection.read value).map fun logging => { s with logging }
    | "offset" => (weight value).map fun offset => { s with offset := some offset }
    | "objects" => (objects value).map fun objects => { s with objects }
    | _ => .ok s

end Decode

/-! ## Whole texts -/

inductive ConfigError
  | grammar
  | schema (fault : SchemaFault)
  deriving DecidableEq

namespace ConfigError

def message : ConfigError → String
  | grammar => "TOML parse error"
  | schema fault => fault.error.message

/-- The text of the error with the line of the configuration that is at fault. -/
def explanation (text : String) : ConfigError → String
  | grammar => message grammar
  | schema fault =>
    let place := (fault.extent.map (Toml.excerpt text.toList)).getD ""
    place ++ fault.error.message ++ "\n"

end ConfigError

namespace Config

def ofTable (table : Item) : Except SchemaFault Config :=
  (Decode.configSection.read table).bind fun s =>
    (Decode.require table "store" s.store).map fun store =>
      ⟨store, s.detector, s.sampling, s.logging, s.offset, s.objects⟩

def parse (text : String) : Except ConfigError Config :=
  match Toml.document? text with
  | none => .error .grammar
  | some table => (ofTable table).mapError .schema

end Config

end SmartScale
