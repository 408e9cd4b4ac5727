import SmartScale.Cli.Help

/-!
# Arguments of the command line

The options before the command, the command, and its own options.
-/

namespace SmartScale

inductive Command
  | showRecord
  | setObject (slot : UInt64) (weight tolerance : Reading)
  | setOffset (offset : Reading)
  /-- Apply objects from a table, or objects and offset from the configuration. -/
  | importObjects (table : Option String)
  /-- Classify readings from a file or the standard input. -/
  | classify (input : Option String) (all paced : Bool) (maxSamples : Option Nat)
  | health
  deriving DecidableEq, Repr

structure Invocation where
  config : String
  json : Bool
  logLevel : Option String
  command : Command
  deriving DecidableEq, Repr

namespace Arguments

/-! ## What can be written -/

def programName : String := "weighid"

def programVersion : String := "0.1.0"

def programAbout : String := "Smart-scale object calibration and replay"

def defaultConfig : String := "etc/weighid.toml"

/-- An option that may be given, without a value. -/
def flag (name about : String) : OptionSpec := ⟨name, none, false, about⟩

/-- An option that may be given, with a value. -/
def optional (name label : String) (kind : ValueKind) (about : String) : OptionSpec :=
  ⟨name, some ⟨label, kind, false⟩, false, about⟩

/-- An option that has to be given, with a value. -/
def required (name label : String) (kind : ValueKind) (negative : Bool) (about : String) :
    OptionSpec :=
  ⟨name, some ⟨label, kind, negative⟩, true, about⟩

/-- The options before the command. -/
def options : List OptionSpec := [
  optional "config" "FILE" .path ("Path to config TOML (typed) [default: " ++ defaultConfig ++ "]"),
  flag "json" "Print results and errors as JSON lines",
  optional "log-level" "LEVEL" .text
    "Console log level (error|warn|info|debug|trace); falls back to [logging].level"]

def showSpec : CommandSpec :=
  ⟨"show", "Print the calibration record stored at the configured address", []⟩

def setObjectSpec : CommandSpec :=
  ⟨"set-object", "Calibrate one object slot and save the record", [
    required "slot" "SLOT" .word false "Slot index (0..=3)",
    required "weight" "WEIGHT" .weight true "Reference weight of the object",
    required "tolerance" "TOLERANCE" .weight false
      "Accepted distance from the reference weight (exclusive)"]⟩

def setOffsetSpec : CommandSpec :=
  ⟨"set-offset", "Set the stored offset and save the record",
    [required "offset" "OFFSET" .weight true ""]⟩

def importSpec : CommandSpec :=
  ⟨"import", "Apply [[objects]] and offset from the config, or rows from a CSV, then save",
    [optional "csv" "FILE" .path "Objects CSV with header `slot,weight,tolerance`"]⟩

def classifySpec : CommandSpec :=
  ⟨"classify", "Replay readings (one per line) through the detector", [
    optional "input" "FILE" .path "Readings file; `-` or absent reads stdin",
    flag "all" "Also print readings that produced no change",
    flag "paced" "Feed readings through the paced sampler at [sampling].sample_rate_hz",
    optional "max-samples" "N" .word "Stop after this many readings"]⟩

def healthSpec : CommandSpec := ⟨"health", "Health check for operational monitoring", []⟩

def commands : List CommandSpec :=
  [showSpec, setObjectSpec, setOffsetSpec, importSpec, classifySpec, healthSpec]

def programPage : String := Help.programPage programName programAbout options commands

/-- The page that the words behind the command `help` ask for. -/
def helpPage? : List String → Except UsageError String
  | [] => .ok programPage
  | name :: rest =>
    let found :=
      if name = Help.helpCommand.name then some (Help.helpPage programName)
      else (commands.find? fun spec => spec.name == name).map (Help.commandPage programName)
    match found, rest with
    | none, _ => .error (.unexpected name)
    | some _, next :: _ => .error (.unexpected next)
    | some page, [] => .ok page

/-! ## What is written -/

def readOptions (spec : CommandSpec) (arguments : List String) :
    Except UsageError GivenOptions := do
  let level : Level := ⟨spec.options, Help.commandPage programName spec, false⟩
  let (given, _) ← level.scan .empty arguments
  let given ← given.settle
  given.complete spec.options
  pure given

def weight (given : GivenOptions) (name : String) : Except UsageError Reading :=
  match (given.value? name).map Reading.parse with
  | some (.ok value) => .ok value
  | _ => .error (.missing name)

def word? (given : GivenOptions) (name : String) : Option Nat :=
  (given.value? name).bind fun value => (Whole.parseWord value.toList).toOption

def word (given : GivenOptions) (name : String) : Except UsageError Nat :=
  match word? given name with
  | some value => .ok value
  | none => .error (.missing name)

def command (name : String) (arguments : List String) : Except UsageError Command :=
  match name with
  | "show" => (readOptions showSpec arguments).map fun _ => .showRecord
  | "health" => (readOptions healthSpec arguments).map fun _ => .health
  | "set-object" => do
    let given ← readOptions setObjectSpec arguments
    let slot ← word given "slot"
    pure (.setObject (UInt64.ofNat slot) (← weight given "weight") (← weight given "tolerance"))
  | "set-offset" => do
    let given ← readOptions setOffsetSpec arguments
    pure (.setOffset (← weight given "offset"))
  | "import" => do
    let given ← readOptions importSpec arguments
    pure (.importObjects (given.value? "csv"))
  | "classify" => do
    let given ← readOptions classifySpec arguments
    pure (.classify (given.value? "input") (given.has "all") (given.has "paced")
      (word? given "max-samples"))
  | "help" => do .error (.help (← helpPage? arguments))
  | _ => .error (.unexpected name)

def parse (arguments : List String) : Except UsageError Invocation := do
  let level : Level := ⟨options, programPage, true⟩
  match ← level.scan .empty arguments with
  | (_, none) => .error (.missing "command")
  | (given, some (name, rest)) => do
    let action ← command name rest
    let given ← given.settle
    pure ⟨(given.value? "config").getD defaultConfig, given.has "json", given.value? "log-level",
      action⟩

end Arguments

end SmartScale
