import SmartScale.Text.Phrase

/-!
# Faults

What can go wrong, as causes, and the wording of each cause in one function per type.

* `HardwareFault` is a fault that a device names.
* `DeviceError` is whatever a device reports: a named fault, or an error known by its text alone.
* `DetectorError` is how the detector sees a device error; `DetectorError.ofDevice` says which one.
* `BuildError` is a detector that cannot be built.
* `Report` is a failure on its way to the user: a cause and the contexts it passed through.
-/

namespace SmartScale

inductive HardwareFault
  /-- An access of `length` bytes at `address` does not fit the capacity. -/
  | outOfRange (address : UInt64) (length capacity : Nat)
  /-- A script of readings has come to its end. -/
  | exhausted
  /-- The host failed to do what was asked. -/
  | io (text : String)
  deriving DecidableEq, Repr

def HardwareFault.message : HardwareFault → String
  | outOfRange address length capacity =>
    "store access out of range: " ++ toString length ++ " bytes at " ++ toString address.toNat ++
      " (capacity " ++ toString capacity ++ ")"
  | exhausted => "sample script exhausted"
  | io text => "io: " ++ text

inductive DeviceError
  | named (fault : HardwareFault)
  /-- Any other error, known by its text. -/
  | other (text : String)
  deriving DecidableEq, Repr

def DeviceError.message : DeviceError → String
  | named fault => fault.message
  | other text => text

/-- A device error as the detector sees it. -/
inductive DetectorError
  /-- An error that only its text describes. -/
  | hardware (text : String)
  | hardwareFault (text : String)
  | timeout
  | endOfStream
  deriving DecidableEq, Repr

namespace DetectorError

def message : DetectorError → String
  | hardware text => "hardware error: " ++ text
  | hardwareFault text => "hardware fault: " ++ text
  | timeout => "timeout waiting for sensor"
  | endOfStream => "sample stream ended"

/-- Sorts a device error.

A named fault is taken for what it is.  Any other error is judged by its text: a mention of a
timeout counts before a mention of an end. -/
def ofDevice : DeviceError → DetectorError
  | .named .exhausted => endOfStream
  | .named fault => hardwareFault fault.message
  | .other text =>
    if Text.mentions text "timeout" then timeout
    else if Text.mentions text "exhausted" || Text.mentions text "end of stream" then endOfStream
    else hardware text

end DetectorError

inductive BuildError
  /-- A threshold breaks the rule that the text states. -/
  | invalidConfig (rule : String)
  deriving DecidableEq, Repr

def BuildError.message : BuildError → String
  | invalidConfig rule => "invalid config: " ++ rule

/-! ## Reports -/

/-- The cause at the root of a report. -/
inductive Cause
  | build (error : BuildError)
  | detector (error : DetectorError)
  /-- A device fault that no detector was involved in. -/
  | hardware (fault : HardwareFault)
  | plain (text : String)
  deriving DecidableEq, Repr

def Cause.message : Cause → String
  | build error => error.message
  | detector error => error.message
  | hardware fault => fault.message
  | plain text => text

/-- A failure on its way to the user. -/
structure Report where
  cause : Cause
  /-- What was being done, the outermost first. -/
  contexts : List String
  deriving DecidableEq, Repr

namespace Report

def ofCause (cause : Cause) : Report := ⟨cause, []⟩

/-- The report of a failure that only a text describes. -/
def ofText (text : String) : Report := ofCause (.plain text)

/-- The report that only texts describe, the outermost first. -/
def ofChain (texts : List String) : Report := ⟨.plain (texts.getLastD ""), texts.dropLast⟩

/-- Adds what was being done when the report came up. -/
def within (context : String) (report : Report) : Report :=
  { report with contexts := context :: report.contexts }

/-- The texts from the outermost context to the cause. -/
def chain (report : Report) : List String := report.contexts ++ [report.cause.message]

def text (report : Report) : String := String.intercalate ": " report.chain

end Report

end SmartScale
