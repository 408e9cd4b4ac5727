import SmartScale.Fault
import SmartScale.Text.Json

/-!
# Explaining failures

What the user is told when a call fails: what happened, the likely causes, and how to fix it.  A
report with a typed cause is explained by the cause, whatever contexts it passed through; any other
report is explained by its text.
-/

namespace SmartScale

namespace Explain

/-- What happened, likely causes and a fix. -/
def advice (what causes fix : String) : String :=
  "What happened: " ++ what ++ ".\nLikely causes: " ++ causes ++ ".\nHow to fix: " ++ fix

def detector : DetectorError → String
  | .timeout =>
    advice "No reading arrived in time" "Sensor stalled or sampling.sensor_timeout_ms too low"
      "Check the input source and consider raising sampling.sensor_timeout_ms."
  | other =>
    advice other.message "See logs"
      "Re-run with --log-level=debug or set RUST_LOG for more detail."

/-- Explains a failure by its text. -/
def plain (text : String) : String :=
  let quoted := " (" ++ text ++ ")"
  if Text.mentions text "objects csv must have headers" then
    "Invalid headers in objects CSV. Expected 'slot,weight,tolerance'."
  else if Text.opensWith text "reading config" then
    advice "Could not read the config file" "Wrong --config path or missing permissions"
      ("Pass --config <FILE> pointing at a readable TOML file." ++ quoted)
  else if Text.opensWith text "invalid configuration" || Text.opensWith text "parsing config" then
    advice "Configuration is invalid or incomplete"
      "Missing [store] section or out-of-range values"
      ("Edit the TOML config and try again." ++ quoted)
  else if Text.opensWith text "invalid object" then
    advice "Rejected object calibration"
      "Slot outside 0..=3, or a non-finite or negative tolerance"
      ("Check the --slot/--weight/--tolerance values." ++ quoted)
  else
    "Something went wrong: " ++ text ++ "\nHow to fix: Re-run with --log-level=debug for details."

def report (r : Report) : String :=
  match r.cause with
  | .build (.invalidConfig rule) =>
    advice ("Invalid detector settings (" ++ rule ++ ")") "Out-of-range values in [detector]"
      "Edit the config file, then rerun."
  | .detector e => detector e
  | .hardware fault =>
    advice ("The calibration store could not be opened (" ++ fault.message ++ ")")
      "store.path points at a directory or an unreadable file"
      "Check store.path and its permissions."
  | .plain _ => plain r.text

/-- The name of the kind of cause. -/
def reason (r : Report) : String :=
  match r.cause with
  | .build _ => "InvalidConfig"
  | .detector (.hardware _) => "Hardware"
  | .detector (.hardwareFault _) => "HardwareFault"
  | .detector .timeout => "Timeout"
  | .detector .endOfStream => "EndOfStream"
  | .hardware _ => "Store"
  | .plain _ => "Error"

/-- The explanation for machines. -/
def json (r : Report) : String :=
  (Json.object [("reason", .text (reason r)), ("message", .text (report r))]).compact

end Explain

end SmartScale
