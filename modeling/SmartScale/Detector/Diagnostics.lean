import SmartScale.Detector.Basic
import SmartScale.Number.Rendering

/-!
# Diagnostics

One line that shows where a detector stands.
-/

namespace SmartScale

def Tracked.debugText : Tracked → String
  | noObject => "NoObject"
  | noMatch => "NoMatch"
  | candidate slot => "Candidate(" ++ toString slot ++ ")"

def Detector.debugText {σ : Type} (d : Detector σ) : String :=
  "ObjectDetector \x7b address: " ++ toString d.address.toNat ++
    ", calibrated: " ++ (if d.isCalibrated then "true" else "false") ++
    ", current: " ++ d.debounce.current.debugText ++
    ", stable_count: " ++ toString d.debounce.stableCount.toNat ++
    ", previous: " ++ d.debounce.previous.debugText ++ " \x7d"

end SmartScale
