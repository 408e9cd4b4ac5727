import SmartScale.Detector.Basic
import SmartScale.Run.Basic
import SmartScale.Text.Json

/-!
# What the command line prints

The stored record, the events of a run and its summary, each as text for people and as one value
for machines.  Weights have three decimal places in text; for machines they keep all their digits.
-/

namespace SmartScale

def displayPlaces : Nat := 3

def Reading.display (r : Reading) : String := r.fixed displayPlaces

/-- Lines, each with its line feed. -/
def unlines (lines : List String) : String := String.join (lines.map (· ++ "\n"))

/-! ## Records -/

namespace Detector

variable {σ : Type}

def slotRow (d : Detector σ) (slot : Fin slotCount) : String :=
  padRight 5 (toString slot.val) ++ " " ++ padRight 11 (d.record.weights.get slot).display ++ " " ++
    (d.record.tolerances.get slot).display

def recordLines (d : Detector σ) : List String :=
  let status := if d.isCalibrated then "calibrated" else "not calibrated"
  ["record @ " ++ toString d.address.toNat ++ ": " ++ status, "slot  weight      tolerance"] ++
    (List.finRange slotCount).map d.slotRow ++ ["offset " ++ d.record.offset.display]

def slotJson (d : Detector σ) (slot : Fin slotCount) : Json :=
  .object [("slot", .whole slot.val), ("weight", .weight (d.record.weights.get slot)),
    ("tolerance", .weight (d.record.tolerances.get slot))]

def recordFields (d : Detector σ) : List (String × Json) :=
  [("calibrated", .bool d.isCalibrated), ("address", .whole d.address.toNat),
    ("offset", .weight d.record.offset),
    ("objects", .list ((List.finRange slotCount).map d.slotJson))]

def showRecord (d : Detector σ) (json : Bool) : String :=
  unlines (if json then [(Json.object d.recordFields).compact] else d.recordLines)

/-- The record after a save; `what` has been saved. -/
def showSaved (d : Detector σ) (json : Bool) (what : String) : String :=
  unlines <|
    if json then [(Json.object (d.recordFields ++ [("saved", .text what)])).compact]
    else ("saved: " ++ what) :: d.recordLines

def showHealth (d : Detector σ) (json : Bool) (path : String) : String :=
  unlines <|
    if json then
      [(Json.object [("status", .text "ok"), ("store", .text path),
        ("address", .whole d.address.toNat), ("calibrated", .bool d.isCalibrated)]).compact]
    else
      ["status: ok", "store: " ++ path ++ " @ " ++ toString d.address.toNat,
        "calibrated: " ++ (if d.isCalibrated then "yes" else "no")]

end Detector

/-! ## Runs -/

namespace Event

def line (e : Event) : String :=
  "#" ++ padRight 5 (toString e.sample) ++ " " ++ padLeft 10 e.value.display ++ " -> " ++
    e.outcome.display

def json (e : Event) : Json :=
  .object [("sample", .whole e.sample), ("value", .weight e.value),
    ("outcome", .text e.outcome.name), ("code", .whole e.outcome.code),
    ("slot", (e.outcome.slot?.map fun slot => Json.whole slot).getD .null)]

def present (e : Event) (json : Bool) : String := if json then e.json.compact else e.line

end Event

namespace Summary

def line (s : Summary) : String :=
  "samples=" ++ toString s.samples ++ " confirmations=[" ++
    String.intercalate ", " (s.confirmations.toList.map toString) ++ "] no_object=" ++
    toString s.noObject ++ " no_match=" ++ toString s.noMatch

def json (s : Summary) : Json :=
  .object [("summary", .object [("samples", .whole s.samples),
    ("confirmations", .list (s.confirmations.toList.map fun (n : Nat) => Json.whole n)),
    ("no_object", .whole s.noObject), ("no_match", .whole s.noMatch)])]

def present (s : Summary) (json : Bool) : String := if json then s.json.compact else s.line

end Summary

end SmartScale
