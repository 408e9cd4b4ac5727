import SmartScale.Record
import SmartScale.Detector.Thresholds

/-!
# Debounce

The state machine that turns readings into outcomes.  It remembers the last significant reading,
what that reading was taken for, and how many readings have been stable since.  A candidate is
confirmed once enough readings in a row stay close to the last significant one; the count then
starts again, and it survives a significant change to the same candidate.
-/

namespace SmartScale

/-- What the detector remembers from reading to reading. -/
structure Debounce where
  /-- What the last significant reading was taken for. -/
  current : Tracked
  /-- Stable readings of the candidate since it was adopted or last confirmed. -/
  stableCount : UInt32
  /-- The last significant reading. -/
  previous : Reading
  deriving DecidableEq, Repr

namespace Debounce

/-- The state before the first reading: an empty scale. -/
def initial : Debounce := ⟨.noObject, 0, Reading.zero⟩

instance : Inhabited Debounce := ⟨initial⟩

/-- A reading close to the last significant one. -/
def settle (t : Thresholds) (state : Debounce) : Outcome × Debounce :=
  match state.current with
  | .candidate slot =>
    let count := state.stableCount + 1
    if t.samples ≤ count then (.object slot, { state with stableCount := 0 })
    else (.noChange, { state with stableCount := count })
  | _ => (.noChange, state)

/-- A reading away from the last significant one takes its place. -/
def move (t : Thresholds) (record : Record) (state : Debounce) (value : Reading) :
    Outcome × Debounce :=
  if value.abs.lt t.noObject then (.noObject, ⟨.noObject, 0, value⟩)
  else
    match record.matchingSlot? value with
    | none => (.noMatch, ⟨.noMatch, 0, value⟩)
    | some slot =>
      if state.current = .candidate slot then (.noChange, { state with previous := value })
      else (.noChange, ⟨.candidate slot, 1, value⟩)

/-- One reading, under a record that is valid or not. -/
def step (t : Thresholds) (record : Record) (state : Debounce) (value : Reading) :
    Outcome × Debounce :=
  if !record.isValid then (.noChange, state)
  else if value.within state.previous t.change then settle t state
  else move t record state value

end Debounce

end SmartScale
