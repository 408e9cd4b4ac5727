import SmartScale.Reading
import SmartScale.Fault

/-!
# Scales

A scale delivers one reading or one error at a time.  `SimulatedScale` replays a list of readings,
once or over and over; `ScriptedScale` replays readings and errors; `SilentScale` never delivers.
-/

namespace SmartScale

class Scale (τ : Type) where
  read : τ → Except DeviceError Reading × τ

/-! ## Replay -/

/-- A scale that replays a list of readings. -/
structure SimulatedScale where
  script : List Reading
  /-- The readings not handed out yet. -/
  pending : List Reading
  /-- The script starts again at its end. -/
  looping : Bool
  /-- Readings handed out so far. -/
  reads : Nat
  deriving DecidableEq, Repr

namespace SimulatedScale

def ofList (readings : List Reading) (looping : Bool) : SimulatedScale :=
  ⟨readings, readings, looping, 0⟩

def remaining (s : SimulatedScale) : Nat := s.pending.length

/-- The queue that a read takes from: a looping script is queued again once it has run out. -/
def queue (s : SimulatedScale) : List Reading :=
  if s.pending.isEmpty && s.looping then s.script else s.pending

def next (s : SimulatedScale) : Except HardwareFault Reading × SimulatedScale :=
  match s.queue with
  | [] => (.error .exhausted, s)
  | value :: rest => (.ok value, { s with pending := rest, reads := s.reads + 1 })

instance : Scale SimulatedScale where
  read s := (s.next.1.mapError .named, s.next.2)

end SimulatedScale

/-- A scale that replays readings and errors; at its end it is exhausted. -/
structure ScriptedScale where
  /-- What the reads give, in order. -/
  items : List (Except DeviceError Reading)

instance : Scale ScriptedScale where
  read s :=
    match s.items with
    | [] => (.error (.named .exhausted), s)
    | item :: rest => (item, ⟨rest⟩)

/-- A scale of which every read fails. -/
structure SilentScale where
  deriving DecidableEq, Repr

instance : Scale SilentScale where
  read s := (.error (.other "noop scale"), s)

end SmartScale
