import SmartScale.Clock

/-!
# Clocks in many hands

A program holds handles of simulated clocks.  A handle can be cloned, and all handles of one clock
move it and are moved with it.  `Clocks` keeps the clocks apart from the handles: a handle has the
number of its clock, and the point of time at which the clock was made.

A clock tells the time as an `Instant`, a point on the host's own scale.  That scale is as long as
the greatest span; no point of time lies beyond its end.
-/

namespace SmartScale

/-! ## Points of time -/

/-- A point of time. -/
structure Instant where
  /-- The span from the earliest point of time that there is. -/
  span : Duration

namespace Instant

/-- The middle of the scale, from which the host counts its seconds up and down. -/
def epoch : Instant := ⟨.ofNanos (UInt64.size / 2 * nanosPerSecond)⟩

/-- The point of time after a span, if there is one. -/
def add? (t : Instant) (span : Duration) : Option Instant :=
  if h : t.span.nanos + span.nanos ≤ maxNanos then some ⟨_, h⟩ else none

/-- The span from a mark to this point of time; none while the mark lies ahead. -/
def since (t mark : Instant) : Duration := .ofNanos (t.span.nanos - mark.span.nanos)

end Instant

/-! ## Handles -/

/-- A handle of a clock. -/
structure ClockHandle where
  /-- The number of the clock, in the order in which clocks were made. -/
  clock : Nat
  /-- When the clock was made. -/
  origin : Instant

/-- The point of time at which the clock shows a span. -/
def ClockHandle.at? (h : ClockHandle) (shown : Duration) : Option Instant := h.origin.add? shown

/-- The clocks of a program and its handles of them. -/
structure Clocks where
  cells : List ManualClock
  handles : List ClockHandle
  /-- Every handle is one of a clock. -/
  known : ∀ h ∈ handles, h.clock < cells.length

namespace Clocks

def empty : Clocks := ⟨[], [], fun _ hmem => nomatch hmem⟩

/-- Makes a clock, with the first handle of it. -/
def make (c : Clocks) (origin : Instant) : Clocks where
  cells := c.cells ++ [.new]
  handles := c.handles ++ [⟨c.cells.length, origin⟩]
  known h hmem := by
    rw [List.length_append, List.length_singleton]
    rcases List.mem_append.mp hmem with hold | hnew
    · exact Nat.lt_succ_of_lt (c.known h hold)
    · rw [List.mem_singleton.mp hnew]
      exact Nat.lt_succ_self _

/-- Clones a handle, given by its place among the handles; the clone is put behind them. -/
def clone (c : Clocks) (i : Nat) : Clocks where
  cells := c.cells
  handles := c.handles ++ c.handles[i]?.toList
  known h hmem := by
    rcases List.mem_append.mp hmem with hold | hclone
    · exact c.known h hold
    · exact c.known h (List.mem_of_getElem? (Option.mem_toList.mp hclone))

/-- Changes the clock of a handle. -/
def change (c : Clocks) (i : Nat) (f : ManualClock → ManualClock) : Clocks where
  cells := match c.handles[i]? with
    | some h => c.cells.modify h.clock f
    | none => c.cells
  handles := c.handles
  known h hmem := by
    split
    · rw [List.length_modify]
      exact c.known h hmem
    · exact c.known h hmem

def advance (c : Clocks) (i : Nat) (span : Duration) : Clocks := c.change i (·.advance span)

def sleep (c : Clocks) (i : Nat) (span : Duration) : Clocks := c.change i (·.sleep span)

/-- The clock of a handle. -/
def clockOf (c : Clocks) (h : ClockHandle) : ManualClock := c.cells.getD h.clock .new

def elapsed (c : Clocks) (h : ClockHandle) : Duration := (c.clockOf h).elapsed

/-- The time that a clock tells; none if it has been moved beyond the last point of time. -/
def now? (c : Clocks) (h : ClockHandle) : Option Instant := h.at? (c.elapsed h)

/-- Whole milliseconds since a mark, if the clock can tell the time. -/
def millisSince? (c : Clocks) (h : ClockHandle) (mark : Instant) : Option Nat :=
  (c.now? h).map fun now => (now.since mark).millis

end Clocks

end SmartScale
