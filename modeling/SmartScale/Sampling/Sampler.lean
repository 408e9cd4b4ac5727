import SmartScale.Clock
import SmartScale.Sensor
import SmartScale.Sampling.Period

/-!
# The sampling thread

A sampler reads a scale in a loop of its own and hands the readings over through a bounded channel.
The thread is a state machine: `Sampler.threadStep` takes it from one `Phase` of its loop to the
next, and between any two steps the other party may act, by `Sampler.take` on the channel or by
`Sampler.shutDown`.  Failed reads are skipped; a read that ends the stream ends the thread.

A paced sampler sleeps for its period after each read.  An event-driven one relies on the scale to
wait for data and only rests a moment after a failed read.  `lastOk` is the time of the last reading
handed over, by which the other party judges whether the sensor has stalled.
-/

namespace SmartScale

/-- Readings that the channel holds. -/
def channelCapacity : Nat := 64

/-- Rest after a failed read of an event-driven sampler, in microseconds. -/
def restMicros : Nat := 10000

/-- Where the thread stands in its loop. -/
inductive Phase
  /-- About to look at the shutdown flag. -/
  | start
  /-- About to read the scale. -/
  | reading
  /-- Holding a reading for the channel. -/
  | sending (value : Reading)
  /-- About to store the time of the reading. -/
  | stamping
  /-- Resting after a failed read. -/
  | resting
  /-- About to look at the shutdown flag before sleeping. -/
  | pausing
  /-- Sleeping for the period. -/
  | sleeping
  | finished
  deriving DecidableEq, Repr

/-- What a sampler's clock does while its thread sleeps. -/
inductive TimeSource
  /-- Sleeping moves the clock on. -/
  | simulated
  /-- Time passes by itself. -/
  | passing
  deriving DecidableEq, Repr

/-- A sampling thread with its channel, flag and clock. -/
structure Sampler (τ : Type) where
  scale : τ
  /-- Microseconds between two reads; none if the scale's own timing leads. -/
  period : Option Nat
  time : TimeSource
  phase : Phase
  /-- Readings on their way, the oldest first. -/
  channel : List Reading
  shutdown : Bool
  clock : ManualClock
  /-- Milliseconds from the start to the last reading handed over. -/
  lastOk : Nat

/-- What waiting for a reading gives. -/
inductive Sample
  | value (reading : Reading)
  | pending
  /-- The thread is done and all readings are taken. -/
  | closed
  deriving DecidableEq, Repr

namespace Sampler

variable {τ : Type}

def ofScale (scale : τ) (period : Option Nat) (time : TimeSource) : Sampler τ :=
  ⟨scale, period, time, .start, [], false, ManualClock.new, 0⟩

def paced (scale : τ) (rate : UInt32) (time : TimeSource) : Sampler τ :=
  ofScale scale (some (periodMicros rate)) time

/-- A sampler that the scale's own timing leads. -/
def eventDriven (scale : τ) (time : TimeSource) : Sampler τ := ofScale scale none time

/-- The thread is done. -/
def isFinished (s : Sampler τ) : Bool := s.phase == .finished

/-- Milliseconds since the thread was started. -/
def nowMillis (s : Sampler τ) : Nat := s.clock.elapsed.millis

/-- Milliseconds since the last reading handed over. -/
def stalledFor (s : Sampler τ) : Nat := s.nowMillis - s.lastOk

def elapse (s : Sampler τ) (micros : Nat) : Sampler τ :=
  { s with clock := s.clock.advance (Duration.ofMicros micros) }

/-- Asks the thread to end. -/
def shutDown (s : Sampler τ) : Sampler τ := { s with shutdown := true }

/-- Looks for a reading in the channel. -/
def take (s : Sampler τ) : Sample × Sampler τ :=
  match s.channel with
  | value :: rest => (.value value, { s with channel := rest })
  | [] => (if s.isFinished then .closed else .pending, s)

def readStep [Scale τ] (s : Sampler τ) : Sampler τ :=
  let (answer, scale) := Scale.read s.scale
  match answer with
  | .ok value => { s with scale, phase := .sending value }
  | .error e =>
    match DetectorError.ofDevice e with
    | .endOfStream => { s with scale, phase := .finished }
    | _ => { s with scale, phase := if s.period.isSome then .pausing else .resting }

/-- The thread tries to put a reading into the channel; while the channel is full it only looks at
the flag and tries again. -/
def sendStep (s : Sampler τ) (value : Reading) : Sampler τ :=
  if s.channel.length < channelCapacity then
    { s with channel := s.channel ++ [value], phase := .stamping }
  else if s.shutdown then { s with phase := .finished }
  else s

/-- The thread wakes up. -/
def wakeStep (s : Sampler τ) : Sampler τ :=
  match s.time, s.period with
  | .simulated, some period =>
    { s with clock := s.clock.sleep (Duration.ofMicros period), phase := .start }
  | _, _ => { s with phase := .start }

def threadStep [Scale τ] (s : Sampler τ) : Sampler τ :=
  match s.phase with
  | .start => { s with phase := if s.shutdown then .finished else .reading }
  | .reading => s.readStep
  | .sending value => s.sendStep value
  | .stamping =>
    { s with lastOk := s.nowMillis, phase := if s.period.isSome then .pausing else .start }
  | .resting => { s with phase := .start }
  | .pausing => { s with phase := if s.shutdown then .finished else .sleeping }
  | .sleeping => s.wakeStep
  | .finished => s

end Sampler

end SmartScale
