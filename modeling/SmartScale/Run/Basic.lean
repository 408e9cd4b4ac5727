import SmartScale.Detector.Basic
import SmartScale.Sampling.Period

/-!
# Runs

A run feeds readings to a detector and keeps account.  This file has what all runs share: their
parameters, the events they report, the summary they end with, and `Run.feed`, the step that one
reading takes.
-/

namespace SmartScale

/-- How readings reach the detector. -/
inductive RunMode
  /-- The run reads the scale itself. -/
  | direct
  /-- A thread waits for the sensor's own timing. -/
  | event
  /-- A thread reads at a rate. -/
  | paced (rate : UInt32)
  deriving DecidableEq, Repr

structure RunParams where
  mode : RunMode
  /-- Longest wait for a reading, in milliseconds. -/
  sensorMillis : Nat
  /-- The run ends after this many readings. -/
  maxSamples : Option Nat
  /-- The run is asked to end during this event; 0 is before the first. -/
  shutdownAfter : Option Nat
  deriving DecidableEq, Repr

/-- One reading and what the detector made of it. -/
structure Event where
  /-- Number of the reading in the run, counted from zero. -/
  sample : Nat
  value : Reading
  outcome : Outcome
  deriving DecidableEq, Repr

structure Summary where
  samples : Nat
  confirmations : Vector Nat slotCount
  /-- Readings that found the scale empty. -/
  noObject : Nat
  /-- Readings that matched no slot. -/
  noMatch : Nat
  deriving DecidableEq

namespace Summary

def empty : Summary := ⟨0, Vector.replicate _ 0, 0, 0⟩

def total (s : Summary) : Nat := s.confirmations.foldl (· + ·) 0

def count (s : Summary) (outcome : Outcome) : Summary :=
  let s := { s with samples := s.samples + 1 }
  match outcome with
  | .object slot =>
    { s with confirmations := s.confirmations.setIfInBounds slot (s.confirmations.getD slot 0 + 1) }
  | .noObject => { s with noObject := s.noObject + 1 }
  | .noMatch => { s with noMatch := s.noMatch + 1 }
  | .noChange => s

end Summary

/-- A detector in a run, with the account of the run so far. -/
structure Run (σ : Type) where
  detector : Detector σ
  summary : Summary
  events : List Event

namespace Run

variable {σ : Type}

def start (detector : Detector σ) : Run σ := ⟨detector, Summary.empty, []⟩

def feed (run : Run σ) (value : Reading) : Run σ :=
  let (outcome, detector) := run.detector.process value
  { detector
    summary := run.summary.count outcome
    events := run.events ++ [⟨run.summary.samples, value, outcome⟩] }

/-- The run has to end before it takes another reading. -/
def shouldStop (params : RunParams) (summary : Summary) : Bool :=
  params.shutdownAfter.any (fun n => n ≤ summary.samples) ||
    params.maxSamples.any (fun n => n ≤ summary.samples)

end Run

/-- How a run ended: with its account, and without or with a failure. -/
structure Finished (σ : Type) where
  run : Run σ
  /-- The failure that ended it, if any. -/
  failure : Option Report

end SmartScale
