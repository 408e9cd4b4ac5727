import Mathlib.Data.List.Induction
import SmartScale.Proofs.Detector.Invariant
import SmartScale.Proofs.Run.Direct

/-!
# The account of a run

What a run has after it has fed some readings: its detector has processed them in order, its events
list them one by one with what was said about each (`Run.events_foldl_feed`), and its summary counts
these events (`Run.Balanced`).  A confirmation of a slot beyond the last would be an event that no
counter sees; there is none if the detector follows a slot of the record (`Detector.TracksSlot`), as
it does from the beginning on.
-/

namespace SmartScale

/-! ## Counting one outcome -/

/-- One more in one place makes the sum greater by one. -/
theorem foldl_add_set {xs : List Nat} {i : Nat} (hi : i < xs.length) (n : Nat) :
    (xs.set i (xs[i] + 1)).foldl (· + ·) n = xs.foldl (· + ·) n + 1 := by
  have hshift : ∀ (ys : List Nat) (m : Nat),
      ys.foldl (· + ·) (m + 1) = ys.foldl (· + ·) m + 1 := by
    intro ys
    induction ys with
    | nil => intro m; rfl
    | cons y rest ih =>
        intro m
        rw [List.foldl_cons, List.foldl_cons, Nat.add_right_comm]
        exact ih (m + y)
  induction xs generalizing i n with
  | nil => cases hi
  | cons x rest ih =>
      cases i with
      | zero => exact hshift rest (n + x)
      | succ i => exact ih (Nat.lt_of_succ_lt_succ hi) (n + x)

namespace Summary

variable (s : Summary) (outcome : Outcome)

@[simp]
theorem count_samples : (s.count outcome).samples = s.samples + 1 := by
  cases outcome <;> rfl

theorem count_noObject :
    (s.count outcome).noObject = s.noObject + if outcome = .noObject then 1 else 0 := by
  cases outcome <;> rfl

theorem count_noMatch :
    (s.count outcome).noMatch = s.noMatch + if outcome = .noMatch then 1 else 0 := by
  cases outcome <;> rfl

theorem count_confirmations {slot : Nat} (hslot : slot < slotCount) :
    (s.count outcome).confirmations[slot] =
      s.confirmations[slot] + if outcome = .object slot then 1 else 0 := by
  cases outcome with
  | object other =>
      by_cases hother : other = slot
      · subst hother
        simp [count, Vector.getD, hslot]
      · simp [count, hother]
  | _ => rfl

theorem count_total (hslot : ∀ slot, outcome = .object slot → slot < slotCount) :
    (s.count outcome).total = s.total + if outcome.slot?.isSome then 1 else 0 := by
  cases outcome with
  | object slot =>
      have hlt : slot < s.confirmations.toList.length := by simpa using hslot slot rfl
      have hcounter : s.confirmations.getD slot 0 = s.confirmations.toList[slot] := by
        simp [Vector.getD, hslot slot rfl]
      have hsum := foldl_add_set hlt 0
      rw [← hcounter] at hsum
      simpa [total, count, Outcome.slot?, ← Vector.foldl_toList] using hsum
  | _ => rfl

end Summary

/-! ## Feeding many readings -/

namespace Run

variable {σ : Type}

theorem feed_events (run : Run σ) (value : Reading) : (run.feed value).events =
    run.events ++ [⟨run.summary.samples, value, (run.detector.process value).1⟩] := rfl

/-- How many events of a run said so. -/
def said (run : Run σ) (outcome : Outcome) : Nat := (run.events.map Event.outcome).count outcome

theorem said_feed (run : Run σ) (value : Reading) (outcome : Outcome) :
    (run.feed value).said outcome =
      run.said outcome + if (run.detector.process value).1 = outcome then 1 else 0 := by
  rw [said, feed_events, List.map_append, List.count_append, List.map_singleton,
    List.count_singleton, said]
  simp only [beq_iff_eq]

/-- The summary agrees with the events. -/
structure Balanced (run : Run σ) : Prop where
  samples : run.summary.samples = run.events.length
  confirmations : ∀ slot (_ : slot < slotCount),
    run.summary.confirmations[slot] = run.said (.object slot)
  noObject : run.summary.noObject = run.said .noObject
  noMatch : run.summary.noMatch = run.said .noMatch
  /-- No event is left out, if every confirmation has a counter. -/
  total : (∀ event ∈ run.events, ∀ slot, event.outcome = .object slot → slot < slotCount) →
    run.summary.total + run.summary.noObject + run.summary.noMatch + run.said .noChange =
      run.events.length

theorem balanced_start (detector : Detector σ) : (start detector).Balanced where
  samples := rfl
  confirmations slot hslot := by
    change (Vector.replicate slotCount 0)[slot] = 0
    exact Vector.getElem_replicate hslot
  noObject := rfl
  noMatch := rfl
  total _ := rfl

theorem Balanced.feed {run : Run σ} (h : run.Balanced) (value : Reading) :
    (run.feed value).Balanced := by
  have hsummary : (run.feed value).summary = run.summary.count (run.detector.process value).1 := rfl
  constructor
  · rw [hsummary, feed_events, Summary.count_samples, h.samples, List.length_append]
    rfl
  · intro slot hslot
    simp only [hsummary]
    rw [Summary.count_confirmations _ _ hslot, said_feed, h.confirmations slot hslot]
  · rw [hsummary, said_feed, Summary.count_noObject, h.noObject]
  · rw [hsummary, said_feed, Summary.count_noMatch, h.noMatch]
  · intro hslots
    rw [feed_events] at hslots
    have hlast : ∀ slot, (run.detector.process value).1 = .object slot → slot < slotCount :=
      hslots _ (List.mem_append_right _ List.mem_cons_self)
    have hearlier := h.total fun event hmem => hslots event (List.mem_append_left _ hmem)
    rw [hsummary, feed_events, said_feed, Summary.count_total _ _ hlast, Summary.count_noObject,
      Summary.count_noMatch, List.length_append, ← hearlier]
    -- each outcome is counted in one of the four places
    cases (run.detector.process value).1 <;> simp [Outcome.slot?] <;> omega

theorem balanced_foldl_feed (values : List Reading) {run : Run σ} (h : run.Balanced) :
    (values.foldl feed run).Balanced := by
  induction values generalizing run with
  | nil => exact h
  | cons value rest ih => exact ih (h.feed value)

@[simp]
theorem detector_foldl_feed (values : List Reading) (run : Run σ) :
    (values.foldl feed run).detector = run.detector.processAll values := by
  induction values generalizing run with
  | nil => rfl
  | cons value rest ih => exact ih (run.feed value)

/-- The event of a reading has its number, and what the detector says after the readings before. -/
theorem events_foldl_feed (detector : Detector σ) (values : List Reading) :
    (values.foldl feed (start detector)).events.length = values.length ∧
    ∀ i (_ : i < values.length), (values.foldl feed (start detector)).events[i]? =
      some ⟨i, values[i], ((detector.processAll (values.take i)).process values[i]).1⟩ := by
  induction values using List.reverseRecOn with
  | nil => exact ⟨rfl, fun i hi => by cases hi⟩
  | append_singleton values value ih =>
      rcases ih with ⟨hlength, hevents⟩
      have hlast : ((values ++ [value]).foldl feed (start detector)).events =
          (values.foldl feed (start detector)).events ++
            [⟨values.length, value, ((detector.processAll values).process value).1⟩] := by
        have hsamples : (values.foldl feed (start detector)).summary.samples = values.length := by
          rw [foldl_feed_samples]
          exact Nat.zero_add _
        have hdetector : (values.foldl feed (start detector)).detector =
            detector.processAll values := detector_foldl_feed values (start detector)
        rw [List.foldl_append, ← hdetector, ← hsamples]
        rfl
      rw [hlast]
      refine ⟨by rw [List.length_append, List.length_append, hlength]; rfl, fun i hi => ?_⟩
      rw [List.length_append, List.length_singleton] at hi
      by_cases hnew : i = values.length
      · subst hnew
        simp [← hlength]
      · have hold : i < values.length := by omega
        rw [List.getElem?_append_left (by omega), hevents i hold, List.getElem_append_left hold,
          List.take_append_of_le_length (Nat.le_of_lt hold)]

end Run

/-! ## Confirmations that are counted -/

/-- A reading goes on with the candidate or adopts a slot of the record. -/
theorem Debounce.Transition.candidate {t : Thresholds} {state : Debounce} {value : Reading}
    {result : Outcome × Debounce} (h : Transition t state value result) {slot : Nat}
    (hnext : result.2.current = .candidate slot) :
    state.current = .candidate slot ∨ slot < slotCount := by
  cases h with
  | quiet => exact .inl hnext
  | count hcurrent _ => exact .inl hnext
  | confirm hcurrent _ => exact .inl hnext
  | clear => cases hnext
  | miss => cases hnext
  | follow hcurrent => exact .inl hnext
  | adopt hslot =>
      cases hnext
      exact .inr hslot

namespace Detector

variable {σ : Type} {d : Detector σ}

/-- A candidate, if there is one, is a slot of the record. -/
def TracksSlot (d : Detector σ) : Prop :=
  ∀ slot, d.debounce.current = .candidate slot → slot < slotCount

theorem TracksSlot.process (h : d.TracksSlot) (value : Reading) :
    (d.process value).2.TracksSlot := by
  intro slot hnext
  rcases (process_transition d value).candidate hnext with hcurrent | hslot
  · exact h slot hcurrent
  · exact hslot

theorem TracksSlot.lt_of_object (h : d.TracksSlot) {value : Reading} {slot : Nat}
    (hobject : (d.process value).1 = .object slot) : slot < slotCount := by
  have hstep := process_transition d value
  rw [hobject] at hstep
  exact h slot hstep.current_of_object.1

theorem TracksSlot.processAll (h : d.TracksSlot) (values : List Reading) :
    (d.processAll values).TracksSlot := by
  induction values generalizing d with
  | nil => exact h
  | cons value rest ih => exact ih (h.process value)

/-- Every confirmation in a run has a counter. -/
theorem TracksSlot.events (h : d.TracksSlot) (values : List Reading) :
    ∀ event ∈ (values.foldl Run.feed (Run.start d)).events, ∀ slot,
      event.outcome = .object slot → slot < slotCount := by
  intro event hmem slot hobject
  rcases Run.events_foldl_feed d values with ⟨hlength, hevents⟩
  rcases List.mem_iff_getElem?.mp hmem with ⟨i, hi⟩
  have hlt : i < values.length := by
    rw [← hlength]
    exact (List.getElem?_eq_some_iff.mp hi).1
  rw [hevents i hlt] at hi
  cases hi
  exact (h.processAll (values.take i)).lt_of_object hobject

variable [CalibrationStore σ]

/-- In use a detector follows slots of the record only. -/
theorem TracksSlot.operateAll (h : d.TracksSlot) (operations : List (Operation σ)) :
    (d.operateAll operations).TracksSlot := by
  induction operations generalizing d with
  | nil => exact h
  | cons operation rest ih =>
      apply ih
      rcases operation.process_or with ⟨value, rfl⟩ | hother
      · exact h.process value
      · unfold TracksSlot
        rw [operate_debounce hother]
        exact h

theorem Built.tracksSlot (h : Built d) : d.TracksSlot := by
  unfold TracksSlot
  rw [h.start.2]
  intro slot hnone
  cases hnone

end Detector

end SmartScale
