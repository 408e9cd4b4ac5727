import SmartScale.Proofs.Detector.Lemmas
import SmartScale.Store.Memory

/-!
# What a detector says about a trace of readings

The debounce is incremental: it keeps what is tracked, a count and one reading.  This file says what
it amounts to over a whole trace, without any state:

* a reading is an *anchor* if it is not close to the last anchor before it (`Trace.isAnchorAt`);
* what is tracked is what the last anchor is taken for (`Trace.standing`);
* a slot is confirmed by every reading that completes a round of `samples` readings, counted from
  the anchor that adopted the slot and without the later anchors (`Trace.steady`).

`Detector.trace_eq_expected` says that the outcomes and states of a run are exactly these.
-/

namespace SmartScale

/-! ## Anchors and what they are taken for -/

namespace Trace

section Definitions

variable (t : Thresholds) (r : Record)

/-- What a significant reading is taken for. -/
def classify (value : Reading) : Tracked :=
  if value.abs.lt t.noObject then .noObject
  else
    match r.greatestSlot? value with
    | some slot => .candidate slot
    | none => .noMatch

/-- The last anchor of a trace; zero before the first. -/
def lastAnchor (readings : List Reading) : Reading :=
  readings.foldl (fun anchor value => if value.within anchor t.change then anchor else value)
    Reading.zero

/-- The reading at a position is an anchor: it is not close to the last anchor before it. -/
def isAnchorAt (readings : List Reading) (i : Nat) : Bool :=
  readings[i]?.any fun value => !value.within (lastAnchor t (readings.take i)) t.change

/-- What the last anchor of a trace is taken for. -/
def standing (readings : List Reading) : Tracked := classify t r (lastAnchor t readings)

/-- From position `i` on, every last anchor is taken for the slot. -/
def StandsFrom (readings : List Reading) (slot i : Nat) : Prop :=
  ∀ j < readings.length, i ≤ j → standing t r (readings.take (j + 1)) = .candidate slot

instance (readings : List Reading) (slot i : Nat) : Decidable (StandsFrom t r readings slot i) :=
  inferInstanceAs (Decidable (∀ j < readings.length, i ≤ j → _))

/-- The readings since the slot was adopted that are no anchors. -/
def steady (readings : List Reading) (slot : Nat) : Nat :=
  (List.range readings.length).countP fun i =>
    !isAnchorAt t readings i && decide (StandsFrom t r readings slot i)

/-- The slot is confirmed by the last reading: with the anchor that adopted the slot, the readings
that are no anchors fill whole rounds. -/
def Confirms (readings : List Reading) (slot : Nat) : Prop :=
  t.samples.toNat ∣ steady t r readings slot + 1

instance (readings : List Reading) (slot : Nat) : Decidable (Confirms t r readings slot) :=
  inferInstanceAs (Decidable (_ ∣ _))

/-- What is said about the reading at a position. -/
def outcomeAt (readings : List Reading) (i : Nat) : Outcome :=
  match standing t r (readings.take (i + 1)), isAnchorAt t readings i with
  | .noObject, true => .noObject
  | .noMatch, true => .noMatch
  | .candidate slot, false =>
    if Confirms t r (readings.take (i + 1)) slot then .object slot else .noChange
  | _, _ => .noChange

/-- What is remembered after a trace. -/
def stateAfter (readings : List Reading) : Debounce where
  current := standing t r readings
  stableCount :=
    match standing t r readings with
    | .candidate slot => UInt32.ofNat ((steady t r readings slot + 1) % t.samples.toNat)
    | _ => 0
  previous := lastAnchor t readings

/-- Outcome and state at every position of a trace. -/
def expected (readings : List Reading) : List (Outcome × Debounce) :=
  (List.range readings.length).map fun i => (outcomeAt t r readings i, stateAfter t r (readings.take (i + 1)))

end Definitions

/-! ## One reading more -/

section Growth

variable {t : Thresholds} {r : Record} {readings : List Reading} {value : Reading} {slot : Nat}

@[simp]
theorem lastAnchor_append : lastAnchor t (readings ++ [value]) =
    if value.within (lastAnchor t readings) t.change then lastAnchor t readings else value :=
  List.foldl_append

@[simp]
theorem isAnchorAt_length : isAnchorAt t (readings ++ [value]) readings.length =
    !value.within (lastAnchor t readings) t.change := by
  simp [isAnchorAt]

theorem isAnchorAt_append {i : Nat} {more : List Reading} (hi : i < readings.length) :
    isAnchorAt t (readings ++ more) i = isAnchorAt t readings i := by
  simp [isAnchorAt, List.getElem?_append_left hi, List.take_append_of_le_length hi.le]

/-- A slot stands from an earlier position on exactly if it did so before and still does. -/
theorem standsFrom_append {i : Nat} (hi : i ≤ readings.length) :
    StandsFrom t r (readings ++ [value]) slot i ↔
      StandsFrom t r readings slot i ∧ standing t r (readings ++ [value]) = .candidate slot := by
  constructor
  · intro h
    refine ⟨fun j hj hij => ?_, ?_⟩
    · have := h j (by simp; omega) hij
      rwa [List.take_append_of_le_length hj] at this
    · have := h readings.length (by simp) hi
      rwa [List.take_of_length_le (by simp)] at this
  · rintro ⟨hold, hnew⟩ j hj hij
    rw [List.length_append, List.length_singleton] at hj
    rcases Nat.lt_succ_iff_lt_or_eq.mp hj with hj | rfl
    · rw [List.take_append_of_le_length hj]
      exact hold j hj hij
    · rwa [List.take_of_length_le (by simp)]

/-- The steady readings of a slot start from none whenever something else stands. -/
theorem steady_eq_zero (h : standing t r readings ≠ .candidate slot) :
    steady t r readings slot = 0 := by
  refine List.countP_eq_zero.mpr fun i hi => ?_
  have hi : i < readings.length := List.mem_range.mp hi
  have hlast : ¬ StandsFrom t r readings slot i := by
    intro hs
    have := hs (readings.length - 1) (by omega) (by omega)
    rw [List.take_of_length_le (by omega)] at this
    exact h this
  simp [hlast]

theorem steady_append (h : standing t r (readings ++ [value]) = .candidate slot) :
    steady t r (readings ++ [value]) slot = steady t r readings slot +
      if value.within (lastAnchor t readings) t.change then 1 else 0 := by
  have hold : (List.range readings.length).countP (fun i =>
        !isAnchorAt t (readings ++ [value]) i &&
          decide (StandsFrom t r (readings ++ [value]) slot i)) =
      steady t r readings slot := by
    refine List.countP_congr fun i hi => ?_
    have hi : i < readings.length := List.mem_range.mp hi
    simp [isAnchorAt_append hi, standsFrom_append hi.le, h]
  have hnew : StandsFrom t r (readings ++ [value]) slot readings.length := by
    refine (standsFrom_append le_rfl).mpr ⟨fun j hj hij => ?_, h⟩
    omega
  rw [steady, List.length_append, List.length_singleton, List.range_succ, List.countP_append, hold]
  simp [hnew]

end Growth

/-! ## The step of the debounce -/

section Step

variable {t : Thresholds} {r : Record} {readings : List Reading} {value : Reading} {slot : Nat}

/-- A reading close to the last anchor leaves everything but the count. -/
theorem settle_keeps (t : Thresholds) (state : Debounce) :
    (Debounce.settle t state).2.current = state.current ∧
      (Debounce.settle t state).2.previous = state.previous := by
  unfold Debounce.settle
  split
  · dsimp only
    split <;> exact ⟨rfl, rfl⟩
  · exact ⟨rfl, rfl⟩

/-- A reading that is not close to the one before takes its place. -/
theorem step_of_far {state : Debounce} (hvalid : r.isValid = true)
    (hfar : value.within state.previous t.change = false) :
    Debounce.step t r state value = Debounce.move t r state value := by
  unfold Debounce.step
  rw [hvalid, hfar]
  rfl

/-- What an anchor leads to is settled by its class, but for the count of a slot that it keeps. -/
theorem move_eq (t : Thresholds) (r : Record) (state : Debounce) (value : Reading) :
    Debounce.move t r state value =
      match classify t r value with
      | .noObject => (.noObject, ⟨.noObject, 0, value⟩)
      | .noMatch => (.noMatch, ⟨.noMatch, 0, value⟩)
      | .candidate slot =>
        (.noChange, if state.current = .candidate slot then { state with previous := value }
          else ⟨.candidate slot, 1, value⟩) := by
  unfold Debounce.move classify
  split
  · rfl
  · rw [r.matchingSlot?_eq_greatest]
    cases r.greatestSlot? value with
    | none => rfl
    | some slot =>
        dsimp only [Option.map_some]
        split <;> rfl

/-- What the debounce remembers before the first reading is what an empty trace leaves. -/
theorem stateAfter_nil (h : Reading.zero.abs.lt t.noObject = true) :
    stateAfter t r [] = Debounce.initial := by
  have hstanding : standing t r [] = .noObject := by
    simp [standing, classify, lastAnchor, h]
  simp [stateAfter, hstanding, lastAnchor, Debounce.initial]

/-- The position in a round after one more reading. -/
theorem succ_mod_round {m n : Nat} (hn : 2 ≤ n) :
    (m + 1) % n = if n ∣ m + 1 then 0 else m % n + 1 := by
  have hsucc := Nat.add_mod_eq_ite (k := n) (m := m) (n := 1)
  rw [Nat.mod_eq_of_lt (by omega : 1 < n)] at hsucc
  have hlt := Nat.mod_lt m (by omega : 0 < n)
  simp only [Nat.dvd_iff_mod_eq_zero]
  split at hsucc <;> split <;> omega

/-- A round in words: the count never leaves the words, since a round is at most a word long. -/
theorem samples_le_succ_iff {m : Nat} (hn : 2 ≤ t.samples.toNat) :
    t.samples ≤ UInt32.ofNat (m % t.samples.toNat) + 1 ↔ t.samples.toNat ∣ m + 1 := by
  have hlt : m % t.samples.toNat < t.samples.toNat := Nat.mod_lt _ (by omega)
  have hword : t.samples.toNat < 2 ^ 32 := t.samples.toNat_lt
  have hcount : (UInt32.ofNat (m % t.samples.toNat) + 1).toNat = m % t.samples.toNat + 1 := by
    simp only [UInt32.toNat_add, UInt32.toNat_ofNat', UInt32.toNat_one]
    omega
  have hround := Nat.add_mod_eq_ite (k := t.samples.toNat) (m := m) (n := 1)
  rw [Nat.mod_eq_of_lt (by omega : 1 < t.samples.toNat)] at hround
  rw [UInt32.le_iff_toNat_le, hcount, Nat.dvd_iff_mod_eq_zero]
  split at hround <;> omega

/-- What is said about the last reading of a trace. -/
theorem outcomeAt_length : outcomeAt t r (readings ++ [value]) readings.length =
    match standing t r (readings ++ [value]), !value.within (lastAnchor t readings) t.change with
    | .noObject, true => .noObject
    | .noMatch, true => .noMatch
    | .candidate slot, false =>
      if Confirms t r (readings ++ [value]) slot then .object slot else .noChange
    | _, _ => .noChange := by
  rw [outcomeAt, isAnchorAt_length, List.take_of_length_le (by simp)]

theorem settle_stateAfter (readings : List Reading) (value : Reading)
    (hn : 2 ≤ t.samples.toNat)
    (hnear : value.within (lastAnchor t readings) t.change = true) :
    Debounce.settle t (stateAfter t r readings) =
      (outcomeAt t r (readings ++ [value]) readings.length,
        stateAfter t r (readings ++ [value])) := by
  have hanchor : lastAnchor t (readings ++ [value]) = lastAnchor t readings := by
    simp [hnear]
  have hstanding : standing t r (readings ++ [value]) = standing t r readings := by
    rw [standing, hanchor, standing]
  rw [outcomeAt_length, hnear, hstanding]
  cases h : standing t r readings with
  | noObject => simp [Debounce.settle, stateAfter, h, hstanding, hanchor]
  | noMatch => simp [Debounce.settle, stateAfter, h, hstanding, hanchor]
  | candidate slot =>
      have hsteady : steady t r (readings ++ [value]) slot = steady t r readings slot + 1 := by
        rw [steady_append (by rw [hstanding, h]), if_pos hnear]
      have hfull := samples_le_succ_iff (m := steady t r readings slot + 1) hn
      have hround := succ_mod_round (m := steady t r readings slot + 1) hn
      simp only [Debounce.settle, stateAfter, h, hstanding, hanchor, hfull, Confirms, hsteady,
        Bool.not_true]
      -- Either the reading fills the round, which begins anew, or the round goes on.
      split
      · next hdvd => simp [hround, hdvd]
      · next hdvd => simp [hround, hdvd]

theorem move_stateAfter (readings : List Reading) (value : Reading)
    (hn : 2 ≤ t.samples.toNat)
    (hfar : value.within (lastAnchor t readings) t.change = false) :
    Debounce.move t r (stateAfter t r readings) value =
      (outcomeAt t r (readings ++ [value]) readings.length,
        stateAfter t r (readings ++ [value])) := by
  have hanchor : lastAnchor t (readings ++ [value]) = value := by
    simp [hfar]
  have hstanding : standing t r (readings ++ [value]) = classify t r value := by
    rw [standing, hanchor]
  rw [outcomeAt_length, hfar, hstanding, Debounce.move, r.matchingSlot?_eq_greatest]
  by_cases hempty : value.abs.lt t.noObject
  · have hclass : classify t r value = .noObject := by simp [classify, hempty]
    simp [hempty, hclass, stateAfter, hstanding, hanchor]
  · cases hslot : r.greatestSlot? value with
    | none =>
        have hclass : classify t r value = .noMatch := by simp [classify, hempty, hslot]
        simp [hempty, hclass, stateAfter, hstanding, hanchor]
    | some slot =>
        have hclass : classify t r value = .candidate slot := by simp [classify, hempty, hslot]
        have hsteady :
            steady t r (readings ++ [value]) slot = steady t r readings slot := by
          rw [steady_append (by rw [hstanding, hclass]), hfar]
          rfl
        by_cases hsame : standing t r readings = .candidate slot
        · -- another anchor of the slot that stands: the round goes on
          simp [hempty, hclass, stateAfter, hstanding, hanchor, hsame, hsteady]
        · -- an anchor that adopts the slot: its round begins, with the anchor as its first reading
          have hone : 1 % t.samples.toNat = 1 := Nat.mod_eq_of_lt (by omega)
          simp [hempty, hclass, stateAfter, hstanding, hanchor, hsame, hsteady,
            steady_eq_zero hsame, hone]

/-- One reading takes the debounce from what a trace leaves to what the longer trace leaves. -/
theorem step_stateAfter (readings : List Reading) (value : Reading)
    (hn : 2 ≤ t.samples.toNat) (hvalid : r.isValid = true) :
    Debounce.step t r (stateAfter t r readings) value =
      (outcomeAt t r (readings ++ [value]) readings.length,
        stateAfter t r (readings ++ [value])) := by
  have hprevious : (stateAfter t r readings).previous = lastAnchor t readings := rfl
  rw [Debounce.step, hvalid, hprevious]
  -- The reading is an anchor if it is not within the distance of the last one.
  cases hnear : value.within (lastAnchor t readings) t.change with
  | true => exact settle_stateAfter readings value hn hnear
  | false => exact move_stateAfter readings value hn hnear

end Step

/-- What is said about a reading does not depend on the readings after it. -/
theorem outcomeAt_append {t : Thresholds} {r : Record} {readings more : List Reading} {i : Nat}
    (hi : i < readings.length) :
    outcomeAt t r (readings ++ more) i = outcomeAt t r readings i := by
  rw [outcomeAt, outcomeAt, isAnchorAt_append hi, List.take_append_of_le_length hi]

theorem expected_append (t : Thresholds) (r : Record) (readings : List Reading) (value : Reading) :
    expected t r (readings ++ [value]) = expected t r readings ++
      [(outcomeAt t r (readings ++ [value]) readings.length,
        stateAfter t r (readings ++ [value]))] := by
  rw [expected, List.length_append, List.length_singleton, List.range_succ, List.map_append,
    expected]
  congr 1
  · refine List.map_congr_left fun i hi => ?_
    have hi : i < readings.length := List.mem_range.mp hi
    rw [outcomeAt_append hi, List.take_append_of_le_length hi]
  · rw [List.map_singleton, List.take_of_length_le (by simp)]

end Trace

/-! ## Runs -/

namespace Detector

variable {σ : Type} {d : Detector σ}

/-- Outcome and state at every reading of a run. -/
def trace (d : Detector σ) : List Reading → List (Outcome × Debounce)
  | [] => []
  | value :: rest =>
    ((d.process value).1, (d.process value).2.debounce) :: (d.process value).2.trace rest

theorem trace_append (d : Detector σ) (readings more : List Reading) :
    d.trace (readings ++ more) = d.trace readings ++ (d.processAll readings).trace more := by
  induction readings generalizing d with
  | nil => rfl
  | cons value rest ih => exact congrArg _ (ih _)

/-- After any readings a fresh detector remembers what the trace leaves. -/
theorem processAll_debounce (hcheck : d.thresholds.check = .ok ()) (hvalid : d.record.isValid = true)
    (hfresh : d.debounce = .initial) (readings : List Reading) :
    (d.processAll readings).debounce = Trace.stateAfter d.thresholds d.record readings := by
  induction readings using List.reverseRecOn with
  | nil => rw [processAll_nil, hfresh, Trace.stateAfter_nil (Thresholds.zero_lt_noObject hcheck)]
  | append_singleton readings value ih =>
      rw [processAll_append, processAll_singleton, process_eq, processAll_thresholds,
        processAll_record, ih, Trace.step_stateAfter _ _ (Thresholds.two_le_samples hcheck) hvalid]

/-- A fresh calibrated detector says and remembers at every reading what the trace up to that
reading determines, whatever the readings are. -/
theorem trace_eq_expected (d : Detector σ) (readings : List Reading)
    (hcheck : d.thresholds.check = .ok ()) (hvalid : d.record.isValid = true)
    (hfresh : d.debounce = .initial) :
    d.trace readings = Trace.expected d.thresholds d.record readings := by
  induction readings using List.reverseRecOn with
  | nil => rfl
  | append_singleton readings value ih =>
      have hstep :=
        Trace.step_stateAfter readings value (Thresholds.two_le_samples hcheck) hvalid
      rw [trace_append, ih, Trace.expected_append, trace, trace, process_eq, processAll_thresholds,
        processAll_record, processAll_debounce hcheck hvalid hfresh, hstep]

/-- Overlapping bands: a reading that is no number, an anchor of slots 1 and 2, a round of slot 2
that a second anchor interrupts, and an empty scale. -/
theorem trace_eq_expected_overlapping :
    let weights : Vector Reading slotCount := #v[⟨0⟩, ⟨0x42c80000⟩, ⟨0x42ca0000⟩, ⟨0⟩]
    let tolerances : Vector Reading slotCount := #v[⟨0⟩, ⟨0x40a00000⟩, ⟨0x40a00000⟩, ⟨0⟩]
    let d : Detector MemoryStore :=
      { Detector.ofParts (MemoryStore.new 44) 0 ⟨⟨0x3d23d70a⟩, ⟨0x3d23d70a⟩, 3⟩ with
        record := ⟨Record.validTag, weights, tolerances, Reading.zero⟩ }
    let readings : List Reading :=
      [⟨0x7fc00000⟩, ⟨0x42c80000⟩, ⟨0x42c80000⟩, ⟨0x42ca0000⟩, ⟨0x42ca0000⟩, ⟨0⟩]
    d.thresholds.check = .ok () ∧ d.record.isValid = true ∧ d.debounce = .initial ∧
      d.trace readings = Trace.expected d.thresholds d.record readings ∧
      (d.trace readings).map Prod.fst =
        [.noMatch, .noChange, .noChange, .noChange, .object 2, .noObject] :=
  ⟨rfl, rfl, rfl, trace_eq_expected _ _ rfl rfl rfl, by decide⟩

end Detector

end SmartScale
