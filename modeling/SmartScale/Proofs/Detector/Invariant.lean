import SmartScale.Proofs.Detector.Operations
import SmartScale.Run.Basic
import SmartScale.Store.Faulty
import SmartScale.Store.Memory

/-!
# States that a detector can be in

The debounce of a detector in use is always sound (`Debounce.Sound`): the count of a round is below
the number of samples, without a candidate there is no count, and a candidate is a slot of the
record.  Every reading keeps this, under whatever record, and no other operation looks at the
debounce, so the record and the store may change underneath at any time.

Consequences are drawn in `Detector.operateAll_invariant`: the count never leaves the words, and a
confirmation names a slot that exists, so that its code can be read back and a run counts it.
-/

namespace SmartScale

/-! ## Sound states -/

namespace Debounce

structure Sound (t : Thresholds) (state : Debounce) : Prop where
  /-- The round is not full. -/
  count_lt : state.stableCount < t.samples
  /-- Without a candidate there is nothing to count. -/
  count_eq_zero : (∀ slot, state.current ≠ .candidate slot) → state.stableCount = 0
  /-- A candidate is a slot of the record. -/
  slot_lt : ∀ slot, state.current = .candidate slot → slot < slotCount

variable {t : Thresholds} {state : Debounce} {value : Reading}

theorem zero_lt_samples (hsamples : 2 ≤ t.samples.toNat) : 0 < t.samples := by
  rw [UInt32.lt_iff_toNat_lt]
  exact Nat.lt_of_lt_of_le Nat.two_pos hsamples

theorem sound_initial (hsamples : 2 ≤ t.samples.toNat) : Sound t .initial where
  count_lt := zero_lt_samples hsamples
  count_eq_zero _ := rfl
  slot_lt slot h := by cases h

theorem Transition.sound {result : Outcome × Debounce} (h : Transition t state value result)
    (hsamples : 2 ≤ t.samples.toNat) (hsound : Sound t state) : Sound t result.2 := by
  have hzero : 0 < t.samples := zero_lt_samples hsamples
  cases h with
  | quiet => exact hsound
  | count hcurrent hopen =>
      refine ⟨hopen, ?_, hsound.slot_lt⟩
      intro hnone
      exact absurd hcurrent (hnone _)
  | confirm hcurrent _ =>
      -- the candidate stays, and its next round begins
      exact ⟨hzero, fun _ => rfl, hsound.slot_lt⟩
  | clear => exact ⟨hzero, fun _ => rfl, fun _ h => by cases h⟩
  | miss => exact ⟨hzero, fun _ => rfl, fun _ h => by cases h⟩
  | follow hcurrent => exact ⟨hsound.count_lt, hsound.count_eq_zero, hsound.slot_lt⟩
  | adopt hslot =>
      refine ⟨?_, ?_, ?_⟩
      · -- a round of one sample would be full at once
        rw [UInt32.lt_iff_toNat_lt]
        exact hsamples
      · intro hnone
        exact absurd rfl (hnone _)
      · intro slot h
        cases h
        exact hslot

/-- A confirmation names the candidate, which stays the candidate. -/
theorem Transition.current_of_object {slot : Nat} {next : Debounce}
    (h : Transition t state value (.object slot, next)) :
    state.current = .candidate slot ∧ next.current = .candidate slot := by
  cases h with
  | confirm hcurrent _ => exact ⟨hcurrent, hcurrent⟩

/-- The number of samples is a word, so a count below it has room for one more. -/
theorem Sound.toNat_succ (h : Sound t state) :
    (state.stableCount + 1).toNat = state.stableCount.toNat + 1 := by
  have hlt : state.stableCount.toNat < t.samples.toNat := UInt32.lt_iff_toNat_lt.mp h.count_lt
  have hword : t.samples.toNat < 2 ^ 32 := t.samples.toNat_lt
  rw [UInt32.toNat_add, UInt32.toNat_one, Nat.mod_eq_of_lt]
  omega

end Debounce

/-! ## What a confirmation is good for -/

theorem Outcome.ofCode?_object {slot : Nat} (h : slot < slotCount) :
    Outcome.ofCode? (Outcome.object slot).code = some (.object slot) := by
  have hfour : slot < 4 := h
  have hcode : (Outcome.object slot).code = slot := by
    rw [Outcome.code, Outcome.maxCode]
    omega
  have hslot : 0 ≤ (slot : Int) ∧ (slot : Int) < slotCount := by
    refine ⟨by omega, ?_⟩
    exact_mod_cast h
  rw [hcode, Outcome.ofCode?, if_neg (by omega), if_neg (by omega), if_neg (by omega), if_pos hslot]
  rfl

/-- A run counts the confirmation of a slot that exists, and nothing else then. -/
theorem Run.feed_confirmations {σ : Type} {run : Run σ} {value : Reading} {slot : Nat}
    (hobject : (run.detector.process value).1 = .object slot) (hslot : slot < slotCount) :
    (run.feed value).summary.confirmations =
      run.summary.confirmations.set slot (run.summary.confirmations[slot] + 1) := by
  change (run.summary.count (run.detector.process value).1).confirmations = _
  rw [hobject]
  have hcounter : run.summary.confirmations.getD slot 0 = run.summary.confirmations[slot] := by
    simp [Vector.getD, hslot]
  ext i hi
  simp [Summary.count, Vector.getElem_set, Vector.getElem_setIfInBounds, hcounter]

/-! ## Detectors in use -/

namespace Detector

variable {σ : Type} [CalibrationStore σ] {d : Detector σ}

theorem operate_sound (hsamples : 2 ≤ d.thresholds.samples.toNat)
    (hsound : d.debounce.Sound d.thresholds) (operation : Operation σ) :
    (d.operate operation).debounce.Sound (d.operate operation).thresholds := by
  rw [operate_thresholds]
  rcases operation.process_or with ⟨value, rfl⟩ | hother
  · exact (process_transition d value).sound hsamples hsound
  · rw [operate_debounce hother]
    exact hsound

theorem operateAll_sound (hsamples : 2 ≤ d.thresholds.samples.toNat)
    (hsound : d.debounce.Sound d.thresholds) (operations : List (Operation σ)) :
    (d.operateAll operations).debounce.Sound d.thresholds := by
  induction operations generalizing d with
  | nil => exact hsound
  | cons operation rest ih =>
      have hsame : (d.operate operation).thresholds = d.thresholds := operate_thresholds d operation
      have hrest := ih (d := d.operate operation) (by rwa [hsame])
        (operate_sound hsamples hsound operation)
      rwa [hsame] at hrest

/-- What holds of a detector however it was built and whatever has been done with it since.

* The count of the round is below the number of samples, so that it can be raised without leaving
  the words, and without a candidate it is zero.
* A candidate is a slot of the record, and so is whatever the record matches.
* A confirmation names the candidate; its code reads back as the same confirmation, and a run that
  has come to this detector raises the counter of the slot. -/
theorem operateAll_invariant (hbuilt : Built d) (operations : List (Operation σ)) :
    let now := d.operateAll operations
    now.debounce.stableCount < d.thresholds.samples ∧
    (now.debounce.stableCount + 1).toNat = now.debounce.stableCount.toNat + 1 ∧
    ((∀ slot, now.debounce.current ≠ .candidate slot) → now.debounce.stableCount = 0) ∧
    (∀ slot, now.debounce.current = .candidate slot → slot < slotCount) ∧
    (∀ value slot, now.record.matchingSlot? value = some slot → slot < slotCount) ∧
    (∀ value slot, (now.process value).1 = .object slot →
      now.debounce.current = .candidate slot ∧
      (now.process value).2.debounce.current = .candidate slot ∧
      Outcome.ofCode? (Outcome.object slot).code = some (.object slot) ∧
      ∃ _ : slot < slotCount, ∀ run : Run σ, run.detector = now →
        (run.feed value).summary.confirmations =
          run.summary.confirmations.set slot (run.summary.confirmations[slot] + 1)) := by
  intro now
  rcases hbuilt.start with ⟨hcheck, hinitial⟩
  have hsamples : 2 ≤ d.thresholds.samples.toNat := Thresholds.two_le_samples hcheck
  have hsound : now.debounce.Sound d.thresholds := by
    refine operateAll_sound hsamples ?_ operations
    rw [hinitial]
    exact Debounce.sound_initial hsamples
  refine ⟨hsound.count_lt, hsound.toNat_succ, hsound.count_eq_zero, hsound.slot_lt, ?_, ?_⟩
  · intro value slot hmatch
    exact Record.matchingSlot?_lt hmatch
  · intro value slot hobject
    have hstep : Debounce.Transition now.thresholds now.debounce value
        (.object slot, (now.process value).2.debounce) := by
      rw [← hobject]
      exact process_transition now value
    rcases hstep.current_of_object with ⟨hcurrent, hnext⟩
    have hslot : slot < slotCount := hsound.slot_lt slot hcurrent
    refine ⟨hcurrent, hnext, Outcome.ofCode?_object hslot, hslot, ?_⟩
    intro run hrun
    have hfed : (run.detector.process value).1 = .object slot := by
      rw [hrun]
      exact hobject
    exact Run.feed_confirmations hfed hslot

/-- A store that fails throughout: the stamp of the failed save is enough for slot 3 to be
confirmed. -/
theorem operateAll_invariant_failing_store :
    let broken : FaultyStore MemoryStore :=
      ⟨MemoryStore.new 44, some (.other "bus fault"), some (.other "bus fault"), none⟩
    let d : Detector (FaultyStore MemoryStore) :=
      ofParts broken 0 ⟨Thresholds.defaultDistance, Thresholds.defaultDistance, 2⟩
    let operations : List (Operation (FaultyStore MemoryStore)) :=
      [.load, .setObject 3 ⟨0x42c80000⟩ ⟨0x40a00000⟩, .save, .process ⟨0x42c80000⟩]
    let now := d.operateAll operations
    Built d ∧ (now.process ⟨0x42c80000⟩).1 = .object 3 ∧
      now.debounce.stableCount < 2 ∧
      Outcome.ofCode? (Outcome.object 3).code = some (.object 3) := by
  intro broken d operations now
  have hbuilt : Built d := .build (rfl : build broken 0 d.thresholds = .ok d)
  have hobject : (now.process ⟨0x42c80000⟩).1 = .object 3 := by decide +kernel
  rcases operateAll_invariant hbuilt operations with ⟨hcount, -, -, -, -, hobjects⟩
  rcases hobjects _ _ hobject with ⟨-, -, hcode, -⟩
  exact ⟨hbuilt, hobject, hcount, hcode⟩

end Detector

end SmartScale
