import SmartScale.Proofs.Detector.Invariant
import SmartScale.Proofs.Detector.Trace
import SmartScale.Proofs.RecordSlots

/-!
# Readings and records with special values

A scale may deliver what is no number or infinite, and a store may hold a record with such weights
or with tolerances that are zero or below.  All three comparisons of the detector come down to one
question, whether two readings are near each other, and `Reading.within_eq_true` answers it for the
special values: only finite readings are near each other, and only within a bound above zero.

Hence a special reading matches nothing and is near nothing, neither the reading before it nor the
one after it; and a slot with a special weight, or with a tolerance that is not above zero, is never
adopted.  `Detector.special_values_harmless` says both.
-/

namespace SmartScale

/-! ## Special values -/

namespace Reading

variable {a b bound : Reading}

theorem pattern_lt (r : Reading) : r.pattern < 0x80000000 := Nat.mod_lt _ (by decide)

theorem pattern_ofPattern {negative : Bool} {pattern : Nat} (h : pattern < 0x80000000) :
    (ofPattern negative pattern).pattern = pattern := by
  unfold ofPattern Reading.pattern
  rw [UInt32.toNat_ofNat']
  cases negative <;> simp <;> omega

@[simp]
theorem pattern_abs (r : Reading) : r.abs.pattern = r.pattern := pattern_ofPattern r.pattern_lt

@[simp]
theorem pattern_neg (r : Reading) : r.neg.pattern = r.pattern := pattern_ofPattern r.pattern_lt

theorem rank_abs (r : Reading) : r.abs.rank = r.pattern := by
  have hlow : r.abs.negative = false := by
    have hpattern := r.pattern_lt
    unfold abs ofPattern negative
    rw [UInt32.toNat_ofNat']
    simp
    omega
  unfold rank
  rw [hlow, pattern_abs]
  rfl

theorem isFinite_eq_of_pattern (h : a.pattern = b.pattern) : a.isFinite = b.isFinite := by
  unfold isFinite
  rw [h]

/-- No number has a rank past that of infinity. -/
theorem rank_le_infinity (h : a.isNaN = false) : a.rank ≤ infinity := by
  have hpattern : a.pattern ≤ infinity := Nat.not_lt.mp (of_decide_eq_false h)
  unfold rank
  split <;> omega

/-- A magnitude below a bound is finite, and the bound is above zero. -/
theorem abs_lt_eq_true (h : a.abs.lt bound = true) :
    a.isFinite = true ∧ zero.lt bound = true := by
  unfold lt at h
  simp only [Bool.and_eq_true, Bool.not_eq_true', decide_eq_true_eq, rank_abs] at h
  rcases h with ⟨⟨-, hnumber⟩, hlt⟩
  have hbound : bound.rank ≤ infinity := rank_le_infinity hnumber
  refine ⟨?_, ?_⟩
  · unfold isFinite
    exact decide_eq_true (by omega)
  · have hzero : zero.rank = 0 := by decide
    have hzeroNumber : zero.isNaN = false := by decide
    simp only [lt, hzeroNumber, hnumber, hzero, Bool.not_false, Bool.true_and,
      decide_eq_true_eq]
    omega

/-- A difference is finite only between finite readings. -/
theorem isFinite_of_sub (h : (sub a b).isFinite = true) : a.isFinite = true ∧ b.isFinite = true := by
  unfold sub at h
  split at h
  · cases h
  · split at h
    · next ha =>
      split at h
      · cases h
      · -- an infinite reading less a finite one is that reading
        rw [h] at ha
        cases ha
    · next ha =>
      split at h
      · next hb =>
        rw [isFinite_eq_of_pattern (pattern_neg b)] at h
        rw [h] at hb
        cases hb
      · next hb => simpa using And.intro ha hb

/-- Only finite readings are near each other, and only within a bound above zero. -/
theorem within_eq_true (h : a.within b bound = true) :
    a.isFinite = true ∧ b.isFinite = true ∧ zero.lt bound = true := by
  rcases abs_lt_eq_true h with ⟨hdifference, hbound⟩
  rcases isFinite_of_sub hdifference with ⟨ha, hb⟩
  exact ⟨ha, hb, hbound⟩

/-- What is above zero is a number other than zero, and not below it. -/
theorem of_zero_lt (h : zero.lt a = true) :
    a.isNaN = false ∧ a.feq zero = false ∧ a.lt zero = false := by
  have hzero : zero.rank = 0 := by decide
  unfold lt at h
  simp only [Bool.and_eq_true, Bool.not_eq_true', decide_eq_true_eq, hzero] at h
  rcases h with ⟨⟨-, hnumber⟩, hlt⟩
  refine ⟨hnumber, ?_, ?_⟩
  · simp only [feq, hzero, Bool.and_eq_false_iff, decide_eq_false_iff_not]
    exact .inr (by omega)
  · simp only [lt, hzero, Bool.and_eq_false_iff, decide_eq_false_iff_not]
    exact .inr (by omega)

end Reading

/-! ## Slots that match nothing -/

namespace Record

variable {r : Record} {value : Reading} {slot : Fin slotCount}

/-- The weight of the slot is no number or infinite, or its tolerance is no number, zero or below
zero. -/
def Unusable (r : Record) (slot : Fin slotCount) : Prop :=
  (r.pairAt slot).1.isFinite = false ∨ (r.pairAt slot).2.isNaN = true ∨
    (r.pairAt slot).2.feq Reading.zero = true ∨ (r.pairAt slot).2.lt Reading.zero = true

theorem covers_of_greatestSlot? (h : r.greatestSlot? value = some slot) :
    r.covers slot value = true := by
  have hfound := List.find?_some h
  exact hfound

/-- What covers a reading has a finite weight and a tolerance above zero. -/
theorem not_unusable_of_covers (h : r.covers slot value = true) : ¬ r.Unusable slot := by
  rcases Reading.within_eq_true h with ⟨-, hweight, htolerance⟩
  rcases Reading.of_zero_lt htolerance with ⟨hnumber, hzero, hbelow⟩
  rintro (hspecial | hspecial | hspecial | hspecial)
  · exact absurd (hspecial.symm.trans hweight) Bool.false_ne_true
  · exact absurd (hnumber.symm.trans hspecial) Bool.false_ne_true
  · exact absurd (hzero.symm.trans hspecial) Bool.false_ne_true
  · exact absurd (hbelow.symm.trans hspecial) Bool.false_ne_true

end Record

/-! ## What special readings and slots are taken for -/

namespace Trace

variable {t : Thresholds} {r : Record} {value : Reading}

theorem classify_of_not_isFinite (h : value.isFinite = false) : classify t r value = .noMatch := by
  have hheavy : value.abs.lt t.noObject = false := by
    apply eq_false_of_ne_true
    intro hlight
    rw [(Reading.abs_lt_eq_true hlight).1] at h
    cases h
  have hnone : r.greatestSlot? value = none := by
    cases hslot : r.greatestSlot? value with
    | none => rfl
    | some slot =>
        rw [(Reading.within_eq_true (Record.covers_of_greatestSlot? hslot)).1] at h
        cases h
  unfold classify
  rw [hheavy, hnone]
  rfl

theorem classify_ne_of_unusable {slot : Fin slotCount} (h : r.Unusable slot) :
    classify t r value ≠ .candidate slot := by
  unfold classify
  split
  · intro hcandidate
    cases hcandidate
  · cases hslot : r.greatestSlot? value with
    | none =>
        intro hcandidate
        cases hcandidate
    | some found =>
        intro hcandidate
        have hsame : found = slot := Fin.ext (Tracked.candidate.inj hcandidate)
        rw [hsame] at hslot
        exact Record.not_unusable_of_covers (Record.covers_of_greatestSlot? hslot) h

end Trace

namespace Debounce

variable {t : Thresholds} {r : Record} {state : Debounce} {value : Reading}

/-- A special reading is taken for nothing known, whatever was before. -/
theorem step_of_not_isFinite (hvalid : r.isValid = true) (h : value.isFinite = false) :
    step t r state value = (.noMatch, ⟨.noMatch, 0, value⟩) := by
  have hfar : value.within state.previous t.change = false := by
    apply eq_false_of_ne_true
    intro hnear
    rw [(Reading.within_eq_true hnear).1] at h
    cases h
  rw [Trace.step_of_far hvalid hfar, Trace.move_eq, Trace.classify_of_not_isFinite h]

/-- A slot that is unusable is not adopted. -/
theorem step_current_ne {slot : Fin slotCount} (hunusable : r.Unusable slot)
    (h : state.current ≠ .candidate slot) :
    (step t r state value).2.current ≠ .candidate slot := by
  unfold step
  split
  · exact h
  · split
    · rw [(Trace.settle_keeps t state).1]
      exact h
    · have hclass : Trace.classify t r value ≠ .candidate slot :=
        Trace.classify_ne_of_unusable hunusable
      rw [Trace.move_eq]
      cases hvalue : Trace.classify t r value with
      | noObject | noMatch =>
          intro hnext
          cases hnext
      | candidate found =>
          rw [hvalue] at hclass
          dsimp only
          split
          · exact h
          · exact hclass

end Debounce

/-! ## Runs -/

namespace Detector

variable {σ : Type} {d : Detector σ}

/-- A slot that is unusable is neither adopted nor reported in a run. -/
theorem trace_unusable {slot : Fin slotCount} (hunusable : d.record.Unusable slot)
    (h : d.debounce.current ≠ .candidate slot) (readings : List Reading) :
    ∀ entry ∈ d.trace readings, entry.2.current ≠ .candidate slot ∧ entry.1 ≠ .object slot := by
  induction readings generalizing d with
  | nil =>
      intro entry hmem
      cases hmem
  | cons value rest ih =>
      intro entry hmem
      have hnext : (d.process value).2.debounce.current ≠ .candidate slot :=
        Debounce.step_current_ne hunusable h
      rcases List.mem_cons.mp hmem with rfl | hlater
      · refine ⟨hnext, ?_⟩
        intro hobject
        -- a report names the candidate, which the slot has never been
        have hstep := process_transition d value
        rw [hobject] at hstep
        exact h hstep.current_of_object.1
      · exact ih (d := (d.process value).2) hunusable hnext entry hlater

/-- Special readings and special records do no harm to a calibrated detector.

* In any state a reading that is no number or infinite is reported as matching nothing, and no
  count is left of what was before.  The next reading, whatever it is, counts as a change: it
  confirms nothing, and if it is taken for a slot, it is the first of its round.
* From the start, a slot of which the weight is no number or infinite, or of which the tolerance is
  not above zero, is neither adopted nor reported, whatever the readings are. -/
theorem special_values_harmless (hcalibrated : d.isCalibrated = true) :
    (∀ value, value.isFinite = false →
      let after := (d.process value).2
      d.process value = (.noMatch, { d with debounce := ⟨.noMatch, 0, value⟩ }) ∧
      ∀ next, next.within after.debounce.previous after.thresholds.change = false ∧
        (∀ slot, (after.process next).1 ≠ .object slot) ∧
        (after.process next).2.debounce.stableCount =
          match (after.process next).2.debounce.current with
          | .candidate _ => 1
          | _ => 0) ∧
    (d.debounce = .initial → ∀ slot : Fin slotCount, d.record.Unusable slot →
      ∀ readings, ∀ entry ∈ d.trace readings,
        entry.2.current ≠ .candidate slot ∧ entry.1 ≠ .object slot) := by
  have hvalid : d.record.isValid = true := hcalibrated
  refine ⟨?_, ?_⟩
  · intro value hspecial after
    have hprocess : d.process value = (.noMatch, { d with debounce := ⟨.noMatch, 0, value⟩ }) := by
      rw [process_eq, Debounce.step_of_not_isFinite hvalid hspecial]
    refine ⟨hprocess, ?_⟩
    intro next
    have hafter : after = { d with debounce := ⟨.noMatch, 0, value⟩ } := congrArg Prod.snd hprocess
    have hfar : next.within value d.thresholds.change = false := by
      apply eq_false_of_ne_true
      intro hnear
      rw [(Reading.within_eq_true hnear).2.1] at hspecial
      cases hspecial
    have hstep : Debounce.step d.thresholds d.record ⟨.noMatch, 0, value⟩ next =
        Debounce.move d.thresholds d.record ⟨.noMatch, 0, value⟩ next :=
      Trace.step_of_far hvalid hfar
    rw [hafter, process_eq, hstep, Trace.move_eq]
    refine ⟨hfar, ?_⟩
    cases Trace.classify d.thresholds d.record next <;> simp
  · intro hfresh slot hunusable readings
    have hnone : d.debounce.current ≠ .candidate slot := by
      rw [hfresh]
      intro hcandidate
      cases hcandidate
    exact trace_unusable hunusable hnone readings

/-- A loaded record with a weight that is infinite and a tolerance below zero: the last slot, which
covers the same readings, is confirmed, and an infinite reading ends its round. -/
theorem special_values_harmless_loaded :
    let record : Record :=
      ⟨Record.validTag, #v[⟨0x42c80000⟩, ⟨0x42c80000⟩, ⟨0x7f800000⟩, ⟨0x42c80000⟩],
        #v[⟨0x80000000⟩, ⟨0xc0a00000⟩, ⟨0x40a00000⟩, ⟨0x40a00000⟩], Reading.zero⟩
    let d : Detector MemoryStore := (new (MemoryStore.ofImage record.encode) 0).load.2
    let heavy : Reading := ⟨0x42c80000⟩
    let endless : Reading := ⟨0x7f800000⟩
    let slot : Fin slotCount := ⟨1, by decide⟩
    let readings := [heavy, heavy, heavy, heavy, heavy, endless, endless, heavy]
    d.isCalibrated = true ∧ endless.isFinite = false ∧ (d.process endless).1 = .noMatch ∧
      d.debounce = .initial ∧ d.record.Unusable slot ∧
      (∀ entry ∈ d.trace readings, entry.2.current ≠ .candidate slot ∧ entry.1 ≠ .object slot) ∧
      (d.trace readings).map Prod.fst =
        [.noChange, .noChange, .noChange, .object 3, .noChange, .noMatch, .noMatch, .noChange] := by
  intro record d heavy endless slot readings
  have hcalibrated : d.isCalibrated = true := by decide +kernel
  have hspecial : endless.isFinite = false := by decide
  have hfresh : d.debounce = .initial := rfl
  have hunusable : d.record.Unusable slot := .inr (.inr (.inr (by decide +kernel)))
  rcases special_values_harmless hcalibrated with ⟨hreading, hslot⟩
  exact ⟨hcalibrated, hspecial, congrArg Prod.fst (hreading endless hspecial).1, hfresh, hunusable,
    hslot hfresh slot hunusable readings, by decide +kernel⟩

end Detector

end SmartScale
