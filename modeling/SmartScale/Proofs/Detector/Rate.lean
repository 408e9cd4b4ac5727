import SmartScale.Proofs.Detector.Operations
import SmartScale.Store.Memory

/-!
# How often a detector confirms

Every confirmation uses up a whole round of readings.  The account of one reading is
`Debounce.Transition.budget`: with a confirmation worth as many readings as a round has, a reading
adds at most one to what is counted and confirmed together.  Over a run this bounds the
confirmations among the first readings (`Detector.outcomes_budget`), and from it follows that two
confirmations are at least a round apart (`Detector.outcomes_apart`).

Neither needs to know which slots are confirmed or what the record is, which may change between any
two readings.
-/

namespace SmartScale

def Outcome.isObject (outcome : Outcome) : Bool := outcome.slot?.isSome

namespace Debounce

variable {t : Thresholds} {state : Debounce} {value : Reading} {result : Outcome × Debounce}

/-- One reading pays for one more in the count, or for the last of a round. -/
theorem Transition.budget (h : Transition t state value result) :
    t.samples.toNat * (if result.1.isObject then 1 else 0) + result.2.stableCount.toNat ≤
      state.stableCount.toNat + 1 := by
  have hsucc : (state.stableCount + 1).toNat ≤ state.stableCount.toNat + 1 := by
    rw [UInt32.toNat_add, UInt32.toNat_one]
    exact Nat.mod_le _ _
  cases h with
  | count _ _ => simpa [Outcome.isObject, Outcome.slot?] using hsucc
  | confirm _ hfull =>
      -- the round is paid for by what was counted, and the count starts again
      have hround : t.samples.toNat ≤ state.stableCount.toNat + 1 :=
        (UInt32.le_iff_toNat_le.mp hfull).trans hsucc
      simpa [Outcome.isObject, Outcome.slot?] using hround
  | _ => simp [Outcome.isObject, Outcome.slot?]

/-- After a confirmation the count starts again. -/
theorem Transition.count_eq_zero (h : Transition t state value result)
    (hobject : result.1.isObject = true) : result.2.stableCount = 0 := by
  cases h with
  | confirm _ _ => rfl
  | _ => cases hobject

end Debounce

namespace Detector

variable {σ : Type} [CalibrationStore σ]

/-- The first readings of a run pay for the confirmations among them, together with what had been
counted before the run. -/
theorem outcomes_budget (d : Detector σ) (operations : List (Operation σ)) (k : Nat) :
    d.thresholds.samples.toNat * ((d.outcomes operations).take k).countP Outcome.isObject ≤
      d.debounce.stableCount.toNat + k := by
  induction operations generalizing d k with
  | nil => simp [outcomes]
  | cons operation rest ih =>
      rcases operation.process_or with ⟨value, rfl⟩ | hother
      · cases k with
        | zero => simp
        | succ k =>
            let n := d.thresholds.samples.toNat
            let next := (d.process value).2
            let worth := if (d.process value).1.isObject then 1 else 0
            have hstep : n * worth + next.debounce.stableCount.toNat ≤
                d.debounce.stableCount.toNat + 1 := (process_transition d value).budget
            have hrest : n * ((next.outcomes rest).take k).countP Outcome.isObject ≤
                next.debounce.stableCount.toNat + k := ih next k
            rw [outcomes, List.take_succ_cons, List.countP_cons, Nat.mul_add]
            calc
              n * ((next.outcomes rest).take k).countP Outcome.isObject + n * worth
                  ≤ next.debounce.stableCount.toNat + k + n * worth :=
                    Nat.add_le_add_right hrest _
              _ = n * worth + next.debounce.stableCount.toNat + k := by omega
              _ ≤ d.debounce.stableCount.toNat + 1 + k := Nat.add_le_add_right hstep _
              _ = d.debounce.stableCount.toNat + (k + 1) := by omega
      · -- whatever else happens, neither the count nor the round is touched
        have hrest := ih (d.operate operation) k
        rwa [operate_thresholds, operate_debounce hother, ← outcomes_cons hother] at hrest

/-- Wherever a run starts, two confirmations in it are at least a round of readings apart. -/
theorem outcomes_apart {d : Detector σ} {operations : List (Operation σ)} {i j slot other : Nat}
    (hij : i < j) (hfirst : (d.outcomes operations)[i]? = some (.object slot))
    (hsecond : (d.outcomes operations)[j]? = some (.object other)) :
    i + d.thresholds.samples.toNat ≤ j := by
  induction operations generalizing d i j with
  | nil => simp [outcomes] at hfirst
  | cons operation rest ih =>
      rcases operation.process_or with ⟨value, rfl⟩ | hother
      · obtain ⟨j, rfl⟩ : ∃ m, j = m + 1 := ⟨j - 1, by omega⟩
        rw [outcomes, List.getElem?_cons_succ] at hsecond
        cases i with
        | zero =>
            -- the count is zero after the first, so the readings up to the second pay for it alone
            rw [outcomes, List.getElem?_cons_zero] at hfirst
            have hobject : (d.process value).1.isObject = true := by
              rw [Option.some.inj hfirst]
              rfl
            have hzero : (d.process value).2.debounce.stableCount = 0 :=
              (process_transition d value).count_eq_zero hobject
            have hbudget : d.thresholds.samples.toNat *
                (((d.process value).2.outcomes rest).take (j + 1)).countP Outcome.isObject ≤
                  (d.process value).2.debounce.stableCount.toNat + (j + 1) :=
              outcomes_budget (d.process value).2 rest (j + 1)
            have hcounted :
                0 < (((d.process value).2.outcomes rest).take (j + 1)).countP Outcome.isObject := by
              refine List.countP_pos_iff.mpr ⟨.object other, ?_, rfl⟩
              refine List.mem_of_getElem? (i := j) ?_
              rw [List.getElem?_take_of_lt (Nat.lt_succ_self j), hsecond]
            rw [hzero, UInt32.toNat_zero, Nat.zero_add] at hbudget
            rw [Nat.zero_add]
            exact (Nat.le_mul_of_pos_right _ hcounted).trans hbudget
        | succ i =>
            rw [outcomes, List.getElem?_cons_succ] at hfirst
            have hrest := ih (d := (d.process value).2) (Nat.lt_of_succ_lt_succ hij) hfirst hsecond
            have hsame : (d.process value).2.thresholds = d.thresholds := rfl
            rw [hsame] at hrest
            omega
      · rw [outcomes_cons hother] at hfirst hsecond
        have hrest := ih (d := d.operate operation) hij hfirst hsecond
        rwa [operate_thresholds] at hrest

/-- A detector confirms seldom, whatever is done with it between the readings.

* From its first reading on, every confirmation stands for a round of readings of its own.
* In a run from wherever earlier operations have led, two confirmations, of the same slot or of
  different ones, are at least a round of readings apart. -/
theorem confirmations_seldom {d : Detector σ} (hbuilt : Built d)
    (before operations : List (Operation σ)) :
    d.thresholds.samples.toNat * (d.outcomes operations).countP Outcome.isObject ≤
        operations.countP Operation.isProcess ∧
      ∀ i j slot other, i < j →
        ((d.operateAll before).outcomes operations)[i]? = some (.object slot) →
        ((d.operateAll before).outcomes operations)[j]? = some (.object other) →
        i + d.thresholds.samples.toNat ≤ j := by
  refine ⟨?_, ?_⟩
  · have hbudget := outcomes_budget d operations (d.outcomes operations).length
    rw [List.take_length, hbuilt.start.2, length_outcomes] at hbudget
    simpa [Debounce.initial] using hbudget
  · intro i j slot other hij hfirst hsecond
    have hapart := outcomes_apart hij hfirst hsecond
    rwa [operateAll_thresholds] at hapart

/-- Rounds of two: a save and another tolerance come between the readings, and the confirmations
at the second and the fourth reading are as close as can be. -/
theorem confirmations_seldom_rounds_of_two :
    let d : Detector MemoryStore :=
      ofParts (MemoryStore.new 44) 0 ⟨Thresholds.defaultDistance, Thresholds.defaultDistance, 2⟩
    let before : List (Operation MemoryStore) :=
      [.setObject 1 ⟨0x42c80000⟩ ⟨0x40a00000⟩, .save, .process ⟨0x42c80000⟩]
    let operations : List (Operation MemoryStore) :=
      [.process ⟨0x42c80000⟩, .setObject 1 ⟨0x42c80000⟩ ⟨0x3f800000⟩, .process ⟨0x42c80000⟩, .save,
        .process ⟨0x42c80000⟩]
    Built d ∧ (d.operateAll before).outcomes operations = [.object 1, .noChange, .object 1] ∧
      2 * (d.outcomes (before ++ operations)).countP Outcome.isObject ≤ 4 ∧
      0 + d.thresholds.samples.toNat ≤ 2 := by
  intro d before operations
  have hbuilt : Built d := .build (rfl : build (MemoryStore.new 44) 0 d.thresholds = .ok d)
  have houtcomes : (d.operateAll before).outcomes operations =
      [.object 1, .noChange, .object 1] := by decide +kernel
  have hcount := (confirmations_seldom hbuilt [] (before ++ operations)).1
  have hapart := (confirmations_seldom hbuilt before operations).2 0 2 1 1 (by decide)
    (by rw [houtcomes]; rfl) (by rw [houtcomes]; rfl)
  exact ⟨hbuilt, houtcomes, hcount, hapart⟩

end Detector

end SmartScale
