import SmartScale.Config.Basic
import SmartScale.Run.Sampled

/-!
# Sampling periods and the silence that is allowed

A period is rounded down twice: to microseconds for the thread that sleeps it, and to milliseconds
for the watchdog.  The watchdog allows two periods as it counts them itself, so what it allows may
fall short of two of the thread's periods.

* `RunParams.stallMillis_covers_iff` says when it does, and by how little.
* `RunParams.stallMillis_short` is a run that fails because it does, over a sensor that misses a
  single reading.
-/

namespace SmartScale

/-! ## Two roundings -/

theorem one_le_periodMillis (rate : UInt32) : 1 ≤ periodMillis rate := Nat.le_max_right _ _

theorem periodMillis_le (rate : UInt32) : periodMillis rate ≤ millisPerSecond := by
  apply Nat.max_le.mpr
  exact ⟨Nat.div_le_self _ _, by decide⟩

theorem periodMicros_le (rate : UInt32) : periodMicros rate ≤ microsPerSecond := by
  apply Nat.max_le.mpr
  exact ⟨Nat.div_le_self _ _, by decide⟩

/-- Rounded down once more, a period in microseconds is the one in milliseconds, unless that would be
zero. -/
theorem periodMicros_div_le (rate : UInt32) : periodMicros rate / 1000 ≤ periodMillis rate := by
  have hrounded : microsPerSecond / max rate.toNat 1 / 1000 = millisPerSecond / max rate.toNat 1 := by
    calc microsPerSecond / max rate.toNat 1 / 1000
        = 1000 * 1000 / (max rate.toNat 1 * 1000) := Nat.div_div_eq_div_mul _ _ _
      _ = millisPerSecond / max rate.toNat 1 := Nat.mul_div_mul_right _ _ (by decide)
  have hcases : periodMicros rate = microsPerSecond / max rate.toNat 1 ∨ periodMicros rate = 1 := by
    rcases Nat.le_total (microsPerSecond / max rate.toNat 1) 1 with hle | hle
    · exact Or.inr (Nat.max_eq_right hle)
    · exact Or.inl (Nat.max_eq_left hle)
  rcases hcases with hperiod | hperiod
  · rw [hperiod, hrounded]
    exact Nat.le_max_left _ _
  · simp only [hperiod, Nat.reduceDiv, Nat.zero_le]

/-! ## The silence that is allowed -/

/-- No period is long enough for the sum of two to be cut off. -/
theorem stallThreshold_eq (sensorMillis : Nat) (rate : UInt32) :
    stallThreshold sensorMillis (periodMillis rate) =
      max (saturatingMul sensorMillis 4) (2 * periodMillis rate) := by
  have hlow : 1 ≤ periodMillis rate := one_le_periodMillis rate
  have hhigh : periodMillis rate ≤ 1000 := periodMillis_le rate
  have hword : maxWord = 18446744073709551615 := rfl
  unfold stallThreshold saturatingMul
  omega

namespace RunParams

/-- The silence that the watchdog of a paced run allows covers two of the periods that the thread
sleeps exactly if the period has not been rounded down to milliseconds, or the sensor's own timeout
is at least half a period.  Otherwise it falls short of them by less than two milliseconds. -/
theorem stallMillis_covers_iff (rate : UInt32) (sensorMillis : Nat)
    (maxSamples shutdownAfter : Option Nat) :
    let params : RunParams := ⟨.paced rate, sensorMillis, maxSamples, shutdownAfter⟩
    (∀ {σ τ : Type} (detector : Detector σ) (scale : τ),
      (SampledRun.start params detector scale).sampler.period = some (periodMicros rate)) ∧
    (2 * periodMicros rate ≤ 1000 * params.stallMillis ↔
      periodMicros rate ≤ 1000 * periodMillis rate ∨
        periodMicros rate ≤ 2000 * params.watchMillis) ∧
    2 * periodMicros rate < 1000 * params.stallMillis + 2000 := by
  intro params
  have hstall : params.stallMillis =
      max (saturatingMul params.watchMillis 4) (2 * periodMillis rate) :=
    stallThreshold_eq params.watchMillis rate
  have hperiod : periodMicros rate ≤ 1000000 := periodMicros_le rate
  have hrounded : periodMicros rate / 1000 ≤ periodMillis rate := periodMicros_div_le rate
  -- a timeout of which four times are cut off is longer than any period
  have hword : maxWord = 18446744073709551615 := rfl
  unfold saturatingMul at hstall
  refine ⟨fun detector scale => rfl, ?_, ?_⟩
  · constructor
    · intro hcovers
      omega
    · rintro (hexact | htimeout)
      · omega
      · omega
  · omega

/-- Three readings a second and the usual timeout of the sensor, in a configuration that is accepted:
two periods take 666.666 ms, and the silence that is allowed is 666 ms.  One read fails between two
that do not; when the next one is due, the run has failed. -/
theorem stallMillis_short :
    let config : Config :=
      ⟨⟨"nv.bin", 0, 512⟩, Thresholds.default, ⟨.paced, 3, 150⟩, .default, none, []⟩
    let params : RunParams :=
      ⟨config.sampling.runMode, config.sampling.sensorMillis.toNat, none, none⟩
    let value : Reading := ⟨0x42c80000⟩
    let scale : ScriptedScale :=
      ⟨[.ok value, .ok value, .ok value, .error (.named (.io "glitch")), .ok value]⟩
    config.check = .ok () ∧ params.mode = .paced 3 ∧
      1000 * params.stallMillis < 2 * periodMicros 3 ∧
      (SampledRun.prompt? params 100 (Detector.new () 0) scale).map
          (fun done => (done.run.summary.samples, done.failure)) =
        some (3, some (SampledRun.stallReport 667)) := by
  intro config params value scale
  refine ⟨rfl, rfl, ?_, ?_⟩
  · decide
  · decide +kernel

end RunParams

end SmartScale
