import SmartScale.Sampling.Sampler

/-!
# The steps of the sampling thread

`Sampler.Step` says what the thread can do next: one case for each way on from a phase of its loop,
with what leads to it.  The thread's step is one of these (`Sampler.step_threadStep`), so what is kept
by every step is shown case by case, without opening the loop.
-/

namespace SmartScale

namespace Sampler

variable {τ : Type}

/-- The clock after a sleep; where time passes by itself, it has been moved on already. -/
def wakingClock (s : Sampler τ) : ManualClock :=
  match s.time, s.period with
  | .simulated, some period => s.clock.sleep (Duration.ofMicros period)
  | _, _ => s.clock

theorem wakeStep_eq (s : Sampler τ) :
    s.wakeStep = { s with clock := s.wakingClock, phase := .start } := by
  unfold wakeStep wakingClock
  cases s.time <;> cases s.period <;> rfl

/-! ## What the other party finds -/

section Take

variable {s : Sampler τ} {value : Reading} {rest : List Reading}

theorem take_cons (hchannel : s.channel = value :: rest) :
    s.take = (.value value, { s with channel := rest }) := by
  rw [take, hchannel]

theorem take_finished (hchannel : s.channel = []) (hphase : s.phase = .finished) :
    s.take = (.closed, s) := by
  rw [take, hchannel]
  simp [isFinished, hphase]

theorem take_unfinished (hchannel : s.channel = []) (hphase : s.phase ≠ .finished) :
    s.take = (.pending, s) := by
  rw [take, hchannel]
  simp [isFinished, hphase]

/-- A sampler is closed when there is nothing left and nothing to come. -/
theorem closed_iff : s.take.1 = .closed ↔ s.channel = [] ∧ s.phase = .finished := by
  constructor
  · intro h
    cases hchannel : s.channel with
    | cons value rest =>
        rw [take_cons hchannel] at h
        cases h
    | nil =>
        by_cases hphase : s.phase = .finished
        · exact ⟨rfl, hphase⟩
        · rw [take_unfinished hchannel hphase] at h
          cases h
  · rintro ⟨hchannel, hphase⟩
    rw [take_finished hchannel hphase]

end Take

/-! ## What the thread does -/

variable [Scale τ]

inductive Step (s : Sampler τ) : Sampler τ → Prop
  | begin (hphase : s.phase = .start) (hflag : s.shutdown = false) :
      Step s { s with phase := .reading }
  | stop (hphase : s.phase = .start ∨ s.phase = .pausing) (hflag : s.shutdown = true) :
      Step s { s with phase := .finished }
  | read {value : Reading} (hphase : s.phase = .reading)
      (hread : (Scale.read s.scale).1 = .ok value) :
      Step s { s with scale := (Scale.read s.scale).2, phase := .sending value }
  | close {e : DeviceError} (hphase : s.phase = .reading)
      (hread : (Scale.read s.scale).1 = .error e) (hend : DetectorError.ofDevice e = .endOfStream) :
      Step s { s with scale := (Scale.read s.scale).2, phase := .finished }
  | skip {e : DeviceError} (hphase : s.phase = .reading)
      (hread : (Scale.read s.scale).1 = .error e) (hskip : DetectorError.ofDevice e ≠ .endOfStream) :
      Step s { s with
        scale := (Scale.read s.scale).2
        phase := if s.period.isSome then .pausing else .resting }
  | send {value : Reading} (hphase : s.phase = .sending value)
      (hroom : s.channel.length < channelCapacity) :
      Step s { s with channel := s.channel ++ [value], phase := .stamping }
  /-- The channel is full, and the thread tries again. -/
  | hold {value : Reading} (hphase : s.phase = .sending value)
      (hfull : ¬ s.channel.length < channelCapacity) (hflag : s.shutdown = false) : Step s s
  | giveUp {value : Reading} (hphase : s.phase = .sending value)
      (hfull : ¬ s.channel.length < channelCapacity) (hflag : s.shutdown = true) :
      Step s { s with phase := .finished }
  | stamp (hphase : s.phase = .stamping) :
      Step s { s with
        lastOk := s.nowMillis
        phase := if s.period.isSome then .pausing else .start }
  | rest (hphase : s.phase = .resting) : Step s { s with phase := .start }
  | sleep (hphase : s.phase = .pausing) (hflag : s.shutdown = false) :
      Step s { s with phase := .sleeping }
  | wake (hphase : s.phase = .sleeping) : Step s { s with clock := s.wakingClock, phase := .start }
  | done (hphase : s.phase = .finished) : Step s s

variable {s next : Sampler τ}

theorem readStep_ok {value : Reading} (hread : (Scale.read s.scale).1 = .ok value) :
    s.readStep = { s with scale := (Scale.read s.scale).2, phase := .sending value } := by
  simp only [readStep, hread]

theorem readStep_end {e : DeviceError} (hread : (Scale.read s.scale).1 = .error e)
    (hend : DetectorError.ofDevice e = .endOfStream) :
    s.readStep = { s with scale := (Scale.read s.scale).2, phase := .finished } := by
  simp only [readStep, hread, hend]

theorem readStep_skip {e : DeviceError} (hread : (Scale.read s.scale).1 = .error e)
    (hskip : DetectorError.ofDevice e ≠ .endOfStream) :
    s.readStep = { s with
      scale := (Scale.read s.scale).2
      phase := if s.period.isSome then .pausing else .resting } := by
  simp only [readStep, hread]

theorem step_readStep (hphase : s.phase = .reading) : Step s s.readStep := by
  cases hread : (Scale.read s.scale).1 with
  | ok value =>
      rw [readStep_ok hread]
      exact .read hphase hread
  | error e =>
      by_cases hend : DetectorError.ofDevice e = .endOfStream
      · rw [readStep_end hread hend]
        exact .close hphase hread hend
      · rw [readStep_skip hread hend]
        exact .skip hphase hread hend

/-- Every step of the thread is one of the cases. -/
theorem step_threadStep (s : Sampler τ) : Step s s.threadStep := by
  unfold threadStep
  cases hphase : s.phase with
  | reading => exact step_readStep hphase
  | stamping => exact .stamp hphase
  | resting => exact .rest hphase
  | finished => exact .done hphase
  | start =>
      cases hflag : s.shutdown with
      | false => simpa [hflag] using Step.begin hphase hflag
      | true => simpa [hflag] using Step.stop (.inl hphase) hflag
  | pausing =>
      cases hflag : s.shutdown with
      | false => simpa [hflag] using Step.sleep hphase hflag
      | true => simpa [hflag] using Step.stop (.inr hphase) hflag
  | sending value =>
      dsimp only
      unfold sendStep
      split
      · next hroom => exact .send hphase hroom
      · next hfull =>
        split
        · next hflag => exact .giveUp hphase hfull hflag
        · next hflag => exact .hold hphase hfull (eq_false_of_ne_true hflag)
  | sleeping =>
      dsimp only
      rw [wakeStep_eq]
      exact .wake hphase

/-- No step takes the flag back. -/
theorem Step.shutdown (h : Step s next) : next.shutdown = s.shutdown := by cases h <;> rfl

theorem Step.period (h : Step s next) : next.period = s.period := by cases h <;> rfl

theorem Step.time (h : Step s next) : next.time = s.time := by cases h <;> rfl

@[simp]
theorem threadStep_shutdown (s : Sampler τ) : s.threadStep.shutdown = s.shutdown :=
  s.step_threadStep.shutdown

end Sampler

end SmartScale
