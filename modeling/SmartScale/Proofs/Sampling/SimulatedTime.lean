import Mathlib.Order.Bounds.Basic
import SmartScale.Proofs.Sampling.Draining

/-!
# The time on a sampler's clock

A sampler on a simulated clock is drained: readings are taken until it is closed, and no time passes
but what the thread sleeps.  The channel may be full for as long as the other party likes, for a
thread that waits for room does not sleep.

The thread sleeps once after every read, failed or not, but for the one that ends the stream.  So its
clock counts its reads (`Sampler.Paces`), and the time of the last reading handed over is that of the
read which gave it (`Scale.lastStamp`).  `Sampler.drained_time` states what follows for a sampler
that has been drained in any order of steps.
-/

namespace SmartScale

/-! ## Sums of spans -/

namespace Duration

/-- What is cut off a sum would have been cut off its parts. -/
theorem ofMicros_add (a b : Nat) : (ofMicros a).add (ofMicros b) = ofMicros (a + b) := by
  rw [add, ofMicros, ofNanos_nanos_add, Nat.add_comm, ofMicros, ofNanos_nanos_add, ofMicros,
    ← Nat.add_mul, Nat.add_comm]

theorem millis_ofMicros {micros : Nat} (h : micros / 1000 < UInt64.size) :
    (ofMicros micros).millis = micros / 1000 := by
  simp only [ofMicros, ofNanos, millis, maxNanos, nanosPerSecond]
  omega

theorem nanos_ofMicros {micros : Nat} (h : micros / 1000 < UInt64.size) :
    (ofMicros micros).nanos = micros * 1000 := by
  simp only [ofMicros, ofNanos, maxNanos, nanosPerSecond]
  omega

theorem millis_mono {a b : Nat} (h : a ≤ b) : (ofMicros a).millis ≤ (ofMicros b).millis := by
  refine millis_le_millis ?_
  simp only [ofMicros, ofNanos]
  omega

end Duration

/-! ## Reads with a sleep after each -/

namespace Scale

variable {τ : Type} [Scale τ] {scale : τ} {period n : Nat}

/-- So many reads go before the one that ends the stream. -/
structure EndsAfter (n : Nat) (scale : τ) : Prop where
  goesOn : ∀ i < n, endsStream (answer i scale) = false
  ends : endsStream (answer n scale) = true

/-- When the last of the first `n` reads that gave a reading was made, in milliseconds. -/
def lastStamp (period : Nat) (scale : τ) : Nat → Nat
  | 0 => 0
  | n + 1 =>
    match answer n scale with
    | .ok _ => (Duration.ofMicros (n * period)).millis
    | .error _ => lastStamp period scale n

theorem lastStamp_ok {value : Reading} (h : answer n scale = .ok value) :
    lastStamp period scale (n + 1) = (Duration.ofMicros (n * period)).millis := by
  rw [lastStamp, h]

theorem lastStamp_error {e : DeviceError} (h : answer n scale = .error e) :
    lastStamp period scale (n + 1) = lastStamp period scale n := by
  rw [lastStamp, h]

theorem lastStamp_of_isGreatest {k : Nat}
    (hk : IsGreatest {i | i < n ∧ ∃ value, answer i scale = .ok value} k) :
    lastStamp period scale n = (Duration.ofMicros (k * period)).millis := by
  rcases hk with ⟨⟨hlt, value, hvalue⟩, hgreatest⟩
  -- on the number of reads: the last of them is the one that is looked for, or does not count
  induction n with
  | zero => exact absurd hlt (Nat.not_lt_zero k)
  | succ n ih =>
      cases hlast : answer n scale with
      | ok last =>
          have hle : n ≤ k := hgreatest ⟨Nat.lt_succ_self n, last, hlast⟩
          obtain rfl : k = n := Nat.le_antisymm (Nat.le_of_lt_succ hlt) hle
          exact lastStamp_ok hlast
      | error e =>
          have hne : k ≠ n := by
            rintro rfl
            rw [hvalue] at hlast
            cases hlast
          have hbefore : k < n := Nat.lt_of_le_of_ne (Nat.le_of_lt_succ hlt) hne
          have hstill : k ∈ upperBounds {i | i < n ∧ ∃ value, answer i scale = .ok value} :=
            fun i hi => hgreatest ⟨Nat.lt_succ_of_lt hi.1, hi.2⟩
          rw [lastStamp_error hlast]
          exact ih hstill hbefore

theorem lastStamp_of_errors (h : ∀ i < n, ∃ e, answer i scale = .error e) :
    lastStamp period scale n = 0 := by
  induction n with
  | zero => rfl
  | succ n ih =>
      rcases h n (Nat.lt_succ_self n) with ⟨e, he⟩
      rw [lastStamp_error he]
      exact ih fun i hi => h i (Nat.lt_succ_of_lt hi)

/-- No reading is handed over later than the last read was made. -/
theorem lastStamp_le (n : Nat) :
    lastStamp period scale n ≤ (Duration.ofMicros (n * period)).millis := by
  induction n with
  | zero => exact Nat.zero_le _
  | succ n ih =>
      have hnext : (Duration.ofMicros (n * period)).millis ≤
          (Duration.ofMicros ((n + 1) * period)).millis :=
        Duration.millis_mono (Nat.mul_le_mul_right period (Nat.le_succ n))
      cases hlast : answer n scale with
      | ok value =>
          rw [lastStamp_ok hlast]
          exact hnext
      | error e =>
          rw [lastStamp_error hlast]
          exact Nat.le_trans ih hnext

/-- A stream that ends after so many reads ends within one more. -/
theorem EndsAfter.endsWithin (h : EndsAfter n scale) : EndsWithin (n + 1) scale := by
  refine ⟨answer n scale, ?_, h.ends⟩
  rw [answers_succ]
  exact List.mem_append_right _ (List.mem_singleton_self _)

end Scale

/-! ## Rounds of the loop -/

namespace Phase

/-- Reads that the thread has made in the round that it is in. -/
@[simp]
def readsMade : Phase → Nat
  | .start | .reading | .resting => 0
  | _ => 1

/-- Reads of this round after which all that there is to store has been stored. -/
@[simp]
def stampsMade : Phase → Nat
  | .pausing | .sleeping => 1
  | _ => 0

/-- What the read of this round has answered.  A thread that keeps to a period never rests. -/
@[simp]
def Fits (answer : Except DeviceError Reading) : Phase → Prop
  | .start | .reading => True
  | .sending _ | .stamping => ∃ value, answer = .ok value
  | .pausing | .sleeping => Scale.endsStream answer = false
  | .finished => Scale.endsStream answer = true
  | .resting => False

end Phase

namespace Sampler

variable {τ : Type}

/-- Whole milliseconds are seen in full, however much of one has passed before. -/
theorem nowMillis_elapse {s : Sampler τ} {millis : Nat} (h : s.nowMillis + millis < UInt64.size) :
    (s.elapse (1000 * millis)).nowMillis = s.nowMillis + millis := by
  have hspan : s.clock.elapsed.nanos ≤ maxNanos := s.clock.elapsed.nanos_le
  simp only [nowMillis, elapse, ManualClock.advance, Duration.add, Duration.ofMicros,
    Duration.ofNanos, Duration.millis, maxNanos, nanosPerSecond] at h hspan ⊢
  omega

theorem nowMillis_le_elapse (s : Sampler τ) (micros : Nat) :
    s.nowMillis ≤ (s.elapse micros).nowMillis := by
  have hspan : s.clock.elapsed.nanos ≤ maxNanos := s.clock.elapsed.nanos_le
  simp only [nowMillis, elapse, ManualClock.advance, Duration.add, Duration.ofMicros,
    Duration.ofNanos, Duration.millis]
  omega

/-- While time passes, no reading gets to be from later than now. -/
theorem lastOk_le_foldl_elapse {s : Sampler τ} (h : s.lastOk ≤ s.nowMillis) (passed : List Nat) :
    (passed.foldl elapse s).lastOk ≤ (passed.foldl elapse s).nowMillis := by
  induction passed generalizing s with
  | nil => exact h
  | cons first rest ih => exact ih (Nat.le_trans h (s.nowMillis_le_elapse first))

variable [Scale τ]

/-! ## A sampler that keeps to a period -/

/-- The thread has slept `m` times, once after each of as many reads, and is in the next round. -/
structure Paces (period : Nat) (scale : τ) (m : Nat) (s : Sampler τ) : Prop where
  keeps : s.period = some period
  time : s.time = .simulated
  notAsked : s.shutdown = false
  clock : s.clock = ⟨Duration.ofMicros (m * period)⟩
  reads : s.scale = Scale.after (m + s.phase.readsMade) scale
  stamps : s.lastOk = Scale.lastStamp period scale (m + s.phase.stampsMade)
  fits : s.phase.Fits (Scale.answer m scale)
  goesOn : ∀ i < m, Scale.endsStream (Scale.answer i scale) = false

variable {s next : Sampler τ} {scale : τ} {period m : Nat}

/-- A step within the round. -/
theorem Paces.within (h : Paces period scale m s) (hstep : Step s next)
    (hclock : next.clock = s.clock)
    (hscale : next.scale = Scale.after (m + next.phase.readsMade) scale)
    (hlast : next.lastOk = Scale.lastStamp period scale (m + next.phase.stampsMade))
    (hanswer : next.phase.Fits (Scale.answer m scale)) : Paces period scale m next where
  keeps := hstep.period.trans h.keeps
  time := hstep.time.trans h.time
  notAsked := hstep.shutdown.trans h.notAsked
  clock := hclock.trans h.clock
  reads := hscale
  stamps := hlast
  fits := hanswer
  goesOn := h.goesOn

/-- The read of a round is the one after those that have been slept on. -/
theorem Paces.read (h : Paces period scale m s) (hphase : s.phase = .reading) :
    Scale.answer m scale = (Scale.read s.scale).1 ∧
      (Scale.read s.scale).2 = Scale.after (m + 1) scale := by
  have hscale := h.reads
  rw [hphase, Phase.readsMade, Nat.add_zero] at hscale
  rw [hscale]
  exact ⟨rfl, Scale.after_add m 1 scale⟩

/-- Waking up is the one step on which time passes, and it leads to the next round. -/
theorem Paces.wake (h : Paces period scale m s) (hphase : s.phase = .sleeping) :
    Paces period scale (m + 1) { s with clock := s.wakingClock, phase := .start } where
  keeps := h.keeps
  time := h.time
  notAsked := h.notAsked
  clock := by
    calc s.wakingClock
        = s.clock.sleep (Duration.ofMicros period) := by simp only [wakingClock, h.time, h.keeps]
      _ = ⟨(Duration.ofMicros (m * period)).add (Duration.ofMicros period)⟩ := by
          rw [h.clock]
          rfl
      _ = ⟨Duration.ofMicros ((m + 1) * period)⟩ := by
          rw [Duration.ofMicros_add, Nat.succ_mul]
  reads := by
    have hscale := h.reads
    rw [hphase] at hscale
    exact hscale
  stamps := by
    have hlast := h.stamps
    rw [hphase] at hlast
    exact hlast
  fits := trivial
  goesOn := by
    have hanswer := h.fits
    rw [hphase] at hanswer
    intro i hi
    rcases Nat.lt_succ_iff_lt_or_eq.mp hi with hlt | rfl
    · exact h.goesOn i hlt
    · exact hanswer

theorem Paces.step (h : Paces period scale m s) (hstep : Step s next) :
    ∃ rounds, Paces period scale rounds next := by
  have hscale := h.reads
  have hlast := h.stamps
  have hanswer := h.fits
  -- what has been read and stored is counted by phase, so most steps only change the phase
  cases hstep with
  | begin hphase hflag =>
      rw [hphase] at hscale hlast
      exact ⟨m, h.within (.begin hphase hflag) rfl hscale hlast trivial⟩
  | read hphase hread =>
      rcases h.read hphase with ⟨hfirst, hrest⟩
      rw [hphase] at hlast
      exact ⟨m, h.within (.read hphase hread) rfl hrest hlast ⟨_, hfirst.trans hread⟩⟩
  | close hphase hread hend =>
      rcases h.read hphase with ⟨hfirst, hrest⟩
      rw [hphase] at hlast
      have hends : Scale.endsStream (Scale.answer m scale) = true := by
        simp [hfirst, hread, Scale.endsStream, hend]
      exact ⟨m, h.within (.close hphase hread hend) rfl hrest hlast hends⟩
  | skip hphase hread hskip =>
      rcases h.read hphase with ⟨hfirst, hrest⟩
      -- a thread with a period goes on to sleep after a failed read as well
      have hpausing : (if s.period.isSome then Phase.pausing else .resting) = .pausing := by
        simp [h.keeps]
      rw [hphase] at hlast
      refine ⟨m, h.within (.skip hphase hread hskip) rfl ?_ ?_ ?_⟩ <;> rw [hpausing]
      · exact hrest
      · -- a failed read stores nothing
        exact hlast.trans (Scale.lastStamp_error (hfirst.trans hread)).symm
      · simp [hfirst, hread, Scale.endsStream, hskip]
  | send hphase hroom =>
      rw [hphase] at hscale hlast hanswer
      exact ⟨m, h.within (.send hphase hroom) rfl hscale hlast hanswer⟩
  | stamp hphase =>
      have hpausing : (if s.period.isSome then Phase.pausing else .start) = .pausing := by
        simp [h.keeps]
      rw [hphase] at hscale hanswer
      rcases hanswer with ⟨value, hvalue⟩
      refine ⟨m, h.within (.stamp hphase) rfl ?_ ?_ ?_⟩ <;> rw [hpausing]
      · exact hscale
      · -- no time has passed since the read, however long the thread waited for room
        calc s.nowMillis
            = (Duration.ofMicros (m * period)).millis := by rw [nowMillis, h.clock]
          _ = Scale.lastStamp period scale (m + 1) := (Scale.lastStamp_ok hvalue).symm
      · simp [hvalue, Scale.endsStream]
  | sleep hphase hflag =>
      rw [hphase] at hscale hlast hanswer
      exact ⟨m, h.within (.sleep hphase hflag) rfl hscale hlast hanswer⟩
  | wake hphase => exact ⟨m + 1, h.wake hphase⟩
  | hold hphase hfull hflag => exact ⟨m, h⟩
  | done hphase => exact ⟨m, h⟩
  | rest hphase =>
      rw [hphase] at hanswer
      exact hanswer.elim
  | stop hphase hflag | giveUp hphase hfull hflag =>
      -- nobody has asked the thread to end
      rw [h.notAsked] at hflag
      cases hflag

theorem paces_start (scale : τ) (rate : UInt32) :
    Paces (periodMicros rate) scale 0 (paced scale rate .simulated) where
  keeps := rfl
  time := rfl
  notAsked := rfl
  clock := by
    rw [Nat.zero_mul]
    rfl
  reads := rfl
  stamps := rfl
  fits := trivial
  goesOn := fun i hi => absurd hi (Nat.not_lt_zero i)

/-- Any acts that take no time of their own lead on by whole steps of the rounds. -/
theorem Paces.actAll {acts : List Act} (h : Paces period scale m s)
    (hinstant : ∀ a ∈ acts, a.Instant) : ∃ rounds, Paces period scale rounds (s.actAll acts) := by
  apply keeps_actAll (P := fun now => ∃ rounds, Paces period scale rounds now) _ _ _ hinstant ⟨m, h⟩
  · rintro now ⟨rounds, hnow⟩
    exact hnow.notAsked
  · rintro now next ⟨rounds, hnow⟩ hstep
    exact hnow.step hstep
  · rintro now channel ⟨rounds, hnow⟩
    exact ⟨rounds, hnow.keeps, hnow.time, hnow.notAsked, hnow.clock, hnow.reads, hnow.stamps,
      hnow.fits, hnow.goesOn⟩

/-- A sampler that the scale's own timing leads does not sleep on its clock. -/
theorem clock_actAll {acts : List Act} (hnotAsked : s.shutdown = false) (hperiod : s.period = none)
    (hinstant : ∀ a ∈ acts, a.Instant) : (s.actAll acts).clock = s.clock := by
  refine (keeps_actAll (P := fun now => now.shutdown = false ∧ now.period = none ∧
    now.clock = s.clock) ?_ ?_ ?_ hinstant ⟨hnotAsked, hperiod, rfl⟩).2.2
  · rintro now ⟨hflag, -⟩
    exact hflag
  · rintro now next ⟨hflag, hnone, hclock⟩ hstep
    refine ⟨hstep.shutdown.trans hflag, hstep.period.trans hnone, ?_⟩
    cases hstep with
    | wake hphase =>
        -- waking up moves the clock on by a period, and there is none
        have hwaking : now.wakingClock = now.clock := by
          unfold wakingClock
          rw [hnone]
          cases now.time <;> rfl
        exact hwaking.trans hclock
    | _ => exact hclock
  · rintro now channel hnow
    exact hnow

/-- What the clock of a sampler shows that made `n` reads before the one that ended the stream. -/
structure TimeAccount (period n : Nat) (scale : τ) (s : Sampler τ) : Prop where
  elapsed : s.clock.elapsed.nanos = n * period * 1000
  /-- The silence is counted from the last read that gave a reading. -/
  stalled_of_last : ∀ k, IsGreatest {i | i < n ∧ ∃ value, Scale.answer i scale = .ok value} k →
    s.stalledFor = n * period / 1000 - k * period / 1000
  stalled_of_errors : (∀ i < n, ∃ e, Scale.answer i scale = .error e) →
    s.stalledFor = n * period / 1000
  /-- Whatever time has passed since, further milliseconds are milliseconds of silence. -/
  stalled_elapse : ∀ (passed : List Nat) (millis : Nat),
    (passed.foldl elapse s).nowMillis + millis < UInt64.size →
    ((passed.foldl elapse s).elapse (1000 * millis)).stalledFor =
      (passed.foldl elapse s).stalledFor + millis

/-- The account, from what the clock shows and what has been stored. -/
theorem timeAccount_of_clock {n : Nat} (hfits : n * period / 1000 < UInt64.size)
    (hclock : s.clock = ⟨Duration.ofMicros (n * period)⟩)
    (hlast : s.lastOk = Scale.lastStamp period scale n) : TimeAccount period n scale s where
  elapsed := by
    rw [hclock]
    exact Duration.nanos_ofMicros hfits
  stalled_of_last := by
    intro k hk
    -- the time of the last reading is not cut off if the time of the last read is not
    have hle : k * period ≤ n * period := Nat.mul_le_mul_right period (Nat.le_of_lt hk.1.1)
    have hearlier : k * period / 1000 < UInt64.size :=
      Nat.lt_of_le_of_lt (Nat.div_le_div_right hle) hfits
    rw [stalledFor, nowMillis, hclock, hlast, Scale.lastStamp_of_isGreatest hk,
      Duration.millis_ofMicros hfits, Duration.millis_ofMicros hearlier]
  stalled_of_errors := by
    intro herrors
    rw [stalledFor, nowMillis, hclock, hlast, Scale.lastStamp_of_errors herrors,
      Duration.millis_ofMicros hfits, Nat.sub_zero]
  stalled_elapse := by
    intro passed millis hbound
    -- no reading is from later than now, so nothing is cut off below
    have hnow : s.lastOk ≤ s.nowMillis := by
      rw [nowMillis, hclock, hlast]
      exact Scale.lastStamp_le n
    have hlater := lastOk_le_foldl_elapse hnow passed
    calc ((passed.foldl elapse s).elapse (1000 * millis)).stalledFor
        = (passed.foldl elapse s).nowMillis + millis - (passed.foldl elapse s).lastOk := by
          rw [stalledFor, nowMillis_elapse hbound]
          rfl
      _ = (passed.foldl elapse s).stalledFor + millis := Nat.sub_add_comm hlater

theorem Paces.timeAccount {n : Nat} (h : Paces period scale m s) (hends : Scale.EndsAfter n scale)
    (hfits : n * period / 1000 < UInt64.size) (hclosed : s.take.1 = .closed) :
    TimeAccount period n scale s := by
  have hphase : s.phase = .finished := (closed_iff.mp hclosed).2
  have hstamps := h.stamps
  have hanswer := h.fits
  rw [hphase] at hstamps hanswer
  -- the read that has ended the stream is the first one that does
  obtain rfl : m = n := by
    rcases Nat.lt_trichotomy m n with hlt | rfl | hgt
    · rw [Phase.Fits, hends.goesOn m hlt] at hanswer
      cases hanswer
    · rfl
    · have hgoes := h.goesOn n hgt
      rw [hends.ends] at hgoes
      cases hgoes
  exact timeAccount_of_clock hfits h.clock hstamps

/-- A sampler is drained on a simulated clock that only its thread moves, over a stream of which `n`
reads go before the one that ends it.  However the steps of the thread and the takes follow each
other, the sampler can always be drained to its end; a paced one has then slept for `n` periods, and
the silence is the time since its last successful read; one that the scale's own timing leads has
not slept at all. -/
theorem drained_time (rate : UInt32) {n : Nat} {scale : τ} (hends : Scale.EndsAfter n scale)
    (hfits : n * periodMicros rate / 1000 < UInt64.size) {acts : List Act}
    (hinstant : ∀ a ∈ acts, a.Instant) :
    let now := (paced scale rate .simulated).actAll acts
    let led := (eventDriven scale .simulated).actAll acts
    (now.take.1 = .closed → TimeAccount (periodMicros rate) n scale now) ∧
      (∃ limit drained, now.drain? limit = some drained ∧
        TimeAccount (periodMicros rate) n scale drained.sampler) ∧
      led.clock.elapsed.nanos = 0 ∧
      ∃ limit drained, led.drain? limit = some drained ∧
        drained.sampler.clock.elapsed.nanos = 0 := by
  intro now led
  have hreach : ∀ period, (ofScale scale period .simulated).EndsIn (n + 1) :=
    fun period => .inr hends.endsWithin
  have hstart := paces_start scale rate
  refine ⟨?_, ?_, ?_, ?_⟩
  · intro hclosed
    rcases hstart.actAll hinstant with ⟨rounds, hnow⟩
    exact hnow.timeAccount hends hfits hclosed
  · rcases exists_drained hstart.notAsked (hreach _) hinstant with
      ⟨limit, drained, all, hdrain, hall, hsampler, hclosed⟩
    rcases hstart.actAll hall with ⟨rounds, hnow⟩
    rw [← hsampler] at hnow
    exact ⟨limit, drained, hdrain, hnow.timeAccount hends hfits hclosed⟩
  · have hclock : led.clock = ManualClock.new := clock_actAll rfl rfl hinstant
    rw [hclock]
    rfl
  · rcases exists_drained (s := eventDriven scale .simulated) rfl (hreach none) hinstant with
      ⟨limit, drained, all, hdrain, hall, hsampler, -⟩
    have hclock : drained.sampler.clock = ManualClock.new := by
      rw [hsampler]
      exact clock_actAll rfl rfl hall
    refine ⟨limit, drained, hdrain, ?_⟩
    rw [hclock]
    rfl

/-- Two readings and two glitches at three readings a second.  The last reading was made by the third
read, two periods after the start, and half a millisecond that passes does not get lost. -/
theorem drained_time_glitches :
    let scale : ScriptedScale := ⟨[.ok ⟨0x42c80000⟩, .error (.named (.io "glitch")),
      .ok ⟨0x42ca0000⟩, .error (.named (.io "glitch"))]⟩
    let acts : List Act := List.replicate 40 (.move .step) ++ [.take, .take]
    let now := (paced scale 3 .simulated).actAll acts
    Scale.EndsAfter 4 scale ∧ 4 * periodMicros 3 / 1000 < UInt64.size ∧
      (∀ a ∈ acts, a.Instant) ∧ now.take.1 = .closed ∧
      now.clock.elapsed.nanos = 4 * 333333 * 1000 ∧ now.stalledFor = 1333 - 666 ∧
      ((now.elapse 500).elapse (1000 * 250)).stalledFor = (now.elapse 500).stalledFor + 250 := by
  intro scale acts now
  have hends : Scale.EndsAfter 4 scale := ⟨by decide +kernel, rfl⟩
  have hfits : 4 * periodMicros 3 / 1000 < UInt64.size := by decide
  have hinstant : ∀ a ∈ acts, a.Instant := by
    intro a ha
    rcases List.mem_append.mp ha with hstep | htake
    · rw [List.eq_of_mem_replicate hstep]
      rfl
    · rcases List.mem_pair.mp htake with rfl | rfl <;> exact trivial
  have hclosed : now.take.1 = .closed := by decide +kernel
  have haccount : TimeAccount (periodMicros 3) 4 scale now :=
    (drained_time 3 hends hfits hinstant).1 hclosed
  have hlast : IsGreatest {i | i < 4 ∧ ∃ value, Scale.answer i scale = .ok value} 2 := by
    refine ⟨⟨by decide, _, rfl⟩, ?_⟩
    rintro i ⟨hi, value, hvalue⟩
    have hcases : i ≤ 2 ∨ i = 3 := by omega
    rcases hcases with hle | rfl
    · exact hle
    · cases hvalue
  have hbound : ([500].foldl elapse now).nowMillis + 250 < UInt64.size := by decide +kernel
  have hperiod : periodMicros 3 = 333333 := by decide +kernel
  -- from here on the sampler is any one that has the account
  clear_value now
  rw [hperiod] at haccount
  exact ⟨hends, hfits, hinstant, hclosed, haccount.elapsed, haccount.stalled_of_last 2 hlast,
    haccount.stalled_elapse [500] 250 hbound⟩

end Sampler

end SmartScale
