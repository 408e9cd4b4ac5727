import SmartScale.Proofs.Run.Lossless
import SmartScale.Proofs.Sampling.Periods

/-!
# Runs in the prompt order

Over a scale of which no read fails but at the end of the stream, a sampled run in the prompt order
ends, and it ends well.

It ends because every round uses up some work that is left (`SampledRun.workLeft`): the thread has a
bounded way to go for each read that the scale still answers, and the consumer for each reading in
the channel.  It ends well because the watchdog never fires: the thread sleeps once between two
readings, and one sleep is shorter than the silence that is allowed (`Sampler.OnTime`).

The rounds that the run has taken are turns like any others, so what holds of a run in any order
holds of it.  `Run.start?_eq` draws the conclusion for every mode.
-/

namespace SmartScale

/-! ## Time -/

theorem ManualClock.millis_advance (c : ManualClock) (micros : Nat) :
    (c.advance (Duration.ofMicros micros)).elapsed.millis ≤ c.elapsed.millis + (micros / 1000 + 1) := by
  simp only [advance, Duration.add, Duration.ofMicros, Duration.ofNanos, Duration.millis]
  omega

namespace Sampler

variable {τ : Type}

/-- One sleep of the thread as the watchdog sees it at most, in milliseconds. -/
def sleepMillis (s : Sampler τ) : Nat :=
  match s.period with
  | some period => period / 1000 + 1
  | none => 0

/-- The last reading was handed over no longer than one sleep ago. -/
def OnTime (s : Sampler τ) : Prop :=
  match s.phase with
  | .finished => True
  | .resting => False
  | .pausing | .sleeping => s.period.isSome = true ∧ s.nowMillis ≤ s.lastOk
  | _ => s.nowMillis ≤ s.lastOk + s.sleepMillis

theorem OnTime.stalledFor_le {s : Sampler τ} (h : s.OnTime) (hlive : s.phase ≠ .finished) :
    s.stalledFor ≤ s.sleepMillis := by
  unfold OnTime at h
  unfold stalledFor
  cases hphase : s.phase <;> rw [hphase] at h
  case finished => exact absurd hphase hlive
  case resting => exact h.elim
  all_goals omega

/-! ## The thread -/

/-- Steps that the thread has to go at most until it has met the end of the stream, which is within
`n` reads; a reading in the channel counts for two. -/
def phaseWork (n : Nat) : Phase → Nat
  | .finished => 0
  | .reading => 8 * n + 1
  | .start => 8 * n + 2
  | .sleeping | .resting => 8 * n + 3
  | .pausing => 8 * n + 4
  | .stamping => 8 * n + 5
  | .sending _ => 8 * n + 8

/-- Steps of the thread and readings in the channel that are left at most. -/
def workLeft (s : Sampler τ) (n : Nat) : Nat := 2 * s.channel.length + phaseWork n s.phase

variable [Scale τ]

theorem Step.onlyEnds {s next : Sampler τ} (h : Step s next) (honly : Scale.OnlyEnds s.scale) :
    Scale.OnlyEnds next.scale := by
  cases h with
  | read | close | skip => exact honly.next
  | _ => exact honly

/-- Any step of a thread that is not asked to end leaves less to do, unless the thread is done or the
channel has no room. -/
theorem Step.less_work {s next : Sampler τ} {n : Nat} (h : Step s next) (hends : s.EndsIn n)
    (hnotAsked : s.shutdown = false) :
    ∃ m, next.EndsIn m ∧ (next.workLeft m < s.workLeft n ∨
      next = s ∧ (s.phase = .finished ∨ ¬ s.channel.length < channelCapacity)) := by
  have hstream : s.phase ≠ .finished → Scale.EndsWithin n s.scale := hends.resolve_left
  -- a read is one of those within which the stream ends, and so is one less to make
  have hread : s.phase = .reading → ∃ m, n = m + 1 ∧
      (Scale.endsStream (Scale.read s.scale).1 = true ∨
        Scale.EndsWithin m (Scale.read s.scale).2) := by
    intro hphase
    cases n with
    | zero => exact absurd (hstream (by simp [hphase])) Scale.not_endsWithin_zero
    | succ m => exact ⟨m, rfl, Scale.endsWithin_succ.mp (hstream (by simp [hphase]))⟩
  cases h with
  | read hphase hok =>
      rcases hread hphase with ⟨m, rfl, hlater⟩
      refine ⟨m, .inr (hlater.resolve_left (by simp [hok, Scale.endsStream])), .inl ?_⟩
      simp only [workLeft, hphase, phaseWork]
      omega
  | skip hphase herror hskip =>
      rcases hread hphase with ⟨m, rfl, hlater⟩
      refine ⟨m, .inr (hlater.resolve_left (by simp [herror, Scale.endsStream, hskip])), .inl ?_⟩
      cases s.period.isSome <;> simp [workLeft, hphase, phaseWork] <;> omega
  | close hphase herror hend =>
      exact ⟨0, .inl rfl, .inl (by simp [workLeft, hphase, phaseWork])⟩
  | stamp hphase =>
      refine ⟨n, .inr (hstream (by simp [hphase])), .inl ?_⟩
      cases s.period.isSome <;> simp [workLeft, hphase, phaseWork]
  | send hphase hroom =>
      refine ⟨n, .inr (hstream (by simp [hphase])), .inl ?_⟩
      simp only [workLeft, hphase, phaseWork, List.length_append, List.length_singleton]
      omega
  | begin hphase | rest hphase | sleep hphase | wake hphase =>
      exact ⟨n, .inr (hstream (by simp [hphase])), .inl (by simp [workLeft, hphase, phaseWork])⟩
  | hold hphase hfull => exact ⟨n, hends, .inr ⟨rfl, .inr hfull⟩⟩
  | done hphase => exact ⟨n, hends, .inr ⟨rfl, .inl hphase⟩⟩
  | stop hphase hflag | giveUp hphase hfull hflag =>
      rw [hnotAsked] at hflag
      cases hflag

/-- The thread's step in the prompt order, with the time that it sleeps before. -/
def promptStep (s : Sampler τ) : Sampler τ :=
  match s.phase with
  | .sleeping | .resting => (s.elapse (SampledRun.sleepMicros s)).threadStep
  | _ => s.threadStep

/-- The thread is at work, in time, and the stream ends within `n` reads. -/
structure Works (s : Sampler τ) (n : Nat) : Prop where
  notAsked : s.shutdown = false
  passing : s.time = .passing
  only : Scale.OnlyEnds s.scale
  ends : s.EndsIn n
  onTime : s.OnTime

variable {s : Sampler τ} {n : Nat}

/-- The thread moves on without a read. -/
theorem Works.moveOn (h : s.Works n) {next : Sampler τ} (hlive : s.phase ≠ .finished)
    (hflag : next.shutdown = s.shutdown) (htime : next.time = s.time)
    (hscale : next.scale = s.scale) (honTime : next.OnTime) : next.Works n where
  notAsked := hflag.trans h.notAsked
  passing := htime.trans h.passing
  only := hscale ▸ h.only
  ends := .inr (hscale ▸ h.ends.resolve_left hlive)
  onTime := honTime

/-- A step that is no sleep leaves the thread in time. -/
theorem Works.onTime_step (h : s.Works n) (hlive : s.phase ≠ .finished)
    (hawake : s.phase ≠ .sleeping) {next : Sampler τ} (hstep : Step s next) : next.OnTime := by
  have honTime := h.onTime
  unfold OnTime at honTime
  cases hstep with
  | begin hphase | read hphase | send hphase | sleep hphase =>
      rw [hphase] at honTime
      exact honTime
  | close hphase => exact trivial
  | stamp hphase =>
      -- a reading has just been handed over, so all the time is left
      unfold OnTime
      cases hperiod : s.period.isSome with
      | true => exact ⟨rfl, Nat.le_refl _⟩
      | false => exact Nat.le_add_right _ _
  | rest hphase =>
      rw [hphase] at honTime
      exact honTime.elim
  | skip hphase hread hskip => exact absurd (h.only.of_error hread) hskip
  | hold hphase hfull hflag => exact h.onTime
  | stop hphase hflag | giveUp hphase hfull hflag =>
      rw [h.notAsked] at hflag
      cases hflag
  | wake hphase => exact absurd hphase hawake
  | done hphase => exact absurd hphase hlive

/-- Any step that is no sleep leaves less to do, and leaves the thread in time. -/
theorem Works.step (h : s.Works n) (hempty : s.channel = []) (hlive : s.phase ≠ .finished)
    (hawake : s.phase ≠ .sleeping) {next : Sampler τ} (hstep : Step s next) :
    ∃ m, next.Works m ∧ next.period = s.period ∧ next.workLeft m < s.workLeft n := by
  rcases hstep.less_work h.ends h.notAsked with ⟨m, hends, hless | ⟨-, hdone | hfull⟩⟩
  · refine ⟨m, ?_, hstep.period, hless⟩
    exact {
      notAsked := hstep.shutdown.trans h.notAsked
      passing := hstep.time.trans h.passing
      only := hstep.onlyEnds h.only
      ends := hends
      onTime := h.onTime_step hlive hawake hstep }
  · exact absurd hdone hlive
  · exact absurd (by simp [hempty, channelCapacity]) hfull

/-- After one sleep the thread is still in time. -/
theorem Works.sleep (h : s.Works n) (hphase : s.phase = .sleeping) :
    s.promptStep.Works n ∧ s.promptStep.period = s.period ∧
      s.promptStep.workLeft n < s.workLeft n := by
  have honTime := h.onTime
  rw [OnTime, hphase] at honTime
  rcases honTime with ⟨hperiod, hnow⟩
  rcases Option.isSome_iff_exists.mp hperiod with ⟨period, hsome⟩
  have hstep : s.promptStep = { s.elapse period with phase := .start } := by
    simp [Sampler.promptStep, threadStep, wakeStep, elapse, SampledRun.sleepMicros, hphase, hsome,
      h.passing]
  have hslept : (s.elapse period).nowMillis ≤ s.lastOk + s.sleepMillis := by
    calc (s.elapse period).nowMillis
        ≤ s.nowMillis + (period / 1000 + 1) := s.clock.millis_advance period
      _ ≤ s.lastOk + (period / 1000 + 1) := Nat.add_le_add_right hnow _
      _ = s.lastOk + s.sleepMillis := by rw [sleepMillis, hsome]
  rw [hstep]
  exact ⟨h.moveOn (by simp [hphase]) rfl rfl rfl hslept, rfl,
    by simp [workLeft, elapse, hphase, phaseWork]⟩

theorem Works.promptStep (h : s.Works n) (hempty : s.channel = []) (hlive : s.phase ≠ .finished) :
    ∃ m, s.promptStep.Works m ∧ s.promptStep.period = s.period ∧
      s.promptStep.workLeft m < s.workLeft n := by
  by_cases hsleeping : s.phase = .sleeping
  · exact ⟨n, h.sleep hsleeping⟩
  · have hnotResting : s.phase ≠ .resting := by
      intro hresting
      have honTime := h.onTime
      rw [OnTime, hresting] at honTime
      exact honTime
    have hawake : s.promptStep = s.threadStep := by
      unfold Sampler.promptStep
      cases hphase : s.phase <;> simp [hphase] at hsleeping hnotResting ⊢
    rw [hawake]
    exact h.step hempty hlive hsleeping s.step_threadStep

end Sampler

/-! ## The run -/

namespace SampledRun

variable {σ τ : Type} {params : RunParams} {r : SampledRun σ τ} {n : Nat}

def stageWork : Stage → Nat
  | .ended _ => 0
  | .waiting => 1
  | .checking => 2

/-- Rounds that are left at most, if the stream ends within `n` reads. -/
def workLeft (r : SampledRun σ τ) (n : Nat) : Nat :=
  stageWork r.stage + 2 * r.sampler.channel.length + Sampler.phaseWork n r.sampler.phase

theorem workLeft_start (params : RunParams) (detector : Detector σ) (scale : τ) (n : Nat) :
    (start params detector scale).workLeft n = 8 * n + 4 := by
  have hwork : ∀ period, (SampledRun.mk (Run.start detector)
      (Sampler.ofScale scale period .passing) .checking).workLeft n = 8 * n + 4 := by
    intro period
    simp only [workLeft, stageWork, Sampler.ofScale, Sampler.phaseWork, List.length_nil]
    omega
  unfold start
  cases params.mode <;> exact hwork _

variable [Scale τ]

/-- The run goes on, and one sleep of its thread is shorter than the silence that is allowed. -/
structure GoesOn (params : RunParams) (r : SampledRun σ τ) (n : Nat) : Prop where
  live : ∀ failure, r.stage ≠ .ended failure
  works : r.sampler.Works n
  allowed : r.sampler.sleepMillis ≤ params.stallMillis

theorem GoesOn.stageWork_pos (h : GoesOn params r n) : 0 < stageWork r.stage := by
  cases hstage : r.stage with
  | ended failure => exact absurd hstage (h.live failure)
  | _ => simp [stageWork]

/-- Where the consumer has nothing to do, the round is the thread's. -/
theorem play_nextTurns_of_idle (hidle : r.consumerReady params = false) :
    r.play params (r.nextTurns params) = { r with sampler := r.sampler.promptStep } := by
  unfold nextTurns Sampler.promptStep
  rw [if_neg (by simp [hidle])]
  cases hphase : r.sampler.phase <;> rfl

theorem play_nextTurns_of_ready (hready : r.consumerReady params = true) :
    r.play params (r.nextTurns params) = r.consumerStep params := by
  unfold nextTurns
  rw [if_pos hready]
  rfl

/-- A round leads on with less work left, or to a good end. -/
theorem GoesOn.round (h : GoesOn params r n) :
    (r.play params (r.nextTurns params)).stage = .ended none ∨
      ∃ m, GoesOn params (r.play params (r.nextTurns params)) m ∧
        (r.play params (r.nextTurns params)).workLeft m < r.workLeft n := by
  cases hstage : r.stage with
  | ended failure => exact absurd hstage (h.live failure)
  | checking =>
      have hready : r.consumerReady params = true := by simp [consumerReady, hstage]
      rw [play_nextTurns_of_ready hready, consumerStep, hstage]
      dsimp only
      cases Run.shouldStop params r.run.summary with
      | true => exact .inl rfl
      | false =>
          right
          refine ⟨n, ⟨by simp, h.works, h.allowed⟩, ?_⟩
          simp [workLeft, stageWork, hstage]
  | waiting =>
      cases hchannel : r.sampler.channel with
      | cons value rest =>
          -- a reading is there: it is fed at the cost of a look whether to stop
          have hready : r.consumerReady params = true := by simp [consumerReady, hchannel]
          rw [play_nextTurns_of_ready hready, consumerStep, hstage]
          dsimp only
          rw [Sampler.take_cons hchannel]
          right
          refine ⟨n, ⟨by simp, ⟨h.works.notAsked, h.works.passing, h.works.only, h.works.ends,
            h.works.onTime⟩, h.allowed⟩, ?_⟩
          simp only [workLeft, stageWork, hstage, hchannel, List.length_cons]
          omega
      | nil =>
          by_cases hdone : r.sampler.phase = .finished
          · have hready : r.consumerReady params = true := by
              simp [consumerReady, Sampler.isFinished, hdone]
            rw [play_nextTurns_of_ready hready, consumerStep, hstage]
            dsimp only
            rw [Sampler.take_finished hchannel hdone]
            exact .inl rfl
          · -- the watchdog does not fire, so the consumer waits and the thread goes on
            have hsilence : r.sampler.stalledFor ≤ params.stallMillis :=
              Nat.le_trans (h.works.onTime.stalledFor_le hdone) h.allowed
            have hidle : r.consumerReady params = false := by
              simp [consumerReady, hstage, hchannel, Sampler.isFinished, hdone, hsilence]
            rcases h.works.promptStep hchannel hdone with ⟨m, hworks, hperiod, hless⟩
            rw [play_nextTurns_of_idle hidle]
            right
            refine ⟨m, ⟨h.live, hworks, ?_⟩, ?_⟩
            · unfold Sampler.sleepMillis
              rw [hperiod]
              exact h.allowed
            · simp only [Sampler.workLeft] at hless
              simp only [workLeft]
              omega

theorem playPromptly?_live (hlive : ∀ failure, r.stage ≠ .ended failure) (limit : Nat) :
    playPromptly? params (limit + 1) r =
      playPromptly? params limit (r.play params (r.nextTurns params)) := by
  rw [playPromptly?]
  cases hstage : r.stage with
  | ended failure => exact absurd hstage (hlive failure)
  | _ => rfl

theorem playPromptly?_ended (hended : r.stage = .ended none) (limit : Nat) :
    playPromptly? params (limit + 1) r = some ⟨r.run, none⟩ := by
  rw [playPromptly?, hended]

theorem play_append (turns more : List Turn) :
    r.play params (turns ++ more) = (r.play params turns).play params more :=
  List.foldl_append

/-- With enough rounds the run ends well, by turns that might have been taken in any other way. -/
theorem GoesOn.ends (h : GoesOn params r n) {limit : Nat} (hlimit : r.workLeft n < limit) :
    ∃ turns, (r.play params turns).stage = .ended none ∧
      playPromptly? params limit r = some ⟨(r.play params turns).run, none⟩ := by
  induction limit generalizing r n with
  | zero => exact absurd hlimit (Nat.not_lt_zero _)
  | succ limit ih =>
      rw [playPromptly?_live h.live]
      rcases h.round with hended | ⟨m, hnext, hless⟩
      · -- the end is seen by the round after it, for which there is work left
        have hwork : 0 < r.workLeft n :=
          Nat.add_pos_left (Nat.add_pos_left h.stageWork_pos _) _
        obtain ⟨limit, rfl⟩ : ∃ k, limit = k + 1 := ⟨limit - 1, by omega⟩
        exact ⟨r.nextTurns params, hended, playPromptly?_ended hended limit⟩
      · rcases ih hnext (by omega) with ⟨turns, hended, hplayed⟩
        refine ⟨r.nextTurns params ++ turns, ?_, ?_⟩
        · rw [play_append]
          exact hended
        · rw [play_append]
          exact hplayed

/-! ## Which readings are fed -/

/-- Over a scale that fails only at its end, what a run that ends well has fed does not depend on the
order of turns. -/
theorem play_eq {detector : Detector σ} {scale : τ} {values : List Reading} {turns : List Turn}
    (honly : Scale.OnlyEnds scale) (hfeeds : Run.Feeds params 0 scale values)
    (hended : ((start params detector scale).play params turns).stage = .ended none) :
    ((start params detector scale).play params turns).run =
      values.foldl Run.feed (Run.start detector) := by
  rcases tally_play params detector scale turns with ⟨fed, htally⟩
  -- both lists are what a direct run over the scale feeds
  let limit := values.length + fed.length + 1
  have hdue : Run.direct? params limit (Run.start detector) scale =
      some ⟨values.foldl Run.feed (Run.start detector), none⟩ :=
    Run.direct?_eq honly hfeeds (Nat.lt_succ_of_le (Nat.le_add_right _ _))
  have hfed : Run.direct? params limit (Run.start detector) scale =
      some ⟨fed.foldl Run.feed (Run.start detector), none⟩ :=
    Run.direct?_eq honly (htally.feeds hended) (Nat.lt_succ_of_le (Nat.le_add_left _ _))
  have hsame := Option.some.inj (hfed.symm.trans hdue)
  rw [htally.fed]
  exact congrArg Finished.run hsame

/-! ## From the start -/

theorem goesOn_start (params : RunParams) (detector : Detector σ) {scale : τ}
    (honly : Scale.OnlyEnds scale) (hends : Scale.EndsWithin n scale) :
    GoesOn params (start params detector scale) n := by
  have hworks : ∀ period, (Sampler.ofScale scale period .passing).Works n := by
    intro period
    have hnow : (Sampler.ofScale scale period .passing).nowMillis = 0 := by
      simp [Sampler.nowMillis, Sampler.ofScale, ManualClock.new, Duration.zero, Duration.millis]
    exact ⟨rfl, rfl, honly, .inr hends, Nat.le_trans (Nat.le_of_eq hnow) (Nat.zero_le _)⟩
  unfold start
  cases hmode : params.mode with
  | paced rate =>
      refine ⟨by simp, hworks _, ?_⟩
      have hstall : params.stallMillis =
          max (saturatingMul params.watchMillis 4) (2 * periodMillis rate) := by
        rw [RunParams.stallMillis, RunParams.readingMillis, hmode]
        exact stallThreshold_eq params.watchMillis rate
      have hrounded : periodMicros rate / 1000 ≤ periodMillis rate := periodMicros_div_le rate
      have hperiod : 1 ≤ periodMillis rate := one_le_periodMillis rate
      change periodMicros rate / 1000 + 1 ≤ params.stallMillis
      omega
  | _ => exact ⟨by simp, hworks none, Nat.zero_le _⟩

/-- A run in the prompt order over a scale that fails only at its end feeds what it may feed and ends
well. -/
theorem prompt?_eq (params : RunParams) (detector : Detector σ) {scale : τ} {values : List Reading}
    (honly : Scale.OnlyEnds scale) (hends : Scale.EndsWithin n scale)
    (hfeeds : Run.Feeds params 0 scale values) {limit : Nat} (hlimit : 8 * n + 4 < limit) :
    prompt? params limit detector scale =
      some ⟨values.foldl Run.feed (Run.start detector), none⟩ := by
  have hgoes := goesOn_start params detector honly hends
  rw [← workLeft_start params detector scale] at hlimit
  rcases hgoes.ends hlimit with ⟨turns, hended, hplayed⟩
  rw [prompt?, hplayed, play_eq honly hfeeds hended]

end SampledRun

end SmartScale
