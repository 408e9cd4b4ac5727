import SmartScale.Proofs.Run.Direct
import SmartScale.Proofs.Sampling.Step

/-!
# Sampled runs lose nothing

Between the scale and the detector of a sampled run stand a thread, which may hold one reading, and
a bounded channel.  Whatever the order of turns, the readings fed so far and those still in prospect
(in the channel, held by the thread, or yet to be read) make up what the scale delivers from the
start.  Every turn keeps this account (`Tally.turn`), hence so does every run (`tally_play`).

`SampledRun.play_lossless` draws the consequences: what has been fed is an initial part of what the
scale delivers; it is all of it when the channel is found closed; and a run that ends well has come
to what a direct run over the delivered readings comes to.
-/

namespace SmartScale

/-! ## Readings in prospect -/

namespace Sampler

variable {τ : Type} [Scale τ]

/-- The reading that the thread holds, if any. -/
def held (s : Sampler τ) : List Reading :=
  match s.phase with
  | .sending value => [value]
  | _ => []

/-- The readings that a thread which is not asked to end hands over with `n` more reads. -/
def prospect (s : Sampler τ) (n : Nat) : List Reading :=
  s.channel ++ if s.phase = .finished then [] else s.held ++ Scale.delivered n s.scale

/-- The thread is done, or `n` more reads meet the end of the stream. -/
def EndsIn (s : Sampler τ) (n : Nat) : Prop := s.phase = .finished ∨ Scale.EndsWithin n s.scale

/-- Any step of a thread that is not asked to end keeps the readings in prospect, but for the read
that it may take. -/
theorem Step.prospect {s next : Sampler τ} (h : Step s next) (hshutdown : s.shutdown = false) :
    ∃ reads, ∀ n, next.prospect n = s.prospect (n + reads) ∧
      (next.EndsIn n → s.EndsIn (n + reads)) := by
  unfold EndsIn
  cases h with
  | read hphase hread =>
      -- the thread's read is the first of the reads of which `delivered` keeps account
      refine ⟨1, fun n => ?_⟩
      rw [Scale.endsWithin_succ]
      simp [Sampler.prospect, held, hphase, Scale.delivered_ok hread, hread, Scale.endsStream]
  | close hphase hread hend =>
      refine ⟨1, fun n => ?_⟩
      rw [Scale.endsWithin_succ]
      simp [Sampler.prospect, held, hphase, hread, hend, Scale.delivered_end hread hend,
        Scale.endsStream]
  | skip hphase hread hskip =>
      refine ⟨1, fun n => ?_⟩
      rw [Scale.endsWithin_succ]
      cases s.period.isSome <;>
        simp [Sampler.prospect, held, hphase, hread, hskip, Scale.delivered_skip hread hskip,
          Scale.endsStream]
  | stamp hphase =>
      refine ⟨0, fun n => ?_⟩
      cases s.period.isSome <;> simp [Sampler.prospect, held, hphase]
  | hold hphase hfull hflag =>
      -- the reading is kept for the next try
      exact ⟨0, fun n => ⟨rfl, id⟩⟩
  | done hphase => exact ⟨0, fun n => ⟨rfl, id⟩⟩
  | stop hphase hflag =>
      rw [hshutdown] at hflag
      cases hflag
  | giveUp hphase hfull hflag =>
      rw [hshutdown] at hflag
      cases hflag
  | begin hphase hflag | send hphase hroom | rest hphase | sleep hphase hflag | wake hphase =>
      exact ⟨0, fun n => by simp [Sampler.prospect, held, hphase]⟩

theorem threadStep_prospect (s : Sampler τ) (hshutdown : s.shutdown = false) :
    ∃ reads, ∀ n, s.threadStep.prospect n = s.prospect (n + reads) ∧
      (s.threadStep.EndsIn n → s.EndsIn (n + reads)) :=
  s.step_threadStep.prospect hshutdown

/-! ## The other party -/

theorem take_value {s rest : Sampler τ} {value : Reading} (h : s.take = (.value value, rest)) :
    (∀ n, s.prospect n = value :: rest.prospect n) ∧ (∀ n, rest.EndsIn n → s.EndsIn n) ∧
      rest.shutdown = s.shutdown := by
  cases hchannel : s.channel with
  | cons first others =>
      rw [take_cons hchannel] at h
      cases h
      exact ⟨fun n => by simp [prospect, hchannel, held], fun n => id, rfl⟩
  | nil =>
      by_cases hphase : s.phase = .finished
      · rw [take_finished hchannel hphase] at h
        cases h
      · rw [take_unfinished hchannel hphase] at h
        cases h

theorem take_closed {s : Sampler τ} (h : s.take.1 = .closed) :
    (∀ n, s.prospect n = []) ∧ ∀ n, s.EndsIn n := by
  rcases closed_iff.mp h with ⟨hchannel, hphase⟩
  exact ⟨fun n => by simp [prospect, hchannel, hphase], fun n => Or.inl hphase⟩

end Sampler

/-! ## The account of a run -/

namespace SampledRun

variable {σ τ : Type} [Scale τ]

/-- The account of a run that has fed the given readings. -/
structure Tally (params : RunParams) (detector : Detector σ) (scale : τ) (r : SampledRun σ τ)
    (values : List Reading) : Prop where
  /-- The detector has been fed these readings, one after the other. -/
  fed : r.run = values.foldl Run.feed (Run.start detector)
  /-- The run did not have to stop before the last of them. -/
  going : ∀ count < values.length, params.stopsAt count = false
  /-- They are the first readings that the scale delivers. -/
  delivers : Scale.Delivers scale values
  /-- With those in prospect they are what the scale delivers. -/
  account : r.sampler.shutdown = false → ∃ reads, ∀ n,
    Scale.delivered (n + reads) scale = values ++ r.sampler.prospect n ∧
      (r.sampler.EndsIn n → Scale.EndsWithin (n + reads) scale)
  /-- The thread is asked to end only when the run has ended. -/
  asked : r.sampler.shutdown = true → ∃ failure, r.stage = .ended failure
  /-- The run only waits for a reading that it may feed. -/
  waiting : r.stage = .waiting → params.stopsAt values.length = false
  /-- The run only ends well when it has to stop or there are no more readings. -/
  ended : r.stage = .ended none →
    params.stopsAt values.length = true ∨ Scale.DeliversInAll scale values

variable {params : RunParams} {detector : Detector σ} {scale : τ} {r : SampledRun σ τ}
  {values : List Reading}

theorem tally_start (params : RunParams) (detector : Detector σ) (scale : τ) :
    Tally params detector scale (start params detector scale) [] where
  fed := rfl
  going := by simp
  delivers := ⟨0, List.nil_prefix⟩
  account := by
    intro _
    refine ⟨0, fun n => ?_⟩
    unfold start
    cases params.mode <;>
      simp [Sampler.prospect, Sampler.held, Sampler.EndsIn, Sampler.paced, Sampler.eventDriven,
        Sampler.ofScale]
  asked := by
    intro hasked
    unfold start at hasked
    cases hmode : params.mode <;> rw [hmode] at hasked <;> cases hasked
  waiting := by intro h; cases h
  ended := by intro h; cases h

/-- The samples that a run has counted are those that it was fed. -/
theorem Tally.samples (h : Tally params detector scale r values) :
    r.run.summary.samples = values.length := by
  rw [h.fed, Run.foldl_feed_samples]
  exact Nat.zero_add _

/-- A run can only act on its readings while its thread has not been asked to end. -/
theorem Tally.not_asked (h : Tally params detector scale r values)
    (hstage : ∀ failure, r.stage ≠ .ended failure) : r.sampler.shutdown = false := by
  cases hasked : r.sampler.shutdown with
  | false => rfl
  | true =>
      rcases h.asked hasked with ⟨failure, hfailure⟩
      exact absurd hfailure (hstage failure)

theorem Tally.threadStep (h : Tally params detector scale r values) :
    Tally params detector scale { r with sampler := r.sampler.threadStep } values where
  fed := h.fed
  going := h.going
  delivers := h.delivers
  account := by
    intro hshutdown
    rw [Sampler.threadStep_shutdown] at hshutdown
    rcases h.account hshutdown with ⟨reads, haccount⟩
    rcases r.sampler.threadStep_prospect hshutdown with ⟨more, hmore⟩
    refine ⟨more + reads, fun n => ?_⟩
    rw [← Nat.add_assoc, (hmore n).1]
    exact ⟨(haccount (n + more)).1, fun hends => (haccount (n + more)).2 ((hmore n).2 hends)⟩
  asked := by
    intro hasked
    rw [Sampler.threadStep_shutdown] at hasked
    exact h.asked hasked
  waiting := h.waiting
  ended := h.ended

/-- A run that ends asks its thread to end; from then on nothing is fed any more. -/
theorem Tally.finish (h : Tally params detector scale r values) (failure : Option Report)
    (hended : failure = none →
      params.stopsAt values.length = true ∨ Scale.DeliversInAll scale values) :
    Tally params detector scale (r.finish failure) values where
  fed := h.fed
  going := h.going
  delivers := h.delivers
  account := by intro hasked; cases hasked
  asked := fun _ => ⟨failure, rfl⟩
  waiting := by intro hstage; cases hstage
  ended := by
    intro hstage
    cases hstage
    exact hended rfl

/-- The consumer goes on to look or to wait. -/
theorem Tally.atStage (h : Tally params detector scale r values) (stage : Stage)
    (hlive : ∀ failure, r.stage ≠ .ended failure)
    (hwaiting : stage = .waiting → params.stopsAt values.length = false)
    (hended : stage ≠ .ended none) :
    Tally params detector scale { r with stage } values where
  fed := h.fed
  going := h.going
  delivers := h.delivers
  account := h.account
  asked := by
    intro hasked
    rw [h.not_asked hlive] at hasked
    cases hasked
  waiting := hwaiting
  ended := fun heq => absurd heq hended

theorem Tally.consumerStep_checking (h : Tally params detector scale r values)
    (hstage : r.stage = .checking) :
    Tally params detector scale (r.consumerStep params) values := by
  unfold consumerStep
  rw [hstage]
  dsimp only
  rw [Run.shouldStop_eq, h.samples]
  cases hstop : params.stopsAt values.length with
  | true => exact h.finish none fun _ => Or.inl hstop
  | false =>
      refine h.atStage .waiting (by simp [hstage]) (fun _ => hstop) ?_
      intro heq
      cases heq

/-- The consumer receives a reading and feeds it. -/
theorem Tally.receive (h : Tally params detector scale r values) (hstage : r.stage = .waiting)
    {value : Reading} {sampler : Sampler τ} (htake : r.sampler.take = (.value value, sampler)) :
    Tally params detector scale ⟨r.run.feed value, sampler, .checking⟩ (values ++ [value]) := by
  rcases Sampler.take_value htake with ⟨hprospect, hends, hshutdown⟩
  have hasked : r.sampler.shutdown = false := h.not_asked (by simp [hstage])
  rcases h.account hasked with ⟨reads, haccount⟩
  -- The reading that is fed is the first of those that were in prospect.
  refine ⟨?_, ?_, ⟨0 + reads, ?_⟩, fun _ => ⟨reads, fun n => ⟨?_, ?_⟩⟩, ?_, ?_, ?_⟩
  · rw [List.foldl_append, ← h.fed]
    rfl
  · intro count hcount
    rw [List.length_append, List.length_singleton] at hcount
    rcases Nat.lt_succ_iff_lt_or_eq.mp hcount with hless | rfl
    · exact h.going count hless
    · exact h.waiting hstage
  · have hdelivered : Scale.delivered (0 + reads) scale = values ++ [value] ++ sampler.prospect 0 := by
      rw [(haccount 0).1, hprospect 0, List.append_cons]
    exact hdelivered ▸ List.prefix_append _ _
  · rw [(haccount n).1, hprospect n, List.append_cons]
  · exact fun hrest => (haccount n).2 (hends n hrest)
  · intro hrest
    rw [hshutdown, hasked] at hrest
    cases hrest
  · intro heq
    cases heq
  · intro heq
    cases heq

/-- When the consumer finds the channel closed it has fed all that the scale delivers. -/
theorem Tally.deliversInAll (h : Tally params detector scale r values)
    (hstage : r.stage = .waiting) (hclosed : r.sampler.take.1 = .closed) :
    Scale.DeliversInAll scale values := by
  have hasked : r.sampler.shutdown = false := h.not_asked (by simp [hstage])
  rcases h.account hasked with ⟨reads, haccount⟩
  rcases Sampler.take_closed hclosed with ⟨hnone, hends⟩
  have hall : Scale.delivered (0 + reads) scale = values := by
    rw [(haccount 0).1, hnone 0, List.append_nil]
  rw [← hall]
  exact ((haccount 0).2 (hends 0)).deliversInAll

theorem Tally.consumerStep_waiting (h : Tally params detector scale r values)
    (hstage : r.stage = .waiting) :
    ∃ fed, Tally params detector scale (r.consumerStep params) fed := by
  unfold consumerStep
  rw [hstage]
  dsimp only
  rcases htake : r.sampler.take with ⟨sample, sampler⟩
  cases sample with
  | value value => exact ⟨_, h.receive hstage htake⟩
  | closed =>
      have hclosed : r.sampler.take.1 = .closed := by rw [htake]
      exact ⟨values, h.finish none fun _ => Or.inr (h.deliversInAll hstage hclosed)⟩
  | pending =>
      -- The watchdog ends the run with a failure, or the consumer looks again.
      dsimp only
      split
      · exact ⟨values, h.finish _ (by intro hnone; cases hnone)⟩
      · refine ⟨values, h.atStage .checking (by simp [hstage]) ?_ ?_⟩
        · intro heq
          cases heq
        · intro heq
          cases heq

theorem Tally.turn (h : Tally params detector scale r values) (t : Turn) :
    ∃ fed, Tally params detector scale (r.turn params t) fed := by
  cases t with
  | thread => exact ⟨values, h.threadStep⟩
  | time micros => exact ⟨values, ⟨h.fed, h.going, h.delivers, h.account, h.asked, h.waiting, h.ended⟩⟩
  | consumer =>
      cases hstage : r.stage with
      | checking => exact ⟨values, h.consumerStep_checking hstage⟩
      | waiting => exact h.consumerStep_waiting hstage
      | ended failure =>
          refine ⟨values, ?_⟩
          rw [SampledRun.turn, consumerStep, hstage]
          exact h

theorem Tally.play (h : Tally params detector scale r values) (turns : List Turn) :
    ∃ fed, Tally params detector scale (r.play params turns) fed := by
  induction turns generalizing r values with
  | nil => exact ⟨values, h⟩
  | cons t rest ih =>
      rcases h.turn t with ⟨fed, hnext⟩
      exact ih hnext

/-- After any sequence of turns there is an account of the run. -/
theorem tally_play (params : RunParams) (detector : Detector σ) (scale : τ) (turns : List Turn) :
    ∃ fed, Tally params detector scale ((start params detector scale).play params turns) fed :=
  (tally_start params detector scale).play turns

/-! ## What a run comes to -/

theorem Tally.feeds (h : Tally params detector scale r values) (hended : r.stage = .ended none) :
    Run.Feeds params 0 scale values where
  going := by
    intro count _ hcount
    rw [Nat.zero_add] at hcount
    exact h.going count hcount
  done := by
    rw [Nat.zero_add]
    rcases h.ended hended with hstop | hall
    · exact Or.inl ⟨hstop, h.delivers⟩
    · exact Or.inr hall

/-- Whatever the order of turns of a sampled run, the detector has been fed an initial part of what
the scale delivers, one reading after the other, and all of it when the consumer finds the channel
closed.  When the run has ended without a failure, these direct runs end alike: one over all that the
scale delivers; one over any sufficiently long part of it, should the scale never end; and one over
the scale itself where no read fails but at the end of the stream. -/
theorem play_lossless (params : RunParams) (detector : Detector σ) (scale : τ) (turns : List Turn) :
    let r := (start params detector scale).play params turns
    let direct : RunParams := { params with mode := .direct }
    ∃ values : List Reading,
      r.run = values.foldl Run.feed (Run.start detector) ∧
      Scale.Delivers scale values ∧
      (r.stage = .waiting → r.sampler.take.1 = .closed → Scale.DeliversInAll scale values) ∧
      (r.stage = .ended none →
        (∀ all, Scale.DeliversInAll scale all → ∀ limit > all.length,
          Run.start? direct limit detector (ScriptedScale.ofReadings all) = some ⟨r.run, none⟩) ∧
        (∃ reads, ∀ n ≥ reads, ∀ limit > (Scale.delivered n scale).length,
          Run.start? direct limit detector (ScriptedScale.ofReadings (Scale.delivered n scale)) =
            some ⟨r.run, none⟩) ∧
        (Scale.OnlyEnds scale → ∀ limit > values.length,
          Run.start? direct limit detector scale = some ⟨r.run, none⟩)) := by
  intro r direct
  rcases tally_play params detector scale turns with ⟨values, htally⟩
  refine ⟨values, htally.fed, htally.delivers, htally.deliversInAll, fun hended => ?_⟩
  have hfeeds : Run.Feeds direct 0 scale values :=
    ⟨(htally.feeds hended).going, (htally.feeds hended).done⟩
  rcases hfeeds.ofReadings with ⟨reads, hreads⟩
  -- A script of enough delivered readings has those that were fed at its beginning.
  have hscript : ∀ n ≥ reads, ∀ limit > (Scale.delivered n scale).length,
      Run.start? direct limit detector (ScriptedScale.ofReadings (Scale.delivered n scale)) =
        some ⟨r.run, none⟩ := by
    intro n hn limit hlimit
    have hshort : values.length ≤ (Scale.delivered n scale).length := (hreads n hn).1.length_le
    rw [htally.fed]
    exact Run.direct?_eq (ScriptedScale.onlyEnds_ofReadings _) (hreads n hn).2 (by omega)
  refine ⟨?_, ⟨reads, hscript⟩, ?_⟩
  · intro all hall limit hlimit
    rcases hall with ⟨n, -, heq⟩
    have hlong := heq (max n reads) (Nat.le_max_left n reads)
    rw [← hlong] at hlimit ⊢
    exact hscript _ (Nat.le_max_right n reads) limit hlimit
  · intro honly limit hlimit
    rw [htally.fed]
    exact Run.direct?_eq honly hfeeds hlimit

/-- A script with a failed read in its middle: the thread is a reading ahead of the consumer, which
at last finds the channel closed.  The second reading confirms the object, and the third finds it
gone. -/
theorem play_lossless_glitch :
    let params : RunParams := ⟨.event, 150, some 5, none⟩
    let detector : Detector Unit :=
      { Detector.ofParts () 0 ⟨Thresholds.defaultDistance, Thresholds.defaultDistance, 2⟩ with
        record := (Record.empty.setObject 1 ⟨0x42c80000⟩ ⟨0x40a00000⟩).stamp }
    let value : Reading := ⟨0x42c80000⟩
    let scale : ScriptedScale :=
      ⟨[.ok value, .error (.named (.io "glitch")), .ok value, .ok Reading.zero]⟩
    let turns : List Turn :=
      List.replicate 11 .thread ++ [.consumer, .consumer] ++ List.replicate 6 .thread ++
        List.replicate 6 .consumer
    let r := (start params detector scale).play params turns
    r.stage = .ended none ∧
      r.run.events = [⟨0, value, .noChange⟩, ⟨1, value, .object 1⟩, ⟨2, .zero, .noObject⟩] ∧
      r.run.summary = ⟨3, #v[0, 1, 0, 0], 1, 0⟩ ∧ ∀ limit > 3,
        Run.start? { params with mode := .direct } limit detector
          (ScriptedScale.ofReadings [value, value, .zero]) = some ⟨r.run, none⟩ := by
  intro params detector value scale turns r
  have hended : r.stage = .ended none := by decide +kernel
  have hend : Scale.EndsWithin 5 scale :=
    ⟨.error (.named .exhausted), by simp [Scale.answers, Scale.read, scale], rfl⟩
  rcases play_lossless params detector scale turns with ⟨values, -, -, -, hdirect⟩
  refine ⟨hended, ?_, ?_, (hdirect hended).1 _ hend.deliversInAll⟩
  · decide +kernel
  · decide +kernel

end SampledRun

end SmartScale
