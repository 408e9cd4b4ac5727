import SmartScale.Proofs.Run.Account
import SmartScale.Proofs.Run.Prompt

/-!
# Transcripts of runs

A transcript lists the readings that a run is fed with what is said about each, and counts them.  It
is made from the readings alone, with thresholds and a record (`Transcript.ofReadings`): there is no
run in it, no mode, and no thread.

What a sampled run was fed can be told from its events at any moment (`SampledRun.events_play`).

Over a list of readings every run comes to the transcript of the first of them, as many as it may
take: a run in the order that it is carried out in (`Run.start?_ofList`), and a sampled run in any
order of turns that ends well (`SampledRun.play_ofList`).
-/

namespace SmartScale

/-- What is said about readings, one after the other. -/
def Debounce.outcomes (t : Thresholds) (record : Record) (state : Debounce) :
    List Reading → List Outcome
  | [] => []
  | value :: rest =>
    (state.step t record value).1 :: outcomes t record (state.step t record value).2 rest

/-- The events of a run and its summary. -/
structure Transcript where
  events : List Event
  summary : Summary
  deriving DecidableEq

namespace Transcript

/-- How often each thing was said. -/
def tally (outcomes : List Outcome) : Summary where
  samples := outcomes.length
  confirmations := Vector.ofFn fun slot => outcomes.count (.object slot)
  noObject := outcomes.count .noObject
  noMatch := outcomes.count .noMatch

/-- The readings are numbered from zero, whatever is said about them. -/
def ofReadings (t : Thresholds) (record : Record) (values : List Reading) : Transcript :=
  let outcomes := Debounce.initial.outcomes t record values
  ⟨(values.zip outcomes).mapIdx fun i entry => ⟨i, entry.1, entry.2⟩, tally outcomes⟩

end Transcript

/-- The readings that a run may take under a cap, if it is not asked to end. -/
def Run.admitted (maxSamples : Option Nat) (values : List Reading) : List Reading :=
  match maxSamples with
  | some n => values.take n
  | none => values

/-! ## What is said -/

namespace Debounce

variable {t : Thresholds} {record : Record}

@[simp]
theorem length_outcomes (state : Debounce) (values : List Reading) :
    (state.outcomes t record values).length = values.length := by
  induction values generalizing state with
  | nil => rfl
  | cons value rest ih => exact congrArg (· + 1) (ih _)

/-- Without a valid record nothing is ever reported. -/
theorem outcomes_of_not_isValid (h : record.isValid = false) (state : Debounce)
    (values : List Reading) :
    state.outcomes t record values = List.replicate values.length .noChange := by
  induction values with
  | nil => rfl
  | cons value rest ih =>
      have hstep : state.step t record value = (.noChange, state) := by simp [step, h]
      rw [outcomes, hstep, ih]
      rfl

end Debounce

namespace Run

variable {σ : Type}

/-- Feeding goes on with the numbers, and says what the debounce says. -/
theorem events_foldl_feed_eq (values : List Reading) (run : Run σ) :
    (values.foldl feed run).events = run.events ++
      (values.zip (run.detector.debounce.outcomes run.detector.thresholds run.detector.record
        values)).mapIdx fun i entry => ⟨run.summary.samples + i, entry.1, entry.2⟩ := by
  induction values generalizing run with
  | nil => simp [Debounce.outcomes]
  | cons value rest ih =>
      have hnumber : ∀ i, (run.feed value).summary.samples + i = run.summary.samples + (i + 1) := by
        intro i
        rw [feed_samples]
        omega
      rw [List.foldl_cons, ih (run.feed value), feed_events, List.append_assoc, Debounce.outcomes,
        List.zip_cons_cons, List.mapIdx_cons]
      simp only [hnumber]
      rfl

/-- The account of a run from the start is the transcript of what it was fed. -/
theorem transcript_foldl_feed {detector : Detector σ} (hstart : detector.debounce = .initial)
    (values : List Reading) :
    (⟨(values.foldl feed (start detector)).events, (values.foldl feed (start detector)).summary⟩ :
      Transcript) = .ofReadings detector.thresholds detector.record values := by
  let outcomes := Debounce.initial.outcomes detector.thresholds detector.record values
  let run := values.foldl feed (start detector)
  have hlength : outcomes.length = values.length := Debounce.length_outcomes _ _
  have hevents : run.events = (values.zip outcomes).mapIdx fun i entry => ⟨i, entry.1, entry.2⟩ := by
    have hfed := events_foldl_feed_eq values (start detector)
    simp only [start, Summary.empty, hstart, Nat.zero_add, List.nil_append] at hfed
    exact hfed
  have hsaid : run.events.map Event.outcome = outcomes := by
    rw [hevents]
    apply List.ext_getElem
    · simp [hlength]
    · intro i _ _
      simp
  have hcounted : ∀ outcome, run.said outcome = outcomes.count outcome := by
    intro outcome
    rw [said, hsaid]
  have hbalanced : run.Balanced := balanced_foldl_feed values (balanced_start detector)
  -- the summary counts the events, and these say what the debounce says
  have hsummary : run.summary = Transcript.tally outcomes := by
    have hsamples : run.summary.samples = outcomes.length := by
      rw [hbalanced.samples, ← hsaid, List.length_map]
    have hconfirmations : run.summary.confirmations =
        Vector.ofFn fun slot => outcomes.count (.object slot) := by
      apply Vector.ext
      intro slot hslot
      rw [hbalanced.confirmations slot hslot, hcounted, Vector.getElem_ofFn]
    cases hcounts : run.summary with
    | mk samples confirmations noObject noMatch =>
        have hnoObject := hbalanced.noObject
        have hnoMatch := hbalanced.noMatch
        rw [hcounts] at hsamples hconfirmations hnoObject hnoMatch
        rw [Transcript.tally, ← hcounted, ← hcounted, ← hnoObject, ← hnoMatch, ← hsamples,
          ← hconfirmations]
  change Transcript.mk run.events run.summary = _
  rw [hevents, hsummary]
  rfl

end Run

/-! ## What a sampled run was fed -/

/-- After any turns of a sampled run its events are about what the scale delivered first: they are
numbered from zero, the event with a number is about the reading with this number, and it says what
the detector says about this reading after the ones before it. -/
theorem SampledRun.events_play {σ τ : Type} [Scale τ] (params : RunParams) (detector : Detector σ)
    (scale : τ) (turns : List Turn) :
    let r := (start params detector scale).play params turns
    ∃ values : List Reading, Scale.Delivers scale values ∧
      r.run = values.foldl Run.feed (Run.start detector) ∧
      r.run.events.length = values.length ∧
      ∀ i (_ : i < values.length), r.run.events[i]? =
        some ⟨i, values[i], ((detector.processAll (values.take i)).process values[i]).1⟩ := by
  intro r
  rcases tally_play params detector scale turns with ⟨values, htally⟩
  have hfed : r.run = values.foldl Run.feed (Run.start detector) := htally.fed
  refine ⟨values, htally.delivers, hfed, ?_⟩
  rw [hfed]
  exact Run.events_foldl_feed detector values

/-! ## Runs over a list of readings -/

/-- A run that is not asked to end takes the readings one after the other, up to its cap. -/
theorem Run.feeds_admitted {params : RunParams} (hasked : params.shutdownAfter = none)
    (values : List Reading) :
    Run.Feeds params 0 (SimulatedScale.ofList values false)
      (Run.admitted params.maxSamples values) := by
  have hall : Scale.DeliversInAll (SimulatedScale.ofList values false) values := by
    have hends := (SimulatedScale.endsWithin_ofList values).deliversInAll
    rwa [SimulatedScale.delivered_ofList, List.take_of_length_le (Nat.le_succ _)] at hends
  unfold admitted
  cases hcap : params.maxSamples with
  | none =>
      exact ⟨by simp [RunParams.stopsAt, hasked, hcap], .inr hall⟩
  | some n =>
      constructor
      · intro count _ hcount
        have hlow : count < n := by
          rw [Nat.zero_add, List.length_take] at hcount
          omega
        simp [RunParams.stopsAt, hasked, hcap, hlow]
      · rcases Nat.le_total n values.length with hle | hle
        · -- the cap is reached, and perhaps the end of the list as well
          left
          refine ⟨by simp [RunParams.stopsAt, hcap, hle], n, ?_⟩
          simpa only [SimulatedScale.delivered_ofList] using List.prefix_refl (values.take n)
        · have htake : values.take n = values := List.take_of_length_le hle
          right
          dsimp only
          rw [htake]
          exact hall

theorem Run.length_admitted_le (maxSamples : Option Nat) (values : List Reading) :
    (Run.admitted maxSamples values).length ≤ values.length := by
  unfold admitted
  cases maxSamples with
  | none => exact Nat.le_refl _
  | some n => exact List.length_take_le' n values

section List

variable {σ : Type} {params : RunParams}

/-- A run over a list of readings ends well and has been fed the first of them, in every mode. -/
theorem Run.start?_ofList (hasked : params.shutdownAfter = none) (detector : Detector σ)
    (values : List Reading) :
    Run.start? params (Run.workFor values.length) detector (SimulatedScale.ofList values false) =
      some ⟨(Run.admitted params.maxSamples values).foldl Run.feed (Run.start detector), none⟩ := by
  have honly := SimulatedScale.onlyEnds_ofList values
  have hends := SimulatedScale.endsWithin_ofList values
  have hfeeds := Run.feeds_admitted hasked values
  have hfew := Run.length_admitted_le params.maxSamples values
  have hdirect : (Run.admitted params.maxSamples values).length < Run.workFor values.length := by
    rw [Run.workFor]
    omega
  have hprompt : 8 * (values.length + 1) + 4 < Run.workFor values.length := by
    rw [Run.workFor]
    omega
  unfold Run.start?
  cases params.mode with
  | direct => exact Run.direct?_eq honly hfeeds hdirect
  | _ => exact SampledRun.prompt?_eq params detector honly hends hfeeds hprompt

/-- So has a sampled run that ends well, in whatever order its turns were taken. -/
theorem SampledRun.play_ofList (hasked : params.shutdownAfter = none) {detector : Detector σ}
    {values : List Reading} {turns : List Turn}
    (hended : ((start params detector (SimulatedScale.ofList values false)).play params
      turns).stage = .ended none) :
    ((start params detector (SimulatedScale.ofList values false)).play params turns).run =
      (Run.admitted params.maxSamples values).foldl Run.feed (Run.start detector) :=
  play_eq (SimulatedScale.onlyEnds_ofList values) (Run.feeds_admitted hasked values) hended

end List

end SmartScale
