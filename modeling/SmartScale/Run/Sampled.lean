import SmartScale.Run.Basic
import SmartScale.Sampling.Sampler

/-!
# Runs over a sampling thread

A sampled run takes its readings from a sampler.  Two parties act in turns: the thread, and the
consumer that checks whether to stop, waits for a reading, and feeds it; time passes between their
turns.  `SampledRun.play` lets them act in any given order of turns.

The consumer keeps a watchdog: when a wait brings nothing and the sensor has been silent for longer
than the stall threshold, the run fails.

`SampledRun.nextTurns` is the order of turns in which neither party waits longer than it has to: a
step that is possible is taken at once, the consumer's before the thread's, and while both wait the
time moves on to the end of the thread's sleep.  A look at the watchdog that does not make the run
fail changes nothing, so the consumer looks only when it would.
-/

namespace SmartScale

/-- Where the consumer stands. -/
inductive Stage
  /-- About to look whether to stop. -/
  | checking
  /-- Waiting for a reading. -/
  | waiting
  /-- Ended, without or with a failure. -/
  | ended (failure : Option Report)
  deriving DecidableEq, Repr

structure SampledRun (σ τ : Type) where
  run : Run σ
  sampler : Sampler τ
  stage : Stage

/-- Who acts next. -/
inductive Turn
  | thread
  | consumer
  /-- Nobody; so many microseconds pass. -/
  | time (micros : Nat)
  deriving DecidableEq, Repr

namespace RunParams

/-- The sensor's timeout as the watchdog counts it. -/
def watchMillis (p : RunParams) : Nat := max p.sensorMillis 1

/-- The time between two readings as the watchdog counts it. -/
def readingMillis (p : RunParams) : Nat :=
  match p.mode with
  | .paced rate => periodMillis rate
  | _ => p.watchMillis

/-- The silence that the watchdog allows. -/
def stallMillis (p : RunParams) : Nat := stallThreshold p.watchMillis p.readingMillis

end RunParams

namespace SampledRun

variable {σ τ : Type}

def start (params : RunParams) (detector : Detector σ) (scale : τ) : SampledRun σ τ :=
  let sampler := match params.mode with
    | .paced rate => Sampler.paced scale rate .passing
    | _ => Sampler.eventDriven scale .passing
  ⟨Run.start detector, sampler, .checking⟩

/-- The run ends and asks its thread to end. -/
def finish (r : SampledRun σ τ) (failure : Option Report) : SampledRun σ τ :=
  { r with sampler := r.sampler.shutDown, stage := .ended failure }

/-- The failure of a run of which the sensor has been silent for too long. -/
def stallReport (millis : Nat) : Report :=
  (Report.ofCause (.detector .timeout)).within ("no reading for " ++ toString millis ++ " ms")

def consumerStep (params : RunParams) (r : SampledRun σ τ) : SampledRun σ τ :=
  match r.stage with
  | .checking =>
    if Run.shouldStop params r.run.summary then r.finish none else { r with stage := .waiting }
  | .waiting =>
    match r.sampler.take with
    | (.value value, sampler) => ⟨r.run.feed value, sampler, .checking⟩
    | (.closed, _) => r.finish none
    | (.pending, _) =>
      if params.stallMillis < r.sampler.stalledFor then
        r.finish (some (stallReport r.sampler.stalledFor))
      else { r with stage := .checking }
  | .ended _ => r

variable [Scale τ]

def turn (params : RunParams) (r : SampledRun σ τ) : Turn → SampledRun σ τ
  | .thread => { r with sampler := r.sampler.threadStep }
  | .consumer => r.consumerStep params
  | .time micros => { r with sampler := r.sampler.elapse micros }

def play (params : RunParams) (r : SampledRun σ τ) (turns : List Turn) : SampledRun σ τ :=
  turns.foldl (turn params) r

/-! ## The prompt order of turns -/

/-- The time that the thread's next sleep takes. -/
def sleepMicros (s : Sampler τ) : Nat := s.period.getD restMicros

/-- The consumer has something to do: it is not waiting, or its wait is over. -/
def consumerReady (params : RunParams) (r : SampledRun σ τ) : Bool :=
  r.stage != .waiting || !r.sampler.channel.isEmpty || r.sampler.isFinished ||
    decide (params.stallMillis < r.sampler.stalledFor)

/-- The turns that come next. -/
def nextTurns (params : RunParams) (r : SampledRun σ τ) : List Turn :=
  if r.consumerReady params then [.consumer]
  else
    match r.sampler.phase with
    | .sleeping | .resting => [.time (sleepMicros r.sampler), .thread]
    | _ => [.thread]

/-- Plays in the prompt order until the run has ended, for at most `limit` rounds. -/
def playPromptly? (params : RunParams) : Nat → SampledRun σ τ → Option (Finished σ)
  | 0, _ => none
  | limit + 1, r =>
    match r.stage with
    | .ended failure => some ⟨r.run, failure⟩
    | _ => playPromptly? params limit (r.play params (r.nextTurns params))

/-- A sampled run in the prompt order. -/
def prompt? (params : RunParams) (limit : Nat) (detector : Detector σ) (scale : τ) :
    Option (Finished σ) :=
  playPromptly? params limit (start params detector scale)

end SampledRun

end SmartScale
