import SmartScale.Proofs.Run.Ending
import SmartScale.Proofs.Run.Lossless

/-!
# Asking a sampler to end

The flag may be raised at any moment: before a read, while the thread waits for room in a channel
that is full, or while it sleeps.  From then on nobody takes readings, so the thread must find its
own way out.

Each phase of the loop has a budget (`Phase.readsLeft`, `Phase.readingsLeft`, `Phase.stepsLeft`) of
what a thread that is asked to end still does.  A step never exceeds it (`Step.closesDown`), and
neither does a run of moves (`closesDown_moveAll`).  `Sampler.shutDown_prompt` draws the
consequences for a sampler that has come to be asked in any way.

`Sampler.threadStep` takes a wait for room and the look at the flag after it together.  Between the
two the other party may take a reading and then raise the flag; `Sampler.lookStep` is the thread's
step in that case.
-/

namespace SmartScale

/-! ## What is left to do -/

namespace Phase

/-- Reads that a thread which is asked to end may still make. -/
@[simp]
def readsLeft : Phase → Nat
  | .reading => 1
  | _ => 0

/-- Readings that it may still hand over. -/
@[simp]
def readingsLeft : Phase → Nat
  | .reading | .sending _ => 1
  | _ => 0

/-- Steps after which it is done at the latest. -/
@[simp]
def stepsLeft : Phase → Nat
  | .finished => 0
  | .start | .pausing => 1
  | .stamping | .resting | .sleeping => 2
  | .sending _ => 3
  | .reading => 4

theorem readsLeft_eq (phase : Phase) : phase.readsLeft = if phase = .reading then 1 else 0 := by
  cases phase <;> simp

theorem readsLeft_le (phase : Phase) : phase.readsLeft ≤ 1 := by cases phase <;> simp

theorem readingsLeft_le (phase : Phase) : phase.readingsLeft ≤ 1 := by cases phase <;> simp

theorem stepsLeft_le (phase : Phase) : phase.stepsLeft ≤ 4 := by cases phase <;> simp

theorem stepsLeft_eq_zero {phase : Phase} : phase.stepsLeft = 0 ↔ phase = .finished := by
  cases phase <;> simp

end Phase

/-! ## Interleavings -/

/-- What can happen while nobody takes readings. -/
inductive Move
  /-- The thread takes its next step. -/
  | step
  /-- A wait for room is over and the thread looks at the flag, whether or not there is room now. -/
  | look
  /-- Nobody acts; so many microseconds pass. -/
  | elapse (micros : Nat)
  deriving DecidableEq, Repr

/-- The move is one of the thread. -/
def Move.ofThread : Move → Bool
  | .elapse _ => false
  | _ => true

/-- What can happen while the sampler is in use. -/
inductive Act
  | move (move : Move)
  /-- The other party looks for a reading. -/
  | take
  deriving DecidableEq, Repr

namespace Sampler

variable {τ : Type} [Scale τ]

/-- The thread's step if a wait for room that it began before is over. -/
def lookStep (s : Sampler τ) : Sampler τ :=
  match s.phase with
  | .sending _ => if s.shutdown then { s with phase := .finished } else s
  | _ => s.threadStep

def move (s : Sampler τ) : Move → Sampler τ
  | .step => s.threadStep
  | .look => s.lookStep
  | .elapse micros => s.elapse micros

def act (s : Sampler τ) : Act → Sampler τ
  | .move m => s.move m
  | .take => s.take.2

def moveAll (s : Sampler τ) (moves : List Move) : Sampler τ := moves.foldl move s

def actAll (s : Sampler τ) (acts : List Act) : Sampler τ := acts.foldl act s

/-- The reads among the moves. -/
def readsIn (s : Sampler τ) : List Move → Nat
  | [] => 0
  | m :: rest =>
    (if m.ofThread = true ∧ s.phase = .reading then 1 else 0) + (s.move m).readsIn rest

/-! ## The room in the channel -/

theorem Step.fits {s next : Sampler τ} (h : Step s next)
    (hfits : s.channel.length ≤ channelCapacity) : next.channel.length ≤ channelCapacity := by
  cases h with
  | send hphase hroom =>
      rw [List.length_append]
      exact hroom
  | _ => exact hfits

/-- The thread's look at the flag is a step, or the thread gives its reading up or keeps it. -/
theorem lookStep_cases (s : Sampler τ) :
    Step s s.lookStep ∨ ∃ value, s.phase = .sending value ∧
      s.lookStep = if s.shutdown then { s with phase := .finished } else s := by
  unfold lookStep
  cases s.phase with
  | sending value => exact Or.inr ⟨value, rfl, rfl⟩
  | _ => exact Or.inl s.step_threadStep

theorem move_fits {s : Sampler τ} (h : s.channel.length ≤ channelCapacity) (m : Move) :
    (s.move m).channel.length ≤ channelCapacity := by
  cases m with
  | step => exact s.step_threadStep.fits h
  | elapse micros => exact h
  | look =>
      change s.lookStep.channel.length ≤ channelCapacity
      rcases s.lookStep_cases with hstep | ⟨value, -, hlook⟩
      · exact hstep.fits h
      · rw [hlook]
        split <;> exact h

theorem act_fits {s : Sampler τ} (h : s.channel.length ≤ channelCapacity) (a : Act) :
    (s.act a).channel.length ≤ channelCapacity := by
  cases a with
  | move m => exact move_fits h m
  | take =>
      change s.take.2.channel.length ≤ channelCapacity
      unfold take
      cases hchannel : s.channel with
      | nil => exact h
      | cons value rest =>
          rw [hchannel] at h
          exact Nat.le_of_succ_le h

theorem moveAll_fits {s : Sampler τ} (h : s.channel.length ≤ channelCapacity) (moves : List Move) :
    (s.moveAll moves).channel.length ≤ channelCapacity := by
  induction moves generalizing s with
  | nil => exact h
  | cons m rest ih => exact ih (move_fits h m)

theorem actAll_fits {s : Sampler τ} (h : s.channel.length ≤ channelCapacity) (acts : List Act) :
    (s.actAll acts).channel.length ≤ channelCapacity := by
  induction acts generalizing s with
  | nil => exact h
  | cons a rest ih => exact ih (act_fits h a)

/-! ## Closing down -/

/-- A thread that was asked to end has come so far, with so many reads and steps. -/
structure ClosesDown (asked now : Sampler τ) (reads steps : Nat) : Prop where
  /-- The flag is not taken back. -/
  flag : now.shutdown = true
  /-- The scale has been read so many times. -/
  scale : now.scale = Scale.after reads asked.scale
  reads : reads + now.phase.readsLeft ≤ asked.phase.readsLeft
  /-- What was in the channel is still there, and not more has come than may come. -/
  channel : ∃ late, now.channel = asked.channel ++ late ∧
    late.length + now.phase.readingsLeft ≤ asked.phase.readingsLeft
  steps : now.phase = .finished ∨ steps + now.phase.stepsLeft ≤ asked.phase.stepsLeft

variable {s asked middle now : Sampler τ} {reads steps more moreSteps : Nat}

theorem ClosesDown.refl (hflag : s.shutdown = true) : ClosesDown s s 0 0 where
  flag := hflag
  scale := rfl
  reads := by rw [Nat.zero_add]
  channel := ⟨[], (List.append_nil _).symm, by rw [List.length_nil, Nat.zero_add]⟩
  steps := Or.inr (by rw [Nat.zero_add])

theorem ClosesDown.trans (h : ClosesDown asked middle reads steps)
    (hlater : ClosesDown middle now more moreSteps) :
    ClosesDown asked now (reads + more) (steps + moreSteps) where
  flag := hlater.flag
  scale := by rw [hlater.scale, h.scale, Scale.after_add]
  reads := by
    have hfirst := h.reads
    have hthen := hlater.reads
    omega
  channel := by
    rcases h.channel with ⟨early, hearly, hfirst⟩
    rcases hlater.channel with ⟨late, hlate, hthen⟩
    refine ⟨early ++ late, ?_, ?_⟩
    · rw [hlate, hearly, List.append_assoc]
    · rw [List.length_append]
      omega
  steps := by
    rcases hlater.steps with hdone | hthen
    · exact Or.inl hdone
    rcases h.steps with hdone | hfirst
    · -- a thread that is done has no steps left, so it is still done
      left
      rw [Phase.stepsLeft_eq_zero.mpr hdone] at hthen
      exact Phase.stepsLeft_eq_zero.mp (by omega)
    · exact Or.inr (by omega)

/-- A step that neither reads nor hands over a reading, and leads to a phase in which none is left. -/
theorem closesDown_of_idle (hflag : now.shutdown = true) (hscale : now.scale = s.scale)
    (hchannel : now.channel = s.channel) (hread : s.phase.readsLeft = 0)
    (hidle : now.phase.readsLeft = 0 ∧ now.phase.readingsLeft = 0)
    (hsteps : now.phase = .finished ∨ 1 + now.phase.stepsLeft ≤ s.phase.stepsLeft) :
    ClosesDown s now s.phase.readsLeft 1 where
  flag := hflag
  scale := by
    rw [hread]
    exact hscale
  reads := by rw [hidle.1, Nat.add_zero]
  channel := by
    refine ⟨[], by rw [hchannel, List.append_nil], ?_⟩
    rw [hidle.2]
    exact Nat.zero_le _
  steps := hsteps

/-- No step of a thread that is asked to end exceeds what is left. -/
theorem Step.closesDown (h : Step s now) (hflag : s.shutdown = true) :
    ClosesDown s now s.phase.readsLeft 1 := by
  cases h with
  | begin hphase hclear | sleep hphase hclear | hold hphase hfull hclear =>
      rw [hflag] at hclear
      cases hclear
  | read hphase hread =>
      -- the one read that is left brings a reading, which is then the one left to hand over
      rw [hphase]
      exact ⟨hflag, rfl, by simp [hphase], ⟨[], by simp, by simp [hphase]⟩, by simp [hphase]⟩
  | close hphase hread hend =>
      rw [hphase]
      exact ⟨hflag, rfl, by simp [hphase], ⟨[], by simp, by simp [hphase]⟩, Or.inl rfl⟩
  | skip hphase hread hskip =>
      rw [hphase]
      cases s.period.isSome <;>
        exact ⟨hflag, rfl, by simp [hphase], ⟨[], by simp, by simp [hphase]⟩, by simp [hphase]⟩
  | send hphase hroom =>
      rw [hphase]
      exact ⟨hflag, rfl, by simp, ⟨_, rfl, by simp [hphase]⟩, by simp [hphase]⟩
  | giveUp hphase hfull hasked =>
      exact closesDown_of_idle hflag rfl rfl (by simp [hphase]) ⟨rfl, rfl⟩ (Or.inl rfl)
  | stop hphase hasked =>
      have hread : s.phase.readsLeft = 0 := by rcases hphase with hphase | hphase <;> simp [hphase]
      exact closesDown_of_idle hflag rfl rfl hread ⟨rfl, rfl⟩ (Or.inl rfl)
  | stamp hphase =>
      -- the flag is looked at next, before the sleep or at the top of the loop
      cases s.period.isSome <;>
        exact closesDown_of_idle hflag rfl rfl (by simp [hphase]) ⟨rfl, rfl⟩ (by simp [hphase])
  | rest hphase | wake hphase =>
      exact closesDown_of_idle hflag rfl rfl (by simp [hphase]) ⟨rfl, rfl⟩ (by simp [hphase])
  | done hphase =>
      exact closesDown_of_idle hflag rfl rfl (by simp [hphase]) (by simp [hphase]) (Or.inl hphase)

/-- A thread that stops waiting for room looks at the flag and ends. -/
theorem closesDown_lookStep (hflag : s.shutdown = true) :
    ClosesDown s s.lookStep s.phase.readsLeft 1 := by
  rcases s.lookStep_cases with hstep | ⟨value, hphase, hlook⟩
  · exact hstep.closesDown hflag
  · rw [hlook, if_pos hflag]
    exact closesDown_of_idle hflag rfl rfl (by simp [hphase]) ⟨rfl, rfl⟩ (Or.inl rfl)

theorem closesDown_move (hflag : s.shutdown = true) (m : Move) :
    ClosesDown s (s.move m) (if m.ofThread = true ∧ s.phase = .reading then 1 else 0)
      (if m.ofThread = true then 1 else 0) := by
  cases m with
  | step =>
      have hstep := s.step_threadStep.closesDown hflag
      rw [Phase.readsLeft_eq] at hstep
      simpa [Move.ofThread, move] using hstep
  | look =>
      have hlook := closesDown_lookStep hflag
      rw [Phase.readsLeft_eq] at hlook
      simpa [Move.ofThread, move] using hlook
  | elapse micros =>
      -- time takes nothing from what is left
      have hnothing := ClosesDown.refl hflag
      exact ⟨hflag, rfl, hnothing.reads, hnothing.channel, hnothing.steps⟩

theorem closesDown_moveAll (hflag : s.shutdown = true) (moves : List Move) :
    ClosesDown s (s.moveAll moves) (s.readsIn moves) (moves.countP Move.ofThread) := by
  induction moves generalizing s with
  | nil => exact ClosesDown.refl hflag
  | cons m rest ih =>
      have hfirst := closesDown_move hflag m
      have hlater := hfirst.trans (ih hfirst.flag)
      rw [List.countP_cons, Nat.add_comm]
      exact hlater

/-- Asked to end, a thread that is not done is not held up: whether it tries to hand its reading over
or gives up waiting, it leaves the phase it is in. -/
theorem phase_ne_of_closesDown {reads : Nat} (h : ClosesDown s now reads 1)
    (hlive : s.phase ≠ .finished) : now.phase ≠ s.phase := by
  intro hsame
  rcases h.steps with hdone | hfewer
  · exact hlive (hsame ▸ hdone)
  · rw [hsame] at hfewer
    omega

/-- A sampler is used in any way, then asked to end, and no reading is taken any more.  Whatever the
order of steps, the thread reads the scale at most once more and hands over at most one more reading,
and nothing that was in the channel is lost.  As long as it is not done it can go on, even if the
channel is full, and it is done after four steps at the latest. -/
theorem shutDown_prompt (scale : τ) (period : Option Nat) (time : TimeSource) (acts : List Act)
    (moves : List Move) :
    let asked := ((ofScale scale period time).actAll acts).shutDown
    let now := asked.moveAll moves
    now.channel.length ≤ channelCapacity ∧
    asked.readsIn moves ≤ 1 ∧ now.scale = Scale.after (asked.readsIn moves) asked.scale ∧
    (∃ late, late.length ≤ 1 ∧ now.channel = asked.channel ++ late) ∧
    (now.phase = .finished ∨
      now.threadStep.phase ≠ now.phase ∧ now.lookStep.phase ≠ now.phase) ∧
    (now.phase = .finished ∨ moves.countP Move.ofThread < 4) := by
  intro asked now
  have hfits : asked.channel.length ≤ channelCapacity :=
    actAll_fits (s := ofScale scale period time) (Nat.zero_le _) acts
  have hnow : ClosesDown asked now (asked.readsIn moves) (moves.countP Move.ofThread) :=
    closesDown_moveAll rfl moves
  refine ⟨moveAll_fits hfits moves, ?_, hnow.scale, ?_, ?_, ?_⟩
  · calc asked.readsIn moves
        ≤ asked.readsIn moves + now.phase.readsLeft := Nat.le_add_right _ _
      _ ≤ asked.phase.readsLeft := hnow.reads
      _ ≤ 1 := asked.phase.readsLeft_le
  · rcases hnow.channel with ⟨late, hlate, hfew⟩
    refine ⟨late, ?_, hlate⟩
    calc late.length
        ≤ late.length + now.phase.readingsLeft := Nat.le_add_right _ _
      _ ≤ asked.phase.readingsLeft := hfew
      _ ≤ 1 := asked.phase.readingsLeft_le
  · by_cases hdone : now.phase = .finished
    · exact Or.inl hdone
    · exact Or.inr ⟨phase_ne_of_closesDown (now.step_threadStep.closesDown hnow.flag) hdone,
        phase_ne_of_closesDown (closesDown_lookStep hnow.flag) hdone⟩
  · by_cases hdone : now.phase = .finished
    · exact Or.inl hdone
    · right
      have hsome : now.phase.stepsLeft ≠ 0 := fun h => hdone (Phase.stepsLeft_eq_zero.mp h)
      have hbudget := hnow.steps.resolve_left hdone
      have hmost := asked.phase.stepsLeft_le
      omega

/-- The channel is full and the thread holds a further reading: a single step ends it. -/
example :
    let s := (eventDriven (SimulatedScale.ofList [⟨0x42c80000⟩] true) .passing).moveAll
      (List.replicate 258 .step)
    s.channel.length = channelCapacity ∧ s.threadStep.phase = s.phase ∧
      s.shutDown.threadStep.phase = .finished := by
  decide +kernel

end Sampler

end SmartScale
