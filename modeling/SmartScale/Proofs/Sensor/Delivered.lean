import SmartScale.Sensor

/-!
# What a scale delivers

A scale answers one read after the other, with readings and with errors, for ever if need be.  What
it *delivers* are the readings before the first answer that ends the stream; errors of other kinds
are passed over.  `Scale.delivered n` is what the first `n` reads deliver, so a scale that never ends
is described by the initial parts of what it delivers.
-/

namespace SmartScale

namespace Scale

variable {τ : Type} [Scale τ]

/-- The answer ends the stream. -/
def endsStream : Except DeviceError Reading → Bool
  | .ok _ => false
  | .error e => DetectorError.ofDevice e == .endOfStream

/-- The answers to the first reads. -/
def answers : Nat → τ → List (Except DeviceError Reading)
  | 0, _ => []
  | n + 1, scale => (Scale.read scale).1 :: answers n (Scale.read scale).2

/-- The readings among the first answers that come before the end of the stream. -/
def delivered (n : Nat) (scale : τ) : List Reading :=
  ((answers n scale).takeWhile fun answer => !endsStream answer).filterMap Except.toOption

/-- One of the first reads meets the end of the stream. -/
def EndsWithin (n : Nat) (scale : τ) : Prop := ∃ answer ∈ answers n scale, endsStream answer = true

/-- The readings are the first ones that the scale delivers. -/
def Delivers (scale : τ) (readings : List Reading) : Prop := ∃ n, readings <+: delivered n scale

/-- The readings are all that the scale ever delivers before its stream ends. -/
def DeliversInAll (scale : τ) (readings : List Reading) : Prop :=
  ∃ n, EndsWithin n scale ∧ ∀ m ≥ n, delivered m scale = readings

/-- No read fails but at the end of the stream. -/
def OnlyEnds (scale : τ) : Prop :=
  ∀ n, ∀ answer ∈ answers n scale, endsStream answer = true ∨ ∃ value, answer = .ok value

/-! ## One read more -/

section Read

variable {scale : τ} {n : Nat} {value : Reading} {e : DeviceError}

@[simp]
theorem delivered_zero : delivered 0 scale = [] := rfl

theorem not_endsWithin_zero : ¬ EndsWithin 0 scale := by
  rintro ⟨answer, hmem, -⟩
  cases hmem

theorem delivered_ok (h : (Scale.read scale).1 = .ok value) :
    delivered (n + 1) scale = value :: delivered n (Scale.read scale).2 := by
  simp [delivered, answers, h, endsStream, Except.toOption]

theorem delivered_end (h : (Scale.read scale).1 = .error e)
    (hend : DetectorError.ofDevice e = .endOfStream) : delivered (n + 1) scale = [] := by
  simp [delivered, answers, h, endsStream, hend]

theorem delivered_skip (h : (Scale.read scale).1 = .error e)
    (hskip : DetectorError.ofDevice e ≠ .endOfStream) :
    delivered (n + 1) scale = delivered n (Scale.read scale).2 := by
  have hends : endsStream (.error e) = false := by simpa [endsStream] using hskip
  rw [delivered, answers, h, List.takeWhile_cons_of_pos (by simp [hends])]
  rfl

theorem endsWithin_succ : EndsWithin (n + 1) scale ↔
    endsStream (Scale.read scale).1 = true ∨ EndsWithin n (Scale.read scale).2 := by
  simp [EndsWithin, answers]

theorem OnlyEnds.next (h : OnlyEnds scale) : OnlyEnds (Scale.read scale).2 := by
  intro n answer hmem
  exact h (n + 1) answer (List.mem_cons_of_mem _ hmem)

theorem OnlyEnds.of_error (h : OnlyEnds scale) (hread : (Scale.read scale).1 = .error e) :
    DetectorError.ofDevice e = .endOfStream := by
  rcases h 1 _ (List.mem_cons_self ..) with hend | ⟨value, hok⟩
  · simpa [hread, endsStream] using hend
  · rw [hread] at hok
    cases hok

end Read

/-! ## More reads -/

/-- Further reads only add to what is delivered. -/
theorem delivered_prefix {m n : Nat} (h : m ≤ n) (scale : τ) :
    delivered m scale <+: delivered n scale := by
  induction m generalizing n scale with
  | zero => exact List.nil_prefix
  | succ m ih =>
      obtain ⟨n, rfl⟩ : ∃ k, n = k + 1 := ⟨n - 1, by omega⟩
      cases hread : (Scale.read scale).1 with
      | ok value =>
          rw [delivered_ok hread, delivered_ok hread]
          exact (List.prefix_cons_inj _).mpr (ih (by omega) _)
      | error e =>
          by_cases hend : DetectorError.ofDevice e = .endOfStream
          · rw [delivered_end hread hend]
            exact List.nil_prefix
          · rw [delivered_skip hread hend, delivered_skip hread hend]
            exact ih (by omega) _

/-- After the end of the stream nothing is added. -/
theorem delivered_eq_of_endsWithin {m n : Nat} {scale : τ} (hend : EndsWithin m scale)
    (h : m ≤ n) : delivered n scale = delivered m scale := by
  induction m generalizing n scale with
  | zero => exact absurd hend not_endsWithin_zero
  | succ m ih =>
      obtain ⟨n, rfl⟩ : ∃ k, n = k + 1 := ⟨n - 1, by omega⟩
      rw [endsWithin_succ] at hend
      cases hread : (Scale.read scale).1 with
      | ok value =>
          have hlater := hend.resolve_left (by simp [hread, endsStream])
          rw [delivered_ok hread, delivered_ok hread, ih hlater (by omega)]
      | error e =>
          by_cases hnow : DetectorError.ofDevice e = .endOfStream
          · rw [delivered_end hread hnow, delivered_end hread hnow]
          · have hlater := hend.resolve_left (by simp [hread, endsStream, hnow])
            rw [delivered_skip hread hnow, delivered_skip hread hnow, ih hlater (by omega)]

theorem EndsWithin.deliversInAll {n : Nat} {scale : τ} (h : EndsWithin n scale) :
    DeliversInAll scale (delivered n scale) :=
  ⟨n, h, fun _ hm => delivered_eq_of_endsWithin h hm⟩

/-! ## From the first read on -/

section First

variable {scale : τ} {value first : Reading} {rest readings : List Reading} {e : DeviceError}

theorem DeliversInAll.delivers (h : DeliversInAll scale readings) : Delivers scale readings := by
  rcases h with ⟨n, -, hall⟩
  exact ⟨n, (hall n (Nat.le_refl n)).symm ▸ List.prefix_refl _⟩

theorem Delivers.cons_of_ok (h : Delivers scale (first :: rest))
    (hread : (Scale.read scale).1 = .ok value) :
    first = value ∧ Delivers (Scale.read scale).2 rest := by
  rcases h with ⟨n, hpre⟩
  cases n with
  | zero => exact absurd (List.prefix_nil.mp hpre) (List.cons_ne_nil _ _)
  | succ n =>
      rw [delivered_ok hread, List.cons_prefix_cons] at hpre
      exact ⟨hpre.1, n, hpre.2⟩

theorem Delivers.not_end (h : Delivers scale (first :: rest))
    (hread : (Scale.read scale).1 = .error e) : DetectorError.ofDevice e ≠ .endOfStream := by
  intro hend
  rcases h with ⟨n, hpre⟩
  cases n with
  | zero => exact absurd (List.prefix_nil.mp hpre) (List.cons_ne_nil _ _)
  | succ n =>
      rw [delivered_end hread hend] at hpre
      exact absurd (List.prefix_nil.mp hpre) (List.cons_ne_nil _ _)

theorem DeliversInAll.of_ok (h : DeliversInAll scale readings)
    (hread : (Scale.read scale).1 = .ok value) :
    ∃ rest, readings = value :: rest ∧ DeliversInAll (Scale.read scale).2 rest := by
  rcases h with ⟨n, hend, hall⟩
  cases n with
  | zero => exact absurd hend not_endsWithin_zero
  | succ n =>
      have hlater : EndsWithin n (Scale.read scale).2 :=
        (endsWithin_succ.mp hend).resolve_left (by simp [hread, endsStream])
      refine ⟨delivered n (Scale.read scale).2, ?_, hlater.deliversInAll⟩
      rw [← hall (n + 1) (Nat.le_refl _), delivered_ok hread]

end First

end Scale

/-! ## Scripts without failures -/

namespace ScriptedScale

/-- A script of readings alone. -/
def ofReadings (readings : List Reading) : ScriptedScale := ⟨readings.map .ok⟩

theorem read_ofReadings_cons (value : Reading) (rest : List Reading) :
    Scale.read (ofReadings (value :: rest)) = (.ok value, ofReadings rest) := rfl

theorem onlyEnds_ofReadings (readings : List Reading) : Scale.OnlyEnds (ofReadings readings) := by
  intro n
  induction n generalizing readings with
  | zero => intro answer hmem; cases hmem
  | succ n ih =>
      intro answer hmem
      cases readings with
      | nil =>
          rcases List.mem_cons.mp hmem with rfl | hmem
          · exact Or.inl rfl
          · exact ih [] answer hmem
      | cons value rest =>
          rcases List.mem_cons.mp hmem with rfl | hmem
          · exact Or.inr ⟨value, rfl⟩
          · exact ih rest answer hmem

theorem delivered_ofReadings (readings : List Reading) (n : Nat) :
    Scale.delivered n (ofReadings readings) = readings.take n := by
  induction n generalizing readings with
  | zero => rfl
  | succ n ih =>
      cases readings with
      | nil => rfl
      | cons value rest =>
          have hread : (Scale.read (ofReadings (value :: rest))).1 = .ok value := rfl
          rw [Scale.delivered_ok hread, read_ofReadings_cons, ih, List.take_succ_cons]

theorem endsWithin_ofReadings (readings : List Reading) :
    Scale.EndsWithin (readings.length + 1) (ofReadings readings) := by
  induction readings with
  | nil => exact Scale.endsWithin_succ.mpr (Or.inl rfl)
  | cons value rest ih => exact Scale.endsWithin_succ.mpr (Or.inr ih)

end ScriptedScale

/-! ## Replay without looping -/

namespace SimulatedScale

theorem read_eq (s : SimulatedScale) : Scale.read s = (s.next.1.mapError .named, s.next.2) := rfl

theorem read_of_queue_nil {s : SimulatedScale} (h : s.queue = []) :
    Scale.read s = (.error (.named .exhausted), s) := by
  rw [read_eq, next, h]
  rfl

theorem read_of_queue_cons {s : SimulatedScale} {value : Reading} {rest : List Reading}
    (h : s.queue = value :: rest) :
    Scale.read s = (.ok value, { s with pending := rest, reads := s.reads + 1 }) := by
  rw [read_eq, next, h]
  rfl

/-- A script that does not start again is queued once. -/
theorem queue_of_not_looping {s : SimulatedScale} (h : s.looping = false) :
    s.queue = s.pending := by
  simp [queue, h]

/-- A replay that does not start again answers as a script of what is pending does. -/
theorem answers_eq {s : SimulatedScale} (hlooping : s.looping = false) (n : Nat) :
    Scale.answers n s = Scale.answers n (ScriptedScale.ofReadings s.pending) := by
  induction n generalizing s with
  | zero => rfl
  | succ n ih =>
      have hqueue := queue_of_not_looping hlooping
      cases hpending : s.pending with
      | nil =>
          have hlater := ih hlooping
          rw [hpending] at hlater
          rw [Scale.answers, Scale.answers, read_of_queue_nil (hqueue.trans hpending), hlater]
          rfl
      | cons value rest =>
          have hlater : Scale.answers n { s with pending := rest, reads := s.reads + 1 } =
              Scale.answers n (ScriptedScale.ofReadings rest) := ih hlooping
          rw [Scale.answers, Scale.answers, read_of_queue_cons (hqueue.trans hpending), hlater]
          rfl

variable (readings : List Reading)

theorem onlyEnds_ofList : Scale.OnlyEnds (ofList readings false) := by
  intro n answer hmem
  rw [answers_eq rfl] at hmem
  exact ScriptedScale.onlyEnds_ofReadings readings n answer hmem

theorem endsWithin_ofList : Scale.EndsWithin (readings.length + 1) (ofList readings false) := by
  rw [Scale.EndsWithin, answers_eq rfl]
  exact ScriptedScale.endsWithin_ofReadings readings

theorem delivered_ofList (n : Nat) :
    Scale.delivered n (ofList readings false) = readings.take n := by
  rw [Scale.delivered, answers_eq rfl]
  exact ScriptedScale.delivered_ofReadings readings n

end SimulatedScale

end SmartScale
