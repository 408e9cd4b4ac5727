import SmartScale.Proofs.Sensor.Delivered
import SmartScale.Run.Runner

/-!
# What a direct run comes to

A direct run over a scale of which no read fails but at the end of the stream feeds readings as they
are delivered, up to the first count at which it has to stop, or all of them.  `Run.direct?_eq` says
so for any such scale, hence also for a script of readings alone.
-/

namespace SmartScale

/-- The run has to end once it has fed so many readings. -/
def RunParams.stopsAt (params : RunParams) (count : Nat) : Bool :=
  params.shutdownAfter.any (fun n => n ≤ count) || params.maxSamples.any (fun n => n ≤ count)

namespace Run

variable {σ τ : Type} {params : RunParams} {run : Run σ}

theorem shouldStop_eq (params : RunParams) (summary : Summary) :
    shouldStop params summary = params.stopsAt summary.samples := rfl

/-! ## Feeding -/

@[simp]
theorem feed_samples (run : Run σ) (value : Reading) :
    (run.feed value).summary.samples = run.summary.samples + 1 := by
  change (run.summary.count (run.detector.process value).1).samples = _
  unfold Summary.count
  cases (run.detector.process value).1 <;> rfl

@[simp]
theorem foldl_feed_samples (values : List Reading) (run : Run σ) :
    (values.foldl feed run).summary.samples = run.summary.samples + values.length := by
  induction values generalizing run with
  | nil => rfl
  | cons value rest ih =>
      rw [List.foldl_cons, ih, feed_samples, List.length_cons]
      omega

/-- The readings are what a run may have fed by the time it ends: it did not have to stop before
the last of them, and now it has to stop or there are no more. -/
structure Feeds [Scale τ] (params : RunParams) (fed : Nat) (scale : τ) (values : List Reading) :
    Prop where
  /-- The run did not have to stop earlier. -/
  going : ∀ count, fed ≤ count → count < fed + values.length → params.stopsAt count = false
  /-- The run has to stop, or the stream has ended. -/
  done : (params.stopsAt (fed + values.length) = true ∧ Scale.Delivers scale values) ∨
    Scale.DeliversInAll scale values

theorem Feeds.delivers [Scale τ] {fed : Nat} {scale : τ} {values : List Reading}
    (h : Feeds params fed scale values) : Scale.Delivers scale values := by
  rcases h.done with ⟨-, hdelivers⟩ | hall
  · exact hdelivers
  · exact hall.delivers

/-- Feeding the first of the readings leaves the others to be fed. -/
theorem Feeds.tail [Scale τ] {fed : Nat} {scale : τ} {value : Reading} {rest : List Reading}
    (h : Feeds params fed scale (value :: rest)) (hread : (Scale.read scale).1 = .ok value) :
    Feeds params (fed + 1) (Scale.read scale).2 rest := by
  refine ⟨fun count hlow hhigh => h.going count (by omega) ?_, ?_⟩
  · rw [List.length_cons]
    omega
  · rcases h.done with ⟨hstop, hdelivers⟩ | hall
    · refine Or.inl ⟨?_, (hdelivers.cons_of_ok hread).2⟩
      rwa [List.length_cons, ← Nat.add_assoc, Nat.add_right_comm] at hstop
    · rcases hall.of_ok hread with ⟨others, heq, hothers⟩
      cases heq
      exact Or.inr hothers

/-- Over a sufficiently long script of what the scale delivers the same readings may be fed. -/
theorem Feeds.ofReadings [Scale τ] {fed : Nat} {scale : τ} {values : List Reading}
    (h : Feeds params fed scale values) :
    ∃ reads, ∀ n ≥ reads, values <+: Scale.delivered n scale ∧
      Feeds params fed (ScriptedScale.ofReadings (Scale.delivered n scale)) values := by
  rcases h.done with ⟨hstop, reads, hpre⟩ | ⟨reads, -, hall⟩
  · refine ⟨reads, fun n hn => ?_⟩
    have hlong : values <+: Scale.delivered n scale :=
      hpre.trans (Scale.delivered_prefix hn scale)
    refine ⟨hlong, h.going, Or.inl ⟨hstop, (Scale.delivered n scale).length, ?_⟩⟩
    rwa [ScriptedScale.delivered_ofReadings, List.take_length]
  · refine ⟨reads, fun n hn => ?_⟩
    rw [hall n hn]
    refine ⟨List.prefix_refl _, h.going, Or.inr ?_⟩
    have hscript := (ScriptedScale.endsWithin_ofReadings values).deliversInAll
    rwa [ScriptedScale.delivered_ofReadings, List.take_of_length_le (Nat.le_succ _)] at hscript

/-! ## Direct runs -/

variable [Scale τ]

theorem direct?_stop (h : params.stopsAt run.summary.samples = true) (limit : Nat) (scale : τ) :
    direct? params limit run scale = some ⟨run, none⟩ := by
  unfold direct?
  rw [shouldStop_eq, if_pos h]

theorem direct?_ok {limit : Nat} {scale : τ} {value : Reading}
    (hgoing : params.stopsAt run.summary.samples = false)
    (h : (Scale.read scale).1 = .ok value) :
    direct? params (limit + 1) run scale =
      direct? params limit (run.feed value) (Scale.read scale).2 := by
  rcases hread : Scale.read scale with ⟨answer, next⟩
  rw [hread] at h
  cases h
  rw [direct?, shouldStop_eq, hgoing, hread]
  rfl

theorem direct?_end {limit : Nat} {scale : τ} {e : DeviceError}
    (hgoing : params.stopsAt run.summary.samples = false)
    (h : (Scale.read scale).1 = .error e) (hend : DetectorError.ofDevice e = .endOfStream) :
    direct? params (limit + 1) run scale = some ⟨run, none⟩ := by
  rcases hread : Scale.read scale with ⟨answer, next⟩
  rw [hread] at h
  cases h
  rw [direct?, shouldStop_eq, hgoing, hread]
  simp [hend]

/-- A direct run over a scale that fails only at its end feeds what it may feed and ends well. -/
theorem direct?_eq {scale : τ} {values : List Reading} {limit : Nat} (honly : Scale.OnlyEnds scale)
    (h : Feeds params run.summary.samples scale values) (hlimit : values.length < limit) :
    direct? params limit run scale = some ⟨values.foldl feed run, none⟩ := by
  obtain ⟨limit, rfl⟩ : ∃ k, limit = k + 1 := ⟨limit - 1, by omega⟩
  induction values generalizing run scale limit with
  | nil =>
      cases hstop : params.stopsAt run.summary.samples with
      | true => exact direct?_stop hstop _ scale
      | false =>
          -- nothing more is delivered, and the first read cannot fail but at the end
          have hall : Scale.DeliversInAll scale [] := h.done.resolve_left (by simp [hstop])
          cases hread : (Scale.read scale).1 with
          | ok value =>
              rcases hall.of_ok hread with ⟨rest, heq, -⟩
              cases heq
          | error e => exact direct?_end hstop hread (honly.of_error hread)
  | cons value rest ih =>
      have hgoing : params.stopsAt run.summary.samples = false :=
        h.going _ (Nat.le_refl _) (by rw [List.length_cons]; omega)
      cases hread : (Scale.read scale).1 with
      | error e => exact absurd (honly.of_error hread) (h.delivers.not_end hread)
      | ok first =>
          obtain rfl : value = first := (h.delivers.cons_of_ok hread).1
          rw [direct?_ok hgoing hread, List.foldl_cons]
          obtain ⟨limit, rfl⟩ : ∃ k, limit = k + 1 :=
            ⟨limit - 1, by rw [List.length_cons] at hlimit; omega⟩
          refine ih honly.next ?_ limit ?_
          · rw [feed_samples]
            exact h.tail hread
          · rw [List.length_cons] at hlimit
            omega

end Run

end SmartScale
