import Mathlib.Order.Bounds.Basic
import SmartScale.Proofs.Run.Account
import SmartScale.Store.Memory

/-!
# Where a direct run ends

A direct run ends at the first count of readings at which something ends it (`RunParams.EndsAt`):
its cap, the request to end, or a read that fails.  If nothing ever does, the run does not end.

`Run.direct_account` says what a run that has ended comes to: which readings it has fed, how the
detector stands, what was reported, and that it has made no read beyond those it needed.
-/

namespace SmartScale

/-! ## Single answers -/

namespace Scale

variable {τ : Type} [Scale τ] {scale : τ}

/-- The scale after so many reads. -/
def after : Nat → τ → τ
  | 0, scale => scale
  | n + 1, scale => after n (Scale.read scale).2

/-- The answer to a read, the first one having number zero. -/
def answer (i : Nat) (scale : τ) : Except DeviceError Reading := (Scale.read (after i scale)).1

/-- The readings among the answers to the first reads. -/
def readings (n : Nat) (scale : τ) : List Reading := (answers n scale).filterMap Except.toOption

theorem answers_succ (n : Nat) (scale : τ) :
    answers (n + 1) scale = answers n scale ++ [answer n scale] := by
  induction n generalizing scale with
  | zero => rfl
  | succ n ih => exact congrArg ((Scale.read scale).1 :: ·) (ih (Scale.read scale).2)

theorem after_add (m n : Nat) (scale : τ) : after n (after m scale) = after (m + n) scale := by
  induction m generalizing scale with
  | zero => rw [Nat.zero_add, after]
  | succ m ih =>
      rw [Nat.succ_add]
      exact ih (Scale.read scale).2

@[simp]
theorem length_answers (n : Nat) (scale : τ) : (answers n scale).length = n := by
  induction n generalizing scale with
  | zero => rfl
  | succ n ih => exact congrArg (· + 1) (ih (Scale.read scale).2)

/-- Reads that do not fail answer readings alone. -/
theorem answers_eq_readings {n : Nat} (h : ∀ i < n, ∃ value, answer i scale = .ok value) :
    answers n scale = (readings n scale).map .ok := by
  induction n with
  | zero => rfl
  | succ n ih =>
      have hfirst := ih fun i hi => h i (Nat.lt_succ_of_lt hi)
      rcases h n (Nat.lt_succ_self n) with ⟨value, hlast⟩
      rw [readings, answers_succ, hlast, List.filterMap_append, List.map_append]
      exact congrArg (· ++ [.ok value]) hfirst

theorem length_readings {n : Nat} (h : answers n scale = (readings n scale).map .ok) :
    (readings n scale).length = n := by
  have hlength := congrArg List.length h
  rw [length_answers, List.length_map] at hlength
  exact hlength.symm

end Scale

/-! ## Endings -/

/-- Something ends a run that has fed so many readings. -/
def RunParams.EndsAt {τ : Type} [Scale τ] (params : RunParams) (scale : τ) (count : Nat) : Prop :=
  params.maxSamples = some count ∨ params.shutdownAfter = some count ∨
    ∃ e, Scale.answer count scale = .error e

/-- The failure of a run of which a read has failed: none if it was the end of the stream. -/
def readFailure? (e : DeviceError) : Option Report :=
  match DetectorError.ofDevice e with
  | .endOfStream => none
  | other => some ((Report.ofCause (.detector other)).within "reading scale")

theorem RunParams.stopsAt_iff {params : RunParams} {count : Nat} : params.stopsAt count = true ↔
    ∃ first ≤ count, params.maxSamples = some first ∨ params.shutdownAfter = some first := by
  rw [stopsAt, Bool.or_eq_true, Option.any_eq_true, Option.any_eq_true]
  constructor
  · rintro (⟨first, hsome, hle⟩ | ⟨first, hsome, hle⟩)
    · exact ⟨first, of_decide_eq_true hle, .inr hsome⟩
    · exact ⟨first, of_decide_eq_true hle, .inl hsome⟩
  · rintro ⟨first, hle, hsome | hsome⟩
    · exact .inr ⟨first, hsome, decide_eq_true hle⟩
    · exact .inl ⟨first, hsome, decide_eq_true hle⟩

section Least

variable {τ : Type} [Scale τ] {params : RunParams} {scale : τ} {k : Nat}

/-- Before the least ending the run goes on and all reads give readings. -/
theorem goes_on_before (hk : IsLeast {count | params.EndsAt scale count} k) {i : Nat} (hi : i < k) :
    params.stopsAt i = false ∧ ∃ value, Scale.answer i scale = .ok value := by
  -- no count up to this one is an ending, for the least is still to come
  have hnone : ∀ j ≤ i, ¬ params.EndsAt scale j := by
    intro j hj hends
    have hle : k ≤ j := hk.2 hends
    omega
  constructor
  · apply eq_false_of_ne_true
    intro hstop
    rcases RunParams.stopsAt_iff.mp hstop with ⟨first, hle, hsome | hsome⟩
    · exact hnone first hle (.inl hsome)
    · exact hnone first hle (.inr (.inl hsome))
  · cases hanswer : Scale.answer i scale with
    | ok value => exact ⟨value, rfl⟩
    | error e => exact absurd (.inr (.inr ⟨e, hanswer⟩)) (hnone i (Nat.le_refl i))

/-- At the least ending the run has to stop, or else its next read fails. -/
theorem ends_at_least (hk : IsLeast {count | params.EndsAt scale count} k)
    (hgoing : params.stopsAt k = false) : ∃ e, Scale.answer k scale = .error e := by
  rcases hk.1 with hcap | hasked | herror
  · have hstop : params.stopsAt k = true :=
      RunParams.stopsAt_iff.mpr ⟨k, Nat.le_refl k, .inl hcap⟩
    rw [hgoing] at hstop
    cases hstop
  · have hstop : params.stopsAt k = true :=
      RunParams.stopsAt_iff.mpr ⟨k, Nat.le_refl k, .inr hasked⟩
    rw [hgoing] at hstop
    cases hstop
  · exact herror

end Least

/-! ## Direct runs -/

namespace Run

variable {σ τ : Type} [Scale τ] {params : RunParams} {run : Run σ} {scale : τ}
  {values : List Reading}

theorem direct?_zero (hgoing : params.stopsAt run.summary.samples = false) :
    direct? params 0 run scale = none := by
  rw [direct?, shouldStop_eq, hgoing]
  rfl

theorem direct?_failed {limit : Nat} {e : DeviceError}
    (hgoing : params.stopsAt run.summary.samples = false)
    (h : (Scale.read scale).1 = .error e) :
    direct? params (limit + 1) run scale = some ⟨run, readFailure? e⟩ := by
  rcases hread : Scale.read scale with ⟨answer, next⟩
  rw [hread] at h
  cases h
  rw [direct?, shouldStop_eq, hgoing, hread]
  cases hkind : DetectorError.ofDevice e <;> simp [readFailure?, hkind]

/-- A run feeds the readings that it is given as long as it does not have to stop. -/
theorem direct?_feeds (hread : Scale.answers values.length scale = values.map .ok)
    (hgoing : ∀ i < values.length, params.stopsAt (run.summary.samples + i) = false)
    (limit : Nat) :
    direct? params (values.length + limit) run scale =
      direct? params limit (values.foldl feed run) (Scale.after values.length scale) := by
  -- the count of the run moves on with each reading, so the rest is due one count later
  induction values generalizing run scale with
  | nil =>
      rw [List.length_nil, Nat.zero_add]
      rfl
  | cons value rest ih =>
      rw [List.length_cons, Scale.answers, List.map_cons, List.cons_eq_cons] at hread
      have hnow : params.stopsAt run.summary.samples = false :=
        hgoing 0 (Nat.zero_lt_succ _)
      have hlater : ∀ i < rest.length,
          params.stopsAt ((run.feed value).summary.samples + i) = false := by
        intro i hi
        rw [feed_samples, Nat.add_assoc, Nat.add_comm 1 i]
        exact hgoing (i + 1) (Nat.succ_lt_succ hi)
      calc direct? params (rest.length + 1 + limit) run scale
          = direct? params (rest.length + limit + 1) run scale := by rw [Nat.add_right_comm]
        _ = direct? params (rest.length + limit) (run.feed value) (Scale.read scale).2 :=
            direct?_ok hnow hread.1
        _ = direct? params limit ((value :: rest).foldl feed run)
              (Scale.after (rest.length + 1) scale) := ih hread.2 hlater

/-- With too few reads a run that would go on is not over. -/
theorem direct?_unfinished {limit : Nat} (hlimit : limit ≤ values.length)
    (hread : Scale.answers values.length scale = values.map .ok)
    (hgoing : ∀ i ≤ limit, params.stopsAt (run.summary.samples + i) = false) :
    direct? params limit run scale = none := by
  have hnow : params.stopsAt run.summary.samples = false := hgoing 0 (Nat.zero_le limit)
  induction limit generalizing run scale values with
  | zero => exact direct?_zero hnow
  | succ limit ih =>
      cases values with
      | nil => exact absurd hlimit (Nat.not_succ_le_zero limit)
      | cons value rest =>
          rw [List.length_cons, Scale.answers, List.map_cons, List.cons_eq_cons] at hread
          have hlater : ∀ i ≤ limit,
              params.stopsAt ((run.feed value).summary.samples + i) = false := by
            intro i hi
            rw [feed_samples, Nat.add_assoc, Nat.add_comm 1 i]
            exact hgoing (i + 1) (Nat.succ_le_succ hi)
          rw [direct?_ok hnow hread.1]
          exact ih (Nat.le_of_succ_le_succ hlimit) hread.2 hlater (hlater 0 (Nat.zero_le limit))

section Start

variable (detector : Detector σ)

/-- A run that has to stop makes as many reads as it feeds readings, and no more. -/
theorem direct?_of_stop (hread : Scale.answers values.length scale = values.map .ok)
    (hgoing : ∀ i < values.length, params.stopsAt i = false)
    (hstop : params.stopsAt values.length = true) (limit : Nat) :
    direct? params limit (start detector) scale =
      if limit < values.length then none
      else some ⟨values.foldl feed (start detector), none⟩ := by
  have hgoing' : ∀ i < values.length,
      params.stopsAt ((start detector).summary.samples + i) = false := by
    intro i hi
    change params.stopsAt (0 + i) = false
    rw [Nat.zero_add]
    exact hgoing i hi
  by_cases hfew : limit < values.length
  · rw [if_pos hfew]
    exact direct?_unfinished (Nat.le_of_lt hfew) hread fun i hi =>
      hgoing' i (Nat.lt_of_le_of_lt hi hfew)
  · obtain ⟨more, rfl⟩ := Nat.exists_eq_add_of_le (Nat.le_of_not_lt hfew)
    rw [if_neg hfew, direct?_feeds hread hgoing']
    apply direct?_stop
    rw [foldl_feed_samples]
    change params.stopsAt (0 + values.length) = true
    rw [Nat.zero_add]
    exact hstop

/-- A run that a failed read ends has made that one read more. -/
theorem direct?_of_error {e : DeviceError}
    (hread : Scale.answers values.length scale = values.map .ok)
    (hgoing : ∀ i ≤ values.length, params.stopsAt i = false)
    (herror : Scale.answer values.length scale = .error e) (limit : Nat) :
    direct? params limit (start detector) scale =
      if limit < values.length + 1 then none
      else some ⟨values.foldl feed (start detector), readFailure? e⟩ := by
  have hgoing' : ∀ i ≤ values.length,
      params.stopsAt ((start detector).summary.samples + i) = false := by
    intro i hi
    change params.stopsAt (0 + i) = false
    rw [Nat.zero_add]
    exact hgoing i hi
  by_cases hfew : limit < values.length + 1
  · rw [if_pos hfew]
    have hle : limit ≤ values.length := Nat.le_of_lt_succ hfew
    exact direct?_unfinished hle hread fun i hi => hgoing' i (Nat.le_trans hi hle)
  · obtain ⟨more, rfl⟩ := Nat.exists_eq_add_of_le (Nat.le_of_not_lt hfew)
    rw [if_neg hfew, Nat.add_assoc, Nat.add_comm 1 more,
      direct?_feeds hread fun i hi => hgoing' i (Nat.le_of_lt hi)]
    refine direct?_failed ?_ herror
    rw [foldl_feed_samples]
    exact hgoing' values.length (Nat.le_refl _)

end Start

/-! ## The whole account -/

/-- The reads of a run that ends after so many readings. -/
def readsOf (params : RunParams) (count : Nat) : Nat :=
  if params.stopsAt count then count else count + 1

/-- What a direct run that has ended after `k` readings comes to. -/
structure DirectAccount (params : RunParams) (detector : Detector σ) (scale : τ) (k : Nat)
    (finished : Finished σ) : Prop where
  /-- The first reads have given readings, which are those fed. -/
  answers_eq : Scale.answers k scale = (Scale.readings k scale).map .ok
  detector_eq : finished.run.detector = detector.processAll (Scale.readings k scale)
  length_events : finished.run.events.length = k
  /-- Every reading has its event, in order. -/
  event_eq : ∀ i (hi : i < (Scale.readings k scale).length), finished.run.events[i]? =
    some ⟨i, (Scale.readings k scale)[i],
      ((detector.processAll ((Scale.readings k scale).take i)).process
        (Scale.readings k scale)[i]).1⟩
  /-- A cap or a request ends the run well, whatever the next read would have given. -/
  failure_of_stop : params.stopsAt k = true → finished.failure = none
  /-- Otherwise a failed read has ended it. -/
  failure_of_error : params.stopsAt k = false →
    ∃ e, Scale.answer k scale = .error e ∧ finished.failure = readFailure? e
  samples : finished.run.summary.samples = k
  confirmations : ∀ slot (_ : slot < slotCount),
    finished.run.summary.confirmations[slot] = finished.run.said (.object slot)
  noObject : finished.run.summary.noObject = finished.run.said .noObject
  noMatch : finished.run.summary.noMatch = finished.run.said .noMatch
  /-- Every reading is counted once, for a detector in use follows slots of the record only
  (`Detector.Built.tracksSlot`, `Detector.TracksSlot.operateAll`). -/
  total : detector.TracksSlot → finished.run.summary.total + finished.run.summary.noObject +
    finished.run.summary.noMatch + finished.run.said .noChange = k
  /-- No later answer of the scale has any part in this, and no later read is made. -/
  reads : ∀ {τ' : Type} [Scale τ'] (other : τ'),
    Scale.answers (readsOf params k) other = Scale.answers (readsOf params k) scale →
    ∀ limit, start? params limit detector other =
      if limit < readsOf params k then none else some finished

theorem start?_direct (hmode : params.mode = .direct) (limit : Nat) (detector : Detector σ)
    (scale : τ) : start? params limit detector scale =
      direct? params limit (start detector) scale := by
  rw [start?, hmode]

/-- The part of the account that does not depend on how the run ended. -/
theorem directAccount_of_reads {detector : Detector σ} {k : Nat} {failure : Option Report}
    (hanswers : Scale.answers k scale = (Scale.readings k scale).map .ok)
    (hstop : params.stopsAt k = true → failure = none)
    (herror : params.stopsAt k = false →
      ∃ e, Scale.answer k scale = .error e ∧ failure = readFailure? e)
    (hreads : ∀ {τ' : Type} [Scale τ'] (other : τ'),
      Scale.answers (readsOf params k) other = Scale.answers (readsOf params k) scale →
      ∀ limit, start? params limit detector other = if limit < readsOf params k then none
        else some ⟨(Scale.readings k scale).foldl feed (start detector), failure⟩) :
    DirectAccount params detector scale k
      ⟨(Scale.readings k scale).foldl feed (start detector), failure⟩ := by
  have hlength : (Scale.readings k scale).length = k := Scale.length_readings hanswers
  have hbalanced := balanced_foldl_feed (Scale.readings k scale) (balanced_start detector)
  rcases events_foldl_feed detector (Scale.readings k scale) with ⟨hevents, hevent⟩
  rw [hlength] at hevents
  exact {
    answers_eq := hanswers
    detector_eq := detector_foldl_feed _ (start detector)
    length_events := hevents
    event_eq := hevent
    failure_of_stop := hstop
    failure_of_error := herror
    samples := hbalanced.samples.trans hevents
    confirmations := hbalanced.confirmations
    noObject := hbalanced.noObject
    noMatch := hbalanced.noMatch
    total := fun htracks => (hbalanced.total (htracks.events _)).trans hevents
    reads := hreads }

theorem directAccount_of_stop (hmode : params.mode = .direct) (detector : Detector σ) {k : Nat}
    (hanswers : Scale.answers k scale = (Scale.readings k scale).map .ok)
    (hgoing : ∀ i < k, params.stopsAt i = false) (hstop : params.stopsAt k = true) :
    DirectAccount params detector scale k
      ⟨(Scale.readings k scale).foldl feed (start detector), none⟩ := by
  have hlength : (Scale.readings k scale).length = k := Scale.length_readings hanswers
  have hreads : readsOf params k = k := if_pos hstop
  apply directAccount_of_reads hanswers (fun _ => rfl)
  · intro hgoes
    rw [hstop] at hgoes
    cases hgoes
  · intro τ' _ other hsame limit
    rw [hreads] at hsame ⊢
    have hother : Scale.answers (Scale.readings k scale).length other =
        (Scale.readings k scale).map .ok := by
      rw [hlength, hsame]
      exact hanswers
    rw [start?_direct hmode]
    rw [← hlength] at hgoing hstop
    have hrun := direct?_of_stop detector hother hgoing hstop limit
    rw [hlength] at hrun
    exact hrun

theorem directAccount_of_error (hmode : params.mode = .direct) (detector : Detector σ) {k : Nat}
    {e : DeviceError} (hanswers : Scale.answers k scale = (Scale.readings k scale).map .ok)
    (hgoing : ∀ i ≤ k, params.stopsAt i = false) (herror : Scale.answer k scale = .error e) :
    DirectAccount params detector scale k
      ⟨(Scale.readings k scale).foldl feed (start detector), readFailure? e⟩ := by
  have hlength : (Scale.readings k scale).length = k := Scale.length_readings hanswers
  have hnow : params.stopsAt k = false := hgoing k (Nat.le_refl k)
  have hreads : readsOf params k = k + 1 := by
    rw [readsOf, hnow]
    rfl
  apply directAccount_of_reads hanswers
  · intro hends
    rw [hnow] at hends
    cases hends
  · intro _
    exact ⟨e, herror, rfl⟩
  · intro τ' _ other hsame limit
    rw [hreads] at hsame ⊢
    rw [Scale.answers_succ, Scale.answers_succ] at hsame
    -- the other scale gives the same readings, and then fails in the same way
    rcases List.append_inj' hsame rfl with ⟨hfirst, hlast⟩
    have hother : Scale.answers (Scale.readings k scale).length other =
        (Scale.readings k scale).map .ok := by
      rw [hlength, hfirst]
      exact hanswers
    have hfails : Scale.answer (Scale.readings k scale).length other = .error e := by
      rw [hlength, ← herror]
      exact List.singleton_inj.mp hlast
    rw [start?_direct hmode]
    rw [← hlength] at hgoing
    have hrun := direct?_of_error detector hother hgoing hfails limit
    rw [hlength] at hrun
    exact hrun

/-- At the least ending a run is over, and its account can be given. -/
theorem directAccount_of_least (hmode : params.mode = .direct) (detector : Detector σ) {k : Nat}
    (hk : IsLeast {count | params.EndsAt scale count} k) :
    ∃ finished, DirectAccount params detector scale k finished := by
  have hanswers : Scale.answers k scale = (Scale.readings k scale).map .ok :=
    Scale.answers_eq_readings fun i hi => (goes_on_before hk hi).2
  have hgoing : ∀ i < k, params.stopsAt i = false := fun i hi => (goes_on_before hk hi).1
  cases hstop : params.stopsAt k with
  | true => exact ⟨_, directAccount_of_stop hmode detector hanswers hgoing hstop⟩
  | false =>
      rcases ends_at_least hk hstop with ⟨e, herror⟩
      have hgoing' : ∀ i ≤ k, params.stopsAt i = false := by
        intro i hi
        rcases Nat.lt_or_eq_of_le hi with hlt | rfl
        · exact hgoing i hlt
        · exact hstop
      exact ⟨_, directAccount_of_error hmode detector hanswers hgoing' herror⟩

/-- Where nothing ends it, a run is never over. -/
theorem direct?_endless (hgoing : ∀ count, ¬ params.EndsAt scale count) (detector : Detector σ)
    (limit : Nat) : direct? params limit (start detector) scale = none := by
  have hok : ∀ i < limit, ∃ value, Scale.answer i scale = .ok value := by
    intro i _
    cases hanswer : Scale.answer i scale with
    | ok value => exact ⟨value, rfl⟩
    | error e => exact absurd (.inr (.inr ⟨e, hanswer⟩)) (hgoing i)
  have hanswers := Scale.answers_eq_readings hok
  have hlength := Scale.length_readings hanswers
  -- all reads that the limit allows give readings, and none of them is the last
  refine direct?_unfinished (Nat.le_of_eq hlength.symm) (by rw [hlength]; exact hanswers) ?_
  intro i _
  apply eq_false_of_ne_true
  intro hstop
  rcases RunParams.stopsAt_iff.mp hstop with ⟨first, -, hsome | hsome⟩
  · exact hgoing first (.inl hsome)
  · exact hgoing first (.inr (.inl hsome))

theorem exists_least_ending {count : Nat} (h : params.EndsAt scale count) :
    ∃ k, IsLeast {count | params.EndsAt scale count} k := by
  classical
  have hsome : ∃ count, params.EndsAt scale count := ⟨count, h⟩
  exact ⟨Nat.find hsome, Nat.find_spec hsome, fun other hother => Nat.find_min' hsome hother⟩

/-- A direct run ends exactly if something ends it at some count, and it then comes to the account
of the least such count.

The number of readings fed is the least of the cap, the count at which the run was asked to end, and
the number of readings before the first read that fails. -/
theorem direct_account (hmode : params.mode = .direct) (detector : Detector σ) (scale : τ) :
    (∀ limit finished, start? params limit detector scale = some finished →
      ∃ k, IsLeast {count | params.EndsAt scale count} k ∧
        DirectAccount params detector scale k finished) ∧
    ∀ count, params.EndsAt scale count →
      ∃ limit finished, start? params limit detector scale = some finished := by
  constructor
  · intro limit finished hrun
    have hends : ∃ count, params.EndsAt scale count := by
      by_contra hnone
      rw [start?_direct hmode, direct?_endless (not_exists.mp hnone)] at hrun
      cases hrun
    rcases hends with ⟨count, hcount⟩
    rcases exists_least_ending hcount with ⟨k, hk⟩
    rcases directAccount_of_least hmode detector hk with ⟨due, haccount⟩
    refine ⟨k, hk, ?_⟩
    -- the run that has ended is the one that the account is of
    have hdue := haccount.reads scale rfl limit
    rw [hrun] at hdue
    split at hdue
    · cases hdue
    · cases hdue
      exact haccount
  · intro count hcount
    rcases exists_least_ending hcount with ⟨k, hk⟩
    rcases directAccount_of_least hmode detector hk with ⟨due, haccount⟩
    refine ⟨readsOf params k, due, ?_⟩
    rw [haccount.reads scale rfl, if_neg (Nat.lt_irrefl _)]

/-- A cap of five and a sensor that fails at its third read: two readings are fed, and the failure
is passed on. -/
theorem direct_account_bus_fault :
    let params : RunParams := ⟨.direct, 150, some 5, none⟩
    let scale : ScriptedScale :=
      ⟨[.ok ⟨0x42c80000⟩, .ok ⟨0x42ca0000⟩, .error (.other "bus fault"), .ok ⟨0x42c80000⟩]⟩
    let detector : Detector MemoryStore :=
      (Detector.new (MemoryStore.new 44) 0).operateAll
        [.setObject 1 ⟨0x42c80000⟩ ⟨0x40a00000⟩, .save]
    params.mode = .direct ∧ params.EndsAt scale 2 ∧ detector.TracksSlot ∧
      ∃ limit finished, start? params limit detector scale = some finished ∧
        finished.failure = some ((Report.ofCause (.detector (.hardware "bus fault"))).within
          "reading scale") ∧
        finished.run.detector = detector.processAll [⟨0x42c80000⟩, ⟨0x42ca0000⟩] ∧
        finished.run.summary.total + finished.run.summary.noObject +
          finished.run.summary.noMatch + finished.run.said .noChange = 2 := by
  intro params scale detector
  have hends : params.EndsAt scale 2 := .inr (.inr ⟨.other "bus fault", rfl⟩)
  have htracks : detector.TracksSlot := (Detector.Built.new _ _).tracksSlot.operateAll _
  have hmode : params.mode = .direct := rfl
  rcases direct_account hmode detector scale with ⟨haccount, hover⟩
  rcases hover 2 hends with ⟨limit, finished, hrun⟩
  rcases haccount limit finished hrun with ⟨k, hk, hdue⟩
  -- the first two reads give readings, and the cap is not reached
  have hfirst : ¬ params.EndsAt scale 0 := by rintro (h | h | ⟨e, h⟩) <;> cases h
  have hsecond : ¬ params.EndsAt scale 1 := by rintro (h | h | ⟨e, h⟩) <;> cases h
  obtain rfl : k = 2 := by
    have hle : k ≤ 2 := hk.2 hends
    have hone : k ≠ 1 := fun h => hsecond (h ▸ hk.1)
    have hzero : k ≠ 0 := fun h => hfirst (h ▸ hk.1)
    omega
  rcases hdue.failure_of_error rfl with ⟨e, herror, hfailure⟩
  cases herror
  refine ⟨hmode, hends, htracks, limit, finished, hrun, ?_, hdue.detector_eq, hdue.total htracks⟩
  rw [hfailure]
  decide +kernel

end Run

end SmartScale
