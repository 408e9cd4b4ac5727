import SmartScale.Clock.Shared

/-!
# What a shared clock shows

A program makes clocks, clones handles of them and moves them through any of the handles, in any
order.  What then holds of a clock is said by the actions alone:

* `Clocks.Family` is the places of the handles that were cloned, directly or over other clones, from
  the first handle of the clock;
* `Clocks.Family.spans` lists the spans by which the clock was moved through any of them, and
  `Duration.total` is their sum.

The clocks agree with the family (`Clocks.Holds`), and every action keeps it so.  An action through
a handle of the family adds its span to what the clock shows, and any other leaves it alone
(`Clocks.Holds.elapsed_act`); sums that are cut off on the way come to the whole sum cut off at the
end (`Clocks.Holds.elapsed_after`).  `Clocks.clones_share_time` states what follows for the whole
family.
-/

namespace SmartScale

/-! ## Sums of spans -/

/-- The nanoseconds of all spans together, not cut off. -/
def Duration.total : List Duration → Nat
  | [] => 0
  | span :: rest => span.nanos + total rest

namespace Duration

theorem total_append (spans others : List Duration) :
    total (spans ++ others) = total spans + total others := by
  induction spans with
  | nil => exact (Nat.zero_add _).symm
  | cons span rest ih => rw [List.cons_append, total, total, ih, Nat.add_assoc]

theorem total_perm {spans others : List Duration} (h : spans.Perm others) :
    total spans = total others := by
  induction h with
  | nil => rfl
  | cons span _ ih => rw [total, total, ih]
  | swap first second rest =>
      simp only [total]
      omega
  | trans _ _ ih₁ ih₂ => exact ih₁.trans ih₂

theorem eq_of_nanos_eq {a b : Duration} (h : a.nanos = b.nanos) : a = b := by
  cases a
  cases b
  cases h
  rfl

end Duration

theorem ManualClock.millisSince_eq (c : ManualClock) (mark : Duration) :
    c.millisSince mark =
      if c.elapsed.nanos ≤ mark.nanos then 0
      else min ((c.elapsed.nanos - mark.nanos) / 1000000) (UInt64.size - 1) := by
  have hle := c.elapsed.nanos_le
  rw [millisSince, Duration.millis, Duration.nanos_ofNanos]
  split <;> omega

/-! ## Points of time -/

namespace Instant

variable {t now mark : Instant} {span : Duration}

/-- There is a point of time after a span, if it is a point of the scale. -/
theorem add?_eq_some_iff :
    t.add? span = some mark ↔ mark.span.nanos = t.span.nanos + span.nanos := by
  unfold add?
  split
  · rw [Option.some_inj]
    constructor
    · rintro rfl
      rfl
    · intro h
      cases mark
      exact congrArg Instant.mk (Duration.eq_of_nanos_eq h.symm)
  · next hbeyond =>
      constructor
      · intro h
        cases h
      · intro h
        rw [← h] at hbeyond
        exact absurd mark.span.nanos_le hbeyond

theorem exists_add? (h : t.span.nanos + span.nanos ≤ maxNanos) : ∃ mark, t.add? span = some mark :=
  ⟨⟨⟨_, h⟩⟩, add?_eq_some_iff.mpr rfl⟩

/-- The span between two points of time, by their distances from a third. -/
theorem since_eq {shown marked : Duration} (hnow : t.add? shown = some now)
    (hmark : t.add? marked = some mark) :
    now.since mark = .ofNanos (shown.nanos - marked.nanos) := by
  rw [add?_eq_some_iff] at hnow hmark
  rw [since, hnow, hmark, Nat.add_sub_add_left]

/-- Later points of time are no nearer to a mark. -/
theorem millis_since_mono {later mark : Instant} (h : now.span.nanos ≤ later.span.nanos) :
    (now.since mark).millis ≤ (later.since mark).millis := by
  apply Duration.millis_le_millis
  simp only [since, Duration.nanos_ofNanos]
  omega

/-- Two spans on, one after the other, are their sum on. -/
theorem add?_add {shown : Duration} (hnow : t.add? shown = some now)
    (hmark : now.add? span = some mark) : t.add? (shown.add span) = some mark := by
  have hle := mark.span.nanos_le
  rw [add?_eq_some_iff] at hnow hmark ⊢
  rw [Duration.add, Duration.nanos_ofNanos]
  omega

end Instant

namespace Clocks

variable {c : Clocks} {h : ClockHandle} {i : Nat} {f : ManualClock → ManualClock}

/-! ## The clock of a handle -/

theorem clockOf_make (hknown : h.clock < c.cells.length) (origin : Instant) :
    (c.make origin).clockOf h = c.clockOf h := by
  simp only [clockOf, make, List.getD_eq_getElem?_getD, List.getElem?_append_left hknown]

/-- A new clock stands at zero. -/
theorem clockOf_make_new (hnew : h.clock = c.cells.length) (origin : Instant) :
    (c.make origin).clockOf h = .new := by
  simp only [clockOf, make, hnew, List.getD_eq_getElem?_getD, List.getElem?_concat_length,
    Option.getD_some]

theorem clockOf_clone (i : Nat) : (c.clone i).clockOf h = c.clockOf h := rfl

/-- A change through any handle of a clock is seen through all of them, and through no other. -/
theorem clockOf_change (hknown : h.clock < c.cells.length) :
    (c.change i f).clockOf h =
      if c.handles[i]?.map ClockHandle.clock = some h.clock then f (c.clockOf h)
      else c.clockOf h := by
  cases hi : c.handles[i]? with
  | none => simp [clockOf, change, hi]
  | some g =>
      by_cases hsame : g.clock = h.clock
      · simp [clockOf, change, hi, hsame, List.getD_eq_getElem?_getD, hknown]
      · simp [clockOf, change, hi, hsame, List.getD_eq_getElem?_getD]

/-! ## Actions -/

/-- What a program does with its clocks; handles are given by their places. -/
inductive Action
  | make (origin : Instant)
  | clone (i : Nat)
  | advance (i : Nat) (span : Duration)
  | sleep (i : Nat) (span : Duration)

def act (c : Clocks) : Action → Clocks
  | .make origin => c.make origin
  | .clone i => c.clone i
  | .advance i span => c.advance i span
  | .sleep i span => c.sleep i span

def after (c : Clocks) (actions : List Action) : Clocks := actions.foldl act c

theorem length_cells_change (c : Clocks) (i : Nat) (f : ManualClock → ManualClock) :
    (c.change i f).cells.length = c.cells.length := by
  simp only [change]
  split
  · exact List.length_modify ..
  · rfl

/-! ## What the actions say -/

/-- The handles that were cloned from one handle, over any number of clones. -/
structure Family where
  /-- How many handles there are, of this clock and of others. -/
  count : Nat
  /-- The places of the family among them. -/
  places : List Nat

namespace Family

/-- A handle without clones, behind a number of others. -/
def single (others : Nat) : Family := ⟨others + 1, [others]⟩

/-- A clone stands behind all handles, and belongs to the family of the one it was cloned from. -/
def act (family : Family) : Action → Family
  | .make _ => { family with count := family.count + 1 }
  | .clone i =>
    if i < family.count then
      { count := family.count + 1
        places := if i ∈ family.places then family.places ++ [family.count] else family.places }
    else family
  | .advance _ _ | .sleep _ _ => family

def after (family : Family) (actions : List Action) : Family := actions.foldl act family

/-- The span by which an action moves the clock of the family, if it does. -/
def moved (family : Family) : Action → List Duration
  | .advance i span | .sleep i span => if i ∈ family.places then [span] else []
  | .make _ | .clone _ => []

/-- The spans by which actions move the clock of the family, in their order. -/
def spans : Family → List Action → List Duration
  | _, [] => []
  | family, action :: rest => family.moved action ++ spans (family.act action) rest

end Family

/-! ## Families of handles -/

/-- The places of the family have this handle, and no other handle is one of its clock. -/
structure Holds (family : Family) (h : ClockHandle) (c : Clocks) : Prop where
  count : c.handles.length = family.count
  places : ∀ i, i ∈ family.places ↔ c.handles[i]? = some h
  others : ∀ g ∈ c.handles, g.clock = h.clock → g = h
  known : h.clock < c.cells.length

variable {family : Family}

/-- What stands at a place behind one more handle. -/
theorem getElem?_concat_eq_some_iff {handles : List ClockHandle} {g : ClockHandle} {i : Nat} :
    (handles ++ [g])[i]? = some h ↔ handles[i]? = some h ∨ i = handles.length ∧ g = h := by
  rcases Nat.lt_trichotomy i handles.length with hlt | heq | hgt
  · rw [List.getElem?_append_left hlt]
    simp [Nat.ne_of_lt hlt]
  · simp [heq]
  · have hnone : handles[i]? = none := List.getElem?_eq_none (Nat.le_of_lt hgt)
    rw [List.getElem?_eq_none (by rw [List.length_append]; exact hgt), hnone]
    simp [Nat.ne_of_gt hgt]

theorem holds_make (c : Clocks) (origin : Instant) :
    Holds (.single c.handles.length) ⟨c.cells.length, origin⟩ (c.act (.make origin)) where
  count := List.length_append
  places i := by
    have hnone : c.handles[i]? ≠ some ⟨c.cells.length, origin⟩ := fun hsome =>
      Nat.lt_irrefl _ (c.known _ (List.mem_of_getElem? hsome))
    rw [act, make, getElem?_concat_eq_some_iff, Family.single]
    simp [hnone]
  others g hmem hclock := by
    rcases List.mem_append.mp hmem with hold | hnew
    · exact absurd (c.known g hold) (hclock ▸ Nat.lt_irrefl _)
    · exact List.mem_singleton.mp hnew
  known := by simp [act, make]

namespace Holds

variable (hholds : Holds family h c)
include hholds

/-- A change through any handle of the family is seen through all of it, and no other change is. -/
theorem clockOf_change (i : Nat) (f : ManualClock → ManualClock) :
    (c.change i f).clockOf h =
      if i ∈ family.places then f (c.clockOf h) else c.clockOf h := by
  have hsame : i ∈ family.places ↔ c.handles[i]?.map ClockHandle.clock = some h.clock := by
    rw [hholds.places, Option.map_eq_some_iff]
    constructor
    · exact fun hi => ⟨h, hi, rfl⟩
    · rintro ⟨g, hg, hclock⟩
      rw [← hholds.others g (List.mem_of_getElem? hg) hclock]
      exact hg
  rw [Clocks.clockOf_change hholds.known]
  simp only [hsame]

theorem change (i : Nat) (f : ManualClock → ManualClock) : Holds family h (c.change i f) where
  count := hholds.count
  places := hholds.places
  others := hholds.others
  known := by
    rw [length_cells_change]
    exact hholds.known

theorem make (origin : Instant) : Holds (family.act (.make origin)) h (c.make origin) where
  count := by
    rw [Clocks.make, List.length_append, hholds.count]
    rfl
  places i := by
    -- the new handle is one of a clock that was not there
    have hnew : (⟨c.cells.length, origin⟩ : ClockHandle) ≠ h := by
      rintro rfl
      exact Nat.lt_irrefl _ hholds.known
    rw [Clocks.make, getElem?_concat_eq_some_iff, ← hholds.places]
    simp [Family.act, hnew]
  others g hmem hclock := by
    rcases List.mem_append.mp hmem with hold | hnew
    · exact hholds.others g hold hclock
    · rw [List.mem_singleton.mp hnew] at hclock
      exact absurd hholds.known (hclock ▸ Nat.lt_irrefl _)
  known := by
    rw [Clocks.make, List.length_append]
    exact Nat.lt_add_right _ hholds.known

theorem clone (i : Nat) : Holds (family.act (.clone i)) h (c.clone i) := by
  cases hi : c.handles[i]? with
  | none =>
      have hout : ¬ i < family.count := by
        rw [← hholds.count]
        exact Nat.not_lt.mpr (List.getElem?_eq_none_iff.mp hi)
      have hsame : c.clone i = c := by simp [Clocks.clone, hi]
      rw [hsame, Family.act, if_neg hout]
      exact hholds
  | some g =>
      have hin : i < family.count := by
        rw [← hholds.count]
        exact (List.getElem?_eq_some_iff.mp hi).1
      have hfamily : i ∈ family.places ↔ g = h := by
        rw [hholds.places, hi, Option.some_inj]
      have hhandles : (c.clone i).handles = c.handles ++ [g] := by simp [Clocks.clone, hi]
      refine ⟨?_, fun j => ?_, fun other hmem hclock => ?_, hholds.known⟩
      · rw [hhandles, List.length_append, hholds.count, Family.act, if_pos hin]
        rfl
      · rw [hhandles, getElem?_concat_eq_some_iff, ← hholds.places, hholds.count, ← hfamily,
          Family.act, if_pos hin]
        by_cases hmem : i ∈ family.places <;> simp [hmem]
      · rw [hhandles] at hmem
        rcases List.mem_append.mp hmem with hold | hnew
        · exact hholds.others other hold hclock
        · rw [List.mem_singleton.mp hnew] at hclock ⊢
          exact hholds.others g (List.mem_of_getElem? hi) hclock

theorem act (action : Action) : Holds (family.act action) h (c.act action) := by
  cases action with
  | make origin => exact hholds.make origin
  | clone i => exact hholds.clone i
  | advance i span => exact hholds.change i _
  | sleep i span => exact hholds.change i _

theorem after (actions : List Action) : Holds (family.after actions) h (c.after actions) := by
  induction actions generalizing family c with
  | nil => exact hholds
  | cons action rest ih => exact ih (hholds.act action)

/-! ## What is shown -/

theorem elapsed_advance (i : Nat) (span : Duration) :
    (c.advance i span).elapsed h =
      .ofNanos ((c.elapsed h).nanos + Duration.total (family.moved (.advance i span))) := by
  rw [advance, elapsed, hholds.clockOf_change, Family.moved]
  split
  · rfl
  · exact (Duration.ofNanos_nanos _).symm

/-- An action adds to what the clock of the family shows the span by which it is moved. -/
theorem elapsed_act (action : Action) :
    (c.act action).elapsed h =
      .ofNanos ((c.elapsed h).nanos + Duration.total (family.moved action)) := by
  cases action with
  | make origin =>
      rw [Clocks.act, elapsed, clockOf_make hholds.known]
      exact (Duration.ofNanos_nanos _).symm
  | clone i =>
      rw [Clocks.act, elapsed, clockOf_clone]
      exact (Duration.ofNanos_nanos _).symm
  | advance i span => exact hholds.elapsed_advance i span
  | sleep i span => exact hholds.elapsed_advance i span

theorem elapsed_after (actions : List Action) :
    (c.after actions).elapsed h =
      .ofNanos ((c.elapsed h).nanos + Duration.total (family.spans actions)) := by
  -- on the actions: what is shown after the first has been cut off, which makes no difference later
  induction actions generalizing family c with
  | nil => exact (Duration.ofNanos_nanos _).symm
  | cons action rest ih =>
      calc (c.after (action :: rest)).elapsed h
          = .ofNanos (((c.act action).elapsed h).nanos +
              Duration.total ((family.act action).spans rest)) := ih (hholds.act action)
        _ = .ofNanos ((c.elapsed h).nanos + Duration.total (family.moved action) +
              Duration.total ((family.act action).spans rest)) := by
            rw [hholds.elapsed_act, Duration.ofNanos_nanos_add]
        _ = .ofNanos ((c.elapsed h).nanos + Duration.total (family.spans (action :: rest))) := by
            rw [Family.spans, Duration.total_append, Nat.add_assoc]

theorem elapsed_le_after (actions : List Action) :
    (c.elapsed h).nanos ≤ ((c.after actions).elapsed h).nanos := by
  rw [hholds.elapsed_after, Duration.nanos_ofNanos]
  exact Nat.le_min.mpr ⟨Nat.le_add_right _ _, (c.elapsed h).nanos_le⟩

end Holds

/-! ## What time it is -/

theorem millisSince?_eq {now mark : Instant} (hnow : c.now? h = some now) :
    c.millisSince? h mark = some (now.since mark).millis := by
  rw [millisSince?, hnow, Option.map_some]

/-- A mark is as good as the span that the clock shows there. -/
theorem millisSince?_at {now mark : Instant} {shown : Duration} (hnow : c.now? h = some now)
    (hmark : h.at? shown = some mark) :
    c.millisSince? h mark = some ((c.clockOf h).millisSince shown) := by
  rw [millisSince?_eq hnow, Instant.since_eq hnow hmark]
  rfl

/-- A clock whose time is on the scale can tell it. -/
theorem exists_now? (c : Clocks) (h : ClockHandle)
    (hscale : h.origin.span.nanos + (c.elapsed h).nanos ≤ maxNanos) :
    ∃ now, c.now? h = some now ∧ now.span.nanos = h.origin.span.nanos + (c.elapsed h).nanos := by
  rcases Instant.exists_add? hscale with ⟨now, hnow⟩
  exact ⟨now, hnow, Instant.add?_eq_some_iff.mp hnow⟩

/-- A new clock shows the sum of the spans by which it was moved. -/
theorem elapsed_after_make (c : Clocks) (origin : Instant) (actions : List Action) :
    ((c.act (.make origin)).after actions).elapsed ⟨c.cells.length, origin⟩ =
      .ofNanos (Duration.total ((Family.single c.handles.length).spans actions)) := by
  have hzero : ((c.act (.make origin)).elapsed ⟨c.cells.length, origin⟩).nanos = 0 := by
    rw [act, elapsed, clockOf_make_new rfl]
    rfl
  rw [(holds_make c origin).elapsed_after, hzero, Nat.zero_add]

/-- A clock is made, whatever other clocks there are, and any actions follow.  At each place of the
family of its first handle there is a handle that has the origin of the clock, and

* shows the sum of all spans by which the family was used to move the clock, cut off at the greatest
  span;
* would show the same if these spans had come in another order, and through other handles;
* tells the milliseconds since any mark that the clock shows or will show, as long as its time is on
  the scale.  These are none up to the mark, and from there on the whole milliseconds of the
  difference, cut off at the greatest word.  A mark set ahead of the time that the clock tells is
  such a mark;
* never counts fewer milliseconds since a mark after further actions. -/
theorem clones_share_time (c : Clocks) (origin : Instant) (actions : List Action) :
    let made := c.act (.make origin)
    let family := Family.single c.handles.length
    let now := made.after actions
    ∀ i ∈ (family.after actions).places, ∃ h, now.handles[i]? = some h ∧ h.origin = origin ∧
      (now.elapsed h).nanos = min (Duration.total (family.spans actions)) maxNanos ∧
      (∀ others, (family.spans others).Perm (family.spans actions) →
        ∀ j ∈ (family.after others).places, ∃ g, (made.after others).handles[j]? = some g ∧
          (made.after others).elapsed g = now.elapsed h) ∧
      (∀ shown mark, h.at? shown = some mark →
        origin.span.nanos + (now.elapsed h).nanos ≤ maxNanos →
          now.millisSince? h mark =
            some (if (now.elapsed h).nanos ≤ shown.nanos then 0
              else min (((now.elapsed h).nanos - shown.nanos) / 1000000) (UInt64.size - 1))) ∧
      (∀ span mark, (now.now? h).bind (·.add? span) = some mark →
        h.at? ((now.elapsed h).add span) = some mark) ∧
      (∀ more mark, origin.span.nanos + ((now.after more).elapsed h).nanos ≤ maxNanos →
        ∃ before later, now.millisSince? h mark = some before ∧
          (now.after more).millisSince? h mark = some later ∧ before ≤ later) := by
  intro made family now i hi
  have hmade : Holds family ⟨c.cells.length, origin⟩ made := holds_make c origin
  have hnow := hmade.after actions
  have hshown := elapsed_after_make c origin actions
  -- every place of the family has the first handle itself
  refine ⟨⟨c.cells.length, origin⟩, (hnow.places i).mp hi, rfl, congrArg Duration.nanos hshown,
    fun others hperm j hj => ?_, fun shown mark hmark hscale => ?_, fun span mark hmark => ?_,
    fun more mark hscale => ?_⟩
  · refine ⟨_, ((hmade.after others).places j).mp hj, ?_⟩
    rw [elapsed_after_make, Duration.total_perm hperm, hshown]
  · rcases exists_now? now ⟨c.cells.length, origin⟩ hscale with ⟨instant, hinstant, -⟩
    rw [millisSince?_at hinstant hmark, ManualClock.millisSince_eq]
    rfl
  · rcases Option.bind_eq_some_iff.mp hmark with ⟨instant, hinstant, hahead⟩
    exact Instant.add?_add hinstant hahead
  · have hgrows := hnow.elapsed_le_after more
    have hearlier := Nat.le_trans (Nat.add_le_add_left hgrows origin.span.nanos) hscale
    rcases exists_now? now ⟨c.cells.length, origin⟩ hearlier with ⟨early, hearly, hsoon⟩
    rcases exists_now? (now.after more) ⟨c.cells.length, origin⟩ hscale with
      ⟨later, hlater, hlate⟩
    refine ⟨_, _, millisSince?_eq hearly, millisSince?_eq hlater, Instant.millis_since_mono ?_⟩
    rw [hsoon, hlate]
    exact Nat.add_le_add_left hgrows _

/-- A clone of a clone and the first handle are used in turn, and another clock in between.  A mark
at half a second lies behind, one at a second and a millisecond ahead.  Moved by the greatest span,
the clock stays at the end of what it can show. -/
theorem clones_share_time_clone_of_clone :
    let half : Duration := .ofMicros 500000
    let actions : List Action := [.clone 0, .clone 1, .advance 0 half, .make .epoch,
      .advance 3 .max, .sleep 2 half, .sleep 1 (.ofMicros 999)]
    let now := (empty.act (.make .epoch)).after actions
    let later := (empty.act (.make .epoch)).after (actions ++ [.advance 0 .max])
    2 ∈ ((Family.single 0).after actions).places ∧
      (∃ h, now.handles[2]? = some h ∧ (now.elapsed h).nanos = 1000999000 ∧
        (∀ mark, h.at? half = some mark → now.millisSince? h mark = some 500) ∧
        (∀ mark, h.at? (.ofMicros 1001000) = some mark → now.millisSince? h mark = some 0)) ∧
      ∃ h, later.handles[2]? = some h ∧ (later.elapsed h).nanos = maxNanos := by
  intro half actions now later
  have hmem : 2 ∈ ((Family.single 0).after actions).places := by decide
  have hstill : 2 ∈ ((Family.single 0).after (actions ++ [.advance 0 .max])).places := by decide
  rcases clones_share_time empty .epoch actions 2 hmem with ⟨h, hh, -, hshown, -, hsince, -, -⟩
  rcases clones_share_time empty .epoch _ 2 hstill with ⟨g, hg, -, hlater, -, -, -, -⟩
  have helapsed : (now.elapsed h).nanos = 1000999000 := hshown.trans (by decide)
  refine ⟨hmem, ⟨h, hh, helapsed, fun mark hmark => ?_, fun mark hmark => ?_⟩, g, hg,
    hlater.trans (by decide)⟩
  · rw [hsince half mark hmark (by rw [helapsed]; decide), helapsed]
    decide
  · rw [hsince _ mark hmark (by rw [helapsed]; decide), helapsed]
    decide

end Clocks

end SmartScale
