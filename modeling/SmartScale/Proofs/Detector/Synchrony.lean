import SmartScale.Proofs.Detector.Trace
import SmartScale.Proofs.RecordOffset

/-!
# Two detectors over the same readings

Two detectors with the same thresholds and the same slots are fed the same readings, but from
different states: one of them may have been restarted, or may have seen a glitch.

After the first reading that is an anchor for both, they track the same thing from the same reading,
and only their counts may differ (`Debounce.Aligned`).  The counts differ for as long as one slot
stays the candidate.  A reading that resolves the round (`Trace.ResolvesAt`), because nothing known
is on the scale or because another slot is adopted, leaves the same state in both, and from then on
nothing can be told apart.  `Detector.Peers.traces_merge` says so for whole traces.
-/

namespace SmartScale

/-! ## One reading -/

namespace Debounce

/-- Two states that differ in their counts alone. -/
structure Aligned (a b : Debounce) : Prop where
  current : a.current = b.current
  previous : a.previous = b.previous

/-- A reading ends the round of a state: nothing known is reported, or something else is tracked. -/
def Resolves (state : Debounce) (result : Outcome × Debounce) : Prop :=
  result.1 = .noObject ∨ result.1 = .noMatch ∨ result.2.current ≠ state.current

variable {t : Thresholds} {r : Record} {a b : Debounce} {value : Reading}

/-- A reading close to the last anchor resolves nothing. -/
theorem not_resolves_settle (t : Thresholds) (state : Debounce) :
    ¬ Resolves state (settle t state) := by
  have hquiet : (settle t state).1 ≠ .noObject ∧ (settle t state).1 ≠ .noMatch := by
    unfold settle
    split
    · dsimp only
      split <;> simp
    · simp
  rintro (hreport | hreport | hcurrent)
  · exact hquiet.1 hreport
  · exact hquiet.2 hreport
  · exact hcurrent (Trace.settle_keeps t state).1

/-- An anchor aligns any two states and is reported the same way. -/
theorem move_aligned (t : Thresholds) (r : Record) (a b : Debounce) (value : Reading) :
    (move t r a value).1 = (move t r b value).1 ∧
      Aligned (move t r a value).2 (move t r b value).2 := by
  rw [Trace.move_eq, Trace.move_eq]
  cases Trace.classify t r value with
  | noObject | noMatch => exact ⟨rfl, rfl, rfl⟩
  | candidate slot =>
      -- a state that keeps its candidate has the slot and the reading that the other one adopts
      refine ⟨rfl, ?_⟩
      dsimp only
      split <;> split <;> constructor <;> simp [*]

/-- An anchor of which nothing known is reported leads any two states to the same one. -/
theorem move_eq_of_report (h : (move t r a value).1 = .noObject ∨ (move t r a value).1 = .noMatch) :
    move t r a value = move t r b value := by
  rw [Trace.move_eq] at h ⊢
  rw [Trace.move_eq]
  cases hclass : Trace.classify t r value with
  | noObject | noMatch => rfl
  | candidate slot =>
      rw [hclass] at h
      rcases h with hreport | hreport <;> cases hreport

/-- An anchor that resolves the round leaves nothing of it. -/
theorem move_eq_of_resolves (h : Aligned a b) (hresolves : Resolves a (move t r a value)) :
    move t r a value = move t r b value := by
  rw [Trace.move_eq] at hresolves ⊢
  rw [Trace.move_eq]
  cases hclass : Trace.classify t r value with
  | noObject | noMatch => rfl
  | candidate slot =>
      rw [hclass] at hresolves
      dsimp only at hresolves ⊢
      by_cases hcurrent : a.current = .candidate slot
      · -- the candidate stays, so the round goes on
        rw [if_pos hcurrent] at hresolves
        rcases hresolves with hreport | hreport | hother
        · cases hreport
        · cases hreport
        · exact absurd rfl hother
      · rw [if_neg hcurrent, if_neg (h.current ▸ hcurrent)]

/-- Reports and states that may differ in the counts and in what these confirm. -/
structure EntriesMatch (now twin : Outcome × Debounce) : Prop where
  aligned : Aligned now.2 twin.2
  noObject : now.1 = .noObject ↔ twin.1 = .noObject
  noMatch : now.1 = .noMatch ↔ twin.1 = .noMatch

theorem entriesMatch_of_eq {now twin : Outcome × Debounce} (hreport : now.1 = twin.1)
    (haligned : Aligned now.2 twin.2) : EntriesMatch now twin := by
  refine ⟨haligned, ?_, ?_⟩
  · rw [hreport]
  · rw [hreport]

/-- Aligned states stay aligned, and at the same readings nothing known is reported. -/
theorem Aligned.step (h : Aligned a b) (hvalid : r.isValid = true) (value : Reading) :
    EntriesMatch (Debounce.step t r a value) (Debounce.step t r b value) := by
  unfold Debounce.step
  rw [hvalid, ← h.previous]
  cases value.within a.previous t.change with
  | true =>
      have ha := not_resolves_settle t a
      have hb := not_resolves_settle t b
      refine ⟨⟨?_, ?_⟩, ?_, ?_⟩
      · exact (Trace.settle_keeps t a).1.trans (h.current.trans (Trace.settle_keeps t b).1.symm)
      · exact (Trace.settle_keeps t a).2.trans (h.previous.trans (Trace.settle_keeps t b).2.symm)
      · exact iff_of_false (fun hreport => ha (.inl hreport)) fun hreport => hb (.inl hreport)
      · exact iff_of_false (fun hreport => ha (.inr (.inl hreport)))
          fun hreport => hb (.inr (.inl hreport))
  | false =>
      rcases move_aligned t r a b value with ⟨hreport, haligned⟩
      exact entriesMatch_of_eq hreport haligned

/-- A reading that resolves the round leads two aligned states to the same one. -/
theorem Aligned.step_eq (h : Aligned a b) (hvalid : r.isValid = true)
    (hresolves : Resolves a (Debounce.step t r a value)) :
    Debounce.step t r a value = Debounce.step t r b value := by
  unfold Debounce.step at hresolves ⊢
  rw [hvalid] at hresolves ⊢
  rw [← h.previous]
  cases hnear : value.within a.previous t.change with
  | true =>
      rw [hnear] at hresolves
      exact absurd hresolves (not_resolves_settle t a)
  | false =>
      rw [hnear] at hresolves
      exact move_eq_of_resolves h hresolves

end Debounce

/-! ## Traces -/

/-- At a position of a trace nothing known is reported, or something else is tracked than at the
position before. -/
def Trace.ResolvesAt (entries : List (Outcome × Debounce)) (i : Nat) : Prop :=
  ∃ now, entries[i]? = some now ∧ (now.1 = .noObject ∨ now.1 = .noMatch ∨
    ∃ j before, i = j + 1 ∧ entries[j]? = some before ∧ now.2.current ≠ before.2.current)

/-- From the second position on, whether a round is resolved does not depend on what was before. -/
theorem Trace.ResolvesAt.tail {first : Outcome × Debounce} {entries : List (Outcome × Debounce)}
    {i : Nat} (h : ResolvesAt (first :: entries) (i + 2)) : ResolvesAt entries (i + 1) := by
  rcases h with ⟨now, hnow, hreport | hreport | ⟨j, before, hj, hbefore, hcurrent⟩⟩
  · exact ⟨now, hnow, .inl hreport⟩
  · exact ⟨now, hnow, .inr (.inl hreport)⟩
  · obtain rfl : i + 1 = j := Nat.succ.inj hj
    exact ⟨now, hnow, .inr (.inr ⟨i, before, rfl, hbefore, hcurrent⟩)⟩

/-- At the second position it is resolved by what the reading there does to the first state. -/
theorem Trace.ResolvesAt.resolves {first second : Outcome × Debounce}
    {entries : List (Outcome × Debounce)} (h : ResolvesAt (first :: second :: entries) 1) :
    first.2.Resolves second := by
  rcases h with ⟨now, hnow, hreport⟩
  obtain rfl : second = now := Option.some.inj hnow
  rcases hreport with hreport | hreport | ⟨j, before, hj, hbefore, hcurrent⟩
  · exact .inl hreport
  · exact .inr (.inl hreport)
  · obtain rfl : 0 = j := Nat.succ.inj hj
    obtain rfl : first = before := Option.some.inj hbefore
    exact .inr (.inr hcurrent)

namespace Detector

variable {σ ρ : Type}

theorem trace_cons (d : Detector σ) (value : Reading) (rest : List Reading) :
    d.trace (value :: rest) =
      d.debounce.step d.thresholds d.record value :: (d.process value).2.trace rest := rfl

/-- Two detectors with the same thresholds and, but for the offset, the same record. -/
structure Peers (d : Detector σ) (e : Detector ρ) : Prop where
  thresholds : d.thresholds = e.thresholds
  record : d.record.AlikeButOffset e.record

namespace Peers

variable {d : Detector σ} {e : Detector ρ}

theorem symm (h : Peers d e) : Peers e d := ⟨h.thresholds.symm, h.record.symm⟩

theorem process (h : Peers d e) (value : Reading) :
    Peers (d.process value).2 (e.process value).2 := ⟨h.thresholds, h.record⟩

/-- What a reading does to a state is the same for both. -/
theorem step (h : Peers d e) (state : Debounce) (value : Reading) :
    state.step e.thresholds e.record value = state.step d.thresholds d.record value := by
  rw [h.thresholds, Debounce.step_congr h.record]

/-- Peers in the same state cannot be told apart. -/
theorem trace_eq (h : Peers d e) (hstate : d.debounce = e.debounce) (readings : List Reading) :
    d.trace readings = e.trace readings := by
  -- the same reading leads the same state to the same one, and the rest follows
  induction readings generalizing d e with
  | nil => rfl
  | cons value rest ih =>
      have hstep : d.debounce.step d.thresholds d.record value =
          e.debounce.step e.thresholds e.record value := by
        rw [h.step, hstate]
      have hrest : (d.process value).2.trace rest = (e.process value).2.trace rest :=
        ih (h.process value) (congrArg Prod.snd hstep)
      rw [trace_cons, trace_cons, hstep, hrest]

variable (hvalid : d.record.isValid = true)

include hvalid

theorem entriesMatch (h : Peers d e) (haligned : d.debounce.Aligned e.debounce) (value : Reading) :
    Debounce.EntriesMatch (d.debounce.step d.thresholds d.record value)
      (e.debounce.step e.thresholds e.record value) := by
  rw [h.step]
  exact haligned.step hvalid value

/-- From aligned states on the traces match at every reading. -/
theorem trace_match (h : Peers d e) (haligned : d.debounce.Aligned e.debounce)
    (readings : List Reading) :
    List.Forall₂ Debounce.EntriesMatch (d.trace readings) (e.trace readings) := by
  induction readings generalizing d e with
  | nil => exact .nil
  | cons value rest ih =>
      have hmatch := h.entriesMatch hvalid haligned value
      exact .cons hmatch (ih hvalid (h.process value) hmatch.aligned)

/-- From aligned states on the traces are the same once a round is resolved. -/
theorem drop_trace_eq (h : Peers d e) (haligned : d.debounce.Aligned e.debounce) {first : Outcome}
    {readings : List Reading} {i : Nat}
    (hresolves : Trace.ResolvesAt ((first, d.debounce) :: d.trace readings) (i + 1)) :
    (d.trace readings).drop i = (e.trace readings).drop i := by
  -- on the readings: the round is resolved by the first of them, or by one of the others, before
  -- which the states are aligned still
  induction readings generalizing d e first i with
  | nil => rfl
  | cons value rest ih =>
      cases i with
      | zero =>
          have hsame : d.debounce.step d.thresholds d.record value =
              e.debounce.step e.thresholds e.record value := by
            rw [h.step]
            exact haligned.step_eq hvalid hresolves.resolves
          have hrest : (d.process value).2.trace rest = (e.process value).2.trace rest :=
            (h.process value).trace_eq (congrArg Prod.snd hsame) rest
          rw [List.drop_zero, List.drop_zero, trace_cons, trace_cons, hsame, hrest]
      | succ i =>
          have hmatch := h.entriesMatch hvalid haligned value
          exact ih (d := (d.process value).2) hvalid (h.process value) hmatch.aligned hresolves.tail

variable {value : Reading} (hfar : value.within d.debounce.previous d.thresholds.change = false)
  (hfar' : value.within e.debounce.previous e.thresholds.change = false)

include hfar hfar'

/-- What the first anchor of both does to them. -/
theorem step_anchor (h : Peers d e) :
    d.debounce.step d.thresholds d.record value = d.debounce.move d.thresholds d.record value ∧
    e.debounce.step e.thresholds e.record value = e.debounce.move d.thresholds d.record value := by
  have hsame : value.within e.debounce.previous d.thresholds.change = false := by
    rw [h.thresholds]
    exact hfar'
  exact ⟨Trace.step_of_far hvalid hfar,
    (h.step e.debounce value).trans (Trace.step_of_far hvalid hsame)⟩

theorem entriesMatch_anchor (h : Peers d e) :
    Debounce.EntriesMatch (d.debounce.step d.thresholds d.record value)
      (e.debounce.step e.thresholds e.record value) := by
  rcases h.step_anchor hvalid hfar hfar' with ⟨hd, he⟩
  rcases Debounce.move_aligned d.thresholds d.record d.debounce e.debounce value with
    ⟨hreport, haligned⟩
  rw [hd, he]
  exact Debounce.entriesMatch_of_eq hreport haligned

/-- After an anchor of both, the traces are the same from where the first of them resolves a round. -/
theorem drop_trace_eq_of_anchor (h : Peers d e) {rest : List Reading} {i : Nat}
    (hresolves : Trace.ResolvesAt (d.trace (value :: rest)) i) :
    (d.trace (value :: rest)).drop i = (e.trace (value :: rest)).drop i := by
  cases i with
  | succ i =>
      have hmatch := h.entriesMatch_anchor hvalid hfar hfar'
      exact drop_trace_eq (d := (d.process value).2) hvalid (h.process value) hmatch.aligned
        hresolves
  | zero =>
      rcases h.step_anchor hvalid hfar hfar' with ⟨hd, he⟩
      -- nothing is tracked before the anchor, so it is its report that resolves the round
      have hreport : (d.debounce.move d.thresholds d.record value).1 = .noObject ∨
          (d.debounce.move d.thresholds d.record value).1 = .noMatch := by
        rcases hresolves with ⟨now, hnow, hcases⟩
        rw [trace_cons, hd] at hnow
        obtain rfl := Option.some.inj hnow
        rcases hcases with hnone | hnone | ⟨j, before, hj, -⟩
        · exact .inl hnone
        · exact .inr hnone
        · cases hj
      have hsame : d.debounce.step d.thresholds d.record value =
          e.debounce.step e.thresholds e.record value := by
        rw [hd, he]
        exact Debounce.move_eq_of_report hreport
      have hrest : (d.process value).2.trace rest = (e.process value).2.trace rest :=
        (h.process value).trace_eq (congrArg Prod.snd hsame) rest
      rw [List.drop_zero, List.drop_zero, trace_cons, trace_cons, hsame, hrest]

end Peers

/-- Two detectors with the same thresholds, slots and valid tag are fed the same readings from any
two states, and the first of the readings is an anchor for both.  At every reading they track the
same thing from the same anchor, and report an empty scale or no match at the same readings.  Where
either of them reports one of these, or tracks something else than at the reading before, the two
have the same state, and all that is said and remembered from there on is the same. -/
theorem traces_merge {d : Detector σ} {e : Detector ρ} (h : Peers d e)
    (hcalibrated : d.isCalibrated = true) {value : Reading}
    (hfar : value.within d.debounce.previous d.thresholds.change = false)
    (hfar' : value.within e.debounce.previous e.thresholds.change = false) (rest : List Reading) :
    let left := d.trace (value :: rest)
    let right := e.trace (value :: rest)
    List.Forall₂ Debounce.EntriesMatch left right ∧
      ∀ i, Trace.ResolvesAt left i ∨ Trace.ResolvesAt right i → left.drop i = right.drop i := by
  intro left right
  have hvalid : d.record.isValid = true := hcalibrated
  have hmatch := h.entriesMatch_anchor hvalid hfar hfar'
  have hrest := Peers.trace_match (d := (d.process value).2) hvalid (h.process value)
    hmatch.aligned rest
  refine ⟨.cons hmatch hrest, ?_⟩
  rintro i (hleft | hright)
  · exact h.drop_trace_eq_of_anchor hvalid hfar hfar' hleft
  -- the other way round the two detectors change places
  · have hvalid' : e.record.isValid = true := h.record.isValid.symm.trans hvalid
    exact (h.symm.drop_trace_eq_of_anchor hvalid' hfar' hfar hright).symm

/-- One detector has counted two readings of a slot, the other one starts anew.  They confirm the
slot at different readings until another slot is adopted. -/
theorem traces_merge_restarted :
    let record : Record := (Record.empty.setObject 1 ⟨0x42c80000⟩ ⟨0x40a00000⟩).stamp
    let known : Record := record.setObject 2 ⟨0x437a0000⟩ ⟨0x40a00000⟩
    let thresholds : Thresholds := ⟨Thresholds.defaultDistance, Thresholds.defaultDistance, 3⟩
    let d : Detector Unit := ⟨(), 0, thresholds, known, ⟨.candidate 1, 2, ⟨0x42c80000⟩⟩⟩
    let e : Detector Unit := ⟨(), 0, thresholds, known, .initial⟩
    let value : Reading := ⟨0x42ca0000⟩
    let rest : List Reading := [value, value, ⟨0x437a0000⟩, ⟨0x437a0000⟩, ⟨0x437a0000⟩]
    Peers d e ∧ d.isCalibrated = true ∧
      value.within d.debounce.previous d.thresholds.change = false ∧
      value.within e.debounce.previous e.thresholds.change = false ∧
      Trace.ResolvesAt (d.trace (value :: rest)) 3 ∧
      (d.trace (value :: rest)).drop 3 = (e.trace (value :: rest)).drop 3 ∧
      (d.trace (value :: rest)).map Prod.fst =
        [.noChange, .object 1, .noChange, .noChange, .noChange, .object 2] ∧
      (e.trace (value :: rest)).map Prod.fst =
        [.noChange, .noChange, .object 1, .noChange, .noChange, .object 2] := by
  intro record known thresholds d e value rest
  have hpeers : Peers d e := ⟨rfl, .refl known⟩
  have hcalibrated : d.isCalibrated = true := by decide +kernel
  have hfar : value.within d.debounce.previous d.thresholds.change = false := by decide +kernel
  have hfar' : value.within e.debounce.previous e.thresholds.change = false := by decide +kernel
  have hresolves : Trace.ResolvesAt (d.trace (value :: rest)) 3 :=
    ⟨_, rfl, .inr (.inr ⟨2, _, rfl, rfl, by decide +kernel⟩)⟩
  rcases traces_merge hpeers hcalibrated hfar hfar' rest with ⟨-, hmerged⟩
  exact ⟨hpeers, hcalibrated, hfar, hfar', hresolves, hmerged 3 (.inl hresolves),
    by decide +kernel, by decide +kernel⟩

end Detector

end SmartScale
