import SmartScale.Proofs.Detector.Operations
import SmartScale.Proofs.Detector.Persistence
import SmartScale.Proofs.RecordSlots
import SmartScale.Store.Faulty

/-!
# When a detector is calibrated

Whether the record in effect is valid is decided by the last load or save of a run alone.  A load
leaves what it answers.  A save leaves a valid record in any case: it stamps the record before it
turns to the store, and a store that then fails does not take the stamp back.

`Detector.inert_until_marked` states this law, over any store and with any failures: a detector is
inert until a load has found a record or a save has been *tried*.  A save that fails is enough,
which `Detector.save_marks_when_failing` shows.
-/

namespace SmartScale

namespace Record

variable {r : Record}

theorem not_isValid_empty : empty.isValid = false := by decide

theorem stamp_eq_self_iff : r.stamp = r ↔ r.tag = validTag := by
  constructor
  · intro h
    rw [← h]
    rfl
  · intro h
    rw [stamp, ← h]

end Record

/-- What an answer tells about the record then in effect: whether it is valid. -/
def Answer.mark? : Answer → Option Bool
  | .done => none
  | .loaded found => some found
  | .saved _ => some true

namespace Detector

variable {σ : Type} {d : Detector σ}

/-! ## A detector without a valid record -/

theorem process_of_not_isCalibrated (h : d.isCalibrated = false) (value : Reading) :
    d.process value = (.noChange, d) := by
  have hstep : d.debounce.step d.thresholds d.record value = (.noChange, d.debounce) := by
    have hinvalid : d.record.isValid = false := h
    simp [Debounce.step, hinvalid]
  rw [process_eq, hstep]

theorem isCalibrated_of_tag_eq {later : Detector σ} (h : later.record.tag = d.record.tag) :
    later.isCalibrated = d.isCalibrated :=
  Record.isValid_of_tag_eq h

variable [CalibrationStore σ]

/-! ## What a load or a save leaves -/

/-- A load leaves a valid record if it says so, and an empty one otherwise. -/
theorem load_isCalibrated (d : Detector σ) : d.load.2.isCalibrated = d.load.1 := by
  rcases hread : CalibrationStore.read d.store d.address recordLength with ⟨answer, store⟩
  cases answer with
  | error e =>
      rw [load_of_error hread]
      exact Record.not_isValid_empty
  | ok bytes =>
      rw [load_of_ok hread]
      cases hvalid : (Record.decode bytes).isValid with
      | false => exact Record.not_isValid_empty
      | true => exact hvalid

theorem save_isCalibrated (d : Detector σ) : d.save.2.isCalibrated = true := by
  rw [save_eq_stamped]
  exact Record.stamp_isValid d.record

/-! ## One operation -/

/-- What an operation answers. -/
def answer (d : Detector σ) : Operation σ → Answer
  | .load => .loaded d.load.1
  | .save => .saved d.save.1
  | _ => .done

/-- What the operations of a run answer, one after the other. -/
def answers (d : Detector σ) : List (Operation σ) → List Answer
  | [] => []
  | operation :: rest => d.answer operation :: (d.operate operation).answers rest

/-- Loads and saves leave their mark, and no other operation touches the tag. -/
theorem operate_isCalibrated (d : Detector σ) (operation : Operation σ) :
    (d.operate operation).isCalibrated = (d.answer operation).mark?.getD d.isCalibrated := by
  cases operation with
  | load => exact load_isCalibrated d
  | save => exact save_isCalibrated d
  | setObject index weight tolerance => exact isCalibrated_of_tag_eq Record.setObject_tag
  | applyObjects rows =>
      apply isCalibrated_of_tag_eq
      rw [operate, applyObjects_eq]
      exact Record.foldl_setObject_tag rows d.record
  | _ => rfl

/-! ## A whole run -/

/-- The marks that a run leaves, one for each load and each save. -/
def marks (d : Detector σ) (operations : List (Operation σ)) : List Bool :=
  (d.answers operations).filterMap Answer.mark?

theorem marks_cons (d : Detector σ) (operation : Operation σ) (rest : List (Operation σ)) :
    d.marks (operation :: rest) =
      (d.answer operation).mark?.toList ++ (d.operate operation).marks rest := by
  rw [marks, answers, List.filterMap_cons]
  cases (d.answer operation).mark? <;> rfl

/-- The last mark counts; a run that leaves none changes nothing. -/
theorem operateAll_isCalibrated (d : Detector σ) (operations : List (Operation σ)) :
    (d.operateAll operations).isCalibrated = (d.marks operations).getLastD d.isCalibrated := by
  induction operations generalizing d with
  | nil => rfl
  | cons operation rest ih =>
      -- the first mark, if there is one, is where the rest of the run starts from
      have hrest := ih (d.operate operation)
      rw [operate_isCalibrated] at hrest
      rw [marks_cons]
      cases hmark : (d.answer operation).mark? with
      | none =>
          rw [hmark] at hrest
          exact hrest
      | some mark =>
          rw [hmark] at hrest
          rw [Option.toList_some, List.singleton_append, List.getLastD_cons]
          exact hrest

/-- As long as no mark says otherwise, an uncalibrated detector says nothing and remembers
nothing. -/
theorem quiet_of_marks (hblank : d.isCalibrated = false) {operations : List (Operation σ)}
    (hmarks : ∀ mark ∈ d.marks operations, mark = false) :
    (d.operateAll operations).debounce = d.debounce ∧
      ∀ outcome ∈ d.outcomes operations, outcome = .noChange := by
  induction operations generalizing d with
  | nil => exact ⟨rfl, fun outcome hmem => by cases hmem⟩
  | cons operation rest ih =>
      rw [marks_cons] at hmarks
      have hnext : (d.operate operation).isCalibrated = false := by
        rw [operate_isCalibrated]
        cases hmark : (d.answer operation).mark? with
        | none => exact hblank
        | some mark =>
            apply hmarks
            simp [hmark]
      have hrest := ih hnext fun mark hmem => hmarks mark (List.mem_append_right _ hmem)
      rcases operation.process_or with ⟨value, rfl⟩ | hother
      · -- a reading of an uncalibrated detector leaves the detector as it is
        have hprocess := process_of_not_isCalibrated hblank value
        have hsame : d.operate (.process value) = d := congrArg Prod.snd hprocess
        rw [hsame] at hrest
        constructor
        · change ((d.operate (.process value)).operateAll rest).debounce = d.debounce
          rw [hsame]
          exact hrest.1
        · intro outcome hmem
          rw [outcomes, hprocess] at hmem
          rcases List.mem_cons.mp hmem with rfl | hlater
          · rfl
          · exact hrest.2 outcome hlater
      · constructor
        · exact hrest.1.trans (operate_debounce hother)
        · rw [outcomes_cons hother]
          exact hrest.2

/-- A detector without a valid record, used in any order over a store that may fail in any way.

* It is calibrated exactly if its last load or save was a save, successful or not, or a load that
  found a record.
* Until there is such a load or save it says nothing about any reading and remembers nothing.
* A save that fails has changed the tag of the record in effect and nothing else of the detector, so
  that the record stayed the same exactly if it had the stamp before. -/
theorem inert_until_marked (hblank : d.isCalibrated = false) (operations : List (Operation σ)) :
    let now := d.operateAll operations
    let marks := d.marks operations
    now.isCalibrated = marks.getLastD false ∧
    ((∀ mark ∈ marks, mark = false) →
      now.debounce = d.debounce ∧ ∀ outcome ∈ d.outcomes operations, outcome = .noChange) ∧
    (now.isCalibrated = false → ∀ value, now.process value = (.noChange, now)) ∧
    (∀ report, now.save.1 = .error report →
      now.save.2 = { now with store := now.save.2.store, record := now.record.stamp } ∧
      now.save.2.isCalibrated = true ∧
      (now.save.2.record = now.record ↔ now.record.tag = Record.validTag)) := by
  intro now marks
  refine ⟨?_, fun hmarks => quiet_of_marks hblank hmarks,
    fun hinert value => process_of_not_isCalibrated hinert value, fun report _ => ?_⟩
  · have hlast := operateAll_isCalibrated d operations
    rw [hblank] at hlast
    exact hlast
  · have hsave := save_eq_stamped now
    refine ⟨hsave, save_isCalibrated now, ?_⟩
    have hrecord : now.save.2.record = now.record.stamp := congrArg Detector.record hsave
    rw [hrecord]
    exact Record.stamp_eq_self_iff

/-- A load over a store that fails: nothing is said, until a save that fails as well leaves its
stamp. -/
theorem inert_until_marked_failing_load :
    let d : Detector FailingStore := Detector.new ⟨"bus fault"⟩ 0
    let operations : List (Operation FailingStore) :=
      [.setObject 1 ⟨0x42c80000⟩ ⟨0x40a00000⟩, .load, .process ⟨0x42c80000⟩]
    let now := d.operateAll operations
    d.isCalibrated = false ∧ (∀ mark ∈ d.marks operations, mark = false) ∧
      now.isCalibrated = false ∧ now.debounce = .initial ∧ now.process ⟨0⟩ = (.noChange, now) ∧
      now.save.1 = .error (saveReport "writing calibration record" (.other "bus fault")) ∧
      now.save.2.isCalibrated = true ∧ now.save.2.record ≠ now.record := by
  intro d operations now
  have hblank : d.isCalibrated = false := by decide
  have hmarks : d.marks operations = [false] := rfl
  have hfalse : ∀ mark ∈ d.marks operations, mark = false := by simp [hmarks]
  have hreport : now.save.1 =
      .error (saveReport "writing calibration record" (.other "bus fault")) := rfl
  rcases inert_until_marked hblank operations with ⟨hlast, hquiet, hinert, hsave⟩
  rw [hmarks] at hlast
  rcases hsave _ hreport with ⟨-, hstamped, hsame⟩
  refine ⟨hblank, hfalse, hlast, (hquiet hfalse).1, hinert hlast _, hreport, hstamped, ?_⟩
  intro h
  exact absurd (hsame.mp h) (by decide)

/-- Over a store that fails throughout, one save makes a detector follow what is on the scale: no
load has found a record, and no save has ended well. -/
theorem save_marks_when_failing :
    let d : Detector FailingStore := Detector.new ⟨"bus fault"⟩ 0
    let change : Operation FailingStore := .setObject 1 ⟨0x42c80000⟩ ⟨0x40a00000⟩
    let now := d.operateAll [change, .save]
    d.answers [change, .save] = [.done,
        .saved (.error (saveReport "writing calibration record" (.other "bus fault")))] ∧
      (d.operateAll [change]).isCalibrated = false ∧ now.isCalibrated = true ∧
      now.record ≠ (d.operateAll [change]).record ∧
      (now.process ⟨0x42c80000⟩).2.debounce = ⟨.candidate 1, 1, ⟨0x42c80000⟩⟩ := by
  intro d change now
  refine ⟨rfl, ?_, ?_, ?_, ?_⟩
  · decide
  · decide
  · decide
  · decide +kernel

end Detector

end SmartScale
