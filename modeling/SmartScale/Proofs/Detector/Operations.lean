import SmartScale.Proofs.Detector.Lemmas

/-!
# A detector in use

Everything that can be done with a detector, in any order: readings, changes to the record, loads
and saves.  The store is any store at all, and between two operations it may become any other one:
with other contents, or with calls that fail.

This file defines

* `Debounce.Transition`: the seven things that one reading can do to the debounce;
* `Detector.Built`: the ways in which a detector comes into being;
* `Detector.operateAll` and `Detector.outcomes`: the detector after a run of operations, and what
  was said about the readings in it.

Only readings touch the debounce (`operate_debounce`), and nothing touches the thresholds.
-/

namespace SmartScale

/-! ## What a reading can do -/

namespace Debounce

/-- What is said about a reading, together with the state that it leads to. -/
inductive Transition (t : Thresholds) (state : Debounce) (value : Reading) :
    Outcome × Debounce → Prop
  | quiet : Transition t state value (.noChange, state)
  | count {slot : Nat} (hcurrent : state.current = .candidate slot)
      (hopen : state.stableCount + 1 < t.samples) :
      Transition t state value (.noChange, { state with stableCount := state.stableCount + 1 })
  | confirm {slot : Nat} (hcurrent : state.current = .candidate slot)
      (hfull : t.samples ≤ state.stableCount + 1) :
      Transition t state value (.object slot, { state with stableCount := 0 })
  | clear : Transition t state value (.noObject, ⟨.noObject, 0, value⟩)
  | miss : Transition t state value (.noMatch, ⟨.noMatch, 0, value⟩)
  | follow {slot : Nat} (hcurrent : state.current = .candidate slot) :
      Transition t state value (.noChange, { state with previous := value })
  | adopt {slot : Nat} (hslot : slot < slotCount) :
      Transition t state value (.noChange, ⟨.candidate slot, 1, value⟩)

variable {t : Thresholds} {state : Debounce} {value : Reading}

theorem settle_transition : Transition t state value (settle t state) := by
  cases hcurrent : state.current with
  | candidate slot =>
      by_cases hfull : t.samples ≤ state.stableCount + 1
      · have hsettle : settle t state = (.object slot, { state with stableCount := 0 }) := by
          simp [settle, hcurrent, hfull]
        rw [hsettle]
        exact .confirm hcurrent hfull
      · have hsettle : settle t state =
            (.noChange, { state with stableCount := state.stableCount + 1 }) := by
          simp [settle, hcurrent, hfull]
        rw [hsettle]
        exact .count hcurrent (UInt32.not_le.mp hfull)
  | _ =>
      have hsettle : settle t state = (.noChange, state) := by
        simp [settle, hcurrent]
      rw [hsettle]
      exact .quiet

theorem move_transition (record : Record) :
    Transition t state value (move t record state value) := by
  unfold move
  split
  · exact .clear
  · cases hmatch : record.matchingSlot? value with
    | none => exact .miss
    | some slot =>
        dsimp only
        split
        · next hcurrent => exact .follow hcurrent
        · exact .adopt (Record.matchingSlot?_lt hmatch)

/-- Whatever the record, valid or not, a reading makes one of the transitions. -/
theorem step_transition (record : Record) :
    Transition t state value (step t record state value) := by
  unfold step
  split
  · -- an invalid record reports nothing
    exact .quiet
  · split
    · exact settle_transition
    · exact move_transition record

end Debounce

/-! ## Operations -/

/-- What can be done with a detector over a store. -/
inductive Operation (σ : Type)
  | process (value : Reading)
  | setObject (index : Nat) (weight tolerance : Reading)
  | applyObjects (rows : List ObjectRow)
  | setOffset (offset : Reading)
  | load
  | save
  /-- The store becomes another one behind the detector's back. -/
  | exchange (store : σ)

def Operation.isProcess {σ : Type} : Operation σ → Bool
  | .process _ => true
  | _ => false

theorem Operation.process_or {σ : Type} (operation : Operation σ) :
    (∃ value, operation = .process value) ∨ operation.isProcess = false := by
  cases operation with
  | process value => exact Or.inl ⟨value, rfl⟩
  | _ => exact Or.inr rfl

namespace Detector

variable {σ : Type} [CalibrationStore σ]

/-- A detector as it comes into being. -/
inductive Built : Detector σ → Prop
  | new (store : σ) (address : UInt64) : Built (Detector.new store address)
  | build {store : σ} {address : UInt64} {thresholds : Thresholds} {d : Detector σ} :
      Detector.build store address thresholds = .ok d → Built d
  | open? {store : σ} {address : UInt64} {thresholds : Thresholds} {load : Bool}
      {d : Detector σ} : Detector.open? store address thresholds load = .ok d → Built d

/-- The detector after an operation, whether or not the store does its part. -/
def operate (d : Detector σ) : Operation σ → Detector σ
  | .process value => (d.process value).2
  | .setObject index weight tolerance => d.setObject index weight tolerance
  | .applyObjects rows => d.applyObjects rows
  | .setOffset offset => d.setOffset offset
  | .load => d.load.2
  | .save => d.save.2
  | .exchange store => { d with store }

def operateAll (d : Detector σ) (operations : List (Operation σ)) : Detector σ :=
  operations.foldl operate d

/-- What is said about the readings of a run, one outcome for each of them. -/
def outcomes (d : Detector σ) : List (Operation σ) → List Outcome
  | [] => []
  | .process value :: rest => (d.process value).1 :: (d.process value).2.outcomes rest
  | operation :: rest => (d.operate operation).outcomes rest

variable {d : Detector σ}

omit [CalibrationStore σ] in
theorem process_transition (d : Detector σ) (value : Reading) :
    Debounce.Transition d.thresholds d.debounce value
      ((d.process value).1, (d.process value).2.debounce) :=
  Debounce.step_transition d.record

theorem outcomes_cons {operation : Operation σ} (h : operation.isProcess = false)
    (rest : List (Operation σ)) :
    d.outcomes (operation :: rest) = (d.operate operation).outcomes rest := by
  cases operation with
  | process value => cases h
  | _ => rfl

theorem length_outcomes (d : Detector σ) (operations : List (Operation σ)) :
    (d.outcomes operations).length = operations.countP Operation.isProcess := by
  induction operations generalizing d with
  | nil => rfl
  | cons operation rest ih =>
      cases operation with
      | process value =>
          rw [List.countP_cons_of_pos rfl]
          exact congrArg (· + 1) (ih (d.process value).2)
      | _ =>
          rw [List.countP_cons_of_neg Bool.false_ne_true]
          exact ih _

/-! ## What operations leave alone -/

theorem load_debounce (d : Detector σ) :
    d.load.2.debounce = d.debounce ∧ d.load.2.thresholds = d.thresholds := by
  rw [load_eq_replaced]
  exact ⟨rfl, rfl⟩

theorem save_debounce (d : Detector σ) :
    d.save.2.debounce = d.debounce ∧ d.save.2.thresholds = d.thresholds := by
  rw [save_eq_stamped]
  exact ⟨rfl, rfl⟩

@[simp]
theorem operate_thresholds (d : Detector σ) (operation : Operation σ) :
    (d.operate operation).thresholds = d.thresholds := by
  cases operation with
  | load => exact (load_debounce d).2
  | save => exact (save_debounce d).2
  | applyObjects rows => rw [operate, applyObjects_eq]
  | _ => rfl

@[simp]
theorem operate_address (d : Detector σ) (operation : Operation σ) :
    (d.operate operation).address = d.address := by
  cases operation with
  | load => rw [operate, load_eq_replaced]
  | save => rw [operate, save_eq_stamped]
  | applyObjects rows => rw [operate, applyObjects_eq]
  | _ => rfl

theorem operate_debounce {operation : Operation σ} (h : operation.isProcess = false) :
    (d.operate operation).debounce = d.debounce := by
  cases operation with
  | process value => cases h
  | load => exact (load_debounce d).1
  | save => exact (save_debounce d).1
  | applyObjects rows => rw [operate, applyObjects_eq]
  | _ => rfl

@[simp]
theorem operateAll_thresholds (d : Detector σ) (operations : List (Operation σ)) :
    (d.operateAll operations).thresholds = d.thresholds := by
  induction operations generalizing d with
  | nil => rfl
  | cons operation rest ih => exact (ih _).trans (operate_thresholds d operation)

@[simp]
theorem operateAll_address (d : Detector σ) (operations : List (Operation σ)) :
    (d.operateAll operations).address = d.address := by
  induction operations generalizing d with
  | nil => rfl
  | cons operation rest ih => exact (ih _).trans (operate_address d operation)

/-! ## Detectors as they come into being -/

omit [CalibrationStore σ] in
theorem check_of_build {store : σ} {address : UInt64} {thresholds : Thresholds}
    (h : build store address thresholds = .ok d) :
    thresholds.check = .ok () ∧ d = ofParts store address thresholds := by
  unfold build at h
  cases hcheck : thresholds.check with
  | error e =>
      rw [hcheck] at h
      cases h
  | ok _ =>
      rw [hcheck] at h
      cases h
      exact ⟨rfl, rfl⟩

/-- A detector starts with an empty scale and with thresholds that have been checked. -/
theorem Built.start (h : Built d) :
    d.thresholds.check = .ok () ∧ d.debounce = .initial := by
  cases h with
  | new store address => exact ⟨rfl, rfl⟩
  | build hbuild =>
      rcases check_of_build hbuild with ⟨hcheck, rfl⟩
      exact ⟨hcheck, rfl⟩
  | @open? store address thresholds load _ hopen =>
      unfold Detector.open? at hopen
      cases hbuild : Detector.build store address thresholds with
      | error e =>
          rw [hbuild] at hopen
          cases hopen
      | ok built =>
          rcases check_of_build hbuild with ⟨hcheck, rfl⟩
          rw [hbuild] at hopen
          cases hopen
          cases load with
          | false => exact ⟨hcheck, rfl⟩
          | true =>
              -- loading changes the record, and perhaps the store, and nothing else
              rcases load_debounce (ofParts store address thresholds) with ⟨hdebounce, hthresholds⟩
              refine ⟨?_, hdebounce⟩
              rw [← hcheck]
              exact congrArg Thresholds.check hthresholds

end Detector

end SmartScale
