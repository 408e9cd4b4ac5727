import Mathlib.Data.List.Induction
import Mathlib.Data.List.Nodup
import Mathlib.Order.Bounds.Basic
import SmartScale.Proofs.Detector.Lemmas
import SmartScale.Proofs.RecordSlots
import SmartScale.Store.Memory

/-!
# Checked rows

Which rows `checkObjects` accepts, which row it finds at fault, and what rows do to a record.

* Rows are accepted exactly if they are *well formed* (`WellFormedRows`): every row is sound, and no
  two rows name the same slot.  Otherwise the row at fault ends the shortest front part of the rows
  that is not well formed.
* Any rows at all leave each slot with the pair of the last row that names it (`ObjectRow.last?`).
  Well-formed rows name no slot twice, so there their order does not matter.
-/

namespace SmartScale

/-! ## Acceptance -/

namespace ObjectRow

/-- The row names a slot that exists, and its numbers can be used. -/
structure IsSound (row : ObjectRow) : Prop where
  slot : row.slot.toNat < slotCount
  weight : row.weight.isFinite = true
  tolerance : row.tolerance.isFinite = true
  notNegative : row.tolerance.lt Reading.zero = false

theorem fault?_eq_none_iff {seen : List UInt64} {row : ObjectRow} :
    row.fault? seen = none ↔ row.IsSound ∧ row.slot ∉ seen := by
  constructor
  · intro h
    unfold fault? at h
    split at h
    · cases h
    · next hslot =>
      split at h
      · cases h
      · next hseen =>
        split at h
        · cases h
        · next hweight =>
          split at h
          · cases h
          · next htolerance =>
            have hweight : row.weight.isFinite = true := by simpa using hweight
            have htolerance : row.tolerance.isFinite = true ∧
                row.tolerance.lt Reading.zero = false := by simpa using htolerance
            exact ⟨⟨Nat.lt_of_not_le hslot, hweight, htolerance.1, htolerance.2⟩, hseen⟩
  · intro h
    rcases h with ⟨hsound, hseen⟩
    have hslot : ¬ slotCount ≤ row.slot.toNat := Nat.not_le_of_lt hsound.slot
    simp [fault?, hslot, hseen, hsound.weight, hsound.tolerance, hsound.notNegative]

end ObjectRow

theorem checkObjectsFrom_eq_ok_iff {index : Nat} {seen : List UInt64} {rows : List ObjectRow} :
    checkObjectsFrom index seen rows = .ok () ↔
      (∀ row ∈ rows, row.IsSound ∧ row.slot ∉ seen) ∧ (rows.map ObjectRow.slot).Nodup := by
  induction rows generalizing index seen with
  | nil => simp [checkObjectsFrom]
  | cons row rest ih =>
      have hrow : row.fault? seen = none ↔ row.IsSound ∧ row.slot ∉ seen :=
        ObjectRow.fault?_eq_none_iff
      rw [checkObjectsFrom]
      cases hfault : row.fault? seen with
      | some fault =>
          have hnot : ¬ (row.IsSound ∧ row.slot ∉ seen) := by
            intro h
            rw [hrow.mpr h] at hfault
            cases hfault
          simp only [reduceCtorEq, false_iff]
          intro h
          exact hnot (h.1 row List.mem_cons_self)
      | none =>
          have hgood := hrow.mp hfault
          simp only [ih, List.mem_cons, not_or, List.map_cons, List.nodup_cons, List.mem_map,
            not_exists, not_and]
          constructor
          · rintro ⟨hrest, hnodup⟩
            refine ⟨?_, fun other hother hslot => (hrest other hother).2.1 hslot, hnodup⟩
            rintro other (rfl | hother)
            · exact hgood
            · exact ⟨(hrest other hother).1, (hrest other hother).2.2⟩
          · rintro ⟨hall, hapart, hnodup⟩
            refine ⟨fun other hother => ?_, hnodup⟩
            have hother' := hall other (.inr hother)
            exact ⟨hother'.1, hapart other hother, hother'.2⟩

/-- A batch is accepted if its rows are sound and no two of them name the same slot. -/
theorem checkObjects_eq_ok_iff {rows : List ObjectRow} : checkObjects rows = .ok () ↔
    (∀ row ∈ rows, row.IsSound) ∧ (rows.map ObjectRow.slot).Nodup := by
  rw [checkObjects, checkObjectsFrom_eq_ok_iff]
  simp

/-- The rows can be accepted: each of them is sound, and no two of them name the same slot. -/
structure WellFormedRows (rows : List ObjectRow) : Prop where
  sound : ∀ row ∈ rows, row.IsSound
  distinct : (rows.map ObjectRow.slot).Nodup

theorem checkObjects_eq_ok_iff_wellFormed {rows : List ObjectRow} :
    checkObjects rows = .ok () ↔ WellFormedRows rows := by
  rw [checkObjects_eq_ok_iff]
  exact ⟨fun h => ⟨h.1, h.2⟩, fun h => ⟨h.sound, h.distinct⟩⟩

namespace WellFormedRows

variable {rows others : List ObjectRow}

theorem of_sublist (h : WellFormedRows rows) (hsub : others.Sublist rows) :
    WellFormedRows others where
  sound row hrow := h.sound row (hsub.subset hrow)
  distinct := h.distinct.sublist (hsub.map _)

theorem of_perm (h : WellFormedRows rows) (hperm : rows.Perm others) : WellFormedRows others where
  sound row hrow := h.sound row (hperm.mem_iff.mpr hrow)
  distinct := (hperm.map _).nodup_iff.mp h.distinct

end WellFormedRows

/-! ## The row at fault -/

/-- What is wrong with a row depends on the set of the slots before it. -/
theorem ObjectRow.fault?_congr {row : ObjectRow} {seen slots : List UInt64}
    (h : row.slot ∈ seen ↔ row.slot ∈ slots) : row.fault? seen = row.fault? slots := by
  simp only [fault?, h]

/-- The rows before the one at fault are accepted, and it is at fault after their slots. -/
theorem checkObjectsFrom_eq_error {index : Nat} {seen : List UInt64} {rows : List ObjectRow}
    {f : ObjectFault} (h : checkObjectsFrom index seen rows = .error f) :
    ∃ before row later, rows = before ++ row :: later ∧ f.index = index + before.length ∧
      checkObjectsFrom index seen before = .ok () ∧
      row.fault? ((before.map ObjectRow.slot).reverse ++ seen) = some f.fault := by
  induction rows generalizing index seen with
  | nil => cases h
  | cons row rest ih =>
      rw [checkObjectsFrom] at h
      cases hfault : row.fault? seen with
      | some fault =>
          rw [hfault] at h
          cases h
          exact ⟨[], row, rest, rfl, rfl, rfl, hfault⟩
      | none =>
          rw [hfault] at h
          rcases ih h with ⟨before, bad, later, rfl, hindex, haccepted, hbad⟩
          refine ⟨row :: before, bad, later, rfl, ?_, ?_, ?_⟩
          · rw [hindex, List.length_cons]
            omega
          · rw [checkObjectsFrom, hfault]
            exact haccepted
          · rw [List.map_cons, List.reverse_cons, List.append_assoc]
            exact hbad

/-- The row at fault ends the shortest front part that is not well formed, and its fault is judged by
the slots of the rows before it. -/
theorem checkObjects_eq_error {rows : List ObjectRow} {f : ObjectFault}
    (h : checkObjects rows = .error f) :
    IsLeast {i | ¬ WellFormedRows (rows.take (i + 1))} f.index ∧
      ∃ row, rows[f.index]? = some row ∧
        row.fault? ((rows.take f.index).map ObjectRow.slot) = some f.fault := by
  rcases checkObjectsFrom_eq_error h with ⟨before, row, later, rfl, hindex, haccepted, hfault⟩
  rw [Nat.zero_add] at hindex
  have hbefore : WellFormedRows before := checkObjects_eq_ok_iff_wellFormed.mp haccepted
  have hslots : row.fault? (before.map ObjectRow.slot) = some f.fault := by
    rw [← hfault]
    exact ObjectRow.fault?_congr (by simp)
  have htake : (before ++ row :: later).take f.index = before := by
    rw [hindex, List.take_left]
  refine ⟨⟨?_, ?_⟩, row, ?_, ?_⟩
  · intro hfront
    have htaken : (before ++ row :: later).take (f.index + 1) = before ++ [row] := by
      rw [hindex, List.take_length_add_append, List.take_succ_cons, List.take_zero]
    rw [htaken] at hfront
    have hnew : row.slot ∉ before.map ObjectRow.slot := by
      have hdistinct := hfront.distinct
      rw [List.map_append, List.nodup_append'] at hdistinct
      exact fun hmem => hdistinct.2.2 hmem (List.mem_singleton.mpr rfl)
    have hgood : row.fault? (before.map ObjectRow.slot) = none :=
      ObjectRow.fault?_eq_none_iff.mpr ⟨hfront.sound row (by simp), hnew⟩
    rw [hgood] at hslots
    cases hslots
  · intro i hi
    by_contra hlow
    have hshort : i + 1 ≤ before.length := by omega
    refine hi (hbefore.of_sublist ?_)
    rw [List.take_append_of_le_length hshort]
    exact List.take_sublist _ _
  · rw [hindex, List.getElem?_append_right (Nat.le_refl _), Nat.sub_self]
    rfl
  · rw [htake]
    exact hslots

/-! ## What rows do to a record -/

/-- The last row that names a slot. -/
def ObjectRow.last? (rows : List ObjectRow) (slot : Nat) : Option ObjectRow :=
  (rows.filter fun row => row.slot.toNat == slot).getLast?

namespace Record

variable {rows others : List ObjectRow} (r : Record)

/-- Each slot has the pair of the last row that names it, and its own pair if there is none. -/
theorem pairAt_foldl_setObject (rows : List ObjectRow) (slot : Fin slotCount) :
    (rows.foldl (fun r row => r.setObject row.slot.toNat row.weight row.tolerance) r).pairAt slot =
      ((ObjectRow.last? rows slot).map fun row => (row.weight, row.tolerance)).getD
        (r.pairAt slot) := by
  induction rows using List.reverseRecOn with
  | nil => rfl
  | append_singleton rows row ih =>
      rw [List.foldl_append, List.foldl_cons, List.foldl_nil, pairAt_setObject, ObjectRow.last?,
        List.filter_append, List.getLast?_append]
      by_cases hnamed : row.slot.toNat = slot.val
      · rw [if_pos hnamed, List.filter_cons_of_pos (by simpa using hnamed)]
        rfl
      · rw [if_neg hnamed, List.filter_cons_of_neg (by simpa using hnamed), ih]
        rfl

/-- A row that names no slot of a record does nothing. -/
theorem foldl_setObject_filter (rows : List ObjectRow) :
    (rows.filter fun row => row.slot.toNat < slotCount).foldl
        (fun r row => r.setObject row.slot.toNat row.weight row.tolerance) r =
      rows.foldl (fun r row => r.setObject row.slot.toNat row.weight row.tolerance) r := by
  induction rows generalizing r with
  | nil => rfl
  | cons row rest ih =>
      by_cases hslot : row.slot.toNat < slotCount
      · rw [List.filter_cons_of_pos (by simpa using hslot), List.foldl_cons, List.foldl_cons, ih]
      · rw [List.filter_cons_of_neg (by simpa using hslot), List.foldl_cons,
          setObject_of_not_lt hslot, ih]

/-- Rows that name no slot twice can be applied in any order. -/
theorem foldl_setObject_perm (hdistinct : (rows.map ObjectRow.slot).Nodup)
    (hperm : rows.Perm others) :
    rows.foldl (fun r row => r.setObject row.slot.toNat row.weight row.tolerance) r =
      others.foldl (fun r row => r.setObject row.slot.toNat row.weight row.tolerance) r := by
  refine hperm.foldl_eq' (fun row hrow other hother r => ?_) r
  by_cases hsame : row.slot.toNat = other.slot.toNat
  · -- two rows with one slot are the same row
    rw [List.inj_on_of_nodup_map hdistinct hrow hother (UInt64.toNat_inj.mp hsame)]
  · exact setObject_comm hsame

end Record

/-- Rows are checked and applied to a detector over any store.

* They are accepted exactly if they are well formed.
* If they are not, the row at fault ends the shortest front part that is not well formed; what is
  wrong with it is judged by the slots before it.
* Each slot has then the weight and the tolerance of the last row that names it, and keeps its own if
  there is none.  A row past the last slot does nothing, and nothing but the slots changes.
* Accepted rows are accepted in any order, and have the same effect in any order. -/
theorem rows_checked_and_applied {σ : Type} (rows : List ObjectRow) (d : Detector σ) :
    (checkObjects rows = .ok () ↔ WellFormedRows rows) ∧
    (∀ f, checkObjects rows = .error f →
      IsLeast {i | ¬ WellFormedRows (rows.take (i + 1))} f.index ∧
        ∃ row, rows[f.index]? = some row ∧
          row.fault? ((rows.take f.index).map ObjectRow.slot) = some f.fault) ∧
    (∀ slot : Fin slotCount, (d.applyObjects rows).record.pairAt slot =
      ((ObjectRow.last? rows slot).map fun row => (row.weight, row.tolerance)).getD
        (d.record.pairAt slot)) ∧
    d.applyObjects (rows.filter fun row => row.slot.toNat < slotCount) = d.applyObjects rows ∧
    (d.applyObjects rows).record.tag = d.record.tag ∧
    (d.applyObjects rows).record.offset = d.record.offset ∧
    d.applyObjects rows = { d with record := (d.applyObjects rows).record } ∧
    (∀ others, checkObjects rows = .ok () → rows.Perm others →
      checkObjects others = .ok () ∧ d.applyObjects others = d.applyObjects rows) := by
  refine ⟨checkObjects_eq_ok_iff_wellFormed, fun f => checkObjects_eq_error, fun slot => ?_, ?_, ?_,
    ?_, ?_, fun others haccepted hperm => ?_⟩
  · rw [Detector.applyObjects_eq]
    exact d.record.pairAt_foldl_setObject rows slot
  · rw [Detector.applyObjects_eq, Detector.applyObjects_eq, Record.foldl_setObject_filter]
  · rw [Detector.applyObjects_eq]
    exact Record.foldl_setObject_tag rows d.record
  · rw [Detector.applyObjects_eq]
    exact Record.foldl_setObject_offset rows d.record
  · rw [Detector.applyObjects_eq]
  · have hformed := checkObjects_eq_ok_iff_wellFormed.mp haccepted
    refine ⟨checkObjects_eq_ok_iff_wellFormed.mpr (hformed.of_perm hperm), ?_⟩
    rw [Detector.applyObjects_eq, Detector.applyObjects_eq,
      d.record.foldl_setObject_perm hformed.distinct hperm]

/-- Three rows, one of them with a tolerance of negative zero, are accepted in the opposite order
too.  With a fourth row that repeats a slot, the fourth is at fault. -/
theorem rows_checked_and_applied_reversed :
    let rows : List ObjectRow := [⟨2, ⟨0x437a0000⟩, ⟨0x40a00000⟩⟩, ⟨0, ⟨0x41200000⟩, ⟨0x80000000⟩⟩,
      ⟨3, ⟨0x42c80000⟩, Reading.zero⟩]
    let shared := rows ++ [⟨0, ⟨0x42c80000⟩, ⟨0x40a00000⟩⟩]
    let d : Detector MemoryStore := Detector.new (MemoryStore.new 64) 0
    checkObjects rows = .ok () ∧ rows.Perm rows.reverse ∧ checkObjects rows.reverse = .ok () ∧
      d.applyObjects rows.reverse = d.applyObjects rows ∧
      checkObjects shared = .error ⟨3, .duplicateSlot 0⟩ ∧
      IsLeast {i | ¬ WellFormedRows (shared.take (i + 1))} 3 := by
  intro rows shared d
  have haccepted : checkObjects rows = .ok () := by decide
  have hshared : checkObjects shared = .error ⟨3, .duplicateSlot 0⟩ := by decide
  have hperm : rows.Perm rows.reverse := (List.reverse_perm rows).symm
  rcases rows_checked_and_applied rows d with ⟨-, -, -, -, -, -, -, horder⟩
  rcases rows_checked_and_applied shared d with ⟨-, hfault, -⟩
  exact ⟨haccepted, hperm, (horder _ haccepted hperm).1, (horder _ haccepted hperm).2, hshared,
    (hfault _ hshared).1⟩

end SmartScale
