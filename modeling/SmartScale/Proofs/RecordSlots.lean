import SmartScale.Objects
import SmartScale.Record

/-!
# The slots of a record

Setting a slot changes its weight and its tolerance (`Record.pairAt`) and leaves the other slots,
the tag and the offset alone.  The tag alone says whether a record is valid.
-/

namespace SmartScale

namespace Record

variable {r : Record} {index : Nat} {weight tolerance : Reading}

theorem isValid_of_tag_eq {a b : Record} (h : a.tag = b.tag) : a.isValid = b.isValid := by
  rw [isValid, isValid, h]

/-- Weight and tolerance of a slot. -/
def pairAt (r : Record) (slot : Fin slotCount) : Reading × Reading :=
  have hslot := slot.isLt
  (r.weights[slot], r.tolerances[slot])

theorem setObject_of_lt (h : index < slotCount) :
    r.setObject index weight tolerance =
      { r with
        weights := r.weights.set index weight
        tolerances := r.tolerances.set index tolerance } :=
  dif_pos h

@[simp]
theorem setObject_tag : (r.setObject index weight tolerance).tag = r.tag := by
  unfold setObject
  split <;> rfl

@[simp]
theorem setObject_offset : (r.setObject index weight tolerance).offset = r.offset := by
  unfold setObject
  split <;> rfl

theorem setObject_of_not_lt (h : ¬ index < slotCount) : r.setObject index weight tolerance = r :=
  dif_neg h

theorem pairAt_setObject (slot : Fin slotCount) :
    (r.setObject index weight tolerance).pairAt slot =
      if index = slot.val then (weight, tolerance) else r.pairAt slot := by
  by_cases h : index < slotCount
  · rw [setObject_of_lt h]
    by_cases hslot : index = slot.val
    · simp [pairAt, hslot]
    · simp [pairAt, hslot]
  · -- an index past the last slot is no slot's
    have hslot : index ≠ slot.val := by
      intro heq
      exact h (heq ▸ slot.isLt)
    rw [setObject_of_not_lt h, if_neg hslot]

/-- Records are told apart by their tags, their slots and their offsets. -/
theorem eq_of_pairAt {a b : Record} (htag : a.tag = b.tag)
    (hpair : ∀ slot, a.pairAt slot = b.pairAt slot) (hoffset : a.offset = b.offset) : a = b := by
  have hweights : a.weights = b.weights :=
    Vector.ext fun i hi => congrArg Prod.fst (hpair ⟨i, hi⟩)
  have htolerances : a.tolerances = b.tolerances :=
    Vector.ext fun i hi => congrArg Prod.snd (hpair ⟨i, hi⟩)
  cases a
  cases b
  simp_all

/-- Two slots can be set in either order. -/
theorem setObject_comm {other : Nat} {weight' tolerance' : Reading} (h : index ≠ other) :
    (r.setObject index weight tolerance).setObject other weight' tolerance' =
      (r.setObject other weight' tolerance').setObject index weight tolerance := by
  apply eq_of_pairAt
  · simp
  · intro slot
    simp only [pairAt_setObject]
    by_cases hslot : index = slot.val
    · have hother : other ≠ slot.val := fun heq => h (hslot.trans heq.symm)
      rw [if_neg hother, if_pos hslot, if_pos hslot]
    · rw [if_neg hslot, if_neg hslot]
  · simp

/-! ## Rows -/

theorem foldl_setObject_tag (rows : List ObjectRow) (r : Record) :
    (rows.foldl (fun r row => r.setObject row.slot.toNat row.weight row.tolerance) r).tag =
      r.tag := by
  induction rows generalizing r with
  | nil => rfl
  | cons row rest ih => rw [List.foldl_cons, ih, setObject_tag]

theorem foldl_setObject_offset (rows : List ObjectRow) (r : Record) :
    (rows.foldl (fun r row => r.setObject row.slot.toNat row.weight row.tolerance) r).offset =
      r.offset := by
  induction rows generalizing r with
  | nil => rfl
  | cons row rest ih => rw [List.foldl_cons, ih, setObject_offset]

end Record

end SmartScale
