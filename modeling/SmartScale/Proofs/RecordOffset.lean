import Mathlib.Data.List.Basic
import SmartScale.Proofs.RecordLayout
import SmartScale.Proofs.RecordSlots
import SmartScale.Detector.Debounce

/-!
# Records that differ in their offsets alone

The offset is stored with a record, and nothing else looks at it: two records that agree in all but
their offsets are valid together, match the same slots and take every reading the same way.  In the
layout the offset has the last four bytes, so such records also agree in all bytes but those, and
bytes that agree in front of those decode to such records.
-/

namespace SmartScale

namespace Record

structure AlikeButOffset (a b : Record) : Prop where
  tag : a.tag = b.tag
  weights : a.weights = b.weights
  tolerances : a.tolerances = b.tolerances

namespace AlikeButOffset

variable {a b : Record}

theorem refl (r : Record) : AlikeButOffset r r := ⟨rfl, rfl, rfl⟩

theorem symm (h : AlikeButOffset a b) : AlikeButOffset b a :=
  ⟨h.tag.symm, h.weights.symm, h.tolerances.symm⟩

theorem isValid (h : AlikeButOffset a b) : a.isValid = b.isValid := isValid_of_tag_eq h.tag

theorem matchingSlot? (h : AlikeButOffset a b) (value : Reading) :
    a.matchingSlot? value = b.matchingSlot? value := by
  -- a slot matches by its weight and its tolerance
  have hcovers : ∀ slot, a.covers slot value = b.covers slot value := by
    intro slot
    unfold covers
    rw [h.weights, h.tolerances]
  unfold Record.matchingSlot?
  simp only [hcovers]

theorem stamp (h : AlikeButOffset a b) : AlikeButOffset a.stamp b.stamp :=
  ⟨rfl, h.weights, h.tolerances⟩

theorem setOffset (h : AlikeButOffset a b) (x y : Reading) :
    AlikeButOffset { a with offset := x } { b with offset := y } :=
  ⟨h.tag, h.weights, h.tolerances⟩

theorem setObject (h : AlikeButOffset a b) (index : Nat) (weight tolerance : Reading) :
    AlikeButOffset (a.setObject index weight tolerance) (b.setObject index weight tolerance) := by
  by_cases hindex : index < slotCount
  · rw [setObject_of_lt hindex, setObject_of_lt hindex]
    refine ⟨h.tag, ?_, ?_⟩
    · exact congrArg (·.set index weight hindex) h.weights
    · exact congrArg (·.set index tolerance hindex) h.tolerances
  · unfold Record.setObject
    rw [dif_neg hindex, dif_neg hindex]
    exact h

theorem foldl_setObject (h : AlikeButOffset a b) (rows : List ObjectRow) :
    AlikeButOffset
      (rows.foldl (fun r row => r.setObject row.slot.toNat row.weight row.tolerance) a)
      (rows.foldl (fun r row => r.setObject row.slot.toNat row.weight row.tolerance) b) := by
  induction rows generalizing a b with
  | nil => exact h
  | cons row rest ih => exact ih (h.setObject _ _ _)

end AlikeButOffset

/-! ## The layout -/

/-- The layout of everything but the offset. -/
def front (r : Record) : List UInt8 :=
  r.tag.toList ++ r.weights.toList.flatMap encodeReading ++
    r.tolerances.toList.flatMap encodeReading

theorem encode_eq_front (r : Record) : r.encode = r.front ++ encodeReading r.offset := rfl

@[simp]
theorem length_front (r : Record) : r.front.length = 40 := by
  -- the offset has the last four of the 44 bytes
  have hlength := r.encode_length
  rw [encode_eq_front, List.length_append, encodeReading_length] at hlength
  exact Nat.add_right_cancel hlength

theorem AlikeButOffset.front {a b : Record} (h : AlikeButOffset a b) : a.front = b.front := by
  unfold Record.front
  rw [h.tag, h.weights, h.tolerances]

section Bytes

variable {bytes others : List UInt8}

/-- A weight depends on its four bytes alone. -/
theorem decodeReading_congr {start : Nat} (h : ∀ i < start + 4, bytes[i]? = others[i]?) :
    decodeReading bytes start = decodeReading others start := by
  have hbyte : ∀ i ∈ List.range 4, bytes.getD (start + i) 0 = others.getD (start + i) 0 := by
    intro i hi
    have hplace : start + i < start + 4 := Nat.add_lt_add_left (List.mem_range.mp hi) start
    rw [List.getD_eq_getElem?_getD, List.getD_eq_getElem?_getD, h _ hplace]
  -- the word is folded from the last byte on, and each step sees one of the bytes
  have hword : ∀ i ∈ List.range 4, ∀ n : Nat,
      (bytes.getD (start + i) 0).toNat + (n <<< 8) =
        (others.getD (start + i) 0).toNat + (n <<< 8) := by
    intro i hi n
    rw [hbyte i hi]
  exact congrArg (fun n => Reading.mk (UInt32.ofNat n)) (List.foldr_ext _ _ 0 hword)

/-- Bytes that agree in front of the offset decode to records that do. -/
theorem alikeButOffset_decode (h : ∀ i < 40, bytes[i]? = others[i]?) :
    AlikeButOffset (decode bytes) (decode others) where
  tag := by
    refine Vector.ext fun i hi => ?_
    have hlow : i < 40 := Nat.lt_trans hi (by decide)
    simp [decode, h i hlow]
  weights := by
    refine Vector.ext fun i hi => ?_
    have hrow : i < 4 := hi
    have hweight : decodeReading bytes (tagLength + 4 * i) =
        decodeReading others (tagLength + 4 * i) := by
      apply decodeReading_congr
      intro j hj
      exact h j (by simp only [tagLength] at hj; omega)
    simpa [decode] using hweight
  tolerances := by
    refine Vector.ext fun i hi => ?_
    have hrow : i < 4 := hi
    have htolerance : decodeReading bytes (tagLength + 4 * (slotCount + i)) =
        decodeReading others (tagLength + 4 * (slotCount + i)) := by
      apply decodeReading_congr
      intro j hj
      exact h j (by simp only [tagLength, slotCount] at hj; omega)
    simpa [decode] using htolerance

end Bytes

end Record

/-! ## Readings -/

namespace Debounce

/-- What is made of a reading does not depend on the offset. -/
theorem step_congr {a b : Record} (h : a.AlikeButOffset b) (t : Thresholds) (state : Debounce)
    (value : Reading) : step t a state value = step t b state value := by
  unfold step move
  rw [h.isValid, h.matchingSlot?]

end Debounce

end SmartScale
