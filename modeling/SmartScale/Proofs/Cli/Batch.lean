import SmartScale.Cli.Commands
import SmartScale.Proofs.ObjectRows
import SmartScale.Proofs.ObjectsTable

/-!
# Batches of objects

What an accepted batch does to a record: every slot that a row names gets the weight and the tolerance
of that row, every other slot keeps its own, and the offset is replaced if the batch has one
(`CommandContext.Batch.update`).
-/

namespace SmartScale

/-! ## What a batch does to a record -/

namespace CommandContext.Batch

/-- The row of a batch that names a slot. -/
def row? (b : Batch) (slot : Nat) : Option ObjectRow :=
  b.rows.find? fun row => row.slot.toNat == slot

/-- The record that a batch makes of another. -/
def update (b : Batch) (r : Record) : Record where
  tag := r.tag
  weights := Vector.ofFn fun slot => ((b.row? slot).map ObjectRow.weight).getD (r.pairAt slot).1
  tolerances :=
    Vector.ofFn fun slot => ((b.row? slot).map ObjectRow.tolerance).getD (r.pairAt slot).2
  offset := b.offset.getD r.offset

theorem pairAt_update (b : Batch) (r : Record) (slot : Fin slotCount) :
    (b.update r).pairAt slot =
      ((b.row? slot).map fun row => (row.weight, row.tolerance)).getD (r.pairAt slot) := by
  cases h : b.row? slot with
  | none => simp [Record.pairAt, update, h]
  | some row => simp [Record.pairAt, update, h]

/-- Where no two rows name the same slot, the first row that names it is the last one. -/
theorem row?_eq_last? {rows : List ObjectRow} (hnodup : (rows.map ObjectRow.slot).Nodup)
    (slot : Nat) : row? ⟨rows, none⟩ slot = ObjectRow.last? rows slot := by
  rw [ObjectRow.last?, List.getLast?_filter, row?]
  cases hlast : rows.reverse.find? fun row => row.slot.toNat == slot with
  | none =>
      rw [List.find?_eq_none] at hlast ⊢
      exact fun row hrow => hlast row (List.mem_reverse.mpr hrow)
  | some last =>
      have hmem : last ∈ rows := List.mem_reverse.mp (List.mem_of_find?_eq_some hlast)
      have hname : last.slot.toNat = slot := by simpa using List.find?_some hlast
      cases hfirst : rows.find? fun row => row.slot.toNat == slot with
      | none => simpa [hname] using List.find?_eq_none.mp hfirst last hmem
      | some first =>
          have hsame : first.slot.toNat = slot := by simpa using List.find?_some hfirst
          have hslot : first.slot = last.slot := UInt64.toNat_inj.mp (hsame.trans hname.symm)
          rw [List.inj_on_of_nodup_map hnodup (List.mem_of_find?_eq_some hfirst) hmem hslot]

/-- Each slot has the pair of the row that names it. -/
theorem pairAt_foldl {rows : List ObjectRow} (hnodup : (rows.map ObjectRow.slot).Nodup) (r : Record)
    (slot : Fin slotCount) :
    (rows.foldl (fun r row => r.setObject row.slot.toNat row.weight row.tolerance) r).pairAt slot =
      ((row? ⟨rows, none⟩ slot).map fun row => (row.weight, row.tolerance)).getD
        (r.pairAt slot) := by
  rw [row?_eq_last? hnodup]
  exact r.pairAt_foldl_setObject rows slot

/-- An accepted batch updates the record of a detector, and nothing else of it. -/
theorem applyBatch_eq {b : Batch} (hchecked : checkObjects b.rows = .ok ())
    (d : Detector FileStore) : applyBatch b d = { d with record := b.update d.record } := by
  have hnodup := (checkObjects_eq_ok_iff.mp hchecked).2
  have hrecord : (applyBatch b d).record = b.update d.record := by
    apply Record.eq_of_pairAt
    · rw [applyBatch, Detector.applyObjects_eq]
      cases b.offset <;> exact Record.foldl_setObject_tag _ _
    · intro slot
      have hpair := pairAt_foldl hnodup d.record slot
      rw [pairAt_update, applyBatch, Detector.applyObjects_eq]
      cases b.offset <;> exact hpair
    · rw [applyBatch, Detector.applyObjects_eq, update]
      cases b.offset with
      | none => exact Record.foldl_setObject_offset _ _
      | some offset => rfl
  rw [← hrecord, applyBatch, Detector.applyObjects_eq]
  cases b.offset <;> rfl

end CommandContext.Batch

end SmartScale
