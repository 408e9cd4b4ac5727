import SmartScale.Proofs.Disk.Frame
import SmartScale.Proofs.Store.Image
import SmartScale.Store.File

/-!
# A store in a file, from opening to commit

What a store shows of a file that may be absent or of any size (`FileStore.view`), and what a write
and a commit then make of the file (`FileStore.commit_write`).  A store that counts as unchanged
shows its file byte for byte or has no file, so a commit that is skipped leaves the right bytes.
-/

namespace SmartScale

namespace FileStore

variable {disk : Disk} {path : String} {place draft : List String} {content : Option Image}
  {capacity : Nat}

/-- What a store shows of a file: its bytes, none if it is absent, brought to the capacity. -/
def view (content : Option Image) (capacity : Nat) : Image := (content.getD []).resize capacity

/-- The store that opens over a file, or over none. -/
def opened (disk : Disk) (path : String) (content : Option Image) (capacity : Nat) : FileStore :=
  ⟨disk, path, view content capacity, content.any fun bytes => bytes.length != capacity⟩

@[simp]
theorem length_view (content : Option Image) (capacity : Nat) :
    (view content capacity).length = capacity :=
  Image.length_resize _ capacity

theorem open?_of_holds (hheld : disk.Holds path content) (capacity : Nat) :
    open? disk path capacity = .ok (opened disk path content capacity) := by
  cases content with
  | none =>
      rw [open?, show disk.contents path = .error .noEntry from hheld]
      simp [opened, view]
  | some bytes =>
      rw [open?, show disk.contents path = .ok bytes from hheld]
      rfl

/-! ## Writing -/

/-- The store with other bytes in its cache. -/
def refill (s : FileStore) (cache : Image) : FileStore :=
  if cache = s.cache then s else { s with cache, dirty := true }

@[simp]
theorem refill_cache (s : FileStore) (cache : Image) : (s.refill cache).cache = cache := by
  by_cases h : cache = s.cache
  · rw [refill, if_pos h, h]
  · rw [refill, if_neg h]

@[simp]
theorem refill_disk (s : FileStore) (cache : Image) : (s.refill cache).disk = s.disk := by
  unfold refill
  split <;> rfl

@[simp]
theorem refill_path (s : FileStore) (cache : Image) : (s.refill cache).path = s.path := by
  unfold refill
  split <;> rfl

theorem write_eq (s : FileStore) (address : UInt64) (bytes : List UInt8) :
    CalibrationStore.write s address bytes =
      ((s.write address bytes).1.mapError .named, (s.write address bytes).2) := rfl

theorem write_of_fits {s : FileStore} {address : UInt64} {bytes : List UInt8}
    (hfits : AddressRange.fits address bytes.length s.cache.length = true) :
    s.write address bytes = (.ok (), s.refill (s.cache.patch address.toNat bytes)) := by
  rw [write, Image.write_of_fits hfits]
  rfl

/-! ## Committing -/

theorem commit_eq (s : FileStore) :
    CalibrationStore.commit s = (s.commit.1.mapError .named, s.commit.2) := rfl

theorem commit_of_clean {s : FileStore} (hclean : s.dirty = false) : s.commit = (.ok (), s) := by
  rw [commit, hclean]
  rfl

/-- A commit of changes puts the cache into the file, and does nothing else to the disk. -/
theorem commit_of_dirty {s : FileStore} (hdirty : s.dirty = true)
    (hpath : s.disk.resolve s.path = .ok place) (hdraftPath : s.disk.resolve s.draftPath = .ok draft)
    (hapart : place ≠ draft) (hfile : s.disk.node? place ≠ some .directory)
    (hdraft : s.disk.node? draft ≠ some .directory) :
    ∃ after, s.commit = (.ok (), { s with disk := after, dirty := false }) ∧
      Disk.SameApartFrom [place, draft] s.disk after ∧
      after.node? place = some (.file s.cache) := by
  rcases Disk.perform_replacing s.cache hpath hdraftPath hapart hfile hdraft with
    ⟨after, hperform, hsame, hnode⟩
  refine ⟨after, ?_, hsame, hnode⟩
  rw [commit, if_pos hdirty, commitSteps, hperform]
  rfl

/-- Bytes written to a store that has just been opened, and then committed, are in the file, and
around them what the store showed before.

Where the write changes nothing the commit may be skipped.  Over an absent file it must not be:
there the bytes have to differ from erased ones. -/
theorem commit_write {address : UInt64} {bytes : List UInt8}
    (hpath : disk.resolve path = .ok place) (hdraftPath : disk.resolve (path ++ ".tmp") = .ok draft)
    (hapart : place ≠ draft) (hnode : disk.node? place = content.map .file)
    (hdraft : disk.node? draft ≠ some .directory)
    (hnew : content = none →
      (view content capacity).patch address.toNat bytes ≠ view content capacity) :
    ∃ after, ((opened disk path content capacity).refill
        ((view content capacity).patch address.toNat bytes)).commit = (.ok (), after) ∧
      Disk.SameApartFrom [place, draft] disk after.disk ∧
      after.disk.node? place =
        some (.file ((view content capacity).patch address.toNat bytes)) := by
  let cache := (view content capacity).patch address.toNat bytes
  let store := (opened disk path content capacity).refill cache
  have hdisk : store.disk = disk := refill_disk _ _
  have hcache : store.cache = cache := refill_cache _ _
  have hstorePath : store.path = path := refill_path _ _
  have hfile : disk.node? place ≠ some .directory := by
    rw [hnode]
    cases content <;> simp
  cases hdirty : store.dirty with
  | true =>
      have hgoal : store.disk.resolve store.path = .ok place := by rw [hdisk, hstorePath, hpath]
      have hdraftGoal : store.disk.resolve store.draftPath = .ok draft := by
        rw [hdisk, draftPath, hstorePath, hdraftPath]
      rw [← hdisk] at hfile hdraft
      rcases commit_of_dirty hdirty hgoal hdraftGoal hapart hfile hdraft with
        ⟨after, hcommit, hsame, hafter⟩
      rw [hdisk] at hsame
      rw [hcache] at hafter
      exact ⟨_, hcommit, hsame, hafter⟩
  | false =>
      -- The write changed nothing and the file had the right size.
      have hequal : cache = view content capacity := by
        by_cases h : cache = view content capacity
        · exact h
        · have hchanged : store.dirty = true := by
            simp [store, refill, opened, h]
          rw [hchanged] at hdirty
          cases hdirty
      cases content with
      | none => exact absurd hequal (hnew rfl)
      | some image =>
          have hstore : store = opened disk path (some image) capacity := if_pos hequal
          have hsize : image.length = capacity := by
            rw [hstore] at hdirty
            simpa [opened] using hdirty
          have hview : view (some image) capacity = image := by
            rw [← hsize]
            exact Image.resize_length image
          refine ⟨store, commit_of_clean hdirty, ?_, ?_⟩
          · rw [hdisk]
            exact .refl _ disk
          · change store.disk.node? place = some (.file cache)
            rw [hdisk, hnode, hequal, hview]
            rfl

end FileStore

end SmartScale
