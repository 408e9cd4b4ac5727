import SmartScale.Proofs.Store.Publishing
import SmartScale.Store.Faulty
import SmartScale.Store.Memory

/-!
# What a store shows

Whatever a store does about durability, its reads and writes go to some bytes in memory.  A store
*shows* those bytes (`CalibrationStore.Shows`) if a read that succeeds gives a range of them, a write
that succeeds replaces one, and a commit leaves them alone.  Operations that fail are not bound by
anything.

The stores in memory and in files show their caches, and a line that can be made to fail shows what
the store behind it does.
-/

namespace SmartScale

structure CalibrationStore.Shows {σ : Type} [CalibrationStore σ] (shown : σ → Image) : Prop where
  read_ok : ∀ {s next : σ} {address : UInt64} {length : Nat} {bytes : List UInt8},
    CalibrationStore.read s address length = (.ok bytes, next) →
      AddressRange.fits address length (shown s).length = true ∧
        bytes = (shown s).slice address.toNat length ∧ shown next = shown s
  write_ok : ∀ {s next : σ} {address : UInt64} {bytes : List UInt8},
    CalibrationStore.write s address bytes = (.ok (), next) →
      AddressRange.fits address bytes.length (shown s).length = true ∧
        shown next = (shown s).patch address.toNat bytes
  commit_ok : ∀ {s next : σ}, CalibrationStore.commit s = (.ok (), next) → shown next = shown s

theorem mapError_eq_ok {α ε ε' : Type} {f : ε → ε'} {answer : Except ε α} {value : α}
    (h : answer.mapError f = .ok value) : answer = .ok value := by
  cases answer with
  | error e => cases h
  | ok other =>
      cases h
      rfl

theorem MemoryStore.shows_cache : CalibrationStore.Shows MemoryStore.cache where
  read_ok := by
    intro s next address length bytes h
    obtain ⟨hread, rfl⟩ := Prod.mk.inj h
    rcases Image.read_eq_ok (mapError_eq_ok hread) with ⟨hfits, hbytes⟩
    exact ⟨hfits, hbytes, rfl⟩
  write_ok := by
    intro s next address bytes h
    obtain ⟨hwrite, rfl⟩ := Prod.mk.inj h
    have hwritten := mapError_eq_ok hwrite
    unfold MemoryStore.write at hwritten ⊢
    cases hcache : s.cache.write address bytes with
    | error fault =>
        rw [hcache] at hwritten
        cases hwritten
    | ok cache => exact Image.write_eq_ok hcache
  commit_ok := by
    intro s next h
    cases h
    rfl

theorem FileStore.shows_cache : CalibrationStore.Shows FileStore.cache where
  read_ok := by
    intro s next address length bytes h
    obtain ⟨hread, rfl⟩ := Prod.mk.inj h
    rcases Image.read_eq_ok (mapError_eq_ok hread) with ⟨hfits, hbytes⟩
    exact ⟨hfits, hbytes, rfl⟩
  write_ok := by
    intro s next address bytes h
    obtain ⟨hwrite, rfl⟩ := Prod.mk.inj h
    have hwritten := mapError_eq_ok hwrite
    unfold FileStore.write at hwritten ⊢
    cases hcache : s.cache.write address bytes with
    | error fault =>
        rw [hcache] at hwritten
        cases hwritten
    | ok cache =>
        rcases Image.write_eq_ok hcache with ⟨hfits, rfl⟩
        exact ⟨hfits, FileStore.refill_cache s _⟩
  commit_ok := by
    intro s next h
    obtain ⟨hcommit, rfl⟩ := Prod.mk.inj h
    exact (FileStore.commit_eq_ok (Prod.ext (mapError_eq_ok hcommit) rfl)).2.1

/-- A line shows what the store behind it shows: where an error is set, nothing succeeds. -/
theorem FaultyStore.shows_inner {σ : Type} [CalibrationStore σ] {shown : σ → Image}
    (hshows : CalibrationStore.Shows shown) :
    CalibrationStore.Shows fun s : FaultyStore σ => shown s.inner := by
  have hpassed : ∀ {α : Type} {s next : FaultyStore σ} {error : Option DeviceError}
      {operation : σ → Except DeviceError α × σ} {value : α},
      s.guarded error operation = (.ok value, next) →
        operation s.inner = (.ok value, next.inner) := by
    intro α s next error operation value h
    cases error with
    | some e => cases (Prod.mk.inj h).1
    | none =>
        obtain ⟨hanswer, rfl⟩ := Prod.mk.inj h
        exact Prod.ext hanswer rfl
  exact {
    read_ok := fun h => hshows.read_ok (hpassed h)
    write_ok := fun h => hshows.write_ok (hpassed h)
    commit_ok := fun h => hshows.commit_ok (hpassed h) }

end SmartScale
