import SmartScale.Proofs.Store.Image

/-!
# A store in memory, byte by byte

A store in memory is used in any order: reads and writes of any range, commits, and power cycles.
What it then holds at an index is said by the actions alone, without a store:

* `MemoryStore.written?`: the byte of the last write that covers the index and lies in range, if
  there is one since the power was last off;
* `MemoryStore.durable?`: the byte at the index when the last commit was made;
* `MemoryStore.shown?`: the first of the two, and where there is none the second.

A *history* lists actions, the newest first.  `MemoryStore.Follows` ties a store to its history; every
action keeps it (`Follows.act`), hence every run does (`Follows.after`), and
`MemoryStore.follows_history` reads off what a store answers after any run.
-/

namespace SmartScale

namespace MemoryStore

/-- What can be done with a store in memory. -/
inductive Action
  | read (address : UInt64) (length : Nat)
  | write (address : UInt64) (bytes : List UInt8)
  | commit
  | powerCycle
  deriving DecidableEq

/-- Carries out an action; the answer has bytes where they are asked for. -/
def act (s : MemoryStore) : Action → Except DeviceError (List UInt8) × MemoryStore
  | .read address length => CalibrationStore.read s address length
  | .write address bytes =>
    let (answer, next) := CalibrationStore.write s address bytes
    (answer.map fun _ => [], next)
  | .commit =>
    let (answer, next) := CalibrationStore.commit s
    (answer.map fun _ => [], next)
  | .powerCycle => (.ok [], s.powerCycle)

def after (s : MemoryStore) (actions : List Action) : MemoryStore :=
  actions.foldl (fun s action => (s.act action).2) s

/-! ## What a history says -/

/-- The byte that an action writes at an index.  A write out of range writes nothing. -/
def Action.byteAt? (capacity i : Nat) : Action → Option UInt8
  | .write address bytes =>
    if address.toNat + bytes.length ≤ capacity ∧ address.toNat ≤ i then bytes[i - address.toNat]?
    else none
  | _ => none

/-- The byte of the last write at an index since the power was last off. -/
def written? (capacity i : Nat) (history : List Action) : Option UInt8 :=
  (history.takeWhile (· ≠ .powerCycle)).findSome? (Action.byteAt? capacity i)

/-- The byte at an index when the last commit was made; before the first, the byte of the image. -/
def durable? (image : Image) (i : Nat) : List Action → Option UInt8
  | [] => image[i]?
  | .commit :: earlier => (written? image.length i earlier).or (durable? image i earlier)
  | _ :: earlier => durable? image i earlier

/-- The byte that a read finds at an index. -/
def shown? (image : Image) (i : Nat) (history : List Action) : Option UInt8 :=
  (written? image.length i history).or (durable? image i history)

variable {image : Image} {history : List Action} {s : MemoryStore} {capacity i : Nat}

theorem written?_powerCycle : written? capacity i (.powerCycle :: history) = none := by
  simp [written?]

theorem written?_cons {action : Action} (h : action ≠ .powerCycle) :
    written? capacity i (action :: history) =
      (action.byteAt? capacity i).or (written? capacity i history) := by
  rw [written?, List.takeWhile_cons_of_pos (by simpa using h), List.findSome?_cons]
  cases action.byteAt? capacity i <;> rfl

theorem durable?_cons {action : Action} (h : action ≠ .commit) :
    durable? image i (action :: history) = durable? image i history := by
  cases action with
  | commit => exact absurd rfl h
  | _ => rfl

theorem shown?_powerCycle : shown? image i (.powerCycle :: history) = durable? image i history := by
  rw [shown?, written?_powerCycle, Option.none_or, durable?_cons (by simp)]

/-- A commit makes durable what is shown, and shows nothing new. -/
theorem shown?_commit : shown? image i (.commit :: history) = shown? image i history := by
  rw [shown?, written?_cons (by simp), durable?, shown?]
  cases written? image.length i history <;> rfl

theorem shown?_read (address : UInt64) (length : Nat) :
    shown? image i (.read address length :: history) = shown? image i history := by
  rw [shown?, written?_cons (by simp), durable?_cons (by simp)]
  rfl

theorem shown?_write (address : UInt64) (bytes : List UInt8) :
    shown? image i (.write address bytes :: history) =
      ((Action.write address bytes).byteAt? image.length i).or (shown? image i history) := by
  rw [shown?, written?_cons (by simp), durable?_cons (by simp), Option.or_assoc, shown?]

/-! ## Stores that follow their history -/

/-- The store holds what its history says. -/
structure Follows (image : Image) (history : List Action) (s : MemoryStore) : Prop where
  cache_length : s.cache.length = image.length
  committed_length : s.committed.length = image.length
  cache : ∀ i, s.cache[i]? = shown? image i history
  committed : ∀ i, s.committed[i]? = durable? image i history
  commits : s.commits = history.count .commit

theorem follows_ofImage (image : Image) : Follows image [] (ofImage image) where
  cache_length := rfl
  committed_length := rfl
  cache _ := rfl
  committed _ := rfl
  commits := rfl

theorem Follows.commits_cons (h : Follows image history s) {action : Action}
    (haction : action ≠ .commit) : s.commits = (action :: history).count .commit := by
  rw [List.count_cons_of_ne haction]
  exact h.commits

section Ranges

variable (himage : image.length < UInt64.size)
include himage

/-- In a capacity that is a word, a range fits when its end in natural numbers does. -/
theorem Follows.fits_iff (h : Follows image history s) {address : UInt64} {length : Nat} :
    AddressRange.fits address length s.capacity = true ↔
      address.toNat + length ≤ image.length := by
  rw [AddressRange.fits_iff, capacity, h.cache_length]
  omega

theorem Follows.not_fits (h : Follows image history s) {address : UInt64} {length : Nat}
    (hrange : ¬ address.toNat + length ≤ image.length) :
    AddressRange.fits address length s.capacity = false := by
  rw [← Bool.not_eq_true, h.fits_iff himage]
  exact hrange

theorem Follows.write (h : Follows image history s) (address : UInt64) (bytes : List UInt8) :
    Follows image (.write address bytes :: history) (s.act (.write address bytes)).2 := by
  by_cases hrange : address.toNat + bytes.length ≤ image.length
  · have hpatch : address.toNat + bytes.length ≤ s.cache.length := by
      rw [h.cache_length]
      exact hrange
    rw [act, write_of_fits ((h.fits_iff himage).mpr hrange)]
    refine ⟨?_, h.committed_length, fun i => ?_, h.committed, h.commits_cons (by simp)⟩
    · exact (Image.length_patch hpatch).trans h.cache_length
    · rw [shown?_write, ← h.cache i, Action.byteAt?]
      by_cases hlow : address.toNat ≤ i
      · rw [if_pos ⟨hrange, hlow⟩]
        by_cases hhigh : i < address.toNat + bytes.length
        · -- a covered index has the byte that was written
          have hbyte : i - address.toNat < bytes.length := by omega
          rw [Image.getElem?_patch_of_mem hpatch hlow hhigh, List.getElem?_eq_getElem hbyte]
          rfl
        · have hbeyond : bytes[i - address.toNat]? = none := List.getElem?_eq_none (by omega)
          rw [Image.getElem?_patch hpatch (.inr (by omega)), hbeyond, Option.none_or]
      · rw [if_neg (fun hboth => hlow hboth.2), Option.none_or]
        exact Image.getElem?_patch hpatch (.inl (by omega))
  · rw [act, write_of_not_fits (h.not_fits himage hrange)]
    refine ⟨h.cache_length, h.committed_length, fun i => ?_, h.committed, h.commits_cons (by simp)⟩
    -- beyond its range a write writes no byte
    rw [shown?_write, Action.byteAt?, if_neg (fun hboth => hrange hboth.1), Option.none_or]
    exact h.cache i

theorem Follows.act (h : Follows image history s) (action : Action) :
    Follows image (action :: history) (s.act action).2 := by
  cases action with
  | read address length =>
      refine ⟨h.cache_length, h.committed_length, fun i => ?_, h.committed,
        h.commits_cons (by simp)⟩
      rw [shown?_read]
      exact h.cache i
  | write address bytes => exact h.write himage address bytes
  | commit =>
      refine ⟨h.cache_length, h.cache_length, fun i => ?_, h.cache, ?_⟩
      · rw [shown?_commit]
        exact h.cache i
      · rw [List.count_cons_self, ← h.commits]
        rfl
  | powerCycle =>
      refine ⟨h.committed_length, h.committed_length, fun i => ?_, h.committed,
        h.commits_cons (by simp)⟩
      rw [shown?_powerCycle]
      exact h.committed i

theorem Follows.after (h : Follows image history s) (actions : List Action) :
    Follows image (actions.reverse ++ history) (s.after actions) := by
  induction actions generalizing s history with
  | nil => exact h
  | cons action rest ih =>
      rw [List.reverse_cons, List.append_assoc]
      exact ih (h.act himage action)

/-! ## What it answers -/

/-- A read in range finds, index by index, the bytes that the history shows. -/
theorem Follows.read (h : Follows image history s) {address : UInt64} {length : Nat}
    (hrange : address.toNat + length ≤ image.length) :
    ∃ bytes, s.act (.read address length) = (.ok bytes, s) ∧ bytes.length = length ∧
      ∀ i < length, bytes[i]? = shown? image (address.toNat + i) history := by
  refine ⟨_, read_of_fits ((h.fits_iff himage).mpr hrange), Image.length_slice ?_, ?_⟩
  · rw [h.cache_length]
    exact hrange
  · intro i hi
    rw [Image.slice, List.getElem?_take_of_lt hi, List.getElem?_drop]
    exact h.cache _

end Ranges

/-- Without a commit in between, the committed part stays as it is. -/
theorem committed_after {actions : List Action} (h : .commit ∉ actions) :
    (s.after actions).committed = s.committed := by
  induction actions generalizing s with
  | nil => rfl
  | cons action rest ih =>
      rw [List.mem_cons, not_or] at h
      have hfirst : (s.act action).2.committed = s.committed := by
        cases action with
        | commit => exact absurd rfl h.1
        | write address bytes =>
            cases hfits : AddressRange.fits address bytes.length s.capacity with
            | false => rw [act, write_of_not_fits hfits]
            | true => rw [act, write_of_fits hfits]
        | _ => rfl
      exact (ih h.2).trans hfirst

/-- A store in memory is used in any order, from any image whose size is a word.

* A read succeeds exactly if its range ends within the capacity, the sum not being cut off to a word.
  It then finds, at each index, the byte of the last write that covers the index since the power was
  last off, and where there is none the byte there when the last commit was made.  No read changes
  anything.
* A write succeeds exactly if its range ends within the capacity, and else changes nothing.
* The committed part has the bytes that the history says; it is what a read of the whole store found
  when the last commit was made, and the image before the first.
* The capacity never changes, and the commits are counted. -/
theorem follows_history {image : Image} (himage : image.length < UInt64.size)
    (actions : List Action) :
    let now := (ofImage image).after actions
    (∀ address length,
      ((∃ bytes, (now.act (.read address length)).1 = .ok bytes) ↔
        address.toNat + length ≤ image.length) ∧
      (∀ bytes, (now.act (.read address length)).1 = .ok bytes → bytes.length = length ∧
        ∀ i < length, bytes[i]? = shown? image (address.toNat + i) actions.reverse) ∧
      (now.act (.read address length)).2 = now) ∧
    (∀ address bytes,
      ((now.act (.write address bytes)).1 = .ok [] ↔
        address.toNat + bytes.length ≤ image.length) ∧
      (¬ address.toNat + bytes.length ≤ image.length →
        (now.act (.write address bytes)).2 = now)) ∧
    (∀ i, now.committed[i]? = durable? image i actions.reverse) ∧
    (.commit ∉ actions → now.committed = image) ∧
    (∀ earlier later, actions = earlier ++ .commit :: later → .commit ∉ later →
      (((ofImage image).after earlier).act (.read 0 image.length)).1 = .ok now.committed) ∧
    now.capacity = image.length ∧ now.commits = actions.count .commit := by
  intro now
  have hnow : Follows image actions.reverse now := by
    simpa using (follows_ofImage image).after himage actions
  refine ⟨fun address length => ?_, fun address bytes => ?_, hnow.committed, ?_, ?_,
    hnow.cache_length, ?_⟩
  · by_cases hrange : address.toNat + length ≤ image.length
    · rcases hnow.read himage hrange with ⟨bytes, hread, hlength, hbytes⟩
      rw [hread]
      refine ⟨⟨fun _ => hrange, fun _ => ⟨bytes, rfl⟩⟩, fun found hfound => ?_, rfl⟩
      cases hfound
      exact ⟨hlength, hbytes⟩
    · rw [act, read_of_not_fits (hnow.not_fits himage hrange)]
      refine ⟨⟨fun h => ?_, fun h => absurd h hrange⟩, fun found hfound => ?_, rfl⟩
      · rcases h with ⟨bytes, hbytes⟩
        cases hbytes
      · cases hfound
  · by_cases hrange : address.toNat + bytes.length ≤ image.length
    · rw [act, write_of_fits ((hnow.fits_iff himage).mpr hrange)]
      exact ⟨⟨fun _ => hrange, fun _ => rfl⟩, fun hout => absurd hrange hout⟩
    · rw [act, write_of_not_fits (hnow.not_fits himage hrange)]
      refine ⟨⟨fun h => ?_, fun h => absurd h hrange⟩, fun _ => rfl⟩
      cases h
  · exact committed_after
  · intro earlier later hactions hlast
    have hearlier : Follows image earlier.reverse ((ofImage image).after earlier) := by
      simpa using (follows_ofImage image).after himage earlier
    have hcommitted : now.committed = ((ofImage image).after earlier).cache := by
      have hsplit : now = (((ofImage image).after earlier).act .commit).2.after later := by
        simp only [now, hactions, MemoryStore.after, List.foldl_append, List.foldl_cons]
      rw [hsplit, committed_after hlast]
      rfl
    have hwhole : ((ofImage image).after earlier).cache.slice 0 image.length =
        ((ofImage image).after earlier).cache := by
      rw [Image.slice, List.drop_zero, List.take_of_length_le (Nat.le_of_eq hearlier.cache_length)]
    rw [act, read_of_fits ((hearlier.fits_iff himage).mpr (by simp)), hcommitted]
    exact congrArg Except.ok hwhole
  · rw [hnow.commits, List.count_reverse]

/-- Two writes overlap before a commit; a third one is lost with the power.  An empty range may begin
at the end of the store, and a range that wraps around a word is out of range. -/
theorem follows_history_overlapping :
    let image : Image := [9, 9, 9, 9]
    let actions : List Action := [.write 0 [1, 2], .write 1 [3, 4], .commit, .write 2 [5],
      .powerCycle, .write 3 [6], .write 3 [7, 8]]
    let now := (ofImage image).after actions
    image.length < UInt64.size ∧ now.committed[2]? = some 4 ∧
      (∃ bytes, (now.act (.read 1 3)).1 = .ok bytes ∧ bytes[0]? = some 3 ∧ bytes[1]? = some 4 ∧
        bytes[2]? = some 6) ∧
      (∃ bytes, (now.act (.read 4 0)).1 = .ok bytes) ∧
      ¬ (now.act (.write 18446744073709551615 [0])).1 = .ok [] := by
  intro image actions now
  have himage : image.length < UInt64.size := by decide
  rcases follows_history himage actions with ⟨hread, hwrite, hcommitted, -⟩
  rcases (hread 1 3).1.mpr (by decide) with ⟨bytes, hfound⟩
  have hbytes := ((hread 1 3).2.1 bytes hfound).2
  refine ⟨himage, (hcommitted 2).trans (by decide), ⟨bytes, hfound, ?_, ?_, ?_⟩, ?_, ?_⟩
  · exact (hbytes 0 (by decide)).trans (by decide)
  · exact (hbytes 1 (by decide)).trans (by decide)
  · exact (hbytes 2 (by decide)).trans (by decide)
  · exact (hread 4 0).1.mpr (by decide)
  · rw [(hwrite _ _).1]
    decide

end MemoryStore

end SmartScale
