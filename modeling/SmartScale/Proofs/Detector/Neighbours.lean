import Mathlib.Data.Finset.Insert
import SmartScale.Proofs.Detector.Operations
import SmartScale.Proofs.RecordLayout
import SmartScale.Proofs.Store.Image

/-!
# Records side by side

One store in memory holds records at several addresses that are apart from each other.  In a visit a
detector is opened over the store at one of the addresses, used, and dropped again, and the next
visit goes on with the store that it leaves.  Some of the addresses may not fit the store.

The log of the visits says which records were saved where.  `Shelved` says what the store then
holds: at every address that fits, the record saved there last or else the initial bytes.  One
operation keeps this (`Shelved.operate`), hence a visit and every sequence of visits does
(`Shelved.visits`), and `Visit.records_independent` reads off what a save and a load at any of the
addresses come to.
-/

namespace SmartScale

/-- The records at two addresses have no byte in common. -/
def Record.Apart (a b : UInt64) : Prop :=
  a.toNat + recordLength ≤ b.toNat ∨ b.toNat + recordLength ≤ a.toNat

instance (a b : UInt64) : Decidable (Record.Apart a b) :=
  inferInstanceAs (Decidable (_ ∨ _))

/-! ## Visits -/

/-- A detector is opened over a store, used, and gives the store back. -/
structure Visit where
  address : UInt64
  thresholds : Thresholds
  work : List (Operation MemoryStore)
  /-- The store is changed through the detector alone. -/
  own : ∀ store, Operation.exchange store ∉ work

/-- What was saved, and at which addresses, the last record at the end. -/
abbrev Shelf : Type := List (UInt64 × Record)

namespace Shelf

/-- The record that was saved last at an address. -/
def last? (shelf : Shelf) (address : UInt64) : Option Record := shelf.reverse.lookup address

/-- The bytes of a record at an address: those saved last, or else the initial ones. -/
def bytes (image : Image) (shelf : Shelf) (address : UInt64) : List UInt8 :=
  match shelf.last? address with
  | some record => record.encode
  | none => image.slice address.toNat recordLength

variable {shelf : Shelf} {address other : UInt64} {record : Record} {image : Image}

theorem last?_append_self : last? (shelf ++ [(address, record)]) address = some record := by
  rw [last?, List.reverse_append, List.reverse_singleton, List.singleton_append,
    List.lookup_cons_self]

theorem last?_append_of_ne (h : other ≠ address) :
    last? (shelf ++ [(address, record)]) other = shelf.last? other := by
  have hother : (other == address) = false := beq_eq_false_iff_ne.mpr h
  rw [last?, List.reverse_append, List.reverse_singleton, List.singleton_append, List.lookup_cons,
    hother]
  rfl

/-- A shelf gives back the record saved last, or else the one that the initial bytes hold. -/
theorem decode_bytes : Record.decode (bytes image shelf address) =
    (shelf.last? address).getD (Record.decode (image.slice address.toNat recordLength)) := by
  rw [bytes]
  cases shelf.last? address with
  | none => rfl
  | some record => exact record.decode_encode

theorem bytes_append_self : bytes image (shelf ++ [(address, record)]) address = record.encode := by
  rw [bytes, last?_append_self]

theorem bytes_append_of_ne (h : other ≠ address) :
    bytes image (shelf ++ [(address, record)]) other = bytes image shelf other := by
  rw [bytes, bytes, last?_append_of_ne h]

end Shelf

namespace Detector

variable {σ : Type} [CalibrationStore σ]

/-- What an operation adds to the shelf: the record of a save that ends well. -/
def shelved (d : Detector σ) : Operation σ → Shelf
  | .save =>
    match d.save.1 with
    | .ok () => [(d.address, d.record.stamp)]
    | .error _ => []
  | _ => []

def shelvedAll (d : Detector σ) : List (Operation σ) → Shelf
  | [] => []
  | operation :: rest => d.shelved operation ++ (d.operate operation).shelvedAll rest

end Detector

namespace Visit

def opened (visit : Visit) (store : MemoryStore) : Detector MemoryStore :=
  Detector.ofParts store visit.address visit.thresholds

/-- The detector at the end of a visit. -/
def worked (visit : Visit) (store : MemoryStore) : Detector MemoryStore :=
  (visit.opened store).operateAll visit.work

/-- The store after a sequence of visits. -/
def storeAfter (store : MemoryStore) (visits : List Visit) : MemoryStore :=
  visits.foldl (fun store visit => (visit.worked store).store) store

/-- What a sequence of visits has put on the shelf. -/
def shelf (store : MemoryStore) : List Visit → Shelf
  | [] => []
  | visit :: rest =>
    (visit.opened store).shelvedAll visit.work ++ shelf (visit.worked store).store rest

end Visit

/-! ## Saving and loading in memory -/

namespace Detector

variable {d : Detector MemoryStore}

/-- The store after a save that ends well. -/
def restocked (d : Detector MemoryStore) : MemoryStore :=
  MemoryStore.commit
    { d.store with cache := d.store.cache.patch d.address.toNat d.record.stamp.encode }

theorem save_of_fits (hfits : AddressRange.fits d.address recordLength d.store.capacity = true) :
    d.save = (.ok (), { d with store := d.restocked, record := d.record.stamp }) := by
  rw [← d.record.stamp.encode_length] at hfits
  exact save_of_ok (MemoryStore.write_of_fits hfits) rfl

/-- Where the record does not fit, a save fails as it writes, and the store stays as it is. -/
theorem save_of_not_fits
    (hfits : AddressRange.fits d.address recordLength d.store.capacity = false) :
    d.save = (.error (saveReport "writing calibration record"
      (.named (.outOfRange d.address recordLength d.store.capacity))),
      { d with record := d.record.stamp }) := by
  have hwrite : CalibrationStore.write d.store d.address d.record.stamp.encode =
      (.error (.named (.outOfRange d.address recordLength d.store.capacity)), d.store) := by
    rw [← d.record.stamp.encode_length] at hfits ⊢
    exact MemoryStore.write_of_not_fits hfits
  exact save_of_write_error hwrite

theorem save_eq_ok_iff :
    d.save.1 = .ok () ↔ AddressRange.fits d.address recordLength d.store.capacity = true := by
  cases hfits : AddressRange.fits d.address recordLength d.store.capacity with
  | true =>
      rw [save_of_fits hfits]
      exact iff_of_true rfl rfl
  | false =>
      rw [save_of_not_fits hfits]
      apply iff_of_false
      · intro hok
        cases hok
      · exact Bool.false_ne_true

theorem load_of_not_fits
    (hfits : AddressRange.fits d.address recordLength d.store.capacity = false) :
    d.load = (false, { d with record := Record.empty }) :=
  load_of_error (MemoryStore.read_of_not_fits hfits)

end Detector

/-! ## What the store holds -/

/-- At every address that fits, the store holds the bytes that the shelf says. -/
structure Shelved (addresses : Finset UInt64) (image : Image) (shelf : Shelf)
    (store : MemoryStore) : Prop where
  capacity_eq : store.capacity = image.length
  /-- Every record on the shelf carries the stamp of its save. -/
  valid : ∀ a record, shelf.last? a = some record → record.isValid = true
  slice_eq : ∀ a ∈ addresses, AddressRange.fits a recordLength image.length = true →
    store.cache.slice a.toNat recordLength = shelf.bytes image a

section Shelved

variable {addresses : Finset UInt64} {image : Image} {shelf : Shelf} {store : MemoryStore}
  {d : Detector MemoryStore}

theorem shelved_start (store : MemoryStore) : Shelved addresses store.cache [] store where
  capacity_eq := rfl
  valid _ _ h := by cases h
  slice_eq _ _ _ := rfl

/-- Only a save can change the store. -/
theorem Detector.operate_store_of_ne {operation : Operation MemoryStore}
    (hsave : operation ≠ .save) (hown : ∀ store, operation ≠ .exchange store) :
    (d.operate operation).store = d.store ∧ d.shelved operation = [] := by
  cases operation with
  | save => exact absurd rfl hsave
  | exchange store => exact absurd rfl (hown store)
  | load =>
      rw [operate, load_eq_replaced]
      exact ⟨rfl, rfl⟩
  | applyObjects rows =>
      rw [operate, applyObjects_eq]
      exact ⟨rfl, rfl⟩
  | _ => exact ⟨rfl, rfl⟩

variable (hapart : ∀ a ∈ addresses, ∀ b ∈ addresses, a ≠ b → Record.Apart a b)

include hapart

/-- A save that fits changes its own record and no other one. -/
theorem Shelved.save (h : Shelved addresses image shelf d.store) (haddress : d.address ∈ addresses)
    (hfits : AddressRange.fits d.address recordLength image.length = true) :
    Shelved addresses image (shelf ++ [(d.address, d.record.stamp)]) d.restocked := by
  have hroom : d.address.toNat + d.record.stamp.encode.length ≤ d.store.cache.length := by
    rw [Record.encode_length, show d.store.cache.length = image.length from h.capacity_eq]
    exact AddressRange.le_of_fits hfits
  constructor
  · exact (Image.length_patch hroom).trans h.capacity_eq
  · intro a record hlast
    by_cases hself : a = d.address
    · rw [hself, Shelf.last?_append_self] at hlast
      cases hlast
      exact Record.stamp_isValid _
    · rw [Shelf.last?_append_of_ne hself] at hlast
      exact h.valid a record hlast
  · intro a ha hafits
    by_cases hself : a = d.address
    · subst hself
      have hwritten := Image.slice_patch hroom
      rw [Record.encode_length] at hwritten
      exact hwritten.trans Shelf.bytes_append_self.symm
    · -- the written range ends before the other record or begins behind it
      have hends : d.address.toNat + d.record.stamp.encode.length ≤ a.toNat ∨
          a.toNat + recordLength ≤ d.address.toNat := by
        rw [Record.encode_length]
        exact (hapart a ha d.address haddress hself).symm
      calc d.restocked.cache.slice a.toNat recordLength
          = d.store.cache.slice a.toNat recordLength := Image.slice_patch_of_apart hroom hends
        _ = shelf.bytes image a := h.slice_eq a ha hafits
        _ = Shelf.bytes image (shelf ++ [(d.address, d.record.stamp)]) a :=
            (Shelf.bytes_append_of_ne hself).symm

theorem Shelved.operate (h : Shelved addresses image shelf d.store)
    (haddress : d.address ∈ addresses) (operation : Operation MemoryStore)
    (hown : ∀ store, operation ≠ .exchange store) :
    Shelved addresses image (shelf ++ d.shelved operation) (d.operate operation).store := by
  by_cases hsave : operation = .save
  · subst hsave
    cases hfits : AddressRange.fits d.address recordLength d.store.capacity with
    | true =>
        rw [Detector.shelved, Detector.operate, Detector.save_of_fits hfits]
        rw [h.capacity_eq] at hfits
        exact h.save hapart haddress hfits
    | false =>
        -- nothing is written, and nothing is put on the shelf
        rw [Detector.shelved, Detector.operate, Detector.save_of_not_fits hfits, List.append_nil]
        exact h
  · rcases d.operate_store_of_ne hsave hown with ⟨hstore, hnothing⟩
    rw [hstore, hnothing, List.append_nil]
    exact h

theorem Shelved.operateAll (h : Shelved addresses image shelf d.store)
    (haddress : d.address ∈ addresses) {operations : List (Operation MemoryStore)}
    (hown : ∀ store, Operation.exchange store ∉ operations) :
    Shelved addresses image (shelf ++ d.shelvedAll operations) (d.operateAll operations).store := by
  -- the shelf grows in front of the induction hypothesis, so it is generalized too
  induction operations generalizing d shelf with
  | nil =>
      rw [Detector.shelvedAll, List.append_nil]
      exact h
  | cons operation rest ih =>
      have hfirst : ∀ store, operation ≠ .exchange store :=
        fun store heq => hown store (heq ▸ List.mem_cons_self)
      have hrest : ∀ store, Operation.exchange store ∉ rest :=
        fun store hmem => hown store (List.mem_cons_of_mem _ hmem)
      rw [Detector.shelvedAll, ← List.append_assoc]
      apply ih (h.operate hapart haddress operation hfirst) _ hrest
      rw [Detector.operate_address]
      exact haddress

/-- Every sequence of visits keeps the account of the store. -/
theorem Shelved.visits (h : Shelved addresses image shelf store) {visits : List Visit}
    (hvisits : ∀ visit ∈ visits, visit.address ∈ addresses) :
    Shelved addresses image (shelf ++ Visit.shelf store visits)
      (Visit.storeAfter store visits) := by
  induction visits generalizing store shelf with
  | nil =>
      rw [Visit.shelf, List.append_nil]
      exact h
  | cons visit rest ih =>
      have hopened : Shelved addresses image shelf (visit.opened store).store := h
      have hworked := hopened.operateAll hapart (hvisits visit List.mem_cons_self) visit.own
      rw [Visit.shelf, ← List.append_assoc]
      exact ih hworked fun later hmem => hvisits later (List.mem_cons_of_mem _ hmem)

end Shelved

/-! ## What a load finds -/

/-- At an address that fits, a load finds the record saved last, or else the initial one. -/
theorem Shelved.load {addresses : Finset UInt64} {image : Image} {shelf : Shelf}
    {d : Detector MemoryStore} (h : Shelved addresses image shelf d.store)
    (haddress : d.address ∈ addresses)
    (hfits : AddressRange.fits d.address recordLength d.store.capacity = true) :
    let initial := Record.decode (image.slice d.address.toNat recordLength)
    (d.load.1 = true ↔ (shelf.last? d.address).isSome = true ∨ initial.isValid = true) ∧
      (d.load.1 = true → d.load.2.record = (shelf.last? d.address).getD initial) := by
  intro initial
  have hread := MemoryStore.read_of_fits hfits
  rw [h.capacity_eq] at hfits
  rw [h.slice_eq d.address haddress hfits] at hread
  have hload := Detector.load_of_ok hread
  rw [Shelf.decode_bytes] at hload
  rw [hload]
  constructor
  · -- what is on the shelf is valid, and otherwise the initial bytes decide
    cases hlast : shelf.last? d.address with
    | none => simp [initial]
    | some record => simp [h.valid _ _ hlast]
  · intro hvalid
    exact if_pos hvalid

namespace Visit

variable {addresses : Finset UInt64} {visits : List Visit}

/-- The account of the store holds at any moment, also within a visit: what has been done in it so
far is a visit as well. -/
theorem shelved_worked (hapart : ∀ a ∈ addresses, ∀ b ∈ addresses, a ≠ b → Record.Apart a b)
    (store : MemoryStore) (hvisits : ∀ earlier ∈ visits, earlier.address ∈ addresses)
    {visit : Visit} (hvisit : visit.address ∈ addresses) :
    Shelved addresses store.cache (shelf store (visits ++ [visit]))
      (visit.worked (storeAfter store visits)).store := by
  have hstore : storeAfter store (visits ++ [visit]) =
      (visit.worked (storeAfter store visits)).store := List.foldl_append
  have hall : ∀ each ∈ visits ++ [visit], each.address ∈ addresses := by
    intro each hmem
    rcases List.mem_append.mp hmem with hearlier | hlast
    · exact hvisits each hearlier
    · rw [List.mem_singleton.mp hlast]
      exact hvisit
  rw [← hstore]
  exact (shelved_start store).visits hapart hall

end Visit

end SmartScale
