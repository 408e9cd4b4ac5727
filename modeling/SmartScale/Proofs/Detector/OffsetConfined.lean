import SmartScale.Proofs.Detector.Persistence
import SmartScale.Proofs.RecordOffset

/-!
# The offset stays where it is stored

A device is used twice, in the same way but for the offsets that are set.  The offset goes into the
record in effect, from there into the bytes of the record, and back by a load.  Nothing comes of it:
what is answered, the debounce, the tag, the weights and the tolerances are the same at every step,
and the two stores differ at most in the four bytes that hold the offset.

`Device.Twins` is the relation between the two devices.  Every action keeps it and is answered the
same way (`Twins.act`), so it holds along both runs, and `Device.offset_confined` reads off what can
be seen of them.
-/

namespace SmartScale

/-! ## Images that agree but for a few bytes -/

namespace Image

structure AgreeOutside (start stop : Nat) (a b : Image) : Prop where
  length_eq : a.length = b.length
  getElem?_eq : ∀ i, i < start ∨ stop ≤ i → a[i]? = b[i]?

variable {a b : Image} {start stop address : Nat}

theorem AgreeOutside.refl (start stop : Nat) (image : Image) :
    AgreeOutside start stop image image := ⟨rfl, fun _ _ => rfl⟩

/-- Two writes of which the first bytes are the same and the others fall where nothing is said. -/
theorem AgreeOutside.patch {front x y : List UInt8} (h : AgreeOutside start stop a b)
    (hsize : x.length = y.length) (hstart : address + front.length = start)
    (hstop : start + x.length = stop) (hroom : stop ≤ a.length) :
    AgreeOutside start stop (a.patch address (front ++ x)) (b.patch address (front ++ y)) := by
  have hx : address + (front ++ x).length = stop := by
    rw [List.length_append]
    omega
  have hy : address + (front ++ y).length = stop := by
    rw [List.length_append]
    omega
  have hlength : a.length = b.length := h.length_eq
  refine ⟨?_, ?_⟩
  · rw [length_patch (by omega), length_patch (by omega), hlength]
  · intro i hi
    by_cases hinside : address ≤ i ∧ i < stop
    · -- inside the written range only the common front is asked for
      have hfront : i - address < front.length := by omega
      rw [getElem?_patch_of_mem (by omega) hinside.1 (by omega),
        getElem?_patch_of_mem (by omega) hinside.1 (by omega),
        List.getElem?_append_left hfront, List.getElem?_append_left hfront]
    · rw [getElem?_patch (by omega) (by omega), getElem?_patch (by omega) (by omega)]
      exact h.getElem?_eq i hi

theorem AgreeOutside.slice (h : AgreeOutside start stop a b) {length i : Nat}
    (hi : address + i < start) : (a.slice address length)[i]? = (b.slice address length)[i]? := by
  unfold Image.slice
  rw [List.getElem?_take, List.getElem?_take, List.getElem?_drop, List.getElem?_drop,
    h.getElem?_eq (address + i) (.inl hi)]

end Image

/-! ## Actions that differ in their offsets -/

/-- The actions are the same, or they set two offsets. -/
inductive Action.SameButOffset : Action → Action → Prop
  | same (action : Action) : SameButOffset action action
  | setOffset (x y : Reading) : SameButOffset (.setOffset x) (.setOffset y)

namespace Device

/-- What can be seen of an action: what it says and answers, and how the device stands after it. -/
structure View where
  /-- What is said about a reading. -/
  outcome : Option Outcome
  answer : Answer
  debounce : Debounce
  tag : Vector UInt8 tagLength
  weights : Vector Reading slotCount
  tolerances : Vector Reading slotCount

def view (d : Device) (action : Action) : View where
  outcome := match action with
    | .process value => some (d.process value).1
    | _ => none
  answer := (d.act action).1
  debounce := (d.act action).2.debounce
  tag := (d.act action).2.record.tag
  weights := (d.act action).2.record.weights
  tolerances := (d.act action).2.record.tolerances

def views (d : Device) : List Action → List View
  | [] => []
  | action :: rest => d.view action :: views (d.act action).2 rest

/-! ## Twins -/

/-- Two devices that agree in all but their offsets and the bytes that hold them. -/
structure Twins (d e : Device) : Prop where
  address : d.address = e.address
  thresholds : d.thresholds = e.thresholds
  debounce : d.debounce = e.debounce
  record : d.record.AlikeButOffset e.record
  commits : d.store.inner.commits = e.store.inner.commits
  cache : Image.AgreeOutside (d.address.toNat + 40) (d.address.toNat + 44)
    d.store.inner.cache e.store.inner.cache
  committed : Image.AgreeOutside (d.address.toNat + 40) (d.address.toNat + 44)
    d.store.inner.committed e.store.inner.committed

namespace Twins

variable {d e : Device}

theorem refl (d : Device) : Twins d d :=
  ⟨rfl, rfl, rfl, .refl _, rfl, .refl _ _ _, .refl _ _ _⟩

/-- The two take another record into effect and another debounce, and keep their stores. -/
theorem keep (h : Twins d e) {d' e' : Device} (hd : d'.address = d.address)
    (he : e'.address = e.address) (hthresholds : d'.thresholds = e'.thresholds)
    (hdebounce : d'.debounce = e'.debounce) (hrecord : d'.record.AlikeButOffset e'.record)
    (hdstore : d'.store.inner = d.store.inner) (hestore : e'.store.inner = e.store.inner) :
    Twins d' e' where
  address := by rw [hd, he, h.address]
  thresholds := hthresholds
  debounce := hdebounce
  record := hrecord
  commits := by rw [hdstore, hestore, h.commits]
  cache := by
    rw [hd, hdstore, hestore]
    exact h.cache
  committed := by
    rw [hd, hdstore, hestore]
    exact h.committed

/-- The record fits into both stores or into neither. -/
theorem fits_eq (h : Twins d e) :
    AddressRange.fits e.address recordLength e.store.inner.cache.length =
      AddressRange.fits d.address recordLength d.store.inner.cache.length := by
  rw [h.address, h.cache.length_eq]

theorem step_eq (h : Twins d e) (value : Reading) :
    d.debounce.step d.thresholds d.record value = e.debounce.step e.thresholds e.record value := by
  rw [h.debounce, h.thresholds, Debounce.step_congr h.record]

end Twins

/-! ## Saves without room -/

/-- A record that has no room is not written. -/
theorem act_save_of_not_fits {d : Device}
    (hout : AddressRange.fits d.address recordLength d.store.inner.cache.length = false)
    (commitFault : Option DeviceError) :
    d.act (.save none commitFault) =
      (.saved (.error (Detector.saveReport "writing calibration record"
          (.named (.outOfRange d.address recordLength d.store.inner.cache.length)))),
        { d.withFaults none none commitFault with record := d.record.stamp }) := by
  have hmemory : d.store.inner.write d.address d.record.stamp.encode =
      (.error (.outOfRange d.address recordLength d.store.inner.cache.length), d.store.inner) := by
    have hlength : d.record.stamp.encode.length = recordLength := Record.encode_length _
    rw [MemoryStore.write, Image.write_of_not_fits (by rw [hlength]; exact hout), hlength]
  have hwrite : CalibrationStore.write (d.withFaults none none commitFault).store d.address
      d.record.stamp.encode =
        (.error (.named (.outOfRange d.address recordLength d.store.inner.cache.length)),
          (d.withFaults none none commitFault).store) := by
    simp only [CalibrationStore.write, FaultyStore.guarded, withFaults, hmemory, Except.mapError]
  simp only [act, Detector.save_of_write_error hwrite]
  rfl

/-! ## Every action -/

namespace Twins

variable {d e : Device}

/-- The stamped records are written to the same place, and they differ in their last bytes alone. -/
theorem written_cache (h : Twins d e)
    (hfits : AddressRange.fits d.address recordLength d.store.inner.cache.length = true) :
    Image.AgreeOutside (d.address.toNat + 40) (d.address.toNat + 44)
      d.written.cache e.written.cache := by
  have hroom : d.address.toNat + 44 ≤ d.store.inner.cache.length := AddressRange.le_of_fits hfits
  have hfront : d.record.stamp.front = e.record.stamp.front := h.record.stamp.front
  unfold written
  rw [Record.encode_eq_front, Record.encode_eq_front, ← hfront, ← h.address]
  refine h.cache.patch ?_ ?_ ?_ hroom
  · rw [Record.encodeReading_length, Record.encodeReading_length]
  · rw [Record.length_front]
  · rw [Record.encodeReading_length]

theorem load (h : Twins d e) (readFault : Option DeviceError) :
    (d.act (.load readFault)).1 = (e.act (.load readFault)).1 ∧
      Twins (d.act (.load readFault)).2 (e.act (.load readFault)).2 := by
  cases readFault with
  | some fault =>
      rw [act_load_fault, act_load_fault]
      exact ⟨rfl, h.keep rfl rfl h.thresholds h.debounce (.refl _) rfl rfl⟩
  | none =>
      have hfits := h.fits_eq
      cases hd : AddressRange.fits d.address recordLength d.store.inner.cache.length with
      | false =>
          rw [act_load_of_not_fits hd, act_load_of_not_fits (hfits.trans hd)]
          exact ⟨rfl, h.keep rfl rfl h.thresholds h.debounce (.refl _) rfl rfl⟩
      | true =>
          -- the bytes in front of the offset are the same, so they decode to alike records
          have hbytes : ∀ i < 40, d.recordBytes[i]? = e.recordBytes[i]? := by
            intro i hi
            unfold recordBytes
            rw [← h.address]
            exact h.cache.slice (Nat.add_lt_add_left hi _)
          have halike := Record.alikeButOffset_decode hbytes
          rw [act_load_of_fits hd, act_load_of_fits (hfits.trans hd), ← halike.isValid]
          refine ⟨rfl, h.keep rfl rfl h.thresholds h.debounce ?_ rfl rfl⟩
          dsimp only
          split
          · exact halike
          · exact .refl _

theorem save (h : Twins d e) (writeFault commitFault : Option DeviceError) :
    (d.act (.save writeFault commitFault)).1 = (e.act (.save writeFault commitFault)).1 ∧
      Twins (d.act (.save writeFault commitFault)).2 (e.act (.save writeFault commitFault)).2 := by
  cases writeFault with
  | some fault =>
      rw [act_save_write_fault, act_save_write_fault]
      exact ⟨rfl, h.keep rfl rfl h.thresholds h.debounce h.record.stamp rfl rfl⟩
  | none =>
      have hfits := h.fits_eq
      cases hd : AddressRange.fits d.address recordLength d.store.inner.cache.length with
      | false =>
          rw [act_save_of_not_fits hd, act_save_of_not_fits (hfits.trans hd), h.address,
            h.cache.length_eq]
          exact ⟨rfl, h.keep rfl rfl h.thresholds h.debounce h.record.stamp rfl rfl⟩
      | true =>
          have he := hfits.trans hd
          have hcache := h.written_cache hd
          cases commitFault with
          | some fault =>
              rw [act_save_commit_fault hd, act_save_commit_fault he]
              exact ⟨rfl, h.address, h.thresholds, h.debounce, h.record.stamp, h.commits, hcache,
                h.committed⟩
          | none =>
              -- the commit copies the caches, which differ in the offset alone
              rw [act_save_ok hd, act_save_ok he]
              exact ⟨rfl, h.address, h.thresholds, h.debounce, h.record.stamp,
                congrArg (· + 1) h.commits, hcache, hcache⟩

/-- Twins answer the same and stay twins, whatever offsets they are given. -/
theorem act (h : Twins d e) {action other : Action} (hsame : action.SameButOffset other) :
    (d.act action).1 = (e.act other).1 ∧ Twins (d.act action).2 (e.act other).2 := by
  cases hsame with
  | setOffset x y =>
      exact ⟨rfl, h.keep rfl rfl h.thresholds h.debounce (h.record.setOffset x y) rfl rfl⟩
  | same action =>
      cases action with
      | process value =>
          have hdebounce : (d.process value).2.debounce = (e.process value).2.debounce :=
            congrArg Prod.snd (h.step_eq value)
          exact ⟨rfl, h.keep rfl rfl h.thresholds hdebounce h.record rfl rfl⟩
      | setObject index weight tolerance =>
          exact ⟨rfl, h.keep rfl rfl h.thresholds h.debounce (h.record.setObject _ _ _) rfl rfl⟩
      | applyObjects rows =>
          rw [Device.act, Device.act, Detector.applyObjects_eq, Detector.applyObjects_eq]
          exact ⟨rfl, h.keep rfl rfl h.thresholds h.debounce (h.record.foldl_setObject rows) rfl rfl⟩
      | setOffset offset =>
          exact ⟨rfl, h.keep rfl rfl h.thresholds h.debounce (h.record.setOffset _ _) rfl rfl⟩
      | load readFault => exact h.load readFault
      | save writeFault commitFault => exact h.save writeFault commitFault
      | powerCycle =>
          -- the caches fall back to the committed parts, which are alike
          exact ⟨rfl, h.address, h.thresholds, h.debounce, h.record, h.commits, h.committed,
            h.committed⟩
      | reopen thresholds => exact ⟨rfl, h.keep rfl rfl rfl rfl (.refl _) rfl rfl⟩

/-- What can be seen of an action is the same in both. -/
theorem view_eq (h : Twins d e) {action other : Action} (hsame : action.SameButOffset other) :
    d.view action = e.view other := by
  rcases h.act hsame with ⟨hanswer, hnext⟩
  have houtcome : (d.view action).outcome = (e.view other).outcome := by
    cases hsame with
    | setOffset x y => rfl
    | same action =>
        cases action with
        | process value => exact congrArg (fun result => some result.1) (h.step_eq value)
        | _ => rfl
  calc d.view action
      = ⟨(e.view other).outcome, (d.act action).1, (d.act action).2.debounce,
          (d.act action).2.record.tag, (d.act action).2.record.weights,
          (d.act action).2.record.tolerances⟩ := by
        rw [← houtcome]
        rfl
    _ = e.view other := by
        rw [hanswer, hnext.debounce, hnext.record.tag, hnext.record.weights,
          hnext.record.tolerances]
        rfl

theorem after (h : Twins d e) {actions others : List Action}
    (hsame : List.Forall₂ Action.SameButOffset actions others) :
    Twins (d.after actions) (e.after others) := by
  induction hsame generalizing d e with
  | nil => exact h
  | cons hfirst hrest ih => exact ih (h.act hfirst).2

theorem views_eq (h : Twins d e) {actions others : List Action}
    (hsame : List.Forall₂ Action.SameButOffset actions others) :
    d.views actions = e.views others := by
  induction hsame generalizing d e with
  | nil => rfl
  | cons hfirst hrest ih =>
      unfold views
      rw [h.view_eq hfirst, ih (h.act hfirst).2]

end Twins

/-! ## The run -/

theorem act_address (d : Device) (action : Action) : (d.act action).2.address = d.address := by
  cases action with
  | load readFault =>
      rw [act, Detector.load_eq_replaced]
      rfl
  | save writeFault commitFault =>
      rw [act, Detector.save_eq_stamped]
      rfl
  | applyObjects rows => rw [act, Detector.applyObjects_eq]
  | _ => rfl

theorem after_address (d : Device) (actions : List Action) :
    (d.after actions).address = d.address := by
  induction actions generalizing d with
  | nil => rfl
  | cons action rest ih => exact (ih _).trans (d.act_address action)

/-- A device is used in two ways that differ in the offsets alone.  At every step the same is said
and answered, and the debounce, the tag, the weights and the tolerances are the same; the caches and
the committed parts of the two stores differ at most in the four bytes that hold the offset. -/
theorem offset_confined (d : Device) {actions others : List Action}
    (hsame : List.Forall₂ Action.SameButOffset actions others) :
    d.views actions = d.views others ∧
    ∀ steps,
      let now := (d.after (actions.take steps)).store.inner
      let twin := (d.after (others.take steps)).store.inner
      now.commits = twin.commits ∧
      now.cache.length = twin.cache.length ∧ now.committed.length = twin.committed.length ∧
      ∀ i, i < d.address.toNat + 40 ∨ d.address.toNat + 44 ≤ i →
        now.cache[i]? = twin.cache[i]? ∧ now.committed[i]? = twin.committed[i]? := by
  refine ⟨(Twins.refl d).views_eq hsame, ?_⟩
  intro steps now twin
  have hsteps : List.Forall₂ Action.SameButOffset (actions.take steps) (others.take steps) :=
    List.forall₂_take steps hsame
  have htwins := (Twins.refl d).after hsteps
  have haddress := d.after_address (actions.take steps)
  refine ⟨htwins.commits, htwins.cache.length_eq, htwins.committed.length_eq, ?_⟩
  intro i hi
  rw [← haddress] at hi
  exact ⟨htwins.cache.getElem?_eq i hi, htwins.committed.getElem?_eq i hi⟩

/-- A record is saved with an offset of one and with one that is no number, and loaded by a new
detector after a power cycle: the committed parts differ, and nothing else does. -/
theorem offset_confined_no_number :
    let d : Device := Detector.new (FaultyStore.ofStore (MemoryStore.ofImage (Image.blank 64))) 8
    let actions : Reading → List Action := fun offset =>
      [.setObject 1 ⟨0x42c80000⟩ ⟨0x40a00000⟩, .setOffset offset, .save none none, .powerCycle,
        .reopen Thresholds.default, .load none, .process ⟨0x42c80000⟩]
    let now := d.after (actions ⟨0x3f800000⟩)
    let twin := d.after (actions Reading.quietNaN)
    List.Forall₂ Action.SameButOffset (actions ⟨0x3f800000⟩) (actions Reading.quietNaN) ∧
      d.views (actions ⟨0x3f800000⟩) = d.views (actions Reading.quietNaN) ∧
      now.debounce.current = .candidate 1 ∧
      now.store.inner.committed ≠ twin.store.inner.committed := by
  intro d actions now twin
  have hsame : List.Forall₂ Action.SameButOffset (actions ⟨0x3f800000⟩)
      (actions Reading.quietNaN) :=
    .cons (.same _) (.cons (.setOffset _ _) (.cons (.same _) (.cons (.same _)
      (.cons (.same _) (.cons (.same _) (.cons (.same _) .nil))))))
  rcases offset_confined d hsame with ⟨hviews, -⟩
  exact ⟨hsame, hviews, by decide +kernel, by decide +kernel⟩

end Device

end SmartScale
