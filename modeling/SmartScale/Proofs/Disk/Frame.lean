import SmartScale.Disk.Basic

/-!
# What a change to a disk leaves alone

A node that is put at one place changes no other place.  A path is followed through directories
alone, so on two disks with the same directories a path leads to the same place, if it leads
anywhere (`SameApartFrom.resolve_eq_ok_iff`).  The steps that replace a file change the place of the
file and that of its draft, and no directory (`perform_replacing`).
-/

namespace SmartScale

namespace Disk

variable {disk : Disk} {place other : List String} {node : Node} {path : String}

/-! ## Single places -/

/-- The way down to the working directory consists of directories. -/
theorem not_isPrefixOf (h : disk.node? place ≠ some .directory) :
    place.isPrefixOf disk.workingDirectory = false := by
  cases hway : place.isPrefixOf disk.workingDirectory with
  | false => rfl
  | true => exact absurd (if_pos hway) h

theorem node?_erase_of_ne (h : other ≠ place) :
    (disk.erase place).node? other = disk.node? other := by
  have hentry : ∀ entry : List String × Node,
      (entry.1 != place && entry.1 == other) = (entry.1 == other) := by
    intro entry
    cases hname : entry.1 == other with
    | false => exact Bool.and_false _
    | true =>
        have hother : entry.1 = other := by simpa using hname
        simpa [hother] using h
  simp only [node?, erase, List.find?_filter, Bool.decide_and, Bool.decide_eq_true, hentry]

theorem node?_erase_self (h : disk.node? place ≠ some .directory) :
    (disk.erase place).node? place = none := by
  have hway := not_isPrefixOf h
  have hgone : (disk.erase place).entries.find? (fun entry => entry.1 == place) = none := by
    rw [List.find?_eq_none]
    intro entry hentry hname
    have hkept := (List.mem_filter.mp hentry).2
    simp_all
  rw [node?, hgone]
  simp [erase, hway]

theorem node?_put_of_ne (h : other ≠ place) :
    (disk.put place node).node? other = disk.node? other := by
  have hfirst : (place == other) = false := by simpa using Ne.symm h
  have hrest : (disk.erase place).node? other = disk.node? other := node?_erase_of_ne h
  simpa [node?, put, hfirst, erase] using hrest

theorem node?_put_self (h : disk.node? place ≠ some .directory) :
    (disk.put place node).node? place = some node := by
  have hway := not_isPrefixOf h
  simp [node?, put, hway]

theorem not_follow_of_ne_directory (h : disk.node? place ≠ some .directory) (name : String)
    (rest : List String) (goal : List String) : disk.follow place (name :: rest) ≠ .ok goal := by
  rw [follow]
  split
  · simp
  · simp
  · contradiction

/-! ## Disks that differ at some places -/

/-- Two disks have the same directories, and the same nodes except at some places. -/
structure SameApartFrom (places : List (List String)) (a b : Disk) : Prop where
  workingDirectory : b.workingDirectory = a.workingDirectory
  directory : ∀ place, b.node? place = some .directory ↔ a.node? place = some .directory
  node : ∀ place, place ∉ places → b.node? place = a.node? place

namespace SameApartFrom

variable {places : List (List String)} {a b c : Disk}

theorem refl (places : List (List String)) (a : Disk) : SameApartFrom places a a :=
  ⟨rfl, fun _ => Iff.rfl, fun _ _ => rfl⟩

theorem trans (hab : SameApartFrom places a b) (hbc : SameApartFrom places b c) :
    SameApartFrom places a c where
  workingDirectory := hbc.workingDirectory.trans hab.workingDirectory
  directory place := (hbc.directory place).trans (hab.directory place)
  node place hplace := (hbc.node place hplace).trans (hab.node place hplace)

theorem mono {more : List (List String)} (hsub : ∀ place ∈ places, place ∈ more)
    (h : SameApartFrom places a b) : SameApartFrom more a b where
  workingDirectory := h.workingDirectory
  directory := h.directory
  node place hplace := h.node place fun hmem => hplace (hsub place hmem)

theorem put_file (hplace : place ∈ places) (hfile : a.node? place ≠ some .directory)
    (bytes : Image) : SameApartFrom places a (a.put place (.file bytes)) where
  workingDirectory := rfl
  directory other := by
    by_cases h : other = place
    · subst h
      simp [node?_put_self hfile, hfile]
    · rw [node?_put_of_ne h]
  node other hother := node?_put_of_ne fun h => hother (h ▸ hplace)

theorem erase_file (hplace : place ∈ places) (hfile : a.node? place ≠ some .directory) :
    SameApartFrom places a (a.erase place) where
  workingDirectory := rfl
  directory other := by
    by_cases h : other = place
    · subst h
      simp [node?_erase_self hfile, hfile]
    · rw [node?_erase_of_ne h]
  node other hother := node?_erase_of_ne fun h => hother (h ▸ hplace)

/-- Names lead to the same place, because they are followed through directories alone. -/
theorem follow_eq_ok_iff (h : SameApartFrom places a b) (names : List String)
    (start goal : List String) : b.follow start names = .ok goal ↔ a.follow start names = .ok goal := by
  induction names generalizing start with
  | nil => exact Iff.rfl
  | cons name rest ih =>
      by_cases ha : a.node? start = some .directory
      · have hb : b.node? start = some .directory := (h.directory start).mpr ha
        simp only [follow, ha, hb]
        split
        · exact ih start
        · split
          · exact ih start.dropLast
          · split
            · exact Iff.rfl
            · exact ih (start ++ [name])
      · -- Away from directories both refuse, though perhaps for different reasons.
        have hb : b.node? start ≠ some .directory := fun hb => ha ((h.directory start).mp hb)
        have hrefusedA := not_follow_of_ne_directory ha name rest goal
        have hrefusedB := not_follow_of_ne_directory hb name rest goal
        exact ⟨fun hgoal => absurd hgoal hrefusedB, fun hgoal => absurd hgoal hrefusedA⟩

/-- A path leads to the same place. -/
theorem resolve_eq_ok_iff (h : SameApartFrom places a b) (path : String) (goal : List String) :
    b.resolve path = .ok goal ↔ a.resolve path = .ok goal := by
  have hstart : b.start path = a.start path := by rw [start, start, h.workingDirectory]
  unfold resolve
  rw [hstart]
  split
  · simp
  · split
    · simp
    · exact h.follow_eq_ok_iff _ _ goal

/-- With the same nodes everywhere, a path also fails for the same reason. -/
theorem resolve_eq (h : SameApartFrom [] a b) (path : String) : b.resolve path = a.resolve path := by
  have hnode : ∀ place, b.node? place = a.node? place := fun place => h.node place (by simp)
  have hfollow : ∀ (names start : List String), b.follow start names = a.follow start names := by
    intro names
    induction names with
    | nil =>
        intro start
        rfl
    | cons name rest ih =>
        intro start
        simp only [follow, hnode, ih]
  rw [resolve, resolve, start, start, h.workingDirectory, hfollow]

/-- A path that does not lead to one of the places leads to the same node. -/
theorem lookup_eq_ok_iff (h : SameApartFrom places a b)
    (hapart : ∀ place, a.resolve path = .ok place → place ∉ places) (node : Node) :
    b.lookup path = .ok node ↔ a.lookup path = .ok node := by
  have hresolve := h.resolve_eq_ok_iff path
  cases ha : a.resolve path with
  | ok place =>
      have hb : b.resolve path = .ok place := (hresolve place).mpr ha
      rw [lookup, lookup, ha, hb]
      dsimp only
      rw [h.node place (hapart place ha)]
  | error e =>
      cases hb : b.resolve path with
      | ok place =>
          rw [(hresolve place).mp hb] at ha
          cases ha
      | error e' => simp [lookup, ha, hb]

end SameApartFrom

theorem contents_eq_ok_iff {bytes : Image} :
    disk.contents path = .ok bytes ↔ disk.lookup path = .ok (.file bytes) := by
  unfold contents
  split <;> simp_all

theorem lookup_of_resolve (hpath : disk.resolve path = .ok place)
    (hnode : disk.node? place = some node) : disk.lookup path = .ok node := by
  simp only [lookup, hpath, hnode]

theorem contents_of_resolve {bytes : Image} (hpath : disk.resolve path = .ok place)
    (hfile : disk.node? place = some (.file bytes)) : disk.contents path = .ok bytes :=
  contents_eq_ok_iff.mpr (lookup_of_resolve hpath hfile)

/-! ## What a path holds -/

/-- What is at a path: a file with its bytes, or nothing. -/
def Holds (disk : Disk) (path : String) : Option Image → Prop
  | some bytes => disk.contents path = .ok bytes
  | none => disk.contents path = .error .noEntry

theorem holds_iff_of_resolve {content : Option Image} (hpath : disk.resolve path = .ok place) :
    disk.Holds path content ↔ disk.node? place = content.map .file := by
  cases content with
  | none =>
      simp only [Holds, contents, lookup, hpath, Option.map_none]
      cases disk.node? place with
      | none => simp
      | some node => cases node <;> simp
  | some bytes =>
      simp only [Holds, contents, lookup, hpath, Option.map_some]
      cases disk.node? place with
      | none => simp
      | some node => cases node <;> simp

/-- A path that leads nowhere holds nothing. -/
theorem Holds.place_or_nowhere {content : Option Image} (h : disk.Holds path content) :
    (∃ place, disk.resolve path = .ok place ∧ disk.node? place = content.map .file) ∨
      (disk.resolve path = .error .noEntry ∧ content = none) := by
  cases hpath : disk.resolve path with
  | ok place => exact Or.inl ⟨place, rfl, (holds_iff_of_resolve hpath).mp h⟩
  | error e =>
      have hcontents : disk.contents path = .error e := by simp [contents, lookup, hpath]
      cases content with
      | none =>
          rw [Holds, hcontents] at h
          cases h
          exact Or.inr ⟨rfl, rfl⟩
      | some bytes =>
          rw [Holds, hcontents] at h
          cases h

theorem holds_put (hpath : disk.resolve path = .ok place)
    (hfile : disk.node? place ≠ some .directory) (bytes : Image) :
    (disk.put place (.file bytes)).Holds path (some bytes) := by
  have hsame : SameApartFrom [place] disk (disk.put place (.file bytes)) :=
    .put_file (by simp) hfile bytes
  have hafter : (disk.put place (.file bytes)).resolve path = .ok place :=
    (hsame.resolve_eq_ok_iff path place).mpr hpath
  exact contents_of_resolve hafter (node?_put_self hfile)

/-! ## Replacing a file -/

theorem create_of_resolve (hpath : disk.resolve path = .ok place)
    (hfile : disk.node? place ≠ some .directory) :
    disk.create path = .ok (disk.put place (.file [])) := by
  rw [create, hpath]
  dsimp only
  split
  · contradiction
  · rfl

theorem append_of_resolve {old bytes : Image} (hpath : disk.resolve path = .ok place)
    (hfile : disk.node? place = some (.file old)) :
    disk.append path bytes = .ok (disk.put place (.file (old ++ bytes))) := by
  simp only [append, hpath, contents_of_resolve hpath hfile]

theorem rename_of_resolve {source : String} {draft : List String} {bytes : Image}
    (hsource : disk.resolve source = .ok draft) (hdraft : disk.node? draft = some (.file bytes))
    (hpath : disk.resolve path = .ok place) (hfile : disk.node? place ≠ some .directory) :
    disk.rename source path = .ok ((disk.erase draft).put place (.file bytes)) := by
  rw [rename, hsource, contents_of_resolve hsource hdraft, hpath]
  dsimp only
  split
  · contradiction
  · rfl

/-- Creating a draft, filling it and renaming it puts the bytes at the path as a whole; the draft
is gone and nothing else changes. -/
theorem perform_replacing {draftPath : String} {draft : List String} (bytes : Image)
    (hpath : disk.resolve path = .ok place) (hdraftPath : disk.resolve draftPath = .ok draft)
    (hapart : place ≠ draft) (hfile : disk.node? place ≠ some .directory)
    (hdraft : disk.node? draft ≠ some .directory) :
    ∃ after, disk.perform [.create draftPath, .append draftPath bytes, .sync draftPath,
        .rename draftPath path] = (.ok (), after) ∧
      SameApartFrom [place, draft] disk after ∧ after.node? place = some (.file bytes) := by
  -- The disk with the empty draft, and the one with the full draft.
  let made := disk.put draft (.file [])
  let filled := made.put draft (.file ([] ++ bytes))
  have hmadeNode : made.node? draft = some (.file []) := node?_put_self hdraft
  have hmadeFile : made.node? draft ≠ some .directory := by simp [hmadeNode]
  have hmade : SameApartFrom [place, draft] disk made := .put_file (by simp) hdraft []
  have hfilledNode : filled.node? draft = some (.file ([] ++ bytes)) := node?_put_self hmadeFile
  have hfilledFile : filled.node? draft ≠ some .directory := by simp [hfilledNode]
  have hfilled : SameApartFrom [place, draft] disk filled :=
    hmade.trans (.put_file (by simp) hmadeFile _)
  have hmadePath : made.resolve draftPath = .ok draft :=
    (hmade.resolve_eq_ok_iff draftPath draft).mpr hdraftPath
  have hfilledPath : filled.resolve draftPath = .ok draft :=
    (hfilled.resolve_eq_ok_iff draftPath draft).mpr hdraftPath
  have hfilledGoal : filled.resolve path = .ok place :=
    (hfilled.resolve_eq_ok_iff path place).mpr hpath
  have hgoalFile : filled.node? place ≠ some .directory :=
    fun h => hfile ((hfilled.directory place).mp h)
  have herased : (filled.erase draft).node? place ≠ some .directory := by
    rw [node?_erase_of_ne hapart]
    exact hgoalFile
  refine ⟨(filled.erase draft).put place (.file bytes), ?_, ?_, node?_put_self herased⟩
  · simp only [perform, performStep]
    rw [create_of_resolve hdraftPath hdraft]
    dsimp only
    rw [append_of_resolve hmadePath hmadeNode]
    dsimp only
    rw [contents_of_resolve hfilledPath hfilledNode]
    dsimp only [Except.map]
    rw [rename_of_resolve hfilledPath hfilledNode hfilledGoal hgoalFile]
    rfl
  · have hgone : SameApartFrom [place, draft] filled (filled.erase draft) :=
      .erase_file (by simp) hfilledFile
    exact (hfilled.trans hgone).trans (.put_file (by simp) herased bytes)

end Disk

end SmartScale
