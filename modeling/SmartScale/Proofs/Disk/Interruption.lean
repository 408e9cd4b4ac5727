import SmartScale.Proofs.Disk.Draft

/-!
# Steps that are cut short

Between any two steps, and in the middle of one, the host may crash or refuse to go on.  A rename
takes effect as a whole or not at all.  Of any other step nothing is promised but that it concerns
one file: cut short, it may leave that file in any state.  Bytes are only durable once they are
synced, so after a crash a file written since may hold anything.

* `Disk.Crashed` says where a crash may leave the disk, `Disk.Failed` where a failing step may.
* `Disk.Crashed.replacing`: whenever a crash comes, a file that is being replaced through a draft
  holds its old bytes or the new ones.
* `Disk.Failed.replacing`: if a step fails, nothing has happened but to the draft.
-/

namespace SmartScale

namespace DiskStep

/-- The path of the file that a step may leave in any state if it is cut short. -/
def writes? : DiskStep → Option String
  | .create path => some path
  | .append path _ => some path
  | .sync path => some path
  | .rename _ _ => none

/-- The paths of files with bytes that are not durable, one step later. -/
def unsynced (paths : List String) : DiskStep → List String
  | .create path => path :: paths
  | .append path _ => path :: paths
  | .sync path => paths.filter (· != path)
  | .rename source target =>
    if source ∈ paths then target :: paths else paths.filter (· != target)

/-- The steps that replace a file: its bytes are prepared in a draft beside it. -/
def replacing (path : String) (bytes : Image) : List DiskStep :=
  [.create (path ++ ".tmp"), .append (path ++ ".tmp") bytes, .sync (path ++ ".tmp"),
    .rename (path ++ ".tmp") path]

end DiskStep

namespace Disk

variable {disk next after : Disk} {path : String} {bytes : Image} {content : Option Image}
  {steps : List DiskStep}

/-- Two disks differ at most in the files that some paths lead to. -/
def AgreeExcept (paths : List String) (a b : Disk) : Prop :=
  SameApartFrom (paths.filterMap fun path => (a.resolve path).toOption) a b

/-- A crash in the course of some steps may leave the disk like this: some of them are done, the next
one is cut short, and whatever was not durable may be lost. -/
def Crashed (disk : Disk) (steps : List DiskStep) (after : Disk) : Prop :=
  ∃ done left reached, steps = done ++ left ∧ disk.perform done = (.ok (), reached) ∧
    AgreeExcept (done.foldl DiskStep.unsynced [] ++ (left.head?.bind DiskStep.writes?).toList)
      reached after

/-- Steps of which one fails may leave the disk like this: those before it are done, and the failing
one is cut short. -/
def Failed (disk : Disk) (steps : List DiskStep) (after : Disk) : Prop :=
  ∃ done step left reached, steps = done ++ step :: left ∧ disk.perform done = (.ok (), reached) ∧
    AgreeExcept step.writes?.toList reached after

/-! ## Disks that agree -/

namespace AgreeExcept

variable {paths more : List String} {a b c : Disk}

theorem refl (paths : List String) (a : Disk) : AgreeExcept paths a a := SameApartFrom.refl _ a

theorem mono (hsub : ∀ path ∈ paths, path ∈ more) (h : AgreeExcept paths a b) :
    AgreeExcept more a b := by
  refine SameApartFrom.mono ?_ h
  intro place hplace
  rcases List.mem_filterMap.mp hplace with ⟨path, hpath, hresolve⟩
  exact List.mem_filterMap.mpr ⟨path, hsub path hpath, hresolve⟩

theorem trans (hab : AgreeExcept paths a b) (hbc : AgreeExcept paths b c) :
    AgreeExcept paths a c := by
  -- the paths lead to the same places on both disks
  have hplaces : ∀ path, (b.resolve path).toOption = (a.resolve path).toOption := by
    intro path
    have hgoal := hab.resolve_eq_ok_iff path
    cases ha : a.resolve path with
    | ok place => rw [(hgoal place).mpr ha]
    | error e =>
        cases hb : b.resolve path with
        | ok place =>
            rw [(hgoal place).mp hb] at ha
            cases ha
        | error e' => rfl
  rw [AgreeExcept] at hbc
  simp only [hplaces] at hbc
  exact SameApartFrom.trans hab hbc

/-- A file is not touched by what happens to its draft. -/
theorem holds (h : AgreeExcept [path ++ ".tmp"] a b) (hheld : a.Holds path content) :
    b.Holds path content := by
  rcases hheld.place_or_nowhere with ⟨place, hpath, hnode⟩ | ⟨hnowhere, rfl⟩
  · -- the draft, if its path leads anywhere, is at another place
    have hother : place ∉ [path ++ ".tmp"].filterMap fun path => (a.resolve path).toOption := by
      intro hmem
      rcases List.mem_filterMap.mp hmem with ⟨draftPath, hdraftPath, hresolve⟩
      rw [List.mem_singleton.mp hdraftPath] at hresolve
      have hdraft : a.resolve (path ++ ".tmp") = .ok place := by
        cases hcase : a.resolve (path ++ ".tmp") with
        | ok draft => simpa [hcase, Except.toOption] using hresolve
        | error e => simp [hcase, Except.toOption] at hresolve
      have hpathne : path ≠ "" := by
        rintro rfl
        simp [resolve, pathFault?] at hpath
      rcases resolve_draft hpathne hdraft with ⟨goal, hgoal, hapart⟩
      rw [hpath] at hgoal
      cases hgoal
      exact hapart rfl
    refine (holds_iff_of_resolve ((h.resolve_eq_ok_iff path place).mpr hpath)).mpr ?_
    rw [h.node place hother, hnode]
  · -- A path that leads nowhere has no draft either, unless it is empty.
    have hafter : b.resolve path = .error .noEntry := by
      by_cases hempty : path = ""
      · subst hempty
        rfl
      · have hnodraft : [path ++ ".tmp"].filterMap (fun path => (a.resolve path).toOption) = [] := by
          cases hdraft : a.resolve (path ++ ".tmp") with
          | ok draft =>
              rcases resolve_draft hempty hdraft with ⟨goal, hgoal, -⟩
              rw [hnowhere] at hgoal
              cases hgoal
          | error e => simp [hdraft, Except.toOption]
        rw [AgreeExcept, hnodraft] at h
        rw [h.resolve_eq path, hnowhere]
    simp [Holds, contents, lookup, hafter]

theorem put {place : List String} (hpath : disk.resolve path = .ok place)
    (hfile : disk.node? place ≠ some .directory) (bytes : Image) :
    AgreeExcept [path] disk (disk.put place (.file bytes)) :=
  SameApartFrom.put_file (by simp [hpath, Except.toOption]) hfile bytes

end AgreeExcept

/-! ## Single steps -/

theorem create_eq_ok (h : disk.create path = .ok next) :
    ∃ place, disk.resolve path = .ok place ∧ disk.node? place ≠ some .directory ∧
      next = disk.put place (.file []) := by
  unfold create at h
  cases hpath : disk.resolve path with
  | error e =>
      rw [hpath] at h
      cases h
  | ok place =>
      rw [hpath] at h
      dsimp only at h
      split at h
      · cases h
      · next hfile =>
        cases h
        exact ⟨place, rfl, hfile, rfl⟩

theorem place_of_contents (h : disk.contents path = .ok bytes) :
    ∃ place, disk.resolve path = .ok place ∧ disk.node? place = some (.file bytes) := by
  have hheld : disk.Holds path (some bytes) := h
  rcases hheld.place_or_nowhere with hplace | ⟨-, hnone⟩
  · exact hplace
  · cases hnone

theorem append_eq_ok (h : disk.append path bytes = .ok next) :
    ∃ place old, disk.resolve path = .ok place ∧ disk.node? place = some (.file old) ∧
      next = disk.put place (.file (old ++ bytes)) := by
  unfold append at h
  split at h
  · next place old hpath hcontents =>
    rcases place_of_contents hcontents with ⟨same, hsame, hnode⟩
    rw [hpath] at hsame
    cases hsame
    cases h
    exact ⟨place, old, hpath, hnode, rfl⟩
  · cases h
  · cases h

theorem rename_eq_ok {source target : String} (h : disk.rename source target = .ok next) :
    ∃ place bytes goal, disk.resolve source = .ok place ∧
      disk.node? place = some (.file bytes) ∧ disk.resolve target = .ok goal ∧
      disk.node? goal ≠ some .directory ∧ next = (disk.erase place).put goal (.file bytes) := by
  unfold rename at h
  split at h
  · cases h
  · cases h
  · next place bytes hsource hcontents =>
    rcases place_of_contents hcontents with ⟨same, hsame, hnode⟩
    rw [hsource] at hsame
    cases hsame
    cases htarget : disk.resolve target with
    | error e =>
        rw [htarget] at h
        cases h
    | ok goal =>
        rw [htarget] at h
        dsimp only at h
        split at h
        · cases h
        · next hfile =>
          cases h
          exact ⟨place, bytes, goal, hsource, hnode, rfl, hfile, rfl⟩

/-- A step that is not a rename changes at most the file that it writes. -/
theorem agreeExcept_of_performStep {step : DiskStep} (hwrites : step.writes? = some path)
    (h : disk.performStep step = .ok next) : AgreeExcept [path] disk next := by
  cases step with
  | create other =>
      cases hwrites
      rcases create_eq_ok h with ⟨place, hpath, hfile, rfl⟩
      exact .put hpath hfile []
  | append other more =>
      cases hwrites
      rcases append_eq_ok h with ⟨place, old, hpath, hnode, rfl⟩
      exact .put hpath (by simp [hnode]) _
  | sync other =>
      -- the bytes become durable, which changes none of them
      simp only [performStep] at h
      cases hcontents : disk.contents other with
      | error e =>
          rw [hcontents] at h
          cases h
      | ok bytes =>
          rw [hcontents] at h
          cases h
          exact .refl _ disk
  | rename source target => cases hwrites

theorem perform_cons_eq_ok {step : DiskStep} {rest : List DiskStep} :
    disk.perform (step :: rest) = (.ok (), after) ↔
      ∃ next, disk.performStep step = .ok next ∧ next.perform rest = (.ok (), after) := by
  rw [perform]
  cases disk.performStep step with
  | error e => simp
  | ok next => simp

theorem agreeExcept_of_perform (hwrites : ∀ step ∈ steps, step.writes? = some path)
    (h : disk.perform steps = (.ok (), after)) : AgreeExcept [path] disk after := by
  induction steps generalizing disk with
  | nil =>
      cases h
      exact .refl _ _
  | cons step rest ih =>
      rcases perform_cons_eq_ok.mp h with ⟨next, hstep, hrest⟩
      have hfirst : AgreeExcept [path] disk next :=
        agreeExcept_of_performStep (hwrites step (by simp)) hstep
      exact hfirst.trans (ih (fun other hother => hwrites other (by simp [hother])) hrest)

theorem unsynced_subset (hwrites : ∀ step ∈ steps, step.writes? = some path) {paths : List String}
    (hpaths : ∀ other ∈ paths, other = path) :
    ∀ other ∈ steps.foldl DiskStep.unsynced paths, other = path := by
  induction steps generalizing paths with
  | nil => exact hpaths
  | cons step rest ih =>
      refine ih (fun other hother => hwrites other (by simp [hother])) ?_
      have hstep := hwrites step (by simp)
      cases step with
      | create other | append other _ =>
          cases hstep
          intro name hname
          rcases List.mem_cons.mp hname with rfl | hold
          · rfl
          · exact hpaths name hold
      | sync other => exact fun name hname => hpaths name (List.mem_filter.mp hname).1
      | rename source target => cases hstep

/-- Steps that fail on their own have failed at one of them. -/
theorem failed_of_perform {e : DiskError} (h : disk.perform steps = (.error e, after)) :
    Failed disk steps after := by
  induction steps generalizing disk with
  | nil => cases h
  | cons step rest ih =>
      rw [perform] at h
      cases hstep : disk.performStep step with
      | error e' =>
          rw [hstep] at h
          cases h
          exact ⟨[], step, rest, _, rfl, rfl, .refl _ _⟩
      | ok next =>
          rw [hstep] at h
          rcases ih h with ⟨done, failing, left, reached, rfl, hdone, hafter⟩
          exact ⟨step :: done, failing, left, reached, rfl,
            perform_cons_eq_ok.mpr ⟨next, hstep, hdone⟩, hafter⟩

/-! ## Replacing a file -/

/-- All the steps but the last concern the draft alone. -/
theorem writes?_of_replacing {done left : List DiskStep}
    (hsteps : DiskStep.replacing path bytes = done ++ left) (hleft : left ≠ []) :
    ∀ step ∈ done, step.writes? = some (path ++ ".tmp") := by
  have hfront : done ++ left.dropLast = (DiskStep.replacing path bytes).dropLast := by
    rw [hsteps, List.dropLast_append_of_ne_nil hleft]
  intro step hstep
  have hmem : step ∈ (DiskStep.replacing path bytes).dropLast := by
    rw [← hfront]
    exact List.mem_append_left _ hstep
  simp only [DiskStep.replacing, List.dropLast_cons_cons, List.dropLast_singleton, List.mem_cons,
    List.not_mem_nil, or_false] at hmem
  rcases hmem with rfl | rfl | rfl <;> rfl

theorem eq_draft_of_writes? {step : DiskStep} (hstep : step ∈ DiskStep.replacing path bytes) :
    ∀ other ∈ step.writes?.toList, other = path ++ ".tmp" := by
  simp only [DiskStep.replacing, List.mem_cons, List.not_mem_nil, or_false] at hstep
  rcases hstep with rfl | rfl | rfl | rfl <;> simp [DiskStep.writes?]

theorem holds_append {old : Image} (hheld : disk.Holds path (some old))
    (h : disk.append path bytes = .ok next) : next.Holds path (some (old ++ bytes)) := by
  rcases append_eq_ok h with ⟨place, found, hpath, hnode, rfl⟩
  have hfound : found = old := by
    have hsame := (holds_iff_of_resolve hpath).mp hheld
    simpa [hnode] using hsame
  subst hfound
  exact holds_put hpath (by simp [hnode]) _

theorem holds_rename {source : String} (hheld : disk.Holds source (some bytes))
    (h : disk.rename source path = .ok next) : next.Holds path (some bytes) := by
  rcases rename_eq_ok h with ⟨place, found, goal, hsource, hnode, hpath, hfile, rfl⟩
  have hfound : found = bytes := by
    have hsame := (holds_iff_of_resolve hsource).mp hheld
    simpa [hnode] using hsame
  subst hfound
  -- Taking out the source does not move the target.
  have hgone : SameApartFrom [place] disk (disk.erase place) :=
    .erase_file (by simp) (by simp [hnode])
  refine holds_put ((hgone.resolve_eq_ok_iff path goal).mpr hpath) ?_ found
  intro hdirectory
  exact hfile ((hgone.directory goal).mp hdirectory)

/-- When all steps are done, the file holds the new bytes. -/
theorem holds_of_perform_replacing
    (h : disk.perform (DiskStep.replacing path bytes) = (.ok (), after)) :
    after.Holds path (some bytes) := by
  simp only [DiskStep.replacing, perform_cons_eq_ok, performStep] at h
  rcases h with ⟨made, hcreate, filled, happend, synced, hsync, renamed, hrename, hend⟩
  cases hend
  have hmade : made.Holds (path ++ ".tmp") (some []) := by
    rcases create_eq_ok hcreate with ⟨place, hpath, hfile, rfl⟩
    exact holds_put hpath hfile []
  have hfilled : filled.Holds (path ++ ".tmp") (some bytes) := holds_append hmade happend
  have hsynced : synced = filled := by
    rw [show filled.contents (path ++ ".tmp") = .ok bytes from hfilled] at hsync
    cases hsync
    rfl
  subst hsynced
  exact holds_rename hfilled hrename

/-- Whenever a crash comes, the file holds its old bytes or the new ones. -/
theorem Crashed.replacing (h : disk.Crashed (DiskStep.replacing path bytes) after)
    (hheld : disk.Holds path content) :
    after.Holds path content ∨ after.Holds path (some bytes) := by
  rcases h with ⟨done, left, reached, hsteps, hdone, hafter⟩
  by_cases hleft : left = []
  · -- All is done, and the new bytes had been synced under the name of the draft.
    subst hleft
    rw [List.append_nil] at hsteps
    subst hsteps
    have hnew : reached.Holds path (some bytes) := holds_of_perform_replacing hdone
    have hdurable : (DiskStep.replacing path bytes).foldl DiskStep.unsynced [] = [] := by
      simp [DiskStep.replacing, DiskStep.unsynced]
    rw [hdurable] at hafter
    exact Or.inr ((hafter.mono (by simp)).holds hnew)
  · -- Before the rename, only the draft is written, and only the draft can be lost.
    have hwrites := writes?_of_replacing hsteps hleft
    have hreached : AgreeExcept [path ++ ".tmp"] disk reached :=
      agreeExcept_of_perform hwrites hdone
    have hlost : AgreeExcept [path ++ ".tmp"] reached after := by
      refine hafter.mono ?_
      intro other hother
      rcases List.mem_append.mp hother with hunsynced | hcut
      · exact List.mem_singleton.mpr (unsynced_subset hwrites (by simp) other hunsynced)
      · cases left with
        | nil => exact absurd rfl hleft
        | cons step rest =>
            have hstep : step ∈ DiskStep.replacing path bytes := by simp [hsteps]
            exact List.mem_singleton.mpr (eq_draft_of_writes? hstep other hcut)
    exact Or.inl ((hreached.trans hlost).holds hheld)

/-- If a step fails, nothing has happened but to the draft. -/
theorem Failed.replacing (h : disk.Failed (DiskStep.replacing path bytes) after) :
    AgreeExcept [path ++ ".tmp"] disk after := by
  rcases h with ⟨done, step, left, reached, hsteps, hdone, hafter⟩
  have hreached : AgreeExcept [path ++ ".tmp"] disk reached :=
    agreeExcept_of_perform (writes?_of_replacing hsteps (by simp)) hdone
  have hstep : step ∈ DiskStep.replacing path bytes := by simp [hsteps]
  refine hreached.trans (hafter.mono ?_)
  intro other hother
  exact List.mem_singleton.mpr (eq_draft_of_writes? hstep other hother)

end Disk

end SmartScale
