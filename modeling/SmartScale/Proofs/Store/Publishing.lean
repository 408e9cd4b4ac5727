import SmartScale.Proofs.Disk.Interruption
import SmartScale.Proofs.Store.File

/-!
# A store in a file publishes its commits

A store in a file is used in any order: reads, writes within its range or beyond it, commits, and
openings of the same file anew with any capacity.  Nobody else writes the file and the host refuses
nothing.  Then the file says neither more nor less than what was committed last
(`FileStore.publishes_commits`): what was only written is gone when the file is opened again, and so
is a change of size, while a commit that had nothing to do has lost nothing.

`FileStore.Faithful` is what every action keeps.  It needs two clauses about the file, one for what
was published and one for a store without changes, since a commit may be skipped where there is no
file at all.
-/

namespace SmartScale

namespace FileStore

/-- What can be done with a store in a file. -/
inductive Action
  | read (address : UInt64) (length : Nat)
  | write (address : UInt64) (bytes : List UInt8)
  | commit
  /-- Drop the store and open its file again. -/
  | reopen (capacity : Nat)

/-- The capacity that an opening asks for. -/
def Action.capacity? : Action → Option Nat
  | .reopen capacity => some capacity
  | _ => none

/-- Carries out an action; the answer has bytes where they are asked for. -/
def act (s : FileStore) : Action → Except HardwareFault (List UInt8) × FileStore
  | .read address length => (s.read address length, s)
  | .write address bytes => ((s.write address bytes).1.map fun _ => [], (s.write address bytes).2)
  | .commit => (s.commit.1.map fun _ => [], s.commit.2)
  | .reopen capacity =>
    match open? s.disk s.path capacity with
    | .ok next => (.ok [], next)
    | .error fault => (.error fault, s)

def after (s : FileStore) (actions : List Action) : FileStore :=
  actions.foldl (fun s action => (s.act action).2) s

def answers (s : FileStore) : List Action → List (Except HardwareFault (List UInt8))
  | [] => []
  | action :: rest => (s.act action).1 :: (s.act action).2.answers rest

/-- The whole cache at each commit of a run, the first commit first. -/
def commits (s : FileStore) : List Action → List Image
  | [] => []
  | .commit :: rest => s.cache :: (s.act .commit).2.commits rest
  | action :: rest => (s.act action).2.commits rest

/-- The host refuses nothing in the course of a run. -/
def Unrefused (s : FileStore) (actions : List Action) : Prop :=
  ∀ text, .error (.io text) ∉ s.answers actions

/-- The host has a place for a draft beside the file. -/
def Writable (s : FileStore) : Prop :=
  s.path ≠ "" ∧ ∃ draft, s.disk.resolve s.draftPath = .ok draft ∧ s.disk.node? draft ≠ some .directory

/-- What every action keeps, with the capacity asked for last and the image published last. -/
structure Faithful (path : String) (capacity : Nat) (published : Image) (s : FileStore) : Prop where
  path_eq : s.path = path
  length_eq : s.cache.length = capacity
  /-- The file is the published image.  Where there is no file, that image is erased. -/
  file : s.disk.Holds path (some published) ∨
    s.disk.Holds path none ∧ ∃ size, published = Image.blank size
  /-- Without changes, the cache is the file.  Where there is no file, the cache is erased. -/
  clean : s.dirty = false →
    s.disk.Holds path (some s.cache) ∨ s.disk.Holds path none ∧ s.cache = Image.blank capacity

variable {path : String} {capacity : Nat} {published : Image} {s next : FileStore}

/-! ## Opening -/

theorem view_blank (size capacity : Nat) :
    (Image.blank size).resize capacity = Image.blank capacity := by
  rw [Image.resize, Image.blank, List.take_replicate, List.length_replicate,
    List.replicate_append_replicate, Image.blank]
  congr 1
  omega

theorem faithful_opened {disk : Disk} {content : Option Image} (hheld : disk.Holds path content)
    (hshown : content = some published ∨ content = none ∧ ∃ size, published = Image.blank size)
    (size : Nat) : Faithful path size published (opened disk path content size) where
  path_eq := rfl
  length_eq := length_view content size
  file := by
    rcases hshown with rfl | ⟨rfl, hblank⟩
    · exact Or.inl hheld
    · exact Or.inr ⟨hheld, hblank⟩
  clean hclean := by
    cases content with
    | none => exact Or.inr ⟨hheld, Image.resize_nil size⟩
    | some bytes =>
        -- a file of the right size is shown as it is
        have hsize : bytes.length = size := by simpa [opened] using hclean
        have hbytes : view (some bytes) size = bytes := by
          rw [← hsize]
          exact Image.resize_length bytes
        refine Or.inl ?_
        change disk.Holds path (some (view (some bytes) size))
        rw [hbytes]
        exact hheld

/-- Opened again, the file shows what was published, with whatever capacity. -/
theorem Faithful.reopen (h : Faithful path capacity published s) (size : Nat) :
    ∃ reopened, open? s.disk path size = .ok reopened ∧ reopened.cache = published.resize size ∧
      reopened.disk = s.disk ∧ Faithful path size published reopened := by
  rcases h.file with hfile | ⟨habsent, hblank⟩
  · exact ⟨_, open?_of_holds hfile size, rfl, rfl, faithful_opened hfile (Or.inl rfl) size⟩
  · refine ⟨_, open?_of_holds habsent size, ?_, rfl,
      faithful_opened habsent (Or.inr ⟨rfl, hblank⟩) size⟩
    rcases hblank with ⟨old, rfl⟩
    rw [view_blank]
    exact Image.resize_nil size

/-! ## Writing -/

theorem Faithful.refill (h : Faithful path capacity published s) {cache : Image}
    (hlength : cache.length = capacity) : Faithful path capacity published (s.refill cache) where
  path_eq := by rw [refill_path, h.path_eq]
  length_eq := by rw [refill_cache, hlength]
  file := by
    rw [refill_disk]
    exact h.file
  clean hclean := by
    by_cases hsame : cache = s.cache
    · have hstore : s.refill cache = s := if_pos hsame
      rw [hstore] at hclean ⊢
      exact h.clean hclean
    · -- a write that differs leaves the store with changes
      have hdirty : (s.refill cache).dirty = true := by
        rw [FileStore.refill, if_neg hsame]
      rw [hdirty] at hclean
      cases hclean

theorem Faithful.write (h : Faithful path capacity published s) (address : UInt64)
    (bytes : List UInt8) : Faithful path capacity published (s.write address bytes).2 := by
  cases hfits : AddressRange.fits address bytes.length s.cache.length with
  | false =>
      -- beyond its range a write is refused and changes nothing
      have hrefused : (s.write address bytes).2 = s := by
        simp [FileStore.write, Image.write, hfits]
      rw [hrefused]
      exact h
  | true =>
      rw [write_of_fits hfits]
      refine h.refill ?_
      rw [Image.length_patch (AddressRange.le_of_fits hfits), h.length_eq]

/-! ## Committing -/

theorem commit_eq_ok (h : s.commit = (.ok (), next)) :
    next.path = s.path ∧ next.cache = s.cache ∧ next.dirty = false ∧
      (s.dirty = true → next.disk.Holds s.path (some s.cache)) ∧
      (s.dirty = false → next.disk = s.disk) := by
  cases hdirty : s.dirty with
  | false =>
      rw [commit_of_clean hdirty] at h
      cases h
      exact ⟨rfl, rfl, hdirty, by simp, fun _ => rfl⟩
  | true =>
      rw [commit, if_pos hdirty] at h
      rcases hperform : s.disk.perform s.commitSteps with ⟨result, disk⟩
      rw [hperform] at h
      cases result with
      | error e => cases h
      | ok _ =>
          cases h
          exact ⟨rfl, rfl, rfl, fun _ => Disk.holds_of_perform_replacing hperform, by simp⟩

/-- Only the host can make a commit fail, and then there were changes to commit. -/
theorem commit_eq_error {fault : HardwareFault} (h : s.commit = (.error fault, next)) :
    s.dirty = true ∧ ∃ e disk, s.disk.perform s.commitSteps = (.error e, disk) ∧
      fault = .io e.message ∧ next = { s with disk } := by
  have hdirty : s.dirty = true := by
    cases hclean : s.dirty with
    | true => rfl
    | false =>
        rw [commit_of_clean hclean] at h
        cases h
  rw [commit, if_pos hdirty] at h
  rcases hperform : s.disk.perform s.commitSteps with ⟨result, disk⟩
  rw [hperform] at h
  cases result with
  | ok _ => cases h
  | error e =>
      cases h
      exact ⟨hdirty, e, disk, rfl, rfl, rfl⟩

/-- A commit that ends well publishes the cache, also where there is nothing to write. -/
theorem Faithful.commit (h : Faithful path capacity published s)
    (hcommit : s.commit = (.ok (), next)) : Faithful path capacity s.cache next := by
  rcases commit_eq_ok hcommit with ⟨hpath, hcache, hclean, hwritten, hkept⟩
  -- without changes nothing is written, but then the file needs no writing
  have hfile : next.disk.Holds path (some s.cache) ∨
      next.disk.Holds path none ∧ s.cache = Image.blank capacity := by
    cases hdirty : s.dirty with
    | true =>
        rw [← h.path_eq]
        exact Or.inl (hwritten hdirty)
    | false =>
        rw [hkept hdirty]
        exact h.clean hdirty
  refine ⟨hpath.trans h.path_eq, by rw [hcache, h.length_eq], ?_, ?_⟩
  · rcases hfile with hfile | ⟨habsent, hblank⟩
    · exact Or.inl hfile
    · exact Or.inr ⟨habsent, capacity, hblank⟩
  · intro _
    rw [hcache]
    exact hfile

/-- Where there is a place for the draft, nothing stops a commit, nor the one after it. -/
theorem Writable.commit {content : Option Image} (h : s.Writable)
    (hheld : s.disk.Holds s.path content) (hdirty : s.dirty = true) :
    ∃ next, s.commit = (.ok (), next) ∧ next.Writable := by
  rcases h with ⟨hpath, draft, hdraft, hfree⟩
  rcases Disk.resolve_draft hpath hdraft with ⟨place, hplace, hapart⟩
  have hfile : s.disk.node? place ≠ some .directory := by
    rw [(Disk.holds_iff_of_resolve hplace).mp hheld]
    cases content <;> simp
  rcases commit_of_dirty hdirty hplace hdraft hapart hfile hfree with ⟨after, hcommit, hsame, -⟩
  -- the commit has moved no directory, so there is room for the next draft
  refine ⟨_, hcommit, hpath, draft, (hsame.resolve_eq_ok_iff _ draft).mpr hdraft, ?_⟩
  intro hdirectory
  exact hfree ((hsame.directory draft).mp hdirectory)

/-! ## Runs -/

/-- One action, unless the host refuses it. -/
theorem Faithful.act (h : Faithful path capacity published s) (action : Action)
    (hanswer : ∀ text, (s.act action).1 ≠ .error (.io text)) :
    Faithful path (action.capacity?.getD capacity) ((s.commits [action]).getLastD published)
      (s.act action).2 := by
  cases action with
  | read address length => exact h
  | write address bytes => exact h.write address bytes
  | reopen size =>
      rcases h.reopen size with ⟨reopened, hopen, -, -, hfaithful⟩
      rw [← h.path_eq] at hopen
      have hact : (s.act (.reopen size)).2 = reopened := by
        rw [FileStore.act, hopen]
      rw [hact]
      exact hfaithful
  | commit =>
      rcases hcommit : s.commit with ⟨result, next⟩
      have hact : s.act .commit = (result.map fun _ => [], next) := by
        rw [FileStore.act, hcommit]
      rw [hact] at hanswer ⊢
      cases result with
      | ok _ => exact h.commit hcommit
      | error fault =>
          rcases commit_eq_error hcommit with ⟨-, e, disk, -, rfl, -⟩
          exact absurd rfl (hanswer e.message)

theorem Faithful.after (h : Faithful path capacity published s) (actions : List Action)
    (hunrefused : s.Unrefused actions) :
    Faithful path ((actions.filterMap Action.capacity?).getLastD capacity)
      ((s.commits actions).getLastD published) (s.after actions) := by
  induction actions generalizing s capacity published with
  | nil => exact h
  | cons action rest ih =>
      have hfirst : ∀ text, (s.act action).1 ≠ .error (.io text) := by
        intro text hanswer
        exact hunrefused text (by rw [answers, hanswer]; exact List.mem_cons_self)
      have hrest : (s.act action).2.Unrefused rest := by
        intro text hmem
        exact hunrefused text (List.mem_cons_of_mem _ hmem)
      have hafter := ih (h.act action hfirst) hrest
      -- What the rest opens and commits comes after what the first action opens and commits.
      cases action with
      | reopen size => rwa [List.filterMap_cons, Action.capacity?, List.getLastD_cons]
      | commit => rwa [commits, List.getLastD_cons]
      | read address length => exact hafter
      | write address bytes => exact hafter

theorem Faithful.act_of_writable (h : Faithful path capacity published s) (hwritable : s.Writable)
    (action : Action) :
    (∀ text, (s.act action).1 ≠ .error (.io text)) ∧ (s.act action).2.Writable := by
  cases action with
  | read address length =>
      refine ⟨?_, hwritable⟩
      intro text hanswer
      rw [FileStore.act, FileStore.read, Image.read] at hanswer
      split at hanswer <;> cases hanswer
  | write address bytes =>
      cases hfits : AddressRange.fits address bytes.length s.cache.length with
      | false =>
          rw [FileStore.act, FileStore.write, Image.write, hfits]
          exact ⟨by simp [Except.map], hwritable⟩
      | true =>
          rw [FileStore.act, write_of_fits hfits]
          refine ⟨by simp [Except.map], ?_⟩
          rwa [Writable, draftPath, refill_path, refill_disk]
  | commit =>
      rw [FileStore.act]
      cases hdirty : s.dirty with
      | false =>
          rw [commit_of_clean hdirty]
          exact ⟨by simp [Except.map], hwritable⟩
      | true =>
          have hheld : ∃ content, s.disk.Holds s.path content := by
            rw [h.path_eq]
            rcases h.file with hfile | ⟨habsent, -⟩
            · exact ⟨_, hfile⟩
            · exact ⟨_, habsent⟩
          rcases hheld with ⟨content, hheld⟩
          rcases hwritable.commit hheld hdirty with ⟨next, hcommit, hnext⟩
          rw [hcommit]
          exact ⟨by simp [Except.map], hnext⟩
  | reopen size =>
      rcases h.reopen size with ⟨reopened, hopen, -, hdisk, hfaithful⟩
      rw [← h.path_eq] at hopen
      rw [FileStore.act, hopen]
      refine ⟨by simp, ?_⟩
      rwa [Writable, draftPath, hfaithful.path_eq, hdisk, ← h.path_eq]

/-- The one thing that the host can refuse is the draft: where there is a place for it, a run of any
length meets no refusal. -/
theorem Faithful.unrefused (h : Faithful path capacity published s) (hwritable : s.Writable)
    (actions : List Action) : s.Unrefused actions := by
  induction actions generalizing s capacity published with
  | nil =>
      intro text hmem
      cases hmem
  | cons action rest ih =>
      rcases h.act_of_writable hwritable action with ⟨hanswered, hnext⟩
      intro text hmem
      rcases List.mem_cons.mp hmem with hanswer | hlater
      · exact hanswered text hanswer.symm
      · exact ih (h.act action hanswered) hnext text hlater

/-- A store can be opened over a file, or where there is none.  It is used while nobody else writes the
file and the host refuses nothing, which is certain where there is a place for the draft.

* The cache always has the capacity that was asked for last.
* Without changes, the file holds exactly the cache, or there is no file and the cache is erased.
* A commit that ends well leaves no changes.
* The file can be opened again with any capacity, and then reads as the whole cache at the last
  commit, or as the initial bytes before the first, cut off or filled up with erased bytes. -/
theorem publishes_commits {disk : Disk} {content : Option Image}
    (hheld : disk.Holds path content) (capacity : Nat) :
    ∃ s, open? disk path capacity = .ok s ∧
      (s.Writable → ∀ actions, s.Unrefused actions) ∧
      ∀ actions, s.Unrefused actions →
        let now := s.after actions
        let published := (s.commits actions).getLastD (content.getD [])
        now.cache.length = (actions.filterMap Action.capacity?).getLastD capacity ∧
        (now.dirty = false → now.disk.Holds path (some now.cache) ∨
          now.disk.Holds path none ∧ ∀ byte ∈ now.cache, byte = erased) ∧
        (now.commit.1 = .ok () → now.commit.2.dirty = false) ∧
        (∀ size, ∃ reopened, open? now.disk path size = .ok reopened ∧
          reopened.cache = published.resize size ∧
          ∀ address length,
            reopened.read address length = (published.resize size).read address length) := by
  have hstart : Faithful path capacity (content.getD []) (opened disk path content capacity) := by
    refine faithful_opened hheld ?_ capacity
    cases content with
    | none => exact Or.inr ⟨rfl, 0, rfl⟩
    | some bytes => exact Or.inl rfl
  refine ⟨_, open?_of_holds hheld capacity, hstart.unrefused, ?_⟩
  intro actions hunrefused now published
  have hfaithful : Faithful path _ published now := hstart.after actions hunrefused
  refine ⟨hfaithful.length_eq, ?_, ?_, ?_⟩
  · intro hclean
    rcases hfaithful.clean hclean with hfile | ⟨habsent, hblank⟩
    · exact Or.inl hfile
    · refine Or.inr ⟨habsent, ?_⟩
      intro byte hbyte
      rw [hblank] at hbyte
      exact List.eq_of_mem_replicate hbyte
  · intro hdone
    exact (commit_eq_ok (Prod.ext hdone rfl)).2.2.1
  · intro size
    rcases hfaithful.reopen size with ⟨reopened, hreopen, hcache, -, -⟩
    refine ⟨reopened, hreopen, hcache, ?_⟩
    intro address length
    rw [read, hcache]

/-- A file of three bytes, opened with more and with fewer: the write before the second opening is
gone, the one that was committed is found, and the one after that is gone too. -/
theorem publishes_commits_three_bytes :
    let disk : Disk := ⟨["work"], [(["work", "nv"], .file [7, 7, 7])]⟩
    let s : FileStore := ⟨disk, "nv", [7, 7, 7, erased, erased], true⟩
    let actions : List Action :=
      [.write 0 [1], .reopen 4, .write 3 [9], .write 3 [9, 9], .commit, .write 0 [5], .read 0 4]
    let now := s.after actions
    disk.Holds "nv" (some [7, 7, 7]) ∧ open? disk "nv" 5 = .ok s ∧ s.Unrefused actions ∧
      ∃ reopened, open? now.disk "nv" 6 = .ok reopened ∧
        reopened.cache = [7, 7, 7, 9, erased, erased] := by
  intro disk s actions now
  have hheld : disk.Holds "nv" (some [7, 7, 7]) := rfl
  have hopen : open? disk "nv" 5 = .ok s := rfl
  have hdraft : disk.resolve "nv.tmp" = .ok ["work", "nv.tmp"] := rfl
  have hwritable : s.Writable := ⟨by decide, _, hdraft, by decide⟩
  have hpublished : ((s.commits actions).getLastD [7, 7, 7]).resize 6 =
      [7, 7, 7, 9, erased, erased] := by decide +kernel
  rcases publishes_commits hheld 5 with ⟨same, hsame, hunrefused, hruns⟩
  obtain rfl : s = same := Except.ok.inj (hopen.symm.trans hsame)
  rcases hruns actions (hunrefused hwritable actions) with ⟨-, -, -, hreopen⟩
  rcases hreopen 6 with ⟨reopened, hopened, hcache, -⟩
  exact ⟨hheld, hopen, hunrefused hwritable actions, reopened, hopened, hcache.trans hpublished⟩

end FileStore

end SmartScale
