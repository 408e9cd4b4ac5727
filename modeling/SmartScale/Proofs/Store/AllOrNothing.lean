import SmartScale.Proofs.Store.Publishing

/-!
# A commit takes effect as a whole or not at all

A commit is a list of steps, and it may be cut short anywhere: by a crash, after which the store is
gone and only the disk is left, or by a step that the host refuses, after which the store goes on.
`FileStore.commit_all_or_nothing` says what is found in either case.

A commit that fails leaves the changes to be committed.  `FileStore.Retried` follows a store through
any number of such failures, with writes between them; the first commit that succeeds publishes all
of the writes.
-/

namespace SmartScale

namespace FileStore

/-- How a commit of changes may end: as the disk has it, or with a step failing out of turn. -/
inductive CommitEnds (s : FileStore) : Except HardwareFault Unit × FileStore → Prop
  | regular : s.CommitEnds s.commit
  | failed {after : Disk} (e : DiskError) (h : s.disk.Failed s.commitSteps after) :
      s.CommitEnds (s.settle (.error e, after))

def writeAll (s : FileStore) (writes : List (UInt64 × List UInt8)) : FileStore :=
  writes.foldl (fun s write => (s.write write.1 write.2).2) s

/-- Where writes lead with failing commits between them. -/
inductive Retried (s : FileStore) : List (UInt64 × List UInt8) → FileStore → Prop
  | start : s.Retried [] s
  | write {writes : List (UInt64 × List UInt8)} {t : FileStore} (address : UInt64)
      (bytes : List UInt8) : s.Retried writes t →
      s.Retried (writes ++ [(address, bytes)]) (t.write address bytes).2
  | fail {writes : List (UInt64 × List UInt8)} {t u : FileStore} {fault : HardwareFault} :
      s.Retried writes t → t.CommitEnds (.error fault, u) → s.Retried writes u

variable {s t : FileStore} {fault : HardwareFault} {content : Option Image}
  {writes : List (UInt64 × List UInt8)}

/-! ## Failing commits -/

/-- A commit that fails changes nothing but the draft. -/
theorem CommitEnds.error (h : s.CommitEnds (.error fault, t)) :
    ∃ after, t = { s with disk := after } ∧ s.disk.AgreeExcept [s.path ++ ".tmp"] after := by
  generalize hresult : (Except.error fault, t) = result at h
  cases h with
  | regular =>
      rcases commit_eq_error hresult.symm with ⟨-, e, after, hperform, -, hnext⟩
      exact ⟨after, hnext, (Disk.failed_of_perform hperform).replacing⟩
  | failed e hfailed =>
      cases hresult
      exact ⟨_, rfl, hfailed.replacing⟩

/-! ## Writes between failures -/

theorem write_disk (s : FileStore) (address : UInt64) (bytes : List UInt8) :
    (s.write address bytes).2.disk = s.disk ∧ (s.write address bytes).2.path = s.path ∧
      (s.dirty = true → (s.write address bytes).2.dirty = true) := by
  unfold FileStore.write
  split
  · exact ⟨rfl, rfl, id⟩
  · dsimp only
    split
    · exact ⟨rfl, rfl, id⟩
    · exact ⟨rfl, rfl, fun _ => rfl⟩

theorem write_cache_congr (hcache : t.cache = s.cache) (address : UInt64) (bytes : List UInt8) :
    (t.write address bytes).2.cache = (s.write address bytes).2.cache := by
  unfold FileStore.write
  rw [hcache]
  split
  · exact hcache
  · dsimp only
    split <;> simp [hcache]

/-- Whatever fails in between, the cache is what the writes make of it, the changes are still to be
committed, and the disk differs at most in the draft. -/
theorem Retried.account (h : s.Retried writes t) (hdirty : s.dirty = true) :
    t.path = s.path ∧ t.cache = (s.writeAll writes).cache ∧ t.dirty = true ∧
      s.disk.AgreeExcept [s.path ++ ".tmp"] t.disk := by
  induction h with
  | start => exact ⟨rfl, rfl, hdirty, .refl _ _⟩
  | @write writes t address bytes _ ih =>
      -- a write looks at the cache alone, and so far the cache is the same
      rcases ih with ⟨hpath, hcache, hchanged, hdisk⟩
      rcases write_disk t address bytes with ⟨hsameDisk, hsamePath, hstill⟩
      refine ⟨hsamePath.trans hpath, ?_, hstill hchanged, ?_⟩
      · rw [writeAll, List.foldl_append]
        exact write_cache_congr hcache address bytes
      · rw [hsameDisk]
        exact hdisk
  | fail _ hends ih =>
      -- what is left in the draft is overwritten by the next commit
      rcases ih with ⟨hpath, hcache, hchanged, hdisk⟩
      rcases hends.error with ⟨after, rfl, hafter⟩
      rw [hpath] at hafter
      exact ⟨hpath, hcache, hchanged, hdisk.trans hafter⟩

theorem Writable.of_agree (h : s.Writable) (hpath : t.path = s.path)
    (hdisk : s.disk.AgreeExcept [s.path ++ ".tmp"] t.disk) : t.Writable := by
  rcases h with ⟨hne, draft, hdraft, hfree⟩
  rw [Writable, draftPath, hpath]
  refine ⟨hne, draft, (hdisk.resolve_eq_ok_iff _ draft).mpr hdraft, ?_⟩
  intro hdirectory
  exact hfree ((hdisk.directory draft).mp hdirectory)

/-! ## All or nothing -/

/-- A store with changes over a file, or where there is none, commits.

* Wherever a crash cuts the steps short, the file holds its old bytes or the whole cache, and opened
  again it shows one or the other.
* If the commit fails, at whatever step, the cache is as it was, the changes are still to be
  committed, and the file holds its old bytes.
* However often it fails, and whatever is written in between, the file keeps its old bytes.  Where
  there is a place for the draft, the next commit ends well, and a commit that ends well puts the
  cache with all of the writes into the file. -/
theorem commit_all_or_nothing (hdirty : s.dirty = true) (hheld : s.disk.Holds s.path content) :
    (∀ after, s.disk.Crashed s.commitSteps after →
      (after.Holds s.path content ∧
        open? after s.path s.capacity = .ok (opened after s.path content s.capacity)) ∨
      (after.Holds s.path (some s.cache) ∧
        open? after s.path s.capacity = .ok ⟨after, s.path, s.cache, false⟩)) ∧
    (∀ fault t, s.CommitEnds (.error fault, t) →
      t.cache = s.cache ∧ t.dirty = true ∧ t.disk.Holds s.path content) ∧
    (∀ writes t, s.Retried writes t →
      t.disk.Holds s.path content ∧ (s.Writable → t.commit.1 = .ok ()) ∧
      ∀ done, t.commit = (.ok (), done) →
        done.dirty = false ∧ done.disk.Holds s.path (some (s.writeAll writes).cache)) := by
  refine ⟨?_, ?_, ?_⟩
  · intro after hcrash
    rcases Disk.Crashed.replacing hcrash hheld with hold | hnew
    · exact Or.inl ⟨hold, open?_of_holds hold _⟩
    · refine Or.inr ⟨hnew, ?_⟩
      rw [open?_of_holds hnew, opened, view, Option.getD_some, capacity, Image.resize_length]
      simp
  · intro fault t hends
    rcases hends.error with ⟨after, rfl, hafter⟩
    exact ⟨rfl, hdirty, hafter.holds hheld⟩
  · intro writes t hretried
    rcases hretried.account hdirty with ⟨hpath, hcache, hchanged, hdisk⟩
    have hold : t.disk.Holds s.path content := hdisk.holds hheld
    refine ⟨hold, ?_, ?_⟩
    · intro hwritable
      rw [← hpath] at hold
      rcases (hwritable.of_agree hpath hdisk).commit hold hchanged with ⟨done, hcommit, -⟩
      rw [hcommit]
    · intro done hcommit
      rcases commit_eq_ok hcommit with ⟨-, -, hclean, hwritten, -⟩
      rw [← hcache, ← hpath]
      exact ⟨hclean, hwritten hchanged⟩

/-- Two bytes of three reach the draft.  A crash there leaves the old file.  If the host reports an
error instead, the next commit writes all three, and what was written since. -/
theorem commit_all_or_nothing_torn_draft :
    let disk : Disk := ⟨["work"], [(["work", "nv"], .file [1, 1])]⟩
    let torn : Disk := disk.put ["work", "nv.tmp"] (.file [7, 8])
    let s : FileStore := ⟨disk, "nv", [7, 8, 9], true⟩
    let failed : FileStore := ⟨torn, "nv", [7, 8, 9], true⟩
    s.dirty = true ∧ disk.Holds "nv" (some [1, 1]) ∧
      (disk.Crashed s.commitSteps torn ∧ torn.Holds "nv" (some [1, 1])) ∧
      (∃ fault, s.CommitEnds (.error fault, failed)) ∧
      ∃ done, (failed.write 2 [4]).2.commit = (.ok (), done) ∧
        done.disk.Holds "nv" (some [7, 8, 4]) := by
  intro disk torn s failed
  have hheld : disk.Holds "nv" (some [1, 1]) := rfl
  -- the draft is made, and the step that fills it is cut short
  have hmade : disk.perform [.create "nv.tmp"] =
      (.ok (), disk.put ["work", "nv.tmp"] (.file [])) := rfl
  have htorn : (disk.put ["work", "nv.tmp"] (.file [])).AgreeExcept ["nv.tmp"] torn :=
    .put rfl (by decide) [7, 8]
  have hcrashed : disk.Crashed s.commitSteps torn :=
    ⟨[.create "nv.tmp"], _, _, rfl, hmade, htorn.mono (by simp [DiskStep.unsynced])⟩
  have hends : s.CommitEnds (.error _, failed) :=
    .failed .noEntry ⟨[.create "nv.tmp"], _, _, _, rfl, hmade, htorn⟩
  have hretried : s.Retried [(2, [4])] (failed.write 2 [4]).2 := .write 2 [4] (.fail .start hends)
  have hdraft : disk.resolve "nv.tmp" = .ok ["work", "nv.tmp"] := rfl
  have hwritable : s.Writable := ⟨by decide, _, hdraft, by decide⟩
  rcases commit_all_or_nothing (s := s) rfl hheld with ⟨hcrashes, -, hretries⟩
  rcases hretries _ _ hretried with ⟨-, hcommits, hpublished⟩
  refine ⟨rfl, hheld, ⟨hcrashed, ?_⟩, ⟨_, hends⟩, ?_⟩
  · rcases hcrashes torn hcrashed with ⟨hold, -⟩ | ⟨hnew, -⟩
    · exact hold
    · have hcontents : torn.contents "nv" = .ok [1, 1] := rfl
      rw [Disk.Holds, hcontents] at hnew
      cases hnew
  · refine ⟨_, Prod.ext (hcommits hwritable) rfl, ?_⟩
    exact (hpublished _ (Prod.ext (hcommits hwritable) rfl)).2

end FileStore

end SmartScale
