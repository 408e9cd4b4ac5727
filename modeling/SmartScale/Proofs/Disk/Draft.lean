import SmartScale.Proofs.Disk.Frame

/-!
# A draft beside a file

The draft of a file has the name of the file with `.tmp` behind it.  So its path goes through the
same directories as the path of the file and ends at another name: where the draft has a place, the
file has one too, and a different one (`Disk.resolve_draft`).  Nothing of this needs to be assumed
of the host.
-/

namespace SmartScale

namespace Path

theorem pieces_of_not_mem {text : List Char} (h : '/' ∉ text) : pieces text = [text] := by
  induction text with
  | nil => rfl
  | cons c rest ih =>
      rw [List.mem_cons, not_or] at h
      rw [pieces, if_neg (Ne.symm h.1), ih h.2]

/-- Characters behind a path belong to its last piece, if no slash is among them. -/
theorem pieces_append (path : List Char) {more : List Char} (hmore : '/' ∉ more) :
    ∃ front last, pieces path = front ++ [last] ∧ pieces (path ++ more) = front ++ [last ++ more] := by
  induction path with
  | nil => exact ⟨[], [], rfl, pieces_of_not_mem hmore⟩
  | cons c rest ih =>
      rcases ih with ⟨front, last, hrest, hlonger⟩
      by_cases hslash : c = '/'
      · refine ⟨[] :: front, last, ?_, ?_⟩
        · rw [pieces, if_pos hslash, hrest]
          rfl
        · rw [List.cons_append, pieces, if_pos hslash, hlonger]
          rfl
      · -- the character joins the first piece, which is the last if it is the only one
        cases front with
        | nil =>
            refine ⟨[], c :: last, ?_, ?_⟩
            · rw [pieces, if_neg hslash, hrest]
              rfl
            · rw [List.cons_append, pieces, if_neg hslash, hlonger]
              rfl
        | cons first front =>
            refine ⟨(c :: first) :: front, last, ?_, ?_⟩
            · rw [pieces, if_neg hslash, hrest]
              rfl
            · rw [List.cons_append, pieces, if_neg hslash, hlonger]
              rfl

theorem isAbsolute_append {path : String} (hpath : path ≠ "") (more : String) :
    isAbsolute (path ++ more) = isAbsolute path := by
  rw [isAbsolute, isAbsolute, String.toList_append]
  cases hchars : path.toList with
  | nil => exact absurd (String.toList_eq_nil_iff.mp hchars) hpath
  | cons c rest => rfl

end Path

namespace Disk

variable {disk : Disk} {path : String} {place goal draft : List String}

theorem follow_append (front rest : List String) :
    disk.follow place (front ++ rest) =
      (disk.follow place front).bind fun reached => disk.follow reached rest := by
  induction front generalizing place with
  | nil => rfl
  | cons name front ih =>
      rw [List.cons_append, follow, follow]
      -- what the first name does, it does before the last names are looked at
      split
      · rfl
      · rfl
      · split
        · exact ih
        · split
          · exact ih
          · split
            · rfl
            · exact ih

/-- Where a name with `.tmp` behind it leads somewhere, so does the name alone, though not to the
same place: the place of the longer name is below, that of the name beside it or above. -/
theorem follow_longer_name {name : String} (h : disk.follow place [name ++ ".tmp"] = .ok draft) :
    ∃ goal, disk.follow place [name] = .ok goal ∧ goal ≠ draft := by
  have hlonger : (name ++ ".tmp").length = name.length + 4 := String.length_append name ".tmp"
  have hne : ∀ short : String, short.length < 4 → name ++ ".tmp" ≠ short := by
    intro short hshort heq
    rw [heq] at hlonger
    omega
  have hsize : name.utf8ByteSize ≤ (name ++ ".tmp").utf8ByteSize := by
    rw [String.utf8ByteSize_append]
    exact Nat.le_add_right _ _
  rw [follow] at h
  split at h
  · cases h
  · cases h
  · next hdirectory =>
    rw [if_neg (by simp [hne "" (by decide), hne "." (by decide)]), if_neg (hne ".." (by decide))] at h
    split at h
    · cases h
    · next hfits =>
      cases h
      rw [follow, hdirectory]
      dsimp only
      -- the name alone may be one of those that the longer name cannot be
      split
      · exact ⟨place, rfl, by simp⟩
      · split
        · refine ⟨place.dropLast, rfl, ?_⟩
          intro heq
          have hlength := congrArg List.length heq
          simp only [List.length_dropLast, List.length_append, List.length_singleton] at hlength
          omega
        · rw [if_neg (by omega)]
          refine ⟨place ++ [name], rfl, ?_⟩
          intro heq
          have hname : name = name ++ ".tmp" := by simpa using heq
          have hlength := congrArg String.length hname
          omega

/-- Where a draft has a place, its file has another. -/
theorem resolve_draft (hpath : path ≠ "") (hdraft : disk.resolve (path ++ ".tmp") = .ok draft) :
    ∃ goal, disk.resolve path = .ok goal ∧ goal ≠ draft := by
  have hslash : '/' ∉ ".tmp".toList := by decide
  rcases Path.pieces_append path.toList hslash with ⟨front, last, hpieces, hlonger⟩
  have hstart : disk.start (path ++ ".tmp") = disk.start path := by
    rw [start, start, Path.isAbsolute_append hpath]
  have hsize : path.utf8ByteSize ≤ (path ++ ".tmp").utf8ByteSize := by
    rw [String.utf8ByteSize_append]
    exact Nat.le_add_right _ _
  have hfault : pathFault? (path ++ ".tmp") = none → pathFault? path = none := by
    intro h
    unfold pathFault? at h ⊢
    split at h
    · cases h
    · next hzero =>
      rw [String.toList_append, List.any_append, Bool.or_eq_true, not_or] at hzero
      split at h
      · cases h
      · rw [if_neg hzero.1, if_neg (by omega)]
  have hnonempty : path ++ ".tmp" ≠ "" := by simp [String.append_eq_empty_iff]
  unfold resolve at hdraft
  split at hdraft
  · cases hdraft
  · next hsound =>
    rw [if_neg hnonempty, hstart, String.toList_append, hlonger, List.map_append, follow_append,
      List.map_singleton, String.ofList_append, String.ofList_toList] at hdraft
    cases hfront : disk.follow (disk.start path) (front.map String.ofList) with
    | error e =>
        rw [hfront] at hdraft
        cases hdraft
    | ok reached =>
        rw [hfront] at hdraft
        rcases follow_longer_name hdraft with ⟨goal, hgoal, hapart⟩
        refine ⟨goal, ?_, hapart⟩
        unfold resolve
        rw [hfault hsound]
        dsimp only
        rw [if_neg hpath, hpieces, List.map_append, follow_append, hfront]
        exact hgoal

end Disk

end SmartScale
