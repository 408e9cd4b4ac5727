import SmartScale.Proofs.Run.Ending

/-!
# A script replayed

A `SimulatedScale` is read any number of times.

* Played once, it has handed out the first readings and holds back the others
  (`SimulatedScale.PlaysOnce`).
* Played over and over, its queue begins at the number of the next read, counted within the round
  (`SimulatedScale.PlaysRounds`).  A round that has been read to its end is queued again by the next
  read and not before, so between the two nothing is held back.

Either is kept by a read, and hence holds after any number of reads.
`SimulatedScale.replays_script` reads off every answer and both counters.
-/

namespace SmartScale

/-- The last of the first reads. -/
theorem Scale.after_succ {τ : Type} [Scale τ] (n : Nat) (scale : τ) :
    after (n + 1) scale = (Scale.read (after n scale)).2 :=
  (after_add n 1 scale).symm

namespace SimulatedScale

variable {script : List Reading} {s : SimulatedScale} {k : Nat}

/-- A read takes the reading at the index at which the queue begins. -/
theorem read_of_queue_drop {i : Nat} (hi : i < script.length) (h : s.queue = script.drop i) :
    Scale.read s =
      (.ok script[i], { s with pending := script.drop (i + 1), reads := s.reads + 1 }) := by
  rw [List.drop_eq_getElem_cons hi] at h
  exact read_of_queue_cons h

/-! ## Played once -/

/-- The scale plays its script once, and has been read so many times. -/
structure PlaysOnce (script : List Reading) (k : Nat) (s : SimulatedScale) : Prop where
  once : s.looping = false
  pending : s.pending = script.drop k
  /-- Reads past the end hand out nothing. -/
  reads : s.reads = min k script.length

theorem playsOnce_ofList (script : List Reading) : PlaysOnce script 0 (ofList script false) where
  once := rfl
  pending := rfl
  reads := (Nat.zero_min _).symm

theorem PlaysOnce.queue (h : PlaysOnce script k s) : s.queue = script.drop k :=
  (queue_of_not_looping h.once).trans h.pending

theorem PlaysOnce.read_past (h : PlaysOnce script k s) (hk : script.length ≤ k) :
    Scale.read s = (.error (.named .exhausted), s) :=
  read_of_queue_nil (h.queue.trans (List.drop_of_length_le hk))

theorem PlaysOnce.read (h : PlaysOnce script k s) : PlaysOnce script (k + 1) (Scale.read s).2 := by
  by_cases hk : k < script.length
  · rw [read_of_queue_drop hk h.queue]
    refine ⟨h.once, rfl, ?_⟩
    rw [h.reads, Nat.min_eq_left (Nat.le_of_lt hk), Nat.min_eq_left hk]
  · have hpast : script.length ≤ k := Nat.le_of_not_lt hk
    rw [h.read_past hpast]
    refine ⟨h.once, ?_, ?_⟩
    · rw [h.pending, List.drop_of_length_le hpast, List.drop_of_length_le (by omega)]
    · rw [h.reads, Nat.min_eq_right hpast, Nat.min_eq_right (by omega)]

theorem playsOnce_after (script : List Reading) (k : Nat) :
    PlaysOnce script k (Scale.after k (ofList script false)) := by
  induction k with
  | zero => exact playsOnce_ofList script
  | succ k ih =>
      rw [Scale.after_succ]
      exact ih.read

/-! ## Played over and over -/

/-- The scale plays its script over and over, and has been read so many times. -/
structure PlaysRounds (script : List Reading) (k : Nat) (s : SimulatedScale) : Prop where
  replays : s.script = script
  looping : s.looping = true
  reads : s.reads = k
  queue : s.queue = script.drop (k % script.length)
  /-- Before the first read a whole round is held back; after that, what is left of the last one. -/
  remaining : 0 < k → s.remaining = (script.length - k % script.length) % script.length

theorem playsRounds_ofList (script : List Reading) :
    PlaysRounds script 0 (ofList script true) where
  replays := rfl
  looping := rfl
  reads := rfl
  queue := by
    rw [Nat.zero_mod]
    cases script <;> rfl
  remaining h := absurd h (Nat.lt_irrefl 0)

/-- What is left of a round of `n` after index `i`, by the index of the next reading. -/
theorem rest_of_round {i n : Nat} (hi : i < n) : n - (i + 1) = (n - (i + 1) % n) % n := by
  rcases Nat.lt_or_eq_of_le (Nat.succ_le_of_lt hi) with hlt | heq
  · rw [Nat.mod_eq_of_lt hlt, Nat.mod_eq_of_lt (by omega)]
  · -- the round has been read to its end
    rw [← Nat.succ_eq_add_one, heq, Nat.mod_self, Nat.sub_self, Nat.sub_zero, Nat.mod_self]

/-- Behind a round stands the next one. -/
theorem queue_of_looping (hreplays : s.script = script) (hlooping : s.looping = true) {i : Nat}
    (hi : i ≤ script.length) (hpending : s.pending = script.drop i) :
    s.queue = script.drop (i % script.length) := by
  rcases Nat.lt_or_eq_of_le hi with hlt | heq
  · have hsome : s.pending.isEmpty = false := by
      simpa [hpending] using hlt
    rw [queue, hsome, Bool.false_and, Nat.mod_eq_of_lt hlt, hpending]
    rfl
  · have hnone : s.pending = [] := by
      rw [hpending, heq, List.drop_length]
    rw [queue, hnone, hlooping, hreplays, heq, Nat.mod_self]
    rfl

theorem PlaysRounds.read (h : PlaysRounds script k s) (hscript : 0 < script.length) :
    PlaysRounds script (k + 1) (Scale.read s).2 := by
  have hi : k % script.length < script.length := Nat.mod_lt k hscript
  have hround : k % script.length + 1 ≤ script.length := hi
  have hindex : (k % script.length + 1) % script.length = (k + 1) % script.length :=
    Nat.mod_add_mod k script.length 1
  have hread := congrArg Prod.snd (read_of_queue_drop hi h.queue)
  refine ⟨by rw [hread, h.replays], by rw [hread, h.looping], by rw [hread, h.reads], ?_,
    fun _ => ?_⟩
  · rw [← hindex]
    exact queue_of_looping (by rw [hread, h.replays]) (by rw [hread, h.looping]) hround
      (by rw [hread])
  · rw [SimulatedScale.remaining, hread, List.length_drop, ← hindex]
    exact rest_of_round hi

theorem playsRounds_after (hscript : 0 < script.length) (k : Nat) :
    PlaysRounds script k (Scale.after k (ofList script true)) := by
  induction k with
  | zero => exact playsRounds_ofList script
  | succ k ih =>
      rw [Scale.after_succ]
      exact ih.read hscript

/-! ## Without a script -/

theorem read_ofList_nil (looping : Bool) :
    Scale.read (ofList [] looping) = (.error (.named .exhausted), ofList [] looping) :=
  read_of_queue_nil (by cases looping <;> rfl)

theorem after_ofList_nil (looping : Bool) (k : Nat) :
    Scale.after k (ofList [] looping) = ofList [] looping := by
  induction k with
  | zero => rfl
  | succ k ih => rw [Scale.after_succ, ih, read_ofList_nil]

/-- A script is replayed, and read any number of times; reads are numbered from zero.

* Played once, each reading is the answer to the read of its number, and later reads find the script
  exhausted.  What has been handed out and what is held back make up the script.
* Played over and over, a script of some readings answers every read, with the reading at the number
  of the read, counted within the round.  From the first read on, what is held back is the rest of
  the round that has begun.
* A script of no readings is exhausted from the beginning, however it is played. -/
theorem replays_script (script : List Reading) (looping : Bool) (k : Nat) :
    let scale := ofList script looping
    let now := Scale.after k scale
    (looping = false →
      (∀ hk : k < script.length, Scale.answer k scale = .ok script[k]) ∧
      (script.length ≤ k → Scale.answer k scale = .error (.named .exhausted)) ∧
      now.reads + now.remaining = script.length) ∧
    (looping = true → ∀ hscript : 0 < script.length,
      Scale.answer k scale = .ok (script.get ⟨k % script.length, Nat.mod_lt k hscript⟩) ∧
      now.reads = k ∧
      (1 ≤ k → now.remaining = (script.length - k % script.length) % script.length)) ∧
    (script = [] → Scale.answer k scale = .error (.named .exhausted) ∧ now.reads = 0) := by
  refine ⟨?_, ?_, ?_⟩
  · rintro rfl
    have h := playsOnce_after script k
    refine ⟨fun hk => ?_, fun hk => ?_, ?_⟩
    · rw [Scale.answer, read_of_queue_drop hk h.queue]
    · rw [Scale.answer, h.read_past hk]
    · rw [h.reads, remaining, h.pending, List.length_drop]
      omega
  · rintro rfl hscript
    have h := playsRounds_after hscript k
    refine ⟨?_, h.reads, h.remaining⟩
    rw [Scale.answer, read_of_queue_drop (Nat.mod_lt k hscript) h.queue]
    rfl
  · rintro rfl
    rw [Scale.answer, after_ofList_nil, read_ofList_nil]
    exact ⟨rfl, rfl⟩

/-- Three readings, one of them not a number: the fourth read finds the end, or the first reading
again; after six reads two rounds are over and nothing is held back. -/
theorem replays_script_three_readings :
    let script : List Reading := [⟨0x42c80000⟩, ⟨0x7fc00001⟩, ⟨0x80000000⟩]
    Scale.answer 1 (ofList script false) = .ok ⟨0x7fc00001⟩ ∧
      Scale.answer 3 (ofList script false) = .error (.named .exhausted) ∧
      Scale.answer 3 (ofList script true) = .ok ⟨0x42c80000⟩ ∧
      (Scale.after 6 (ofList script true)).remaining = 0 ∧
      Scale.answer 5 (ofList [] true) = .error (.named .exhausted) := by
  intro script
  refine ⟨((replays_script script false 1).1 rfl).1 (by decide),
    ((replays_script script false 3).1 rfl).2.1 (by decide),
    ((replays_script script true 3).2.1 rfl (by decide)).1.trans
      (congrArg Except.ok (by decide)),
    (((replays_script script true 6).2.1 rfl (by decide)).2.2 (by decide)).trans (by decide),
    ((replays_script [] true 5).2.2 rfl).1⟩

end SimulatedScale

end SmartScale
