import SmartScale.Proofs.Run.Prompt
import SmartScale.Proofs.Sampling.Shutdown
import SmartScale.Sampling.Drain

/-!
# Draining a sampler to its end

While a sampler is drained, only two parties act: the thread, and the party that takes readings.  No
time passes but what the thread sleeps (`Act.Instant`), and nobody asks the thread to end.

What every step of the thread keeps, and what does not depend on the channel, holds after any such
acts (`Sampler.keeps_actAll`).  If the stream ends, then whatever the two parties have done so far,
the sampler can be drained to its end by what they do next (`Sampler.exists_drained`).
-/

namespace SmartScale

/-- The act takes no time that the thread does not sleep. -/
def Act.Instant : Act → Prop
  | .move m => m.ofThread = true
  | .take => True

namespace Sampler

variable {τ : Type} [Scale τ]

/-- Where the thread is not asked to end, what its steps keep and what does not depend on the
channel holds after any acts. -/
theorem keeps_actAll {P : Sampler τ → Prop} (hnotAsked : ∀ s, P s → s.shutdown = false)
    (hstep : ∀ s next, P s → Step s next → P next)
    (hchannel : ∀ s channel, P s → P { s with channel }) {acts : List Act}
    (hinstant : ∀ a ∈ acts, a.Instant) {s : Sampler τ} (h : P s) : P (s.actAll acts) := by
  -- on the acts, with the sampler that they start from left open
  induction acts generalizing s with
  | nil => exact h
  | cons a rest ih =>
      refine ih (fun b hb => hinstant b (List.mem_cons_of_mem a hb)) ?_
      have hinstant : a.Instant := hinstant a (List.mem_cons_self ..)
      cases a with
      | take =>
          change P s.take.2
          unfold take
          cases s.channel with
          | nil => exact h
          | cons value rest => exact hchannel s rest h
      | move m =>
          cases m with
          | step => exact hstep s _ h s.step_threadStep
          | elapse micros => cases hinstant
          | look =>
              change P s.lookStep
              rcases s.lookStep_cases with hlook | ⟨value, -, hlook⟩
              · exact hstep s _ h hlook
              · -- the flag is down, so a thread that waits for room goes on waiting
                rw [hlook, hnotAsked s h]
                exact h

/-! ## Draining -/

/-- Draining comes to an end, with acts of the two parties alone. -/
theorem drain?_closes {s : Sampler τ} {n limit : Nat} (hnotAsked : s.shutdown = false)
    (hends : s.EndsIn n) (hlimit : s.workLeft n < limit) :
    ∃ drained acts, s.drain? limit = some drained ∧ (∀ a ∈ acts, Act.Instant a) ∧
      drained.sampler = s.actAll acts ∧ drained.sampler.take.1 = .closed := by
  -- on the turns that are left, of which each leaves less work than the one before
  induction limit generalizing s n with
  | zero => exact absurd hlimit (Nat.not_lt_zero _)
  | succ limit ih =>
      cases hchannel : s.channel with
      | cons value rest =>
          -- a reading that is there is taken first
          have htake := take_cons hchannel
          have hless : Sampler.workLeft { s with channel := rest } n < limit := by
            simp only [workLeft, hchannel, List.length_cons] at hlimit ⊢
            omega
          rcases ih (s := { s with channel := rest }) hnotAsked hends hless with
            ⟨drained, acts, hdrain, hinstant, hsampler, hclosed⟩
          refine ⟨{ drained with values := value :: drained.values }, .take :: acts, ?_, ?_, ?_,
            hclosed⟩
          · rw [drain?, htake]
            simp only [hdrain, Option.map_some]
          · exact List.forall_mem_cons.mpr ⟨trivial, hinstant⟩
          · change drained.sampler = s.take.2.actAll acts
            rw [htake]
            exact hsampler
      | nil =>
          by_cases hdone : s.phase = .finished
          · have htake := take_finished hchannel hdone
            refine ⟨⟨[], s⟩, [], ?_, by simp, rfl, closed_iff.mpr ⟨hchannel, hdone⟩⟩
            rw [drain?, htake]
          · -- with nothing to take, the thread has its turn
            have htake := take_unfinished hchannel hdone
            have hstep := s.step_threadStep
            rcases hstep.less_work hends hnotAsked with ⟨m, hnext, hwork | ⟨-, hphase | hfull⟩⟩
            · have hless : s.threadStep.workLeft m < limit := by omega
              rcases ih (hstep.shutdown.trans hnotAsked) hnext hless with
                ⟨drained, acts, hdrain, hinstant, hsampler, hclosed⟩
              refine ⟨drained, .move .step :: acts, ?_, ?_, hsampler, hclosed⟩
              · rw [drain?, htake]
                exact hdrain
              · exact List.forall_mem_cons.mpr ⟨rfl, hinstant⟩
            · exact absurd hphase hdone
            · -- nothing is in the channel, so the thread cannot be held up
              exact absurd (by simp [hchannel, channelCapacity]) hfull

/-- While a stream that ends is drained, its end stays within reach. -/
theorem endsIn_actAll {s : Sampler τ} {n : Nat} {acts : List Act} (hnotAsked : s.shutdown = false)
    (hends : s.EndsIn n) (hinstant : ∀ a ∈ acts, a.Instant) :
    (s.actAll acts).shutdown = false ∧ ∃ more, (s.actAll acts).EndsIn more := by
  refine keeps_actAll (P := fun now => now.shutdown = false ∧ ∃ more, now.EndsIn more) ?_ ?_ ?_
    hinstant ⟨hnotAsked, n, hends⟩
  · rintro now ⟨hflag, -⟩
    exact hflag
  · rintro now next ⟨hflag, more, hnow⟩ hstep
    rcases hstep.less_work hnow hflag with ⟨rest, hnext, -⟩
    exact ⟨hstep.shutdown.trans hflag, rest, hnext⟩
  · rintro now channel hnow
    exact hnow

/-- Whatever the two parties have done, a sampler can be drained by what they do next. -/
theorem exists_drained {s : Sampler τ} {n : Nat} {acts : List Act} (hnotAsked : s.shutdown = false)
    (hends : s.EndsIn n) (hinstant : ∀ a ∈ acts, a.Instant) :
    ∃ limit drained all, (s.actAll acts).drain? limit = some drained ∧ (∀ a ∈ all, Act.Instant a) ∧
      drained.sampler = s.actAll all ∧ drained.sampler.take.1 = .closed := by
  rcases endsIn_actAll hnotAsked hends hinstant with ⟨hnow, more, hmore⟩
  rcases drain?_closes hnow hmore (Nat.lt_succ_self _) with
    ⟨drained, rest, hdrain, hrest, hsampler, hclosed⟩
  refine ⟨_, drained, acts ++ rest, hdrain, ?_, ?_, hclosed⟩
  · exact List.forall_mem_append.mpr ⟨hinstant, hrest⟩
  · rw [hsampler]
    exact List.foldl_append.symm

end Sampler

end SmartScale
