import SmartScale.Sampling.Sampler

/-!
# Draining a sampler

Taking readings from a sampler until it is closed.  The party that takes is quicker than the thread:
it looks into the channel before every step of the thread.
-/

namespace SmartScale

structure Drained (τ : Type) where
  /-- All readings taken, in order. -/
  values : List Reading
  sampler : Sampler τ

namespace Sampler

variable {τ : Type} [Scale τ]

/-- Takes readings until the sampler is closed, for at most `limit` turns. -/
def drain? : Nat → Sampler τ → Option (Drained τ)
  | 0, _ => none
  | limit + 1, s =>
    match s.take with
    | (.value value, next) =>
      (drain? limit next).map fun rest => { rest with values := value :: rest.values }
    | (.closed, next) => some ⟨[], next⟩
    | (.pending, next) => drain? limit next.threadStep

end Sampler

end SmartScale
