import SmartScale.Run.Direct
import SmartScale.Run.Sampled

/-!
# Starting a run

A run in the mode that its parameters name.  A run need not end, since a scale may deliver forever;
`Run.start?` therefore takes a limit on the work and gives nothing when the limit is reached.
`Run.workFor` is a limit that a run over a script of known length does not reach.
-/

namespace SmartScale

namespace Run

/-- Starts a run that does at most `limit` units of work. -/
def start? {σ τ : Type} [Scale τ] (params : RunParams) (limit : Nat) (detector : Detector σ)
    (scale : τ) : Option (Finished σ) :=
  match params.mode with
  | .direct => direct? params limit (start detector) scale
  | _ => SampledRun.prompt? params limit detector scale

/-- Work that is enough for a script of so many items: an item takes at most nine rounds, from the
thread's look at its flag to the end of its sleep. -/
def workFor (items : Nat) : Nat := 16 * (items + 2)

end Run

end SmartScale
