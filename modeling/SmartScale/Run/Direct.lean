import SmartScale.Run.Basic
import SmartScale.Sensor

/-!
# Direct runs

A direct run reads the scale itself, one reading after the other.  It ends when it has to stop, at
the end of the stream, or at the first read that fails otherwise.
-/

namespace SmartScale

namespace Run

variable {σ τ : Type} [Scale τ]

/-- Continues a direct run for at most `limit` reads. -/
def direct? (params : RunParams) : Nat → Run σ → τ → Option (Finished σ)
  | limit, run, scale =>
    if shouldStop params run.summary then some ⟨run, none⟩
    else
      match limit with
      | 0 => none
      | limit + 1 =>
        match Scale.read scale with
        | (.ok value, next) => direct? params limit (run.feed value) next
        | (.error e, _) =>
          match DetectorError.ofDevice e with
          | .endOfStream => some ⟨run, none⟩
          | other => some ⟨run, some ((Report.ofCause (.detector other)).within "reading scale")⟩

end Run

end SmartScale
