import DisplayComposer.Hardware.Call
/-!
# DisplayComposer.Hardware.Log

**Hardware that keeps a log.** `Logged σ` performs every call as `σ` does, and
writes down the call and what came of it.
-/

namespace DisplayComposer

/-- A call and what came of it. -/
structure Event where
  call : Call
  outcome : Except HardwareError call.Answer

/-- Hardware with the calls performed so far, in their order. -/
structure Logged (σ : Type) where
  hardware : σ
  log : List Event

instance {σ : Type} [Hardware σ] : Hardware (Logged σ) where
  perform call s := do
    let (outcome, hardware) ← Hardware.perform call s.hardware
    pure (outcome, ⟨hardware, s.log ++ [⟨call, outcome⟩]⟩)

end DisplayComposer
