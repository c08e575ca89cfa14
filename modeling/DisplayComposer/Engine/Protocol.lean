import DisplayComposer.Engine.Action
/-!
# DisplayComposer.Engine.Protocol

**Validating and presenting.** A display has to be validated before it can
present. Present-or-validate saves the round trip: if nothing changed since the
last frame it presents at once, and otherwise it validates. If validating shows
that nothing is left for the client to do, it goes on to accept and present.
-/

namespace DisplayComposer

namespace Action

variable {σ ρ : Type} [Hardware σ] [Resources ρ]

/-- Tell the hardware when the frame is to be shown. It may ignore that. -/
def expectPresent (display : DisplayId) (time : Option Timestamp) : Action σ ρ Unit := do
  let _ ← perform (.set display (.property (.expectedPresentTime time)))

/-- Validate a display and report what it asks for. However that ends, it does
not have to be validated again because of an earlier change. -/
def validate (display : DisplayId) : Action σ ρ (Except HardwareError Validation) := do
  clearMustValidate display
  let outcome ← perform (.validate display)
  match outcome with
  | .error e =>
    report (.error e)
    setState display .failed
  | .ok v =>
    setState display .validated
    report (.changes v.changes)
    report (.request v.request)
    report (.property v.target)
  pure outcome

/-- Accept the changes that a display asked for. -/
def accept (display : DisplayId) : Action σ ρ Unit := do
  reportFailure (← perform (.accept display))

/-- Present a display and report its fences. A failure is left to the caller. -/
def present (display : DisplayId) : Action σ ρ (Except HardwareError Presentation) := do
  let outcome ← perform (.present display)
  match outcome with
  | .error _ => setState display .failed
  | .ok p =>
    if p.presentFence.isValid then report (.presentFence p.presentFence)
    report (.releaseFences p.releaseFences)
    setState display .presented
  pure outcome

/-- Whether an outcome is a success. -/
def succeeded {α : Type} : Except HardwareError α → Bool
  | .ok _ => true
  | .error _ => false

/-- Present at once, unless the display has to be validated. -/
def presentDirectly (display : DisplayId) : Action σ ρ Bool := do
  if ← mustValidate display then pure false
  else return succeeded (← present display)

/-- Whether the client has something to do before a validated display presents. -/
def clientMustAct (display : DisplayId) (v : Validation) : Action σ ρ Bool := do
  if v.hasChanges then pure true
  else
    match ← perform (.hasClientComposition display) with
    | .ok uses => pure uses
    | .error _ => pure false

/-- Present a display, or else validate it. -/
def presentOrValidate (display : DisplayId) (time : Option Timestamp) : Action σ ρ Unit := do
  expectPresent display time
  if ← presentDirectly display then report (.presentOrValidate .presented)
  else
    match ← validate display with
    | .error _ => pure ()
    | .ok v =>
      if ← clientMustAct display v then report (.presentOrValidate .validated)
      else
        accept display
        if succeeded (← present display) then report (.presentOrValidate .presented)

end Action

end DisplayComposer
