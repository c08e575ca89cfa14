import DisplayComposer.Engine.Protocol
import DisplayComposer.Engine.Settings
import DisplayComposer.Wire.Message
/-!
# DisplayComposer.Engine.Basic

**The command engine.** It carries out batches of display commands on some
hardware, with images found in some cache. A failure never ends a batch: it is
reported for the command that caused it, and the engine goes on.

* `Action.applySetting`, `Action.command` — carrying out one command;
* `Engine.execute` — carrying out a batch;
* `Engine.createLayer`, `destroyLayer`, `refresh` — what happens outside of
  batches;
* `Engine.handle` — answering a request.
-/

namespace DisplayComposer

variable {σ ρ : Type} [Hardware σ] [Resources ρ]

namespace Action

/-- Set one property of a display. An image is found in the cache first; what it
displaced there is let go when the hardware has returned. -/
def applySetting (display : DisplayId) : Setting ImageRef → Action σ ρ Unit
  | .property p => do reportFailure (← perform (.set display (.property p)))
  | .image use ref => do
    match ← resolve ref with
    | .error e => report (.error e.toHardwareError)
    | .ok r =>
      let outcome ← perform (.set display (.image use r.image))
      release r.parked
      reportFailure outcome

/-- Carry out a command: its settings, and then whichever parts of the protocol
it asks for. -/
def command (c : DisplayCommand) : Action σ ρ Unit := do
  each (applySetting c.display) c.settings
  if !c.settings.isEmpty then setState c.display .unvalidated
  if c.validate then
    expectPresent c.display c.expectedPresentTime
    let _ ← validate c.display
  if c.accept then accept c.display
  if c.present then reportFailure (← present c.display)
  if c.presentOrValidate then presentOrValidate c.display c.expectedPresentTime

end Action

namespace Engine

/-- Carry out commands, the first of them at place `n` of its batch, and add to
the results so far. Commands without an index are left out. -/
def executeFrom : Nat → List DisplayCommand → Results → Engine σ ρ →
    Except Crash (Results × Engine σ ρ)
  | _, [], rs, e => .ok (rs, e)
  | n, c :: rest, rs, e =>
    if n < UInt32.size then do
      let ran ← Action.command c e
      executeFrom (n + 1) rest (rs.writeAll (.ofNat n) c.display ran.entries) ran.engine
    else .ok (rs, e)

/-- Carry out a batch. -/
def execute (commands : List DisplayCommand) (e : Engine σ ρ) :
    Except Crash (List CommandResult × Engine σ ρ) := do
  let (rs, e) ← executeFrom 0 commands .empty e
  pure (rs.take.1, { e with batches := e.batches + 1 })

/-- Create a layer with a number of cache slots. If the cache refuses it, the
layer is destroyed again. -/
def createLayer (display : DisplayId) (slots : UInt32) (e : Engine σ ρ) :
    Except Crash (Except HardwareError LayerId × Engine σ ρ) := do
  let (created, hardware) ← Hardware.perform (.createLayer display) e.hardware
  let e := { e with hardware }
  match created with
  | .error failure => pure (.error failure, e)
  | .ok layer =>
    let (added, resources) := Resources.addLayer display layer slots e.resources
    let e := { e with resources }
    match added with
    | .ok () => pure (.ok layer, e)
    | .error refusal =>
      let (_, hardware) ← Hardware.perform (.destroyLayer display layer) e.hardware
      pure (.error refusal.toHardwareError, { e with hardware })

/-- Destroy a layer and let go of its images. -/
def destroyLayer (display : DisplayId) (layer : LayerId) (e : Engine σ ρ) :
    Except Crash (Except HardwareError Unit × Engine σ ρ) := do
  let (destroyed, hardware) ← Hardware.perform (.destroyLayer display layer) e.hardware
  let e := { e with hardware }
  match destroyed with
  | .error failure => pure (.error failure, e)
  | .ok () =>
    let (_, resources) := Resources.removeLayer display layer e.resources
    pure (.ok (), { e with resources }.setState display .unvalidated)

/-- Have the next present-or-validate of a display validate. -/
def refresh (display : DisplayId) (e : Engine σ ρ) : Engine σ ρ :=
  { e with resources := Resources.setMustValidate display true e.resources }.setState display
    .unvalidated

/-- The reply that says why a request failed. -/
def failure (e : HardwareError) : Reply := .error e.code e.message

/-- Answer a request. -/
def handle (request : Request) (e : Engine σ ρ) : Except Crash (Reply × Engine σ ρ) := do
  match request with
  | .execute commands =>
    let (results, e) ← e.execute commands
    pure (.commandResults results, e)
  | .createLayer display slots =>
    match ← e.createLayer display slots with
    | (.ok layer, e) => pure (.layerCreated layer, e)
    | (.error failed, e) => pure (failure failed, e)
  | .destroyLayer display layer =>
    match ← e.destroyLayer display layer with
    | (.ok (), e) => pure (.ok, e)
    | (.error failed, e) => pure (failure failed, e)
  | .refresh display => pure (.ok, e.refresh display)

end Engine

end DisplayComposer
