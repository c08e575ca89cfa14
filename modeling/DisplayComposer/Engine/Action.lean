import DisplayComposer.Cache.Resources
import DisplayComposer.Engine.Results
import DisplayComposer.Hardware.Call
/-!
# DisplayComposer.Engine.Action

**The engine's state, and what it can do.** The engine drives some hardware and
some cache, and notes for every display where it stands in the protocol of
validating and presenting.

An `Action` is a part of carrying out a command. It leaves a new state of the
engine and the entries to report for the command, in the order in which they came
up. What an action reports does not depend on what was reported before it.

* `PresentState`, `Engine` — the state;
* `Action`, with `perform`, `resolve`, `report` and the like — its primitives.
-/

namespace DisplayComposer

/-- Where a display stands in the protocol. -/
inductive PresentState where
  /-- Something changed since it was validated or presented. -/
  | unvalidated
  | validated
  | presented
  /-- The last attempt to validate or present failed. -/
  | failed
  deriving DecidableEq, Repr

/-- The engine. -/
structure Engine (σ ρ : Type) where
  hardware : σ
  resources : ρ
  /-- Where displays stand; those that do not occur are unvalidated. -/
  states : Table DisplayId PresentState
  /-- Batches executed so far. -/
  batches : Nat

namespace Engine

variable {σ ρ : Type}

/-- An engine that has not done anything. -/
def start (hardware : σ) (resources : ρ) : Engine σ ρ := ⟨hardware, resources, .empty, 0⟩

def presentState (e : Engine σ ρ) (display : DisplayId) : PresentState :=
  (e.states.get? display).getD .unvalidated

def setState (e : Engine σ ρ) (display : DisplayId) (state : PresentState) : Engine σ ρ :=
  { e with states := e.states.insert display state }

end Engine

/-- What an action leaves. -/
structure Ran (σ ρ α : Type) where
  value : α
  entries : List Entry
  engine : Engine σ ρ

/-- A part of carrying out a command. -/
def Action (σ ρ α : Type) : Type := Engine σ ρ → Except Crash (Ran σ ρ α)

namespace Action

variable {σ ρ α β : Type}

instance : Monad (Action σ ρ) where
  pure a := fun e => .ok ⟨a, [], e⟩
  bind x f := fun e => do
    let first ← x e
    let second ← f first.value first.engine
    .ok { second with entries := first.entries ++ second.entries }

/-- Perform a call of the hardware. -/
def perform [Hardware σ] (call : Call) : Action σ ρ (Except HardwareError call.Answer) :=
  fun e => do
    let (outcome, hardware) ← Hardware.perform call e.hardware
    .ok ⟨outcome, [], { e with hardware }⟩

/-- Find an image in the cache. -/
def resolve [Resources ρ] (ref : ImageRef) : Action σ ρ (Except CacheError Resolution) :=
  fun e =>
    let (outcome, resources) := Resources.resolve ref e.resources
    .ok ⟨outcome, [], { e with resources }⟩

/-- Let go of images that were displaced. -/
def release [Resources ρ] (images : List Image) : Action σ ρ Unit :=
  fun e => .ok ⟨(), [], { e with resources := Resources.release images e.resources }⟩

/-- Whether a display has to be validated. -/
def mustValidate [Resources ρ] (display : DisplayId) : Action σ ρ Bool :=
  fun e => .ok ⟨Resources.mustValidate display e.resources, [], e⟩

/-- A display does not have to be validated any more. -/
def clearMustValidate [Resources ρ] (display : DisplayId) : Action σ ρ Unit :=
  fun e => .ok ⟨(), [],
    { e with resources := Resources.setMustValidate display false e.resources }⟩

/-- Note where a display stands. -/
def setState (display : DisplayId) (state : PresentState) : Action σ ρ Unit :=
  fun e => .ok ⟨(), [], e.setState display state⟩

/-- Report something for the command. -/
def report (entry : Entry) : Action σ ρ Unit := fun e => .ok ⟨(), [entry], e⟩

/-- Report the failure of a call, if it failed. -/
def reportFailure (outcome : Except HardwareError α) : Action σ ρ Unit :=
  match outcome with
  | .ok _ => pure ()
  | .error e => report (.error e)

/-- Carry out an action for each of some values. -/
def each (f : α → Action σ ρ Unit) : List α → Action σ ρ Unit
  | [] => pure ()
  | a :: rest => do
    f a
    each f rest

end Action

end DisplayComposer
