import DisplayComposer.Wire.Result
/-!
# DisplayComposer.Hardware.Plan

**Deciding how layers are composed.** A display can scan out a limited number of
layers. From the lowest layer up, each layer that asks for it gets one of them;
the client has to compose the others, and whatever the display cannot do at all.

Where the client composes a layer, the scanned-out layers below all of those are
to be cut out of the client target.

* `stack` — layers from the lowest up;
* `place` — the composition that each layer of a stack gets;
* `Plan`, `plan` — the changes and requests that result.
-/

namespace DisplayComposer

namespace Composition

/-- Compositions for which the display scans the layer out. -/
def scannedOut : Composition → Bool
  | .device | .cursor => true
  | _ => false

/-- Compositions that the display has no means for. -/
def impossible : Composition → Bool
  | .sideband | .displayDecoration | .refreshRateIndicator | .invalid => true
  | _ => false

end Composition

/-- A layer as planning sees it. -/
structure StackedLayer where
  layer : LayerId
  z : UInt32
  composition : Composition
  deriving DecidableEq

namespace StackedLayer

/-- Put a layer below the first one that is not below it. -/
def insert (l : StackedLayer) : List StackedLayer → List StackedLayer
  | [] => [l]
  | m :: rest => if l.z ≤ m.z then l :: m :: rest else m :: insert l rest

/-- Layers from the lowest up. Of layers at one height the earlier is lower. -/
def stack (layers : List StackedLayer) : List StackedLayer := layers.foldr insert []

/-- The composition that each layer of a stack gets, when `used` layers below it
are scanned out already. -/
def place (budget used : Nat) : List StackedLayer → List (StackedLayer × Composition)
  | [] => []
  | l :: rest =>
    if l.composition.scannedOut then
      if used < budget then (l, l.composition) :: place budget (used + 1) rest
      else (l, .client) :: place budget used rest
    else if l.composition.impossible then (l, .client) :: place budget used rest
    else (l, l.composition) :: place budget used rest

end StackedLayer

/-- What a display asks of the client about its layers. -/
structure Plan where
  changes : List CompositionChange
  requests : List LayerRequest
  deriving DecidableEq

namespace Plan

/-- The layers that get another composition than they asked for. -/
def changesOf (placed : List (StackedLayer × Composition)) : List CompositionChange :=
  (placed.filter fun p => p.2 ≠ p.1.composition).map fun p => ⟨p.1.layer, p.2⟩

/-- The scanned-out layers below all layers that the client composes, if there
are such layers. -/
def requestsOf (placed : List (StackedLayer × Composition)) : List LayerRequest :=
  if placed.any fun p => p.2 = .client then
    ((placed.takeWhile fun p => p.2 ≠ .client).filter fun p => p.2 = .device).map fun p =>
      ⟨p.1.layer, LayerRequest.clearClientTarget⟩
  else []

/-- The plan for some layers, of which `budget` can be scanned out. -/
def make (budget : Nat) (layers : List StackedLayer) : Plan :=
  let placed := StackedLayer.place budget 0 (StackedLayer.stack layers)
  ⟨changesOf placed, requestsOf placed⟩

end Plan

end DisplayComposer
